import Mathlib
import ScriptRunner.Proofs.Compilation.Failures

/-! How failed compilers are reported. Main statement: a compiler that says itself that it has failed is reported
as such exactly if what stands at its output path can be removed, and in its own words unless there is nothing
but blanks in what it wrote to standard error. -/

namespace ScriptRunner

/-! ## Blank texts -/

namespace Text

theorem trimBy_eq_nil_iff {p : Char → Bool} {s : List Char} : trimBy p s = [] ↔ ∀ c ∈ s, p c = true := by
  rw [trimBy, trimEndBy, List.reverse_eq_nil_iff, List.dropWhile_eq_nil_iff]
  constructor
  · intro h c hc
    rw [← List.takeWhile_append_dropWhile (p := p) (l := s)] at hc
    rcases List.mem_append.mp hc with hfront | hback
    · exact List.mem_takeWhile_imp hfront
    · exact h c (List.mem_reverse.mpr hback)
  · intro h c hc
    exact h c ((List.dropWhile_sublist p).mem (List.mem_reverse.mp hc))

/-- A text trims to nothing exactly if it is all blanks. -/
theorem trim_eq_empty_iff {s : String} : trim s = "" ↔ allBlank s = true := by
  rw [trim, allBlank, List.all_eq_true, ← trimBy_eq_nil_iff, ← String.toList_inj, String.toList_ofList]
  rfl

end Text

namespace CompilationFault

variable {tool stdout stderr : String} {code : Int}

/-- A compiler is quoted from its standard error if there is more than blanks. -/
theorem message_of_stderr (h : Text.allBlank stderr = false) :
    (exited tool code stdout stderr).message = Text.trim stderr := by
  have htrim : Text.trim stderr ≠ "" := by simp [Text.trim_eq_empty_iff, h]
  have hne : stderr ≠ "" := by
    rintro rfl
    exact absurd h (by decide)
  simp [message, hne, htrim]

/-- It is quoted from its standard output if there is nothing at all in its standard error. -/
theorem message_of_stdout (h : Text.allBlank stdout = false) :
    (exited tool code stdout "").message = Text.trim stdout := by
  have htrim : Text.trim stdout ≠ "" := by simp [Text.trim_eq_empty_iff, h]
  simp [message, htrim]

/-- Blanks in its standard error are as good as nothing in both. -/
theorem message_of_blank (h : Text.allBlank stderr = true) (hout : stderr = "" → Text.allBlank stdout = true) :
    (exited tool code stdout stderr).message = tool ++ " exited with code " ++ toString code := by
  have htrim : Text.trim (if stderr = "" then stdout else stderr) = "" := by
    split
    · rename_i he
      exact Text.trim_eq_empty_iff.mpr (hout he)
    · exact Text.trim_eq_empty_iff.mpr h
  simp [message, htrim]

end CompilationFault

theorem Failure.ofFault_ne_compilation {file : String} {fault : FileFault} {f : CompilationFault} :
    ofFault file fault ≠ .compilation f := by
  cases fault <;> simp [ofFault, FileFault.osError?]

namespace Transpiler

open Machine

variable {t : Transpiler} {source output : Path} {argv : List String} {m : Machine} {r : ToolResult}

/-- A compiler that says that it has failed is reported if what it may have left can be removed. -/
theorem compile_of_exited (h : t.Runs source m output r) (hcode : r.code ≠ 0) :
    ((t.compile source m).1 = .error (.compilation (.exited t.name r.code r.stdout r.stderr)) ↔
      (m.treeAfter r).Removable m.cwd output) ∧
    (¬ (m.treeAfter r).Removable m.cwd output →
      ∃ fault, (t.compile source m).1 = .error (.ofFault output.toString fault)) := by
  rw [fst_compile_of_exited h hcode, ← FileTree.exists_discard_iff]
  cases (m.treeAfter r).discard m.cwd (.ofPath output) with
  | error fault =>
      refine ⟨iff_of_false (fun he => ?_) nofun, fun _ => ⟨fault, rfl⟩⟩
      exact Failure.ofFault_ne_compilation (Except.error.inj he)
  | ok tree => exact ⟨iff_of_true rfl ⟨tree, rfl⟩, fun hno => absurd ⟨tree, rfl⟩ hno⟩

/-- A compiler that leaves nothing at its output path is reported, unless names are too long to tell. -/
theorem compile_of_missing (h : t.Runs source m output r) (hcode : r.code = 0)
    (hmissing : (m.treeAfter r).exists? m.cwd (.ofPath output) ≠ .ok true) :
    (t.compile source m).1 = .error (.compilation (.noOutput t.name output)) ↔
      (m.treeAfter r).exists? m.cwd (.ofPath output) ≠ .error .nameTooLong := by
  obtain ⟨m₁, htree, hcwd, hc⟩ := exists_compile_of_runs h
  rw [if_neg (by simp [hcode]), htree, hcwd] at hc
  rw [hc]
  rcases (m.treeAfter r).exists?_cases m.cwd (.ofPath output) with he | he | he
  · exact absurd he hmissing
  · rw [he]
    exact iff_of_true rfl nofun
  · rw [he]
    exact iff_of_false (fun h => Failure.ofFault_ne_compilation (Except.error.inj h)) fun h => h rfl

/-- How a compiler that fails is reported. If it cannot be launched, the reason is told if it is an error of the
operating system, and else raised as it is. If it says itself that it has failed, that is reported exactly if
what stands at its output path can be removed; otherwise what is raised is that it cannot. If it ends well with
nothing at its output path, that is reported unless names are too long to tell. A compiler that has failed is
quoted from its standard error if there is more than blanks, and from its standard output only if there is
nothing at all in its standard error. -/
theorem failed_compiler_reports (houtput : outputPath source = .ok output) (hargv : t.argv source = .ok argv)
    (m : Machine) :
    (∀ f, t.LaunchFails source argv m f →
      (∀ e, f.osError? = some e →
        (t.compile source m).1 = .error (.compilation (.notLaunched t.name e))) ∧
      (f.osError? = none → (t.compile source m).1 = .error f)) ∧
    (m.console.status (t.progress source) = .ok () →
      (∀ r, m.NextEnds argv r → r.code ≠ 0 →
        ((t.compile source m).1 = .error (.compilation (.exited t.name r.code r.stdout r.stderr)) ↔
          (m.treeAfter r).Removable m.cwd output) ∧
        (¬ (m.treeAfter r).Removable m.cwd output →
          ∃ fault, (t.compile source m).1 = .error (.ofFault output.toString fault))) ∧
      ∀ r, m.NextEnds argv r → r.code = 0 → (m.treeAfter r).exists? m.cwd (.ofPath output) ≠ .ok true →
        ((t.compile source m).1 = .error (.compilation (.noOutput t.name output)) ↔
          (m.treeAfter r).exists? m.cwd (.ofPath output) ≠ .error .nameTooLong)) ∧
    ∀ code stdout stderr,
      (Text.allBlank stderr = false →
        (CompilationFault.exited t.name code stdout stderr).message = Text.trim stderr) ∧
      (stderr = "" → Text.allBlank stdout = false →
        (CompilationFault.exited t.name code stdout stderr).message = Text.trim stdout) ∧
      (Text.allBlank stderr = true → (stderr = "" → Text.allBlank stdout = true) →
        (CompilationFault.exited t.name code stdout stderr).message =
          t.name ++ " exited with code " ++ toString code) := by
  refine ⟨fun f hf => ?_, fun hshown => ⟨fun r hends => ?_, fun r hends => ?_⟩,
    fun code stdout stderr => ⟨CompilationFault.message_of_stderr, ?_, CompilationFault.message_of_blank⟩⟩
  · rw [compile_of_launchFails houtput hargv hf]
    exact ⟨fun e he => by rw [launchFailure, he], fun he => by rw [launchFailure, he]⟩
  · exact compile_of_exited ⟨houtput, hshown, argv, hargv, hends⟩
  · exact compile_of_missing ⟨houtput, hshown, argv, hargv, hends⟩
  · rintro rfl
    exact CompilationFault.message_of_stdout

section Boom

/-- A compiler that says why it has failed. -/
def boom : ToolResult where
  code := 1
  stderr := " boom\n"

/-- A source in the root directory, with something or nothing beside it. -/
def beside (entries : List (Location × Entry)) : Machine where
  tree := ⟨(["a.hy"], .file [40]) :: entries⟩
  pending := [.ended boom]

theorem outputPath_beside : outputPath ⟨.slash, ["a.hy"]⟩ = .ok ⟨.slash, ["a.py"]⟩ := by decide

theorem argv_beside : hy.argv ⟨.slash, ["a.hy"]⟩ = .ok ["hy2py", "/a.hy", "-o", "/a.py"] :=
  argv_hy outputPath_beside

theorem shown_beside (entries : List (Location × Entry)) :
    (beside entries).console.status (hy.progress ⟨.slash, ["a.hy"]⟩) = .ok () := by cbv

theorem nextEnds_beside (entries : List (Location × Entry)) :
    (beside entries).NextEnds ["hy2py", "/a.hy", "-o", "/a.py"] boom :=
  ⟨rfl, _, rfl, rfl⟩

theorem locate_beside {entries : List (Location × Entry)}
    (hl : ∀ target, (beside entries).tree.get? ["a.py"] ≠ some (.link target)) :
    (beside entries).tree.locate [] .entry (.ofPath ⟨.slash, ["a.py"]⟩) = .ok ["a.py"] :=
  FileTree.locate_name ⟨by decide, by decide, by decide, by decide⟩ (by decide) hl

theorem failed_compiler_reports_boom :
    (hy.compile ⟨.slash, ["a.hy"]⟩ (beside [])).1 =
        .error (.compilation (.exited "hy2py" 1 "" " boom\n")) ∧
      (CompilationFault.exited "hy2py" 1 "" " boom\n").message = "boom" := by
  obtain ⟨-, hreports, hmessage⟩ := failed_compiler_reports outputPath_beside argv_beside (beside [])
  have hremovable : ((beside []).treeAfter boom).Removable (beside []).cwd ⟨.slash, ["a.py"]⟩ := by
    have hvacant : (beside []).tree.get? ["a.py"] = none := rfl
    have hlocate := locate_beside (FileTree.atMostFile_of_vacant hvacant).ne_link
    exact FileTree.exists_discard_iff.mp ⟨_, FileTree.discard_of_vacant hlocate hvacant⟩
  refine ⟨((hreports (shown_beside [])).1 boom (nextEnds_beside []) (by decide)).1.mpr hremovable, ?_⟩
  exact ((hmessage 1 "" " boom\n").1 (by decide)).trans (by decide)

/-- The failure of a compiler goes unreported if a directory stands at its output path, and its words are lost
behind blanks. -/
theorem failed_compiler_unreported :
    (beside [(["a.py"], .directory)]).pending = [.ended boom] ∧ boom.code = 1 ∧
      (hy.compile ⟨.slash, ["a.hy"]⟩ (beside [(["a.py"], .directory)])).1 =
        .error (.os (.onFile 21 "Is a directory" "/a.py")) ∧
      Text.trim "boom" = "boom" ∧
      (CompilationFault.exited "hy2py" 1 "boom" " \n").message = "hy2py exited with code 1" := by
  have hdirectory : (beside [(["a.py"], .directory)]).tree.get? ["a.py"] = some .directory := rfl
  have hentry : (beside [(["a.py"], .directory)]).tree.entryAt [] ⟨.slash, ["a.py"]⟩ = some .directory :=
    (FileTree.entryAt_of_locate (locate_beside (by simp [hdirectory]))).trans hdirectory
  have hruns : hy.Runs ⟨.slash, ["a.hy"]⟩ (beside [(["a.py"], .directory)]) ⟨.slash, ["a.py"]⟩ boom :=
    ⟨outputPath_beside, shown_beside _, _, argv_beside, nextEnds_beside _⟩
  have hdiscard : ((beside [(["a.py"], .directory)]).treeAfter boom).discard
      (beside [(["a.py"], .directory)]).cwd (.ofPath ⟨.slash, ["a.py"]⟩) = .error .isDirectory :=
    FileTree.discard_of_directory hentry
  have hname : Path.toString ⟨.slash, ["a.py"]⟩ = "/a.py" := by decide
  refine ⟨rfl, rfl, ?_, by decide, by decide⟩
  rw [fst_compile_of_exited hruns (by decide), hdiscard, hname]
  rfl

end Boom

end Transpiler

end ScriptRunner
