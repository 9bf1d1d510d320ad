import Mathlib
import ScriptRunner.Proofs.FileTree.RealPath
import ScriptRunner.Proofs.Resolution.Cleanup
import ScriptRunner.Proofs.Resolution.Failures

/-! What resolution means for the loader: which script it is handed, as which file, and what becomes of its
outcome. The loader may be any function, and may leave any machine behind. -/

namespace ScriptRunner.Resolver

open Machine

/-- The script that a source stands for, and the tree that it is found in. -/
inductive ScriptOf (r : Resolver) (s : Source) (m : Machine) (path : Path) (t : FileTree) : Prop where
  | script (hext : s.extension = scriptExtension) (hbody : s.body = .file path) (htree : t = m.tree)
  | written {data token} (hdata : HoldsScript s m data) (htoken : token ≠ "")
      (hname : path.name = s.stem ++ "-" ++ token ++ scriptExtension) (hnew : path ∉ m.issued)
      (hvacant : m.tree.entryAt m.cwd path = none) (hfile : t.HoldsAt m.cwd path data)
      (hrest : t.without m.cwd path = m.tree)
  | compiled {transpiler tool} (hkind : r.CompilesWith s transpiler)
      (hsibling : path = s.label.parent.child (s.label.stem ++ scriptExtension))
      (htool : transpiler.Produces s.label m path tool) (htree : t = m.treeAfter tool)

/-- A call of the loader with the script at a path, as the file that the source appears as. -/
structure Calls (r : Resolver) (path filename : Path) (m : Machine) (call : Call) : Prop where
  path_eq : call.path = path
  filename_eq : call.filename = filename
  dirname_eq : call.dirname = filename.parent
  argv_eq : call.argv = r.argv
  globals_eq : call.globals = r.globals
  shell_eq : call.shell = r.shell
  content_iff : ∀ data, call.content = some data ↔ m.tree.HoldsAt m.cwd path data

/-- What becomes of the outcome of a loader, by the machine that it leaves: a source that was a script already
comes to just that outcome, and for any other it counts unless what stands at the path of its script then
cannot be removed. -/
structure PassesOn (s : Source) (path : Path) (left : Except Failure Value × Machine)
    (result : Except Failure Value × Machine) : Prop where
  calls_eq : result.2.calls = left.2.calls
  script : s.extension = scriptExtension → result = left
  removable : left.2.tree.Removable left.2.cwd path → result.1 = left.1
  unremovable : s.extension ≠ scriptExtension → ∀ fault, left.2.tree.Unremovable left.2.cwd path fault →
    result.1 = .error (.ofFault path.toString fault)

variable {r : Resolver} {s : Source} {m m₁ : Machine} {a : Artifact} {path filename : Path}

theorem calls_callOf (r : Resolver) (path filename : Path) (m : Machine) :
    r.Calls path filename m (r.callOf path filename m) := by
  refine ⟨rfl, rfl, rfl, rfl, rfl, rfl, fun data => ?_⟩
  rw [← FileTree.read_eq_ok_iff_holdsAt, callOf]
  cases m.tree.read m.cwd (.ofPath path) <;> simp [Except.toOption]

/-! ## What is prepared -/

theorem body_of_extension_script (h : s.extension = scriptExtension) : s.body = .file s.label := by
  cases hbody : s.body with
  | file path => simp [Source.label, hbody]
  | text content => simp [Source.extension, hbody, scriptExtension] at h

theorem frame_of_prepare_error {f : Failure} (h : r.prepare s m = (.error f, m₁)) : Frame m m₁ := by
  have hp := r.preparation_prepare s m
  rw [h] at hp
  cases hp with
  | refused _ hframe _ => exact hframe
  | uncompiled _ _ hframe _ => exact hframe

theorem scriptOf_of_prepare (h : r.prepare s m = (.ok a, m₁)) : r.ScriptOf s m a.path m₁.tree := by
  have hp := r.preparation_prepare s m
  rw [h] at hp
  cases hp with
  | script hext _ _ htree => exact .script hext (body_of_extension_script hext) htree
  | written hdata _ hcreated hname =>
      obtain ⟨token, htoken, hname⟩ := hname
      have hread := FileTree.read_eq_ok_iff_holdsAt.mp hcreated.read
      have hrest := hcreated.without_eq
      rw [hcreated.cwd_eq] at hread hrest
      exact .written hdata htoken hname hcreated.notMem_issued hcreated.entryAt_before hread hrest
  | compiled hstep htool _ htree =>
      refine .compiled (classify_eq_transpiled_iff.mp hstep) ?_ htool htree
      have houtput := htool.output_eq
      unfold Transpiler.outputPath Path.withSuffix? at houtput
      split at houtput
      · rename_i hsuffix
        split at hsuffix
        · cases hsuffix
        · rw [← Except.ok.inj houtput, ← Option.some.inj hsuffix]
      · cases houtput

theorem HoldsScript.holdsAt_of_scriptOf {data : Bytes} {t : FileTree} (h : HoldsScript s m data)
    (hs : r.ScriptOf s m path t) : t.HoldsAt m.cwd path data := by
  cases hs with
  | script hext _ _ => exact absurd hext h.extension_ne
  | written hdata _ _ _ _ hfile _ => exact h.unique hdata ▸ hfile
  | compiled hkind _ htool _ =>
      exact absurd ⟨_, classify_eq_transpiled_iff.mpr hkind, htool.toRuns⟩ (h.idle _ _)

/-- Nothing is loaded while a script is prepared. -/
theorem calls_of_prepare (h : r.prepare s m = (.ok a, m₁)) :
    m₁.cwd = m.cwd ∧ m₁.calls = m.calls := by
  have hp := r.preparation_prepare s m
  rw [h] at hp
  cases hp with
  | script _ _ hframe _ => exact ⟨hframe.cwd_eq, hframe.calls_eq⟩
  | written _ _ hcreated _ => exact ⟨hcreated.cwd_eq, hcreated.calls_eq⟩
  | compiled _ _ hframe _ => exact ⟨hframe.cwd_eq, hframe.calls_eq⟩

/-- Unless a compiler has run, paths lead to where they led before. -/
theorem realPath_of_prepare (h : r.prepare s m = (.ok a, m₁))
    (hidle : ∀ output tool, ¬ r.ToolRuns s m output tool) (cwd p : Path) :
    m₁.tree.realPath cwd p = m.tree.realPath cwd p := by
  have hp := r.preparation_prepare s m
  rw [h] at hp
  cases hp with
  | script _ _ _ htree => rw [htree]
  | written _ _ hcreated _ => exact FileTree.realPath_of_sameShape hcreated.sameShape cwd p
  | compiled hstep htool _ _ => exact absurd ⟨_, hstep, htool.toRuns⟩ (hidle _ _)

/-- Only what was made for the run is removed after it. -/
theorem held_iff_of_prepare (hr : r.registry.lookup scriptExtension = none)
    (h : r.prepare s m = (.ok a, m₁)) : a.held = true ↔ s.extension ≠ scriptExtension := by
  have hp := r.preparation_prepare s m
  rw [h] at hp
  cases hp with
  | script hext _ _ _ => exact iff_of_false nofun fun hne => hne hext
  | written hdata _ hcreated _ => exact iff_of_true hcreated.held hdata.extension_ne
  | compiled hstep _ _ _ =>
      refine iff_of_true rfl fun hext => ?_
      have hlookup := (classify_eq_transpiled_iff.mp hstep).lookup_eq
      rw [hext, hr] at hlookup
      cases hlookup

/-- What was made for the run stands at its path. -/
theorem exists_locate_of_prepare (h : r.prepare s m = (.ok a, m₁)) (ha : a.held = true) :
    ∃ l, m₁.tree.locate m₁.cwd .entry (.ofPath a.path) = .ok l := by
  have hp := r.preparation_prepare s m
  rw [h] at hp
  cases hp with
  | script _ _ _ _ => cases ha
  | written _ _ hcreated _ => exact ⟨_, hcreated.locate⟩
  | compiled hstep htool hframe htree =>
      rw [htree, hframe.cwd_eq]
      exact FileTree.exists_locate_of_exists htool.exists_eq

/-! ## What becomes of it -/

/-- A loader that leaves the files alone, or removes just its script, leaves what can be removed. -/
theorem removable_of_tree {m₂ : Machine} (h : r.prepare s m = (.ok a, m₁)) (ha : a.held = true)
    (hd : m₁.tree.entryAt m₁.cwd a.path ≠ some .directory) (hcwd : m₂.cwd = m₁.cwd)
    (htree : m₂.tree = m₁.tree ∨ m₂.tree = m₁.tree.without m₁.cwd a.path) :
    m₂.tree.Removable m₂.cwd a.path := by
  obtain ⟨l, hl⟩ := exists_locate_of_prepare h ha
  rw [FileTree.entryAt_of_locate hl] at hd
  rw [hcwd]
  rcases htree with htree | htree
  · rw [htree]
    exact FileTree.removable_of_locate hl hd
  · rw [htree, FileTree.without_of_locate hl]
    exact FileTree.exists_discard_iff.mp ⟨_, FileTree.discard_erase hl hd⟩

theorem passesOn_runArtifactWith (loader : Loader) (hr : r.registry.lookup scriptExtension = none)
    (h : r.prepare s m = (.ok a, m₁))
    (hreal : m₁.tree.realPath (.ofLocation m₁.cwd) s.origin = .ok filename) :
    PassesOn s a.path (r.loadWith loader a.path filename m₁) (r.runArtifactWith loader a s.origin m₁) := by
  have hrun : r.runArtifactWith loader a s.origin m₁ =
      a.leave (r.loadWith loader a.path filename m₁).1 (r.loadWith loader a.path filename m₁).2 := by
    rw [runArtifactWith, executeWith_of_realPath (s := .ofPath a.path s.origin) hreal]
    rfl
  rw [hrun]
  refine ⟨(frame_leave a _ _).calls_eq, fun hext => ?_, fun hremovable => ?_, fun hext fault hfault => ?_⟩
  · have ha : a.held = false := by simpa [hext] using held_iff_of_prepare hr h
    rw [leave_of_not_held _ ha]
  · cases ha : a.held with
    | false => rw [leave_of_not_held _ ha]
    | true =>
        obtain ⟨t, ht⟩ := FileTree.exists_discard_iff.mpr hremovable
        exact (leave_of_discard _ ha ht).1
  · have ha := (held_iff_of_prepare hr h).mpr hext
    rw [Artifact.leave, if_pos ha, FileTree.discard_eq_error_iff.mpr hfault]

/-- A source that there is something wrong with is not loaded, and what is wrong with it is raised. Of any other
the script is prepared and handed to the loader once, as the file that the source appears as; where that is,
only a compiler can have changed. The outcome of the loader is passed on, unless what stands at the path of a
script that was made for the run cannot be removed after it: a loader that leaves the files alone or removes
its script has no such effect, if the compiler has left no directory there. -/
theorem resolve_meaning (hr : r.registry.lookup scriptExtension = none) (loader : Loader) (s : Source)
    (m : Machine) :
    (∀ f, r.FailsWith s m f →
      (r.resolveWith loader s m).1 = .error f ∧ (r.resolveWith loader s m).2.calls = m.calls) ∧
    ((∀ f, ¬ r.FailsWith s m f) →
      ∃ path m₁, r.ScriptOf s m path m₁.tree ∧ m₁.cwd = m.cwd ∧
        ((∀ output tool, ¬ r.ToolRuns s m output tool) →
          m₁.tree.realPath (.ofLocation m.cwd) s.origin = m.tree.realPath (.ofLocation m.cwd) s.origin) ∧
        ∀ filename, m₁.tree.realPath (.ofLocation m.cwd) s.origin = .ok filename →
          ∃ call, r.Calls path filename m₁ call ∧ (m₁.record (.loaded call)).calls = m.calls ++ [call] ∧
            PassesOn s path (loader call (m₁.record (.loaded call))) (r.resolveWith loader s m) ∧
            ∀ outcome m₂, loader call (m₁.record (.loaded call)) = (outcome, m₂) → m₂.cwd = m.cwd →
              m₂.tree = m₁.tree ∨ m₂.tree = m₁.tree.without m.cwd path →
              m₁.tree.entryAt m.cwd path ≠ some .directory → (r.resolveWith loader s m).1 = outcome) := by
  rcases hp : r.prepare s m with ⟨f' | a, m₁⟩
  · have hf' := fst_prepare_eq_error_iff.mp (congrArg Prod.fst hp)
    refine ⟨fun f hf => ?_, fun hnone => absurd hf' (hnone f')⟩
    cases (congrArg Prod.fst hp).symm.trans (fst_prepare_of_failsWith hf)
    rw [resolveWith_of_prepare_error hr hp]
    exact ⟨rfl, (frame_of_prepare_error hp).calls_eq⟩
  · refine ⟨fun f hf => ?_, fun _ => ?_⟩
    · exact absurd hf (not_failsWith_of_prepare hp)
    · obtain ⟨hcwd, hcalls⟩ := calls_of_prepare hp
      refine ⟨a.path, m₁, scriptOf_of_prepare hp, hcwd, fun hidle => realPath_of_prepare hp hidle _ _,
        fun filename hreal => ⟨r.callOf a.path filename m₁, r.calls_callOf _ _ _, ?_, ?_, ?_⟩⟩
      · rw [calls_record_loaded, hcalls]
      · rw [resolveWith_of_prepare hr hp]
        exact passesOn_runArtifactWith loader hr hp (hcwd ▸ hreal)
      · intro outcome m₂ hload hcwd₂ htree hd
        have hpasses := passesOn_runArtifactWith loader hr hp (hcwd ▸ hreal)
        rw [show r.loadWith loader a.path filename m₁ = (outcome, m₂) from hload] at hpasses
        rw [resolveWith_of_prepare hr hp]
        cases ha : a.held with
        | false =>
            have hext : s.extension = scriptExtension := by
              by_contra hne
              cases ha.symm.trans ((held_iff_of_prepare hr hp).mpr hne)
            exact congrArg Prod.fst (hpasses.script hext)
        | true =>
            rw [← hcwd] at hd htree hcwd₂
            exact hpasses.removable (removable_of_tree hp ha hd hcwd₂ htree)

section Assorted

/-- A resolver that puts artifacts in the root directory, and whose scripts remove themselves. -/
def tidying : Resolver where
  names := .lettered ⟨[], 'x', ['y'], by decide⟩
  tempDir := "/"
  loader _ := { removesItself := true, outcome := .ok (.text "done") }

/-- A loader that only removes the script that it is handed. -/
def removing : Loader := fun call m =>
  (.ok (.text "done"), { m with tree := m.tree.without m.cwd call.path })

def piped : Source := .ofText [49] ⟨.none, ["in"]⟩

/-- A script without an extension, a document, and a source that the next program compiles. -/
def assorted : Machine where
  tree := ⟨[(["s"], .file [51]), (["d.md"], .file [32, 32, 32, 32, 50]), (["a.hy"], .file [40])]⟩
  pending := [.ended writing]

/-- On the assorted machine, a source is run as a script with these bytes, as the file that it appears as. -/
def RunsAs (s : Source) (data : Bytes) (filename : Path) : Prop :=
  (tidying.resolveWith removing s assorted).1 = .ok (.text "done") ∧
    ∃ call, (tidying.resolveWith removing s assorted).2.calls = [call] ∧
      call.filename = filename ∧ call.content = some data

/-- On the assorted machine, a source is prepared as a script with these bytes, and leads to this file. -/
structure PreparedAs (s : Source) (data : Bytes) (filename : Path) : Prop where
  not_failsWith : ∀ f, ¬ tidying.FailsWith s assorted f
  holdsAt : ∀ path t, tidying.ScriptOf s assorted path t → t.HoldsAt assorted.cwd path data
  realPath_eq : ∀ path t, tidying.ScriptOf s assorted path t →
    ((∀ output tool, ¬ tidying.ToolRuns s assorted output tool) →
      t.realPath (.ofLocation assorted.cwd) s.origin =
        assorted.tree.realPath (.ofLocation assorted.cwd) s.origin) →
    t.realPath (.ofLocation assorted.cwd) s.origin = .ok filename

theorem preparedAs_of_holdsScript {s : Source} {data : Bytes} {filename : Path} (h : HoldsScript s assorted data)
    (base : Path) (name : String) (hbase : tidying.artifactStart s assorted.cwd = base)
    (hpath : artifactPath base (tidying.names.token assorted.tree assorted.issued base) = ⟨.slash, [name]⟩)
    (hlocate : assorted.tree.locate assorted.cwd .entry (.ofPath ⟨.slash, [name]⟩) = .ok [name])
    (hreal : assorted.tree.realPath (.ofLocation assorted.cwd) s.origin = .ok filename) :
    PreparedAs s data filename where
  not_failsWith f := by
    obtain ⟨a, m₁, hprepare⟩ := h.exists_prepare (r := tidying) hbase hpath hlocate
    exact not_failsWith_of_prepare hprepare
  holdsAt path t := h.holdsAt_of_scriptOf
  realPath_eq path t _ hsame := (hsame h.idle).trans hreal

theorem preparedAs_piped : PreparedAs piped [49] ⟨.slash, ["in"]⟩ :=
  preparedAs_of_holdsScript (.raw (by decide) (.text rfl)) ⟨.slash, ["in-"]⟩ "in-xx.py"
    (by decide) (by decide) (FileTree.locate_eq_ok_iff.mpr ⟨by decide, by cbv⟩) (by cbv)

theorem preparedAs_raw : PreparedAs (.ofPath ⟨.none, ["s"]⟩) [51] ⟨.slash, ["s"]⟩ := by
  have hdata : (Source.ofPath ⟨.none, ["s"]⟩).Holds assorted [51] :=
    .file rfl ⟨["s"], FileTree.locate_eq_ok_iff.mpr ⟨by decide, by cbv⟩, rfl⟩
  exact preparedAs_of_holdsScript (.raw (by decide) hdata) ⟨.slash, ["s-"]⟩ "s-xx.py"
    (by decide) (by decide) (FileTree.locate_eq_ok_iff.mpr ⟨by decide, by cbv⟩) (by cbv)

theorem preparedAs_document : PreparedAs (.ofPath ⟨.none, ["d.md"]⟩) [50] ⟨.slash, ["d.md"]⟩ := by
  have hdata : (Source.ofPath ⟨.none, ["d.md"]⟩).Holds assorted [32, 32, 32, 32, 50] :=
    .file rfl ⟨["d.md"], FileTree.locate_eq_ok_iff.mpr ⟨by decide, by cbv⟩, rfl⟩
  have hdecode : Utf8.decode [32, 32, 32, 32, 50] = .ok [' ', ' ', ' ', ' ', '2'] := by decide
  have hscript : Utf8.encode (Literate.extract .python [' ', ' ', ' ', ' ', '2']) = [50] := by decide
  exact preparedAs_of_holdsScript (hscript ▸ .literate (by decide) hdata hdecode) ⟨.slash, ["d-"]⟩
    "d-xx.py" (by decide) (by decide)
    (FileTree.locate_eq_ok_iff.mpr ⟨by decide, by cbv⟩) (by cbv)

theorem compilesWith_assorted : tidying.CompilesWith (.ofPath ⟨.none, ["a.hy"]⟩) .hy :=
  classify_eq_transpiled_iff.mp (classify_hy (by decide))

theorem writeAll_assorted :
    assorted.tree.writeAll assorted.cwd writing.writes =
      (⟨(["a.py"], .file [49]) :: assorted.tree.entries⟩, none) := by
  cbv

theorem treeAfter_assorted : assorted.treeAfter writing = ⟨(["a.py"], .file [49]) :: assorted.tree.entries⟩ :=
  congrArg Prod.fst writeAll_assorted

theorem locate_assorted_output (aim : Aim) :
    (assorted.treeAfter writing).locate assorted.cwd aim (.ofPath ⟨.none, ["a.py"]⟩) = .ok ["a.py"] := by
  rw [treeAfter_assorted]
  exact FileTree.locate_eq_ok_iff.mpr ⟨by decide, by cases aim <;> cbv⟩

theorem get?_assorted_output : (assorted.treeAfter writing).get? ["a.py"] = some (.file [49]) := by
  rw [treeAfter_assorted]
  rfl

theorem produces_assorted : Transpiler.hy.Produces ⟨.none, ["a.hy"]⟩ assorted ⟨.none, ["a.py"]⟩ writing where
  output_eq := rfl
  shown := rfl
  ends := ⟨_, Transpiler.argv_hy rfl, rfl, _, rfl, congrArg Prod.snd writeAll_assorted⟩
  code_eq := rfl
  exists_eq := by
    have hentry := FileTree.entryAt_of_locate (locate_assorted_output .entry)
    exact FileTree.exists_of_entryAt (hentry.trans get?_assorted_output) nofun

theorem scriptOf_assorted_compiled {path : Path} {t : FileTree}
    (h : tidying.ScriptOf (.ofPath ⟨.none, ["a.hy"]⟩) assorted path t) :
    path = ⟨.none, ["a.py"]⟩ ∧ t = assorted.treeAfter writing := by
  have hruns : tidying.ToolRuns (.ofPath ⟨.none, ["a.hy"]⟩) assorted ⟨.none, ["a.py"]⟩ writing :=
    ⟨_, classify_eq_transpiled_iff.mpr compilesWith_assorted, produces_assorted.toRuns⟩
  cases h with
  | script hext _ _ => exact absurd hext (by decide)
  | written hdata _ _ _ _ _ _ => exact absurd hruns (hdata.idle _ _)
  | compiled hkind _ htool htree =>
      obtain ⟨rfl, rfl⟩ := hruns.unique ⟨_, classify_eq_transpiled_iff.mpr hkind, htool.toRuns⟩
      exact ⟨rfl, htree⟩

theorem preparedAs_compiled : PreparedAs (.ofPath ⟨.none, ["a.hy"]⟩) [49] ⟨.slash, ["a.hy"]⟩ := by
  refine ⟨fun f => not_failsWith_of_produces compilesWith_assorted produces_assorted, fun path t h => ?_,
    fun path t h _ => ?_⟩
  · obtain ⟨rfl, rfl⟩ := scriptOf_assorted_compiled h
    exact ⟨_, locate_assorted_output .target, get?_assorted_output⟩
  · rw [(scriptOf_assorted_compiled h).2, treeAfter_assorted]
    cbv

theorem resolve_meaning_assorted :
    RunsAs piped [49] ⟨.slash, ["in"]⟩ ∧ RunsAs (.ofPath ⟨.none, ["s"]⟩) [51] ⟨.slash, ["s"]⟩ ∧
      RunsAs (.ofPath ⟨.none, ["d.md"]⟩) [50] ⟨.slash, ["d.md"]⟩ ∧
      RunsAs (.ofPath ⟨.none, ["a.hy"]⟩) [49] ⟨.slash, ["a.hy"]⟩ := by
  have run {s : Source} {data : Bytes} {filename : Path} (h : PreparedAs s data filename) :
      RunsAs s data filename := by
    obtain ⟨path, m₁, hof, hcwd, hsame, hrun⟩ :=
      (resolve_meaning (r := tidying) (by decide) removing s assorted).2 h.not_failsWith
    have hdata := h.holdsAt path _ hof
    obtain ⟨call, hcall, hcalls, hpasses, houtcome⟩ := hrun filename (h.realPath_eq path _ hof hsame)
    refine ⟨houtcome _ _ rfl hcwd (.inr ?_) ?_, call, ?_, hcall.filename_eq, ?_⟩
    · rw [hcall.path_eq, ← hcwd]
      rfl
    · exact FileTree.entryAt_ne_directory_of_read (FileTree.read_eq_ok_iff_holdsAt.mpr hdata)
    · rw [hpasses.calls_eq]
      exact hcalls
    · exact (hcall.content_iff data).mpr (hcwd ▸ hdata)
  exact ⟨run preparedAs_piped, run preparedAs_raw, run preparedAs_document, run preparedAs_compiled⟩

/-- A loader that puts a directory in the place of its script. -/
def replacing : Loader := fun call m =>
  (.ok (.text "done"),
    { m with tree := ((Writing.directory call.path).apply (m.tree.without m.cwd call.path) m.cwd).1 })

/-- The output of the compiler is a file, and the loader returns, but the directory cannot be unlinked. -/
theorem outcome_replaced_by_directory :
    tidying.ScriptOf (.ofPath ⟨.none, ["a.hy"]⟩) assorted ⟨.none, ["a.py"]⟩ (assorted.treeAfter writing) ∧
      (assorted.treeAfter writing).entryAt assorted.cwd ⟨.none, ["a.py"]⟩ = some (.file [49]) ∧
      (∀ call m, (replacing call m).1 = .ok (.text "done")) ∧
      (tidying.resolveWith replacing (.ofPath ⟨.none, ["a.hy"]⟩) assorted).1 =
        .error (.ofFault "a.py" .isDirectory) := by
  refine ⟨.compiled compilesWith_assorted rfl produces_assorted rfl,
    (FileTree.entryAt_of_locate (locate_assorted_output .entry)).trans get?_assorted_output, fun _ _ => rfl, ?_⟩
  have hr : tidying.registry.lookup scriptExtension = none := by decide
  rcases hp : tidying.prepare (.ofPath ⟨.none, ["a.hy"]⟩) assorted with ⟨f | a, m₁⟩
  · exact absurd (fst_prepare_eq_error_iff.mp (congrArg Prod.fst hp)) (preparedAs_compiled.not_failsWith f)
  · have hof := scriptOf_of_prepare hp
    obtain ⟨hpath, htree⟩ := scriptOf_assorted_compiled hof
    obtain ⟨hcwd, -⟩ := calls_of_prepare hp
    have hreal := preparedAs_compiled.realPath_eq _ _ hof fun hidle =>
      realPath_of_prepare hp hidle _ _
    have hpasses := passesOn_runArtifactWith replacing hr hp (hcwd ▸ hreal)
    rw [resolveWith_of_prepare hr hp]
    rw [hpath] at hpasses
    refine hpasses.unremovable (by decide) .isDirectory (.directory ?_)
    change FileTree.entryAt ((Writing.directory ⟨.none, ["a.py"]⟩).apply
      (m₁.tree.without m₁.cwd ⟨.none, ["a.py"]⟩) m₁.cwd).1 m₁.cwd _ = _
    rw [htree, hcwd, FileTree.without_of_locate (locate_assorted_output .entry), treeAfter_assorted]
    have hafter : ((Writing.directory ⟨.none, ["a.py"]⟩).apply
        (FileTree.erase ⟨(["a.py"], .file [49]) :: assorted.tree.entries⟩ ["a.py"]) assorted.cwd).1 =
        ⟨(["a.py"], .directory) :: assorted.tree.entries⟩ := by
      cbv
    rw [hafter, FileTree.entryAt_of_locate (FileTree.locate_eq_ok_iff.mpr ⟨by decide, by cbv⟩)]
    rfl

end Assorted

end ScriptRunner.Resolver
