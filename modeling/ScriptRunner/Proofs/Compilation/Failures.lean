import ScriptRunner.Proofs.Compilation.Runs

/-! Why a compilation fails. Main statement: each failure has one of a few causes, each of them with its own
failure, and a compilation fails only for such a cause. -/

namespace ScriptRunner

namespace Machine

/-- What becomes of a launch does not depend on what has been logged. -/
theorem fst_launch_log (m : Machine) (text : String) (argv : List String) :
    ((m.log text).launch argv).1 = (m.launch argv).1 := by
  unfold launch
  simp only [log, record, write_eq]
  split
  · rfl
  · rfl
  · rfl
  · rename_i r rest _ _
    rcases m.tree.writeAll m.cwd r.writes with ⟨tree, _ | ⟨fault, path⟩⟩ <;> rfl

end Machine

namespace Transpiler

open Machine

/-- The compiler is not launched: the line that tells of it cannot be shown, or the launch fails. -/
def LaunchFails (t : Transpiler) (source : Path) (argv : List String) (m : Machine) (f : Failure) : Prop :=
  m.console.status (t.progress source) = .error f ∨
    m.console.status (t.progress source) = .ok () ∧ (m.launch argv).1 = .error f

/-- Why a compilation fails: the command cannot be put together or launched, the compiler says that it has
failed, and what it may have left can or cannot be removed, or it leaves nothing at its output path, or names
are too long to tell. -/
inductive FailsWith (t : Transpiler) (source : Path) (m : Machine) : Failure → Prop where
  | command {fault} (h : t.argv source = .error fault) : FailsWith t source m (.command fault)
  | unlaunched {argv f} (hargv : t.argv source = .ok argv) (h : t.LaunchFails source argv m f) :
      FailsWith t source m (t.launchFailure f)
  | exited {output r} (h : t.Runs source m output r) (hcode : r.code ≠ 0)
      (hremovable : (m.treeAfter r).Removable m.cwd output) :
      FailsWith t source m (.compilation (.exited t.name r.code r.stdout r.stderr))
  | unremoved {output r fault} (h : t.Runs source m output r) (hcode : r.code ≠ 0)
      (hfault : (m.treeAfter r).Unremovable m.cwd output fault) :
      FailsWith t source m (.ofFault output.toString fault)
  | missing {output r} (h : t.Runs source m output r) (hcode : r.code = 0)
      (hmissing : (m.treeAfter r).exists? m.cwd (.ofPath output) = .ok false) :
      FailsWith t source m (.compilation (.noOutput t.name output))
  | untold {output r} (h : t.Runs source m output r) (hcode : r.code = 0)
      (hlong : (m.treeAfter r).exists? m.cwd (.ofPath output) = .error .nameTooLong) :
      FailsWith t source m (.ofFault output.toString .nameTooLong)

variable {t : Transpiler} {source output : Path} {argv : List String} {m : Machine} {r : ToolResult}

theorem fst_launch_eq_error_iff {f : Failure} :
    (t.launch source argv m).1 = .error f ↔ t.LaunchFails source argv m f := by
  unfold launch LaunchFails
  cases m.console.status (t.progress source) <;> simp

/-- A compiler that cannot be launched is reported with the reason, if that is an error of the operating
system. -/
theorem compile_of_launchFails (houtput : outputPath source = .ok output) (hargv : t.argv source = .ok argv)
    {f : Failure} (h : t.LaunchFails source argv m f) :
    (t.compile source m).1 = .error (t.launchFailure f) := by
  let mlog := m.log ("Compiling " ++ source.toString ++ " with " ++ " ".intercalate argv)
  have hlaunch : (t.launch source argv mlog).1 = .error f := by
    rw [fst_launch_eq_error_iff]
    exact h.imp_right (And.imp_right ((fst_launch_log m _ argv).trans ·))
  unfold compile
  simp only [houtput, hargv, show m.log _ = mlog from rfl]
  rcases hl : t.launch source argv mlog with ⟨outcome, m₁⟩
  rw [hl] at hlaunch
  subst hlaunch
  rfl

/-- What a compiler that says that it has failed may have left is removed before the failure is raised. -/
theorem fst_compile_of_exited (h : t.Runs source m output r) (hcode : r.code ≠ 0) :
    (t.compile source m).1 =
      match (m.treeAfter r).discard m.cwd (.ofPath output) with
      | .error fault => .error (.ofFault output.toString fault)
      | .ok _ => .error (.compilation (.exited t.name r.code r.stdout r.stderr)) := by
  obtain ⟨m₁, htree, hcwd, hc⟩ := exists_compile_of_runs h
  rw [hc, if_pos hcode, abandon, htree, hcwd]
  cases (m.treeAfter r).discard m.cwd (.ofPath output) <;> rfl

/-- A compiler that ends well is judged by what is at its output path. -/
theorem fst_compile_of_ended (h : t.Runs source m output r) (hcode : r.code = 0) :
    (t.compile source m).1 =
      match (m.treeAfter r).exists? m.cwd (.ofPath output) with
      | .ok true => .ok output
      | .ok false => .error (.compilation (.noOutput t.name output))
      | .error fault => .error (.ofFault output.toString fault) := by
  obtain ⟨m₁, htree, hcwd, hc⟩ := exists_compile_of_runs h
  rw [hc, if_neg (by simp [hcode]), htree, hcwd]
  rcases (m.treeAfter r).exists?_cases m.cwd (.ofPath output) with he | he | he <;> rw [he]

/-- A command that is put together has a place for its output. -/
theorem exists_outputPath_of_argv (hargv : t.argv source = .ok argv) : ∃ output, outputPath source = .ok output := by
  cases houtput : outputPath source with
  | error fault => simp [Transpiler.argv, houtput, bind, Except.bind] at hargv
  | ok output => exact ⟨output, rfl⟩

theorem compile_of_argv_error {fault : CommandFault} (hargv : t.argv source = .error fault) :
    t.compile source m = (.error (.command fault), m) := by
  unfold compile
  cases houtput : outputPath source with
  | error fault' =>
      obtain rfl : fault' = fault := by simpa [Transpiler.argv, houtput, bind, Except.bind] using hargv
      rfl
  | ok output => rw [hargv]

theorem nextEnds_of_launch {m₁ : Machine} (h : m.launch argv = (.ok r, m₁)) : m.NextEnds argv r := by
  by_cases hends : ∃ r', m.NextEnds argv r'
  · obtain ⟨r', hends⟩ := hends
    obtain ⟨m₂, hl, -⟩ := launch_of_nextEnds hends
    cases h.symm.trans hl
    exact hends
  · obtain ⟨f, m₂, hl, -⟩ := launch_of_not_nextEnds fun r' hr' => hends ⟨r', hr'⟩
    cases h.symm.trans hl

/-- A compiler is launched and runs, or is not launched. -/
theorem runs_or_launchFails (houtput : outputPath source = .ok output) (hargv : t.argv source = .ok argv) :
    (∃ r, t.Runs source m output r) ∨ ∃ f, t.LaunchFails source argv m f := by
  rcases hl : t.launch source argv m with ⟨f | r, m₁⟩
  · exact .inr ⟨f, fst_launch_eq_error_iff.mp (congrArg Prod.fst hl)⟩
  · refine .inl ⟨r, houtput, ?_, argv, hargv, ?_⟩ <;> unfold launch at hl <;> split at hl
    · cases hl
    · assumption
    · cases hl
    · exact nextEnds_of_launch hl

theorem failsWith_of_compile {f : Failure} (h : (t.compile source m).1 = .error f) :
    t.FailsWith source m f := by
  cases hargv : t.argv source with
  | error fault =>
      rw [compile_of_argv_error hargv] at h
      cases h
      exact .command hargv
  | ok argv =>
      obtain ⟨output, houtput⟩ := exists_outputPath_of_argv hargv
      rcases runs_or_launchFails houtput hargv (m := m) with ⟨r, hruns⟩ | ⟨f', hf⟩
      · by_cases hcode : r.code = 0
        · rw [fst_compile_of_ended hruns hcode] at h
          rcases (m.treeAfter r).exists?_cases m.cwd (.ofPath output) with he | he | he
          · rw [he] at h
            cases h
          · rw [he] at h
            cases h
            exact .missing hruns hcode he
          · rw [he] at h
            cases h
            exact .untold hruns hcode he
        · rw [fst_compile_of_exited hruns hcode] at h
          cases hd : (m.treeAfter r).discard m.cwd (.ofPath output) with
          | error fault =>
              rw [hd] at h
              cases h
              exact .unremoved hruns hcode (FileTree.discard_eq_error_iff.mp hd)
          | ok tree =>
              rw [hd] at h
              cases h
              exact .exited hruns hcode (FileTree.exists_discard_iff.mp ⟨tree, hd⟩)
      · rw [compile_of_launchFails houtput hargv hf] at h
        cases h
        exact .unlaunched hargv hf

theorem compile_of_failsWith {f : Failure} (h : t.FailsWith source m f) :
    (t.compile source m).1 = .error f := by
  cases h with
  | command hargv => rw [compile_of_argv_error hargv]
  | unlaunched hargv hf =>
      obtain ⟨output, houtput⟩ := exists_outputPath_of_argv hargv
      exact compile_of_launchFails houtput hargv hf
  | exited hruns hcode hremovable =>
      obtain ⟨tree, hd⟩ := FileTree.exists_discard_iff.mpr hremovable
      rw [fst_compile_of_exited hruns hcode, hd]
  | unremoved hruns hcode hfault =>
      rw [fst_compile_of_exited hruns hcode, FileTree.discard_eq_error_iff.mpr hfault]
  | missing hruns hcode hmissing => rw [fst_compile_of_ended hruns hcode, hmissing]
  | untold hruns hcode hlong => rw [fst_compile_of_ended hruns hcode, hlong]

/-- A compilation fails just as there is cause for it. -/
theorem fst_compile_eq_error_iff {f : Failure} :
    (t.compile source m).1 = .error f ↔ t.FailsWith source m f :=
  ⟨failsWith_of_compile, compile_of_failsWith⟩

/-- What has been logged before makes no difference to a compilation. -/
theorem runs_log {text : String} : t.Runs source (m.log text) output r ↔ t.Runs source m output r :=
  ⟨fun ⟨houtput, hshown, argv, hargv, hends⟩ =>
      ⟨houtput, hshown, argv, hargv, hends.allowed, hends.written⟩,
    fun ⟨houtput, hshown, argv, hargv, hends⟩ =>
      ⟨houtput, hshown, argv, hargv, hends.allowed, hends.written⟩⟩

theorem launchFails_log {text : String} {f : Failure} :
    t.LaunchFails source argv (m.log text) f ↔ t.LaunchFails source argv m f := by
  rw [LaunchFails, LaunchFails, fst_launch_log]
  rfl

theorem failsWith_log {text : String} {f : Failure} :
    t.FailsWith source (m.log text) f ↔ t.FailsWith source m f := by
  constructor <;> intro h
  · cases h with
    | command hargv => exact .command hargv
    | unlaunched hargv hf => exact .unlaunched hargv (launchFails_log.mp hf)
    | exited hruns hcode hremovable => exact .exited (runs_log.mp hruns) hcode hremovable
    | unremoved hruns hcode hfault => exact .unremoved (runs_log.mp hruns) hcode hfault
    | missing hruns hcode hmissing => exact .missing (runs_log.mp hruns) hcode hmissing
    | untold hruns hcode hlong => exact .untold (runs_log.mp hruns) hcode hlong
  · cases h with
    | command hargv => exact .command hargv
    | unlaunched hargv hf => exact .unlaunched hargv (launchFails_log.mpr hf)
    | exited hruns hcode hremovable => exact .exited (runs_log.mpr hruns) hcode hremovable
    | unremoved hruns hcode hfault => exact .unremoved (runs_log.mpr hruns) hcode hfault
    | missing hruns hcode hmissing => exact .missing (runs_log.mpr hruns) hcode hmissing
    | untold hruns hcode hlong => exact .untold (runs_log.mpr hruns) hcode hlong

end Transpiler
end ScriptRunner
