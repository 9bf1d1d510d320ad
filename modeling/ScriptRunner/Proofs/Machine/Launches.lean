import ScriptRunner.Artifact.Basic
import ScriptRunner.Proofs.Machine.Frame

/-! Programs that were launched, whatever became of them, among the things that were done. -/

namespace ScriptRunner

/-- The words of the program that an event launches. -/
def Event.launch? : Event → Option (List String)
  | .launched argv => some argv
  | _ => none

namespace Machine

/-- The words of all programs launched so far, in order. -/
def launches (m : Machine) : List (List String) := m.events.filterMap Event.launch?

theorem launches_record (m : Machine) {e : Event} (h : e.launch? = none) :
    (m.record e).launches = m.launches := by
  simp [launches, events, record, h]

theorem launches_record_launched (m : Machine) (argv : List String) :
    (m.record (.launched argv)).launches = m.launches ++ [argv] := by
  simp [launches, events, record, Event.launch?]

theorem launches_log (m : Machine) (text : String) : (m.log text).launches = m.launches :=
  m.launches_record rfl

/-- A launch is one, even if there is no such program or it cannot write what it has to. -/
theorem launches_launch (m : Machine) (argv : List String) :
    (m.launch argv).2.launches = m.launches ++ [argv] := by
  have h := m.launches_record_launched argv
  unfold launch
  dsimp only
  split
  · exact h
  · exact h
  · rw [write_eq]
    exact h
  · rw [write_eq]
    split
    · rename_i m₁ he
      rw [← (Prod.mk.inj he).1]
      exact h
    · rename_i m₁ fault path he
      rw [← (Prod.mk.inj he).1]
      exact h

end Machine

/-! ## Compilers -/

namespace Transpiler

open Machine

variable {t : Transpiler} {source output : Path} {m : Machine}

theorem launches_abandon (t : Transpiler) (output : Path) (r : ToolResult) (m : Machine) :
    (t.abandon output r m).2.launches = m.launches := by
  unfold abandon
  split <;> rfl

theorem launches_launch (t : Transpiler) (source : Path) (argv : List String) (m : Machine) :
    ∃ tools, (t.launch source argv m).2.launches = m.launches ++ tools ∧
      (tools = [] ∨ tools = [argv]) := by
  unfold launch
  split
  · exact ⟨[], (List.append_nil _).symm, .inl rfl⟩
  · exact ⟨[argv], m.launches_launch argv, .inr rfl⟩

/-- A compilation launches its own command, once at most. -/
theorem launches_compile (t : Transpiler) (source : Path) (m : Machine) :
    ∃ tools, (t.compile source m).2.launches = m.launches ++ tools ∧
      (tools = [] ∨ ∃ argv, t.argv source = .ok argv ∧ tools = [argv]) := by
  unfold compile
  split
  · exact ⟨[], (List.append_nil _).symm, .inl rfl⟩
  · exact ⟨[], (List.append_nil _).symm, .inl rfl⟩
  · rename_i output argv _ hargv
    dsimp only
    obtain ⟨tools, hl, htools⟩ := t.launches_launch source argv
      (m.log ("Compiling " ++ source.toString ++ " with " ++ " ".intercalate argv))
    rw [m.launches_log] at hl
    refine ⟨tools, ?_, htools.imp_right fun he => ⟨argv, hargv, he⟩⟩
    split
    · rename_i f m₁ he
      rwa [he] at hl
    · rename_i r m₁ he
      rw [he] at hl
      split
      · exact (t.launches_abandon output r m₁).trans hl
      · split <;> exact hl

end Transpiler

/-! ## Shell commands -/

namespace Shell

open Machine

theorem launches_echo (s : Shell) (command : String) (m : Machine) :
    (s.echo command m).launches = m.launches := by
  unfold echo
  split
  · rfl
  · exact m.launches_record rfl

theorem launches_forward (r : ToolResult) (m : Machine) : (forward r m).launches = m.launches := by
  have hout : (if r.stdout = "" then m else m.record (.printed r.stdout)).launches = m.launches := by
    split
    · rfl
    · exact m.launches_record rfl
  unfold forward
  dsimp only
  split
  · exact hout
  · exact (launches_record _ rfl).trans hout

/-- A shell command is one process, whatever comes of it. -/
theorem launches_run (s : Shell) (command : String) (m : Machine) :
    (s.run command m).2.launches = m.launches ++ [s.argv (clean command)] := by
  have hlaunch : ((s.echo (clean command) m).launch (s.argv (clean command))).2.launches =
      m.launches ++ [s.argv (clean command)] := by
    rw [Machine.launches_launch, launches_echo]
  unfold run
  dsimp only
  split
  · rename_i f m₁ he
    rwa [he] at hlaunch
  · rename_i r m₁ he
    rw [he] at hlaunch
    have hforward := (launches_forward r m₁).trans hlaunch
    split
    · exact (launches_record _ rfl).trans hforward
    · exact hforward

/-- Commands are run in order, up to the first that fails. -/
theorem launches_runAll (s : Shell) (commands : List String) (m : Machine) :
    ∃ ran, ran <+: commands ∧
      (s.runAll commands m).2.launches = m.launches ++ ran.map fun c => s.argv (clean c) := by
  induction commands generalizing m with
  | nil => exact ⟨[], List.nil_prefix, (List.append_nil _).symm⟩
  | cons command rest ih =>
      have hrun := s.launches_run command m
      unfold runAll
      split
      · rename_i out m₁ he
        rw [he] at hrun
        obtain ⟨ran, hran, hrest⟩ := ih m₁
        refine ⟨command :: ran, (List.prefix_cons_inj command).mpr hran, ?_⟩
        rw [hrest, hrun, List.append_assoc]
        rfl
      · rename_i e m₁ he
        rw [he] at hrun
        exact ⟨[command], (List.prefix_cons_inj command).mpr List.nil_prefix, hrun⟩

end Shell

/-! ## Artifacts -/

namespace Artifact

theorem launches_create (names : TempNames) (data : Bytes) (stem directory : String) (m : Machine) :
    (create names data stem directory m).2.launches = m.launches := by
  unfold create
  dsimp only
  split
  · rfl
  · exact Machine.launches_log _ _

theorem launches_leave {α : Type} (a : Artifact) (outcome : Except Failure α) (m : Machine) :
    (a.leave outcome m).2.launches = m.launches := by
  unfold leave
  split
  · split
    · rfl
    · exact Machine.launches_log _ _
  · rfl

end Artifact
end ScriptRunner
