import ScriptRunner.Shell.Run
import ScriptRunner.Compilation

/-! Calls of the loader among the things that were done, and steps of the machine that make none. -/

namespace ScriptRunner

/-- The call of the loader that an event is. -/
def Event.call? : Event → Option Call
  | .loaded call => some call
  | _ => none

namespace Machine

/-- The calls of the loader so far, in order. -/
def calls (m : Machine) : List Call := m.events.filterMap Event.call?

@[simp] theorem calls_record_loaded (m : Machine) (call : Call) :
    (m.record (.loaded call)).calls = m.calls ++ [call] := by
  simp [calls, events, record, Event.call?]

/-- Nothing is loaded and no temporary file is made from one machine to the other. Programs may run
and files may change. -/
structure Frame (m m' : Machine) : Prop where
  cwd_eq : m'.cwd = m.cwd
  issued_eq : m'.issued = m.issued
  calls_eq : m'.calls = m.calls

namespace Frame

variable {m m' m'' : Machine}

theorem refl (m : Machine) : Frame m m := ⟨rfl, rfl, rfl⟩

theorem trans (h : Frame m m') (h' : Frame m' m'') : Frame m m'' :=
  ⟨h'.cwd_eq.trans h.cwd_eq, h'.issued_eq.trans h.issued_eq, h'.calls_eq.trans h.calls_eq⟩

end Frame

theorem frame_record (m : Machine) {e : Event} (h : e.call? = none) : Frame m (m.record e) :=
  ⟨rfl, rfl, by simp [calls, events, record, h]⟩

theorem frame_log (m : Machine) (text : String) : Frame m (m.log text) := m.frame_record rfl

theorem frame_tree (m : Machine) (t : FileTree) : Frame m { m with tree := t } := ⟨rfl, rfl, rfl⟩

theorem frame_pending (m : Machine) (runs : List ToolRun) : Frame m { m with pending := runs } :=
  ⟨rfl, rfl, rfl⟩

end Machine

/-! ## Programs and what they write -/

/-- The tree after a program has written, and what was refused, if anything was. -/
def FileTree.writeAll (t : FileTree) (cwd : Location) : List Writing → FileTree.Outcome
  | [] => (t, none)
  | w :: rest =>
    match w.apply t cwd with
    | (t, none) => t.writeAll cwd rest
    | (t, some refusal) => (t, some refusal)

namespace Machine

theorem write_eq (m : Machine) (ws : List Writing) :
    m.write ws = ({ m with tree := (m.tree.writeAll m.cwd ws).1 }, (m.tree.writeAll m.cwd ws).2) := by
  induction ws generalizing m with
  | nil => rfl
  | cons w ws ih =>
      rw [write, FileTree.writeAll]
      cases hw : w.apply m.tree m.cwd with
      | mk t refusal =>
          cases refusal with
          | none => exact ih { m with tree := t }
          | some refusal => rfl

/-- What the next program writes can be written, and one that fails to launch writes nothing. -/
structure Writable (m : Machine) : Prop where
  ended : ∀ r rest, m.pending = .ended r :: rest → (m.tree.writeAll m.cwd r.writes).2 = none
  refused : ∀ f writes rest, m.pending = .refused f writes :: rest → writes = []

/-- The next program can be launched with these words, and runs and ends. -/
structure NextEnds (m : Machine) (argv : List String) (r : ToolResult) : Prop where
  allowed : m.argvFault? argv = none
  written : ∃ rest, m.pending = .ended r :: rest ∧ (m.tree.writeAll m.cwd r.writes).2 = none

theorem frame_launch (m : Machine) (argv : List String) : Frame m (m.launch argv).2 := by
  have hr : Frame m (m.record (.launched argv)) := m.frame_record rfl
  have hw (rest : List ToolRun) (ws : List Writing) :
      Frame m ({ m.record (.launched argv) with pending := rest }.write ws).1 := by
    rw [write_eq]
    exact hr.trans ((frame_pending _ rest).trans (frame_tree _ _))
  unfold launch
  dsimp only
  split
  · exact hr
  · exact hr
  · exact hw _ _
  · rename_i r rest _ _
    have hw := hw rest r.writes
    split
    · rename_i m₁ he
      rwa [he] at hw
    · rename_i m₁ fault path he
      rwa [he] at hw

theorem launch_of_nextEnds {m : Machine} {argv : List String} {r : ToolResult}
    (h : m.NextEnds argv r) :
    ∃ m₁, m.launch argv = (.ok r, m₁) ∧ m₁.tree = (m.tree.writeAll m.cwd r.writes).1 := by
  obtain ⟨hallowed, rest, hp, hw⟩ := h
  simp only [launch, record, hallowed, hp, write_eq, hw]
  exact ⟨_, rfl, rfl⟩

theorem launch_of_not_nextEnds {m : Machine} {argv : List String}
    (h : ∀ r, ¬ m.NextEnds argv r) :
    ∃ f m₁, m.launch argv = (.error f, m₁) ∧ (m.Writable → m₁.tree = m.tree) := by
  unfold launch
  simp only [record]
  split
  · exact ⟨_, _, rfl, fun _ => rfl⟩
  · exact ⟨_, _, rfl, fun _ => rfl⟩
  · rename_i f writes rest _ hp
    refine ⟨_, _, rfl, fun hwritable => ?_⟩
    rw [hwritable.refused f writes rest hp]
    rfl
  · rename_i r rest hallowed hp
    simp only [write_eq]
    cases hw : (m.tree.writeAll m.cwd r.writes).2 with
    | none => exact absurd ⟨hallowed, rest, hp, hw⟩ (h r)
    | some refusal =>
        refine ⟨_, _, rfl, fun hwritable => ?_⟩
        rw [hwritable.ended r rest hp] at hw
        cases hw

end Machine

/-! ## Shell commands -/

namespace Shell

open Machine

theorem frame_echo (s : Shell) (command : String) (m : Machine) : Frame m (s.echo command m) := by
  unfold echo
  split
  · exact .refl m
  · exact m.frame_record rfl

theorem frame_forward (r : ToolResult) (m : Machine) : Frame m (forward r m) := by
  have hout : Frame m (if r.stdout = "" then m else m.record (.printed r.stdout)) := by
    split
    · exact .refl m
    · exact m.frame_record rfl
  unfold forward
  dsimp only
  split
  · exact hout
  · exact hout.trans (frame_record _ rfl)

theorem frame_run (s : Shell) (command : String) (m : Machine) : Frame m (s.run command m).2 := by
  have hlaunch := (s.frame_echo (clean command) m).trans
    (frame_launch _ (s.argv (clean command)))
  unfold run
  dsimp only
  split
  · rename_i f m₁ he
    rwa [he] at hlaunch
  · rename_i r m₁ he
    rw [he] at hlaunch
    have hforward := hlaunch.trans (frame_forward r m₁)
    split
    · exact hforward.trans (frame_record _ rfl)
    · exact hforward

theorem frame_runAll (s : Shell) (commands : List String) (m : Machine) :
    Frame m (s.runAll commands m).2 := by
  induction commands generalizing m with
  | nil => exact .refl m
  | cons command rest ih =>
      have hrun := s.frame_run command m
      unfold runAll
      split
      · rename_i out m₁ he
        rw [he] at hrun
        exact hrun.trans (ih m₁)
      · rename_i e m₁ he
        rwa [he] at hrun

end Shell

end ScriptRunner
