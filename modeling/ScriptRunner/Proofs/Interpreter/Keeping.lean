import ScriptRunner.Interpreter.Load

/-! What a script can do to the memory. It changes the lists that it was given as arguments and search
path, and lists that are newer than its start; all others hold what they held. So the copies that a load
keeps stay as they are, whatever the script does and whatever it loads in turn. -/

namespace ScriptRunner.Interpreter

namespace Memory

/-- Whether a list is there that is in use neither as arguments nor as search path. -/
def Spare (m : Memory) (list : Nat) : Prop :=
  list < m.lists.length ∧ list ≠ m.argv ∧ list ≠ m.path

/-- From one memory to a later one: spare lists hold what they held, and a list that has come into use
since is new. -/
structure Keeps (m m' : Memory) : Prop where
  grows : m.lists.length ≤ m'.lists.length
  items_eq : ∀ list, m.Spare list → m'.items list = m.items list
  argv : m'.argv = m.argv ∨ m.lists.length ≤ m'.argv
  path : m'.path = m.path ∨ m.lists.length ≤ m'.path

namespace Keeps

variable {m m' m'' : Memory}

/-- What the main module is and how many scripts were started does not count. -/
theorem of_same_lists (hl : m'.lists = m.lists) (ha : m'.argv = m.argv) (hp : m'.path = m.path) :
    m.Keeps m' where
  grows := Nat.le_of_eq (congrArg List.length hl.symm)
  items_eq := by
    intro list _
    rw [items, items, hl]
  argv := .inl ha
  path := .inl hp

theorem refl (m : Memory) : m.Keeps m := of_same_lists rfl rfl rfl

/-- A spare list stays one. -/
theorem spare (h : m.Keeps m') {list : Nat} (hs : m.Spare list) : m'.Spare list := by
  obtain ⟨hl, ha, hp⟩ := hs
  have hgrows := h.grows
  have hargv := h.argv
  have hpath := h.path
  exact ⟨by omega, by omega, by omega⟩

theorem trans (h : m.Keeps m') (h' : m'.Keeps m'') : m.Keeps m'' where
  grows := Nat.le_trans h.grows h'.grows
  items_eq := by
    intro list hs
    rw [h'.items_eq list (h.spare hs), h.items_eq list hs]
  argv := by
    have hgrows := h.grows
    have hargv := h.argv
    have hargv' := h'.argv
    omega
  path := by
    have hgrows := h.grows
    have hpath := h.path
    have hpath' := h'.path
    omega

end Keeps

variable (m : Memory)

theorem keeps_make (items : List String) : m.Keeps (m.make items) :=
  ⟨Nat.le_of_lt (by simp [make]), fun _ h => m.items_make_of_lt items h.1, .inl rfl, .inl rfl⟩

theorem keeps_fill_argv (items : List String) : m.Keeps (m.fill m.argv items) :=
  ⟨m.length_le_fill, fun _ h => m.items_fill_of_ne items h.2.1, .inl rfl, .inl rfl⟩

theorem keeps_fill_path (items : List String) : m.Keeps (m.fill m.path items) :=
  ⟨m.length_le_fill, fun _ h => m.items_fill_of_ne items h.2.2, .inl rfl, .inl rfl⟩

theorem keeps_newArgv (items : List String) : m.Keeps (m.newArgv items) :=
  have h := m.keeps_make items
  ⟨h.grows, h.items_eq, .inr (Nat.le_refl _), h.path⟩

theorem keeps_newPath (items : List String) : m.Keeps (m.newPath items) :=
  have h := m.keeps_make items
  ⟨h.grows, h.items_eq, h.argv, .inr (Nat.le_refl _)⟩

theorem keeps_save : m.Keeps m.save := (m.keeps_make _).trans (keeps_make _ _)

theorem keeps_install (s : Start) : m.Keeps (m.install s) := by
  let started : Memory := { m with main := some (.script m.started), started := m.started + 1 }
  have hstarted : m.Keeps started := .of_same_lists rfl rfl rfl
  exact hstarted.trans ((started.keeps_fill_path _).trans (keeps_newArgv _ _))

/-! ## The copies of a load -/

-- Both lie behind all lists there were, so neither of the lists in use is one of them.

theorem spare_saved_path : m.save.Spare m.saved.path := by
  have hargv := m.argv_lt
  have hpath := m.path_lt
  refine ⟨?_, ?_, ?_⟩ <;> simp only [saved, length_save, argv_save, path_save] <;> omega

theorem spare_saved_argv : m.save.Spare m.saved.argv := by
  have hargv := m.argv_lt
  have hpath := m.path_lt
  refine ⟨?_, ?_, ?_⟩ <;> simp only [saved, length_save, argv_save, path_save] <;> omega

theorem items_save_path : m.save.items m.saved.path = m.items m.path := by
  have hlt : m.saved.path < (m.make (m.items m.path)).lists.length := by simp [saved, make]
  rw [save, items_make_of_lt _ _ hlt]
  exact m.items_make_length _

theorem items_save_argv : m.save.items m.saved.argv = m.items m.argv := by
  have hplace : m.saved.argv = (m.make (m.items m.path)).lists.length := m.length_make.symm
  rw [save, hplace, items_make_length]

variable {m} {last : Memory}

/-- What was kept is put back, if the memory has been kept since the copies were made. -/
theorem seen_leave (h : m.save.Keeps last) (hlt : m.saved.argv < last.lists.length) :
    (last.leave m.saved hlt).seen = { m.seen with started := last.started } := by
  -- The list that is filled is the search path of now, which may be new; it is no copy in any case.
  have hargv : (last.leave m.saved hlt).items m.saved.argv = m.items m.argv := by
    have hfill := last.items_fill_of_ne (last.items m.saved.path) (h.spare m.spare_saved_argv).2.2
    exact hfill.trans ((h.items_eq _ m.spare_saved_argv).trans m.items_save_argv)
  have hpath : (last.leave m.saved hlt).items last.path = m.items m.path := by
    have hfill := last.items_fill_self (last.items m.saved.path) last.path_lt
    exact hfill.trans ((h.items_eq _ m.spare_saved_path).trans m.items_save_path)
  calc (last.leave m.saved hlt).seen
      = ⟨(last.leave m.saved hlt).items m.saved.argv, (last.leave m.saved hlt).items last.path,
          m.main, last.started⟩ := rfl
    _ = ⟨m.items m.argv, m.items m.path, m.main, last.started⟩ := by rw [hargv, hpath]

theorem keeps_leave (h : m.save.Keeps last) (hlt : m.saved.argv < last.lists.length) :
    m.Keeps (last.leave m.saved hlt) :=
  have hfill := (m.keeps_save.trans h).trans (last.keeps_fill_path (last.items m.saved.path))
  ⟨hfill.grows, hfill.items_eq, .inr (Nat.le_succ _), hfill.path⟩

end Memory

/-! ## Loads and runs -/

/-- Whether actions that are taken in some way keep the memory. -/
def Run.Keeps (run : Run) : Prop := ∀ (m : Memory) (fr : Frame), m.Keeps (run m fr).memory

variable {run : Run}

theorem Run.Keeps.save (hrun : run.Keeps) (m : Memory) (start : Start) (fr : Frame) :
    m.save.Keeps (run (m.enter start) fr).memory :=
  (m.save.keeps_install start).trans (hrun _ fr)

/-- Whether a script comes to its first line: its file is there, its name can be used, and all its lines
can be compiled. -/
def Starts (start : Start) (actions : List Action) : Prop :=
  start.missing = false ∧ '\x00' ∉ start.filename.toList ∧ scriptFault? actions = none

theorem loadWith_of_starts {m : Memory} {start : Start} {actions : List Action}
    (h : Starts start actions) :
    loadWith run m start actions = m.ended start (run (m.enter start) (start.frame m.started)) := by
  obtain ⟨hfile, hname, hlines⟩ := h
  simp [loadWith, hfile, hname, hlines]

/-- A script that does not come to its first line has its load refused. -/
theorem loadWith_of_not_starts {m : Memory} {start : Start} {actions : List Action}
    (h : ¬ Starts start actions) :
    ∃ f place there, loadWith run m start actions = m.refused f place there := by
  unfold loadWith
  split
  · exact ⟨_, _, _, rfl⟩
  · rename_i hfile
    split
    · exact ⟨_, _, _, rfl⟩
    · rename_i hname
      split
      · exact ⟨_, _, _, rfl⟩
      · rename_i hlines
        exact absurd ⟨by simpa using hfile, by simpa using hname, hlines⟩ h

theorem keeps_ended {m : Memory} {start : Start} {p : Progress (Failure × Nat) (m.enter start)}
    (h : m.save.Keeps p.memory) : m.Keeps (m.ended start p).memory :=
  Memory.keeps_leave h p.saved_lt

theorem keeps_loadWith (hrun : run.Keeps) (m : Memory) (start : Start) (actions : List Action) :
    m.Keeps (loadWith run m start actions).memory := by
  by_cases hs : Starts start actions
  · rw [loadWith_of_starts hs]
    exact keeps_ended (hrun.save m start _)
  · obtain ⟨f, place, there, he⟩ := loadWith_of_not_starts hs
    rw [he]
    exact .of_same_lists rfl rfl rfl

-- A load holds a list of actions, so actions and lists of them are taken together. What is known of the
-- inner run is all that a load needs.
mutual

theorem keeps_act (m : Memory) (fr : Frame) : (a : Action) → m.Keeps (act m fr a).memory
  | .blank | .snapshot | .raise _ _ | .malformed => .refl m
  | .set name v => by
    unfold act
    split <;> exact .refl m
  | .copy name source => by
    unfold act
    split <;> exact .refl m
  | .appendArg _ => m.keeps_fill_argv _
  | .setArgs args => m.keeps_newArgv args
  | .insertPath _ => m.keeps_fill_path _
  | .setPath directories => m.keeps_newPath directories
  | .deleteMain => .of_same_lists rfl rfl rfl
  | .deleteFile => by
    unfold act
    split <;> exact .refl m
  | .load start actions =>
    have hrun : Run.Keeps fun m fr => runFrom 1 m fr actions :=
      fun m fr => keeps_runFrom 1 m fr actions
    keeps_loadWith hrun m start actions

theorem keeps_runFrom (line : Nat) (m : Memory) (fr : Frame) :
    (as : List Action) → m.Keeps (runFrom line m fr as).memory
  | [] => .refl m
  | a :: rest => by
    have hact := keeps_act m fr a
    cases hf : (act m fr a).failure? with
    | some f =>
        rw [runFrom_cons_some hf]
        exact hact
    | none =>
        rw [runFrom_cons_none hf]
        exact hact.trans (keeps_runFrom (line + 1) _ _ rest)

end

end ScriptRunner.Interpreter
