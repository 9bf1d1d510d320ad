import ScriptRunner.Interpreter.Basic

/-! The memory of the interpreter. The arguments and the search path are lists that are changed in
place: all who hold such a list see what becomes of it. A load keeps copies of both, and the copies are
lists of the same memory. -/

namespace ScriptRunner.Interpreter

structure Memory where
  /-- What the lists hold that were made so far. A list is known by its place among them. -/
  lists : List (List String)
  argv : Nat
  path : Nat
  main : Option ModuleId
  started : Nat := 0
  argv_lt : argv < lists.length
  path_lt : path < lists.length
  deriving DecidableEq, Repr

namespace Memory

def items (m : Memory) (list : Nat) : List String := m.lists.getD list []

/-- What can be seen of the interpreter. -/
def seen (m : Memory) : State := ⟨m.items m.argv, m.items m.path, m.main, m.started⟩

def ofState (st : State) : Memory where
  lists := [st.argv, st.path]
  argv := 0
  path := 1
  main := st.main
  started := st.started
  argv_lt := Nat.zero_lt_two
  path_lt := Nat.one_lt_two

/-! ## Lists -/

/-- Makes a list. Its place is behind all that were made before. -/
def make (m : Memory) (items : List String) : Memory :=
  { m with
    lists := m.lists ++ [items]
    argv_lt := by simpa using Nat.lt_succ_of_lt m.argv_lt
    path_lt := by simpa using Nat.lt_succ_of_lt m.path_lt }

/-- Changes in place what a list holds. -/
def fill (m : Memory) (list : Nat) (items : List String) : Memory :=
  { m with
    lists := m.lists.set list items
    argv_lt := by simpa using m.argv_lt
    path_lt := by simpa using m.path_lt }

/-- Takes a new list for the arguments. -/
def newArgv (m : Memory) (items : List String) : Memory :=
  { m.make items with argv := m.lists.length, argv_lt := by simp [make] }

/-- Takes a new list for the search path. -/
def newPath (m : Memory) (items : List String) : Memory :=
  { m.make items with path := m.lists.length, path_lt := by simp [make] }

theorem items_make_of_lt (m : Memory) {list : Nat} (items : List String) (h : list < m.lists.length) :
    (m.make items).items list = m.items list := by
  simp [make, Memory.items, List.getElem?_append_left h]

@[simp] theorem items_make_length (m : Memory) (items : List String) :
    (m.make items).items m.lists.length = items := by
  simp [make, Memory.items]

theorem items_fill_self (m : Memory) {list : Nat} (items : List String) (h : list < m.lists.length) :
    (m.fill list items).items list = items := by
  simp [fill, Memory.items, h]

theorem items_fill_of_ne (m : Memory) {list other : Nat} (items : List String) (h : other ≠ list) :
    (m.fill list items).items other = m.items other := by
  simp [fill, Memory.items, List.getElem?_set_ne h.symm]

theorem length_le_fill (m : Memory) {list : Nat} {items : List String} :
    m.lists.length ≤ (m.fill list items).lists.length := by
  simp [fill]

theorem length_make (m : Memory) {items : List String} :
    (m.make items).lists.length = m.lists.length + 1 := by
  simp [make]

theorem length_le_newArgv (m : Memory) {items : List String} :
    m.lists.length ≤ (m.newArgv items).lists.length :=
  m.length_make.symm ▸ Nat.le_succ _

theorem length_le_newPath (m : Memory) {items : List String} :
    m.lists.length ≤ (m.newPath items).lists.length :=
  m.length_make.symm ▸ Nat.le_succ _

/-! ## Entering and leaving a script -/

/-- What a load keeps to put back: the main module, and where the copies of the two lists are. -/
structure Saved where
  main : Option ModuleId
  path : Nat
  argv : Nat
  deriving DecidableEq, Repr

/-- What is kept of a memory once the copies are made. -/
def saved (m : Memory) : Saved := ⟨m.main, m.lists.length, m.lists.length + 1⟩

/-- Makes the copies. -/
def save (m : Memory) : Memory := (m.make (m.items m.path)).make (m.items m.argv)

@[simp] theorem argv_save (m : Memory) : m.save.argv = m.argv := rfl

@[simp] theorem path_save (m : Memory) : m.save.path = m.path := rfl

@[simp] theorem length_save (m : Memory) : m.save.lists.length = m.lists.length + 2 := by
  simp [save, make]

/-- Makes a new script the main module, puts its directory in front of the search path, and gives it
arguments of its own. -/
def install (m : Memory) (s : Start) : Memory :=
  let m := { m with main := some (.script m.started), started := m.started + 1 }
  (m.fill m.path (s.dirname :: m.items m.path)).newArgv (s.filename :: s.argv)

/-- The memory when a script starts. -/
def enter (m : Memory) (s : Start) : Memory := m.save.install s

theorem length_enter (m : Memory) (s : Start) :
    (m.enter s).lists.length = m.lists.length + 3 := by
  simp [enter, install, newArgv, make, fill]

theorem length_le_enter (m : Memory) (s : Start) : m.lists.length ≤ (m.enter s).lists.length :=
  m.length_enter s ▸ Nat.le_add_right _ 3

theorem saved_argv_lt (m : Memory) (s : Start) : m.saved.argv < (m.enter s).lists.length := by
  simp [saved, length_enter]

/-- Puts back what was kept: the main module is the one of before or none, the list that is the search
path now is filled with the copy, and the copy of the arguments takes their place. -/
def leave (m : Memory) (kept : Saved) (h : kept.argv < m.lists.length) : Memory :=
  { m.fill m.path (m.items kept.path) with
    main := kept.main
    argv := kept.argv
    argv_lt := by simpa [fill] using h }

theorem length_le_leave (m last : Memory) (s : Start) {kept : Saved} {h : kept.argv < last.lists.length}
    (grows : (m.enter s).lists.length ≤ last.lists.length) :
    m.lists.length ≤ (last.leave kept h).lists.length :=
  Nat.le_trans (m.length_le_enter s) (Nat.le_trans grows last.length_le_fill)

end Memory
end ScriptRunner.Interpreter
