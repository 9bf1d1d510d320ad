import ScriptRunner.Interpreter.Line
import ScriptRunner.Interpreter.Memory
import ScriptRunner.Interpreter.Raised

/-! Loading a script as the main module. The whole script is compiled before it runs; when it has
ended, in whatever way, the interpreter is as it was before. -/

namespace ScriptRunner.Interpreter

/-- Where the file of a script lies. -/
def scriptFile (number : Nat) : String := "/w/script" ++ toString number ++ ".py"

/-- The names that a script starts with. -/
def Start.names (s : Start) : Namespace :=
  let given := s.globals.foldl (fun ns g => Namespace.bind ns g.1 (.value g.2)) .fresh
  Namespace.bind (Namespace.bind (Namespace.bind given
    "__file__" (.value (.text s.filename)))
    "__dirname__" (.value (.text s.dirname)))
    "__builtins__" .builtins

/-- A script when it starts. -/
def Start.frame (s : Start) (number : Nat) : Frame := ⟨number, s.names, true, []⟩

/-- How far a script has got: the failure that ended it, if there was one, what the script has made of the
memory, and the script itself. Lists are never taken away. -/
structure Progress (ε : Type) (m : Memory) where
  failure? : Option ε
  memory : Memory
  frame : Frame
  grows : m.lists.length ≤ memory.lists.length

/-- Progress that leaves the memory as it is. -/
def Progress.still {ε : Type} {m : Memory} (failure? : Option ε) (fr : Frame) : Progress ε m :=
  ⟨failure?, m, fr, Nat.le_refl _⟩

/-- A script that has got somewhere has left the copy of the arguments where it is. -/
theorem Progress.saved_lt {ε : Type} {m : Memory} {start : Start} (p : Progress ε (m.enter start)) :
    m.saved.argv < p.memory.lists.length :=
  Nat.lt_of_lt_of_le (m.saved_argv_lt start) p.grows

/-- How the actions of a script are taken. -/
abbrev Run := (m : Memory) → Frame → Progress (Failure × Nat) m

/-- What comes of a load: what is told of it, and the memory after it. -/
structure Loaded (m : Memory) where
  report : Report
  memory : Memory
  grows : m.lists.length ≤ memory.lists.length

/-- A load that fails before the script starts. -/
def Memory.refused (m : Memory) (f : Failure) (place : Place) (fileExists : Bool) : Loaded m :=
  let after := { m with started := m.started + 1 }
  ⟨⟨.failed f place, [], m.seen, after.seen, fileExists⟩, after, Nat.le_refl _⟩

/-- A load whose script has run: the memory is as it was before the script started. -/
def Memory.ended (m : Memory) (start : Start) (p : Progress (Failure × Nat) (m.enter start)) :
    Loaded m :=
  let after := p.memory.leave m.saved p.saved_lt
  let ending := match p.failure? with
    | none => .finished p.frame.names
    | some (f, line) => .failed f (if f.isSyntaxFault then .untold else .line start.filename line)
  ⟨⟨ending, p.frame.sights, m.seen, after.seen, p.frame.fileExists⟩, after,
    m.length_le_leave p.memory start p.grows⟩

/-- Loads a script with these actions, which `run` takes from the first to the last. -/
def loadWith (run : Run) (m : Memory) (start : Start) (actions : List Action) : Loaded m :=
  if start.missing then m.refused (.os (.notFound (scriptFile m.started))) .outside false
  else if start.filename.toList.contains '\x00' then m.refused .nullInName .outside true
  else
    match scriptFault? actions with
    | some (line, fault) =>
      let f := if fault = .indented then .indentedScript else .malformedScript
      m.refused f (.line start.filename line) true
    | none => m.ended start (run (m.enter start) (start.frame m.started))

mutual

/-- Takes an action. -/
def act (m : Memory) (fr : Frame) : Action → Progress Failure m
  | .blank => .still none fr
  | .snapshot =>
    let sight := Sight.snapshot m.seen.argv m.seen.path (m.main = some (.script fr.number)) fr.names
    .still none { fr with sights := fr.sights ++ [sight] }
  | .set name v =>
    match fr.names.unbound? v with
    | some n => .still (some (.undefinedName n)) fr
    | none => .still none { fr with names := fr.names.bind (nameOf name) (.value v) }
  | .copy name source =>
    match fr.names.find? (nameOf source) with
    | some b => .still none { fr with names := fr.names.bind (nameOf name) b }
    | none => .still (some (.undefinedName (nameOf source))) fr
  | .appendArg arg => ⟨none, m.fill m.argv (m.items m.argv ++ [arg]), fr, m.length_le_fill⟩
  | .setArgs args => ⟨none, m.newArgv args, fr, m.length_le_newArgv⟩
  | .insertPath directory => ⟨none, m.fill m.path (directory :: m.items m.path), fr, m.length_le_fill⟩
  | .setPath directories => ⟨none, m.newPath directories, fr, m.length_le_newPath⟩
  | .deleteMain => ⟨none, { m with main := none }, fr, Nat.le_refl _⟩
  | .deleteFile =>
    if fr.fileExists then .still none { fr with fileExists := false }
    else .still (some (.os (.notFound (scriptFile fr.number)))) fr
  | .load start actions =>
    let r := loadWith (fun m fr => runFrom 1 m fr actions) m start actions
    ⟨none, r.memory, { fr with sights := fr.sights ++ [.load r.report] }, r.grows⟩
  | .raise kind v => .still (some (raised fr.names kind v)) fr
  | .malformed => .still (some .malformedScript) fr

/-- Takes the actions from a line on, up to the first failure. -/
def runFrom (line : Nat) (m : Memory) (fr : Frame) : List Action → Progress (Failure × Nat) m
  | [] => .still none fr
  | a :: rest =>
    let p := act m fr a
    match p.failure? with
    | some f => ⟨some (f, line), p.memory, p.frame, p.grows⟩
    | none =>
      let q := runFrom (line + 1) p.memory p.frame rest
      ⟨q.failure?, q.memory, q.frame, Nat.le_trans p.grows q.grows⟩

end

section

variable {m : Memory} {fr : Frame} {a : Action} {line : Nat} {rest : List Action}

theorem runFrom_cons_some {f : Failure} (h : (act m fr a).failure? = some f) :
    runFrom line m fr (a :: rest) =
      ⟨some (f, line), (act m fr a).memory, (act m fr a).frame, (act m fr a).grows⟩ := by
  simp only [runFrom, h]

theorem runFrom_cons_none (h : (act m fr a).failure? = none) :
    runFrom line m fr (a :: rest) =
      let q := runFrom (line + 1) (act m fr a).memory (act m fr a).frame rest
      ⟨q.failure?, q.memory, q.frame, Nat.le_trans (act m fr a).grows q.grows⟩ := by
  simp only [runFrom, h]

end

/-- A script to be loaded. -/
structure Script where
  start : Start
  actions : List Action

/-- Loads a script. -/
def load (m : Memory) (s : Script) : Loaded m :=
  loadWith (fun m fr => runFrom 1 m fr s.actions) m s.start s.actions

/-- What comes of scripts that are loaded one after the other. -/
def reports (m : Memory) : List Script → List Report
  | [] => []
  | s :: rest => let r := load m s; r.report :: reports r.memory rest

/-- Loads scripts one after the other into an interpreter. -/
def loadAll (st : State) (scripts : List Script) : List Report := reports (.ofState st) scripts

end ScriptRunner.Interpreter
