import ScriptRunner.Failure

/-! The interpreter that scripts run in: what all scripts share, the names of a module, and scripts
as lists of actions, one to a line. -/

namespace ScriptRunner.Interpreter

/-- Modules that can be the main one: that of the host, and one for each script started. -/
inductive ModuleId where
  | host
  | script (number : Nat)
  deriving DecidableEq, Repr

structure State where
  argv : List String
  /-- The directories that modules are looked for in, always a list of texts. -/
  path : List String
  /-- The main module, if there is one. That something else than a module is entered for it is left
  out. -/
  main : Option ModuleId
  /-- How many scripts were started so far. -/
  started : Nat := 0
  deriving DecidableEq, Repr

inductive Binding where
  | value (v : Value)
  | builtins
  deriving Repr

/-- The name of the kind of thing that a name is bound to. -/
def Binding.kind : Binding → String
  | .value v => v.kind
  | .builtins => "module"

/-- The names of a module and what they are bound to. -/
abbrev Namespace := List (String × Binding)

namespace Namespace

/-- Binds a name, in place if it is bound already. -/
def bind (ns : Namespace) (name : String) (b : Binding) : Namespace :=
  match ns with
  | [] => [(name, b)]
  | (n, old) :: rest => if n = name then (n, b) :: rest else (n, old) :: bind rest name b

/-- The names of a new main module. -/
def fresh : Namespace :=
  [("__name__", .value (.text "__main__")), ("__doc__", .value .null),
    ("__package__", .value .null), ("__loader__", .value .null), ("__spec__", .value .null)]

end Namespace

/-- What a script is started with. -/
structure Start where
  /-- The file that the script appears as, and its directory. -/
  filename : String
  dirname : String
  globals : List (String × Value) := []
  argv : List String := []
  /-- Whether the file of the script is not there. -/
  missing : Bool := false
  deriving Repr

inductive Action where
  | blank
  | snapshot
  | set (name : String) (v : Value)
  | copy (name source : String)
  | appendArg (arg : String)
  | setArgs (args : List String)
  | insertPath (directory : String)
  /-- Makes a new list the search path. To put anything else than a list of texts there is left
  out. -/
  | setPath (directories : List String)
  | deleteMain
  /-- Deletes the file of the running script. -/
  | deleteFile
  | load (start : Start) (actions : List Action)
  /-- Raises an error of a kind that is made of a value. -/
  | raise (kind : String) (v : Value)
  /-- A line that cannot be compiled. -/
  | malformed
  deriving Inhabited

/-- Where a failure comes from. -/
inductive Place where
  /-- It comes before the script. -/
  | outside
  | line (file : String) (number : Nat)
  /-- The failure is of a kind that tells its place itself, but this one does not. -/
  | untold
  deriving DecidableEq, Repr

/-- What comes of a script: its names, or a failure and where it comes from. -/
inductive Ending where
  | finished (names : Namespace)
  | failed (f : Failure) (place : Place)
  deriving Repr

/-- What came of a load: how the script ended, what it saw, the state of the interpreter before and
after, and whether the file is still there. -/
structure ReportOf (σ : Type) where
  ending : Ending
  sights : List σ
  before : State
  after : State
  fileExists : Bool
  deriving Repr

/-- What a script sees: the interpreter and itself at one moment, or what comes of a load. -/
inductive Sight where
  | snapshot (argv path : List String) (mainIsScript : Bool) (names : Namespace)
  | load (report : ReportOf Sight)

abbrev Report := ReportOf Sight

/-- A script while it runs. -/
structure Frame where
  /-- The number of the script. -/
  number : Nat
  names : Namespace
  fileExists : Bool := true
  sights : List Sight := []

end ScriptRunner.Interpreter
