import ScriptRunner.LogLevel
import ScriptRunner.Text.Blank
import ScriptRunner.Text.LetterCase

/-! Settings: options that are read from the environment and can be overridden one by one. Values are
kept as they are given; only a level has to be a text. -/

namespace ScriptRunner

structure Settings where
  shell : Value := .text "/bin/bash"
  /-- Text put in front of every shell command. -/
  commandPrefix : Value := .text ""
  quiet : Value := .bool false
  tempDir : Value := .text ""
  logLevel : String := "WARNING"
  deriving Repr

/-- Values to put into settings, by the names of their fields. Null stands for no value. -/
abbrev Overrides := List (String × Value)

/-- The value that is given for a field. -/
def Overrides.value? (o : Overrides) (field : String) : Option Value :=
  (o.lookup field).filter fun v => !v.isNull

theorem Overrides.value?_cons_self {v : Value} (hv : v.isNull = false) (field : String) (o : Overrides) :
    Overrides.value? ((field, v) :: o) field = some v := by
  simp [value?, Option.filter, hv]

theorem Overrides.value?_cons_of_ne {field key : String} (h : field ≠ key) (v : Value) (o : Overrides) :
    Overrides.value? ((key, v) :: o) field = o.value? field := by
  simp [value?, List.lookup_cons, beq_eq_false_iff_ne.mpr h]

/-- The variables that settings are read from. -/
abbrev Environment := List (String × String)

namespace Settings

def unknownLevelMessage (level : String) : String :=
  "YZX_LOG_LEVEL must be one of " ++ ", ".intercalate LogLevel.names ++ ", got '" ++ level ++ "'"

def isTruthy (s : String) : Bool :=
  ["1", "true", "yes", "on"].contains (Text.lower (Text.trim s))

/-- The settings of an environment, or the level that it asks for if that is none. -/
def ofEnvironment (env : Environment) : Except String Settings :=
  let get (name : String) (default : String) : String := (env.lookup name).getD default
  let level := Text.upper (Text.trim (get "YZX_LOG_LEVEL" "WARNING"))
  if LogLevel.names.contains level then
    let shell := Text.trim (get "YZX_SHELL" "")
    .ok {
      shell := .text (if shell = "" then "/bin/bash" else shell)
      commandPrefix := .text (get "YZX_PREFIX" "")
      quiet := .bool (isTruthy (get "YZX_QUIET" ""))
      tempDir := .text (Text.trim (get "YZX_TMPDIR" ""))
      logLevel := level }
  else .error level

/-- Why variables are no environment. -/
inductive EnvironmentFault where
  | unknownLevel (level : String)
  | notText (v : Value)
  deriving Repr

def EnvironmentFault.message : EnvironmentFault → String
  | .unknownLevel level => unknownLevelMessage level
  | .notText v => v.noMethodMessage "strip"

/-- The value of a variable if it is something other than a text. -/
def misfit? (vars : List (String × Value)) (name : String) : Option Value :=
  match vars.lookup name with
  | none | some (.text _) => none
  | some v => some v

/-- The settings of variables that may have any values. Those that are trimmed have to be texts, the
level before all others. -/
def ofVariables (vars : List (String × Value)) : Except EnvironmentFault Settings :=
  match misfit? vars "YZX_LOG_LEVEL" with
  | some v => .error (.notText v)
  | none =>
    let texts := vars.filterMap fun e => match e.2 with
      | .text s => some (e.1, s)
      | _ => none
    match ofEnvironment texts with
    | .error level => .error (.unknownLevel level)
    | .ok s =>
      match ["YZX_SHELL", "YZX_QUIET", "YZX_TMPDIR"].findSome? (misfit? vars) with
      | some v => .error (.notText v)
      | none => .ok { s with commandPrefix := (vars.lookup "YZX_PREFIX").getD s.commandPrefix }

/-- The names of all fields. -/
def fields : List String := ["shell", "prefix", "quiet", "tmpdir", "log_level"]

/-- Why settings cannot be overridden. -/
inductive OverrideFault where
  /-- Something is given under the name that stands for the settings themselves. -/
  | reservedName
  | levelNotText (v : Value)
  | unknownField (name : String)
  deriving Repr

def OverrideFault.message : OverrideFault → String
  | .reservedName => "Settings.with_overrides() got multiple values for argument 'self'"
  | .levelNotText v => v.noMethodMessage "upper"
  | .unknownField name =>
    "Settings.__init__() got an unexpected keyword argument '" ++ name ++ "'"

/-- The settings with every value that is given, and with another level if there is one. -/
def put (s : Settings) (o : Overrides) (level : Option String) : Settings where
  shell := (o.value? "shell").getD s.shell
  commandPrefix := (o.value? "prefix").getD s.commandPrefix
  quiet := (o.value? "quiet").getD s.quiet
  tempDir := (o.value? "tmpdir").getD s.tempDir
  logLevel := level.getD s.logLevel

/-- The level that overrides ask for, in capitals. -/
def levelOf (o : Overrides) : Except OverrideFault (Option String) :=
  match o.value? "log_level" with
  | none => .ok none
  | some (.text level) => .ok (some (Text.upper level))
  | some v => .error (.levelNotText v)

/-- The settings with every value that is given. A reserved name is refused first, then a level that
is no text, then a name that settings do not have. -/
def override (s : Settings) (o : Overrides) : Except OverrideFault Settings := do
  if (o.lookup "self").isSome then throw .reservedName
  let level ← levelOf o
  match o.find? fun e => !e.2.isNull && !fields.contains e.1 with
  | some e => throw (.unknownField e.1)
  | none => return s.put o level

/-- Where temporary files go: the directory that is set, or that of the system. -/
def tempDirectory (s : Settings) (system : String) : Value :=
  if s.tempDir.isTruthy then s.tempDir else .text system

def loggingLevel (s : Settings) : Value := LogLevel.ofName s.logLevel

end Settings
end ScriptRunner
