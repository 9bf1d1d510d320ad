import ScriptRunner.Value

/-! Log levels: their names and numbers. -/

namespace ScriptRunner

/-- A level: a number, or a truth value that counts as one or zero. -/
inductive LogLevel where
  | number (n : Int)
  | flag (b : Bool)
  deriving DecidableEq, Repr

namespace LogLevel

def toInt : LogLevel → Int
  | .number n => n
  | .flag b => if b then 1 else 0

/-- The levels that can be asked for. -/
def names : List String := ["DEBUG", "INFO", "WARNING", "ERROR", "CRITICAL"]

/-- The numbers of all level names; some levels have two names. -/
def numbers : List (String × Int) :=
  [("CRITICAL", 50), ("FATAL", 50), ("ERROR", 40), ("WARN", 30), ("WARNING", 30), ("INFO", 20),
    ("DEBUG", 10), ("NOTSET", 0)]

def number? (name : String) : Option Int := numbers.lookup name

/-- A level as it is looked up by name: its number, or a text that says what was asked for. -/
def ofName (name : String) : Value :=
  match number? name with
  | some n => .int n
  | none => .text ("Level " ++ name)

inductive Fault where
  | unknown (name : String)
  | notALevel (v : Value)
  deriving Repr

def Fault.message : Fault → String
  | .unknown name => "Unknown level: " ++ Text.quoted name
  | .notALevel v => "Level not an integer or a valid string: " ++ v.toText

/-- The level that a value asks for: an integer itself, or what a name stands for. -/
def check : Value → Except Fault LogLevel
  | .int n => .ok (.number n)
  | .bool b => .ok (.flag b)
  | .text name =>
    match number? name with
    | some n => .ok (.number n)
    | none => .error (.unknown name)
  | v => .error (.notALevel v)

end LogLevel
end ScriptRunner
