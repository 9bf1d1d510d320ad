import ScriptRunner.Expression.Word
import ScriptRunner.Interpreter.Basic
import ScriptRunner.Text.Composition
import ScriptRunner.Text.Identifier

/-! Names in scripts. Names that differ in the form of their characters only are one name. -/

namespace ScriptRunner.Interpreter

/-- Whether something can be written where a name is meant. -/
def isName (written : String) : Bool :=
  Text.isIdentifier written.toList && !Expression.keywords.contains written

/-- The name that is meant by one that is written. -/
def nameOf (written : String) : String := String.ofList (Text.plainForm written.toList)

/-- The name that tells whether the interpreter checks what scripts assert. It cannot be bound. -/
def checkingName : String := "__debug__"

/-- The values of names that stand for the same everywhere. -/
def constants : List (String × Value) :=
  [("None", .null), ("True", .bool true), ("False", .bool false), (checkingName, .bool true)]

/-- Whether something can be written where a value is meant. -/
def isReadable (written : String) : Bool :=
  isName written || (constants.map (·.1)).contains written

namespace Namespace

/-- What a name stands for. -/
def find? (ns : Namespace) (name : String) : Option Binding :=
  ((constants.lookup name).map .value).or (ns.lookup name)

/-- The first name in a value, as it is written, that stands for nothing. -/
def unbound? (ns : Namespace) (v : Value) : Option String :=
  v.names.find? fun name => (ns.find? name).isNone

end Namespace
end ScriptRunner.Interpreter
