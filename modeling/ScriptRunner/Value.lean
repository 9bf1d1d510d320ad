import ScriptRunner.Decimal.Written
import ScriptRunner.Text.Quoted

/-! Plain data: what scripts are given, what they raise, and how it is shown. -/

namespace ScriptRunner

inductive Value where
  | null
  | bool (b : Bool)
  | int (n : Int)
  | float (x : Float)
  | text (s : String)
  | list (items : List Value)
  | record (entries : List (String × Value))
  deriving Repr, Inhabited

namespace Value

mutual

/-- The value as it is shown inside another one: texts are quoted. -/
def shown : Value → String
  | .null => "None"
  | .bool b => if b then "True" else "False"
  | .int n => toString n
  | .float x => Decimal.text x
  | .text s => Text.quoted s
  | .list items => "[" ++ ", ".intercalate (shownItems items) ++ "]"
  | .record entries => "\x7b" ++ ", ".intercalate (shownEntries entries) ++ "\x7d"

def shownItems : List Value → List String
  | [] => []
  | v :: rest => v.shown :: shownItems rest

def shownEntries : List (String × Value) → List String
  | [] => []
  | (k, v) :: rest => (Text.quoted k ++ ": " ++ v.shown) :: shownEntries rest

end

mutual

/-- The names that a value has in it as it is shown: numbers that are not finite are shown as such. -/
def names : Value → List String
  | .float x => if x.isFinite then [] else [if x.isNaN then "nan" else "inf"]
  | .list items => namesIn items
  | .record entries => namesInEntries entries
  | _ => []

def namesIn : List Value → List String
  | [] => []
  | v :: rest => v.names ++ namesIn rest

def namesInEntries : List (String × Value) → List String
  | [] => []
  | (_, v) :: rest => v.names ++ namesInEntries rest

end

/-- The value on its own: a text is shown as it is. -/
def toText : Value → String
  | .text s => s
  | v => v.shown

/-- Several values in parentheses. -/
def parenthesized (items : List Value) : String := "(" ++ ", ".intercalate (shownItems items) ++ ")"

/-- The name of the kind of data that a value is. -/
def kind : Value → String
  | .null => "NoneType"
  | .bool _ => "bool"
  | .int _ => "int"
  | .float _ => "float"
  | .text _ => "str"
  | .list _ => "list"
  | .record _ => "dict"

def isNull : Value → Bool
  | .null => true
  | _ => false

/-- Whether a value counts as true: all do but zeros and what is empty. -/
def isTruthy : Value → Bool
  | .null => false
  | .bool b => b
  | .int n => n ≠ 0
  | .float x => x != 0.0
  | .text s => s ≠ ""
  | .list items => !items.isEmpty
  | .record entries => !entries.isEmpty

/-- What is said of a value that was taken for a text. -/
def noMethodMessage (v : Value) (method : String) : String :=
  "'" ++ v.kind ++ "' object has no attribute '" ++ method ++ "'"

end Value
end ScriptRunner
