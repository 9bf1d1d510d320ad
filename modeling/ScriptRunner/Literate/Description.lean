import ScriptRunner.Literate.Dialect

/-! Dialects that are described by named fields. What marks a line as a comment and what opens a script
have to be given; all else can be left out. -/

namespace ScriptRunner.Literate

/-- Why fields of these names do not describe a dialect. -/
inductive DescriptionFault where
  | unknownField (name : String)
  /-- A field is given under the name that stands for the dialect itself. -/
  | reservedName
  | missing (first : String) (second : Option String)
  deriving DecidableEq, Repr

def DescriptionFault.message : DescriptionFault → String
  | .unknownField name => "Dialect.__init__() got an unexpected keyword argument '" ++ name ++ "'"
  | .reservedName => "Dialect.__init__() got multiple values for argument 'self'"
  | .missing name none =>
    "Dialect.__init__() missing 1 required positional argument: '" ++ name ++ "'"
  | .missing first (some second) =>
    "Dialect.__init__() missing 2 required positional arguments: '" ++ first ++ "' and '" ++
      second ++ "'"

namespace Dialect

def requiredFields : List String := ["comment_prefix", "script_tags"]

def fields : List String :=
  requiredFields ++
    ["name", "extension", "shell_tags", "shell_open", "shell_close", "strip_indent", "aliases"]

/-- Whether fields of these names describe a dialect. A name that no field has is worse than a field
that is missing. -/
def checkFields (given : List String) : Except DescriptionFault Unit :=
  match given.find? fun name => !fields.contains name with
  | some "self" => .error .reservedName
  | some name => .error (.unknownField name)
  | none =>
    match requiredFields.filter fun name => !given.contains name with
    | [] => .ok ()
    | first :: others => .error (.missing first others.head?)

end Dialect
end ScriptRunner.Literate
