/-! Expressions as trees. -/

namespace ScriptRunner.Expression

/-- Values that an expression can name outright. -/
inductive Constant where
  | none
  | yes
  | no
  | ellipsis
  | number
  | imaginary
  | text
  | bytes
  deriving DecidableEq, Repr

/-- What an expression is made of smaller ones by. -/
inductive Former where
  | attribute
  | subscript
  | starred
  | list
  | tuple
  | set
  | dict
  | lambda
  | call
  | generator
  | listComprehension
  | setComprehension
  | dictComprehension
  | yielding
  | awaiting
  | formatted
  | conditional
  | naming
  /-- A plus or minus before a value. -/
  | sign
  /-- A plus or minus between two values. -/
  | sum
  | operation
  /-- A comparison, and whether it starts with a test for membership. -/
  | comparison (membership : Bool)
  /-- What a call is made with. -/
  | arguments
  /-- An argument behind a name. -/
  | keyword
  /-- An argument behind two stars. -/
  | unpacking
  /-- An entry of a dictionary: its key and its value. -/
  | entry
  deriving DecidableEq, Repr

inductive Tree where
  | name (id : String)
  | constant (c : Constant)
  | node (former : Former) (parts : List Tree)
  deriving Repr, Inhabited

namespace Constant

def description : Constant → String
  | .none => "None"
  | .yes => "True"
  | .no => "False"
  | .ellipsis => "ellipsis"
  | _ => "literal"

end Constant

namespace Former

def description : Former → String
  | .attribute => "attribute"
  | .subscript => "subscript"
  | .starred => "starred"
  | .list => "list"
  | .tuple => "tuple"
  | .set => "set display"
  | .dict => "dict literal"
  | .lambda => "lambda"
  | .call => "function call"
  | .generator => "generator expression"
  | .listComprehension => "list comprehension"
  | .setComprehension => "set comprehension"
  | .dictComprehension => "dict comprehension"
  | .yielding => "yield expression"
  | .awaiting => "await expression"
  | .formatted => "f-string expression"
  | .conditional => "conditional expression"
  | .naming => "named expression"
  | .comparison _ => "comparison"
  | _ => "expression"

end Former

namespace Tree

/-- What kind of expression a tree is, as it is said to the user. -/
def description : Tree → String
  | .name _ => "name"
  | .constant c => c.description
  | .node former _ => former.description

mutual

/-- The first part of a tree that nothing can be assigned to, when it stands between `for` and `in`.
The test for membership in it is what is meant to go on with the loop. -/
def unassignable? : Tree → Option Tree
  | .name _ | .node .attribute _ | .node .subscript _ => none
  | .node .list parts | .node .tuple parts | .node .starred parts => unassignableIn? parts
  | .node (.comparison true) (left :: _) => left.unassignable?
  | .node (.comparison _) _ => none
  | t => some t

def unassignableIn? : List Tree → Option Tree
  | [] => none
  | t :: rest => t.unassignable?.or (unassignableIn? rest)

end

end Tree
end ScriptRunner.Expression
