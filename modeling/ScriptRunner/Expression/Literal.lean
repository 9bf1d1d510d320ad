import ScriptRunner.Expression.Parse

/-! Literals: expressions that name a value outright. They are numbers with a sign or an imaginary part,
texts and constants, and collections of literals. -/

namespace ScriptRunner.Expression

/-- Why an expression is no literal. -/
inductive ValueFault where
  /-- What cannot be a key is used as one. -/
  | unhashable (kind : String)
  /-- A dictionary takes in another one. -/
  | unpacking
  | malformed
  deriving DecidableEq, Repr

def ValueFault.message : ValueFault → String
  | .unhashable kind => "unhashable type: '" ++ kind ++ "'"
  | .unpacking => "malformed node or string: None"
  | .malformed => "malformed node or string"

namespace Tree

def isReal : Tree → Bool
  | .constant .number => true
  | _ => false

def isImaginary : Tree → Bool
  | .constant .imaginary => true
  | _ => false

/-- A number without a sign, or behind one. -/
def unsigned : Tree → Tree
  | .node .sign [t] => t
  | t => t

mutual

/-- The kind of value that keeps a literal from being a key, if there is one. -/
def unhashableKind? : Tree → Except ValueFault (Option String)
  | .constant _ => .ok none
  | .node .tuple parts => unhashableKindIn? parts
  | .node .list parts => do
    let _ ← unhashableKindIn? parts
    return some "list"
  | .node .set parts => do
    checkKeys parts
    return some "set"
  | .node .call [.name "set"] => .ok (some "set")
  | .node .dict entries => do
    checkEntries entries
    return some "dict"
  | .node .sign [t] => if t.isReal || t.isImaginary then .ok none else .error .malformed
  | .node .sum [left, right] =>
    if left.unsigned.isReal && right.isImaginary then .ok none else .error .malformed
  | _ => .error .malformed

/-- The first kind of value among those that keep literals from being keys. -/
def unhashableKindIn? : List Tree → Except ValueFault (Option String)
  | [] => .ok none
  | t :: rest => do
    let first ← unhashableKind? t
    let later ← unhashableKindIn? rest
    return first.or later

/-- Checks literals that are all used as keys. -/
def checkKeys : List Tree → Except ValueFault Unit
  | [] => .ok ()
  | t :: rest => do
    if let some kind ← unhashableKind? t then throw (.unhashable kind)
    checkKeys rest

def checkEntries : List Tree → Except ValueFault Unit
  | [] => .ok ()
  | .node .entry [key, value] :: rest => do
    let kind? ← unhashableKind? key
    let _ ← unhashableKind? value
    if let some kind := kind? then throw (.unhashable kind)
    checkEntries rest
  | _ :: _ => .error .unpacking

end

end Tree

/-- Why a text is no literal. -/
inductive LiteralFault where
  | unreadable (fault : Fault)
  | valueless (fault : ValueFault)
  deriving DecidableEq, Repr

/-- Checks whether a text is a literal. -/
def checkLiteral (s : List Char) : Except LiteralFault Unit :=
  match Tree.ofText s with
  | .error fault => .error (.unreadable fault)
  | .ok tree =>
    match tree.unhashableKind? with
    | .ok _ => .ok ()
    | .error fault => .error (.valueless fault)

end ScriptRunner.Expression
