import ScriptRunner.Template.Field

/-! Templates: texts with fields in braces. Two equal braces in a row stand for one; a field names a
value, and its layout may hold fields again, once. -/

namespace ScriptRunner.Template

/-- A part of a template. A fault stands where it is found, since the parts before it are filled in
first. -/
inductive Piece where
  | char (c : Char)
  | field (f : Field)
  | fault (e : Fault)
  deriving DecidableEq, Repr

def parse : List Char → List Piece
  | [] => []
  | '{' :: '{' :: rest => .char '{' :: parse rest
  | '}' :: '}' :: rest => .char '}' :: parse rest
  | '}' :: _ => [.fault .loneClose]
  | ['{'] => [.fault .loneOpen]
  | '{' :: rest =>
    match _h : Field.take rest with
    | .error e => [.fault e]
    | .ok (f, rest') => .field f :: parse rest'
  | c :: rest => .char c :: parse rest
  termination_by s => s.length
  decreasing_by
    all_goals try have := Field.length_of_take _h
    all_goals grind

/-- Puts together the texts of all pieces, or stops at the first fault. -/
def joinPieces (show1 : Field → Except Fault (List Char)) : List Piece → Except Fault (List Char)
  | [] => .ok []
  | .char c :: rest => (joinPieces show1 rest).map (c :: ·)
  | .fault e :: _ => .error e
  | .field f :: rest => do
    let text ← show1 f
    (joinPieces show1 rest).map (text ++ ·)

/-- The text of a field, where `fill` fills in its layout. -/
def fieldText (values : List (String × Item)) (fill : List Char → Except Fault (List Char))
    (f : Field) : Except Fault (List Char) := do
  let v ← lookupField values f.name
  let v ← v.convert f.conversion
  let layout ← if f.layout.contains '{' then fill f.layout else pure f.layout
  v.laidOut layout

/-- Fills in a template with as many levels of templates inside layouts as `depth` says. -/
def fillWithin (values : List (String × Item)) : Nat → List Char → Except Fault (List Char)
  | 0, _ => .error .nestedTooDeep
  | depth + 1, s => joinPieces (fieldText values (fillWithin values depth)) (parse s)

def fill (values : List (String × Item)) (template : String) : Except Fault String :=
  (fillWithin values 2 template.toList).map String.ofList

end ScriptRunner.Template
