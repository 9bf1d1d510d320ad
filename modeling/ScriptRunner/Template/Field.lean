import ScriptRunner.Template.Item
import ScriptRunner.Template.Layout

/-! Fields of a template: the place `{name.attribute!conversion:layout}` as it is written, and the
value that it names. -/

namespace ScriptRunner.Template

/-- What goes wrong when a template is read or filled in. -/
inductive Fault where
  | loneOpen
  | loneClose
  | openInName
  | unclosedField
  | noConversion
  | unexpectedAfterConversion
  | unclosedLayout
  | tooManyDigits
  | noPosition (index : Nat)
  | unknownName (name : String)
  | unexpectedAfterBracket
  | unclosedBracket
  | emptyAttribute
  | noAttribute (holder name : String)
  | notSubscriptable (whole : String)
  | outOfRange (kind : String)
  | noParent (index : Nat)
  | badIndex (kind : String)
  | unknownConversion (c : Char)
  | nestedTooDeep
  | layoutOf (kind : String)
  | layout (e : LayoutError)
  deriving DecidableEq, Repr

def Fault.message : Fault → String
  | .loneOpen => "Single '\x7b' encountered in format string"
  | .loneClose => "Single '\x7d' encountered in format string"
  | .openInName => "unexpected '\x7b' in field name"
  | .unclosedField => "expected '\x7d' before end of string"
  | .noConversion => "end of string while looking for conversion specifier"
  | .unexpectedAfterConversion => "expected ':' after conversion specifier"
  | .unclosedLayout => "unmatched '\x7b' in format spec"
  | .tooManyDigits => "Too many decimal digits in format string"
  | .noPosition index =>
    "Replacement index " ++ toString index ++ " out of range for positional args tuple"
  | .unknownName name => Text.quoted name
  | .unexpectedAfterBracket => "Only '.' or '[' may follow ']' in format field specifier"
  | .unclosedBracket => "Missing ']' in format string"
  | .emptyAttribute => "Empty attribute in format string"
  | .noAttribute holder name => holder ++ " has no attribute '" ++ name ++ "'"
  | .notSubscriptable whole => whole ++ " is not subscriptable"
  | .outOfRange kind => (if kind = "str" then "string" else kind) ++ " index out of range"
  | .noParent index => toString index
  | .badIndex kind =>
    if kind = "str" then "string indices must be integers, not 'str'"
    else if kind = "_PathParents" then "'>=' not supported between instances of 'str' and 'int'"
    else kind ++ " indices must be integers or slices, not str"
  | .unknownConversion c => "Unknown conversion specifier " ++ codeName 127 c
  | .nestedTooDeep => "Max string recursion exceeded"
  | .layoutOf kind => "unsupported format string passed to " ++ kind ++ ".__format__"
  | .layout e => e.message

structure Field where
  name : List Char
  conversion : Option Char := none
  layout : List Char := []
  deriving DecidableEq, Repr

/-- The name of a field, the character that ends it and the rest. Inside brackets, where the flag
is set, anything may stand. -/
def takeName (inBracket : Bool) : List Char → Except Fault (List Char × Char × List Char)
  | [] => .error .unclosedField
  | c :: rest =>
    if inBracket then (takeName (c ≠ ']') rest).map fun r => (c :: r.1, r.2)
    else if c = '{' then .error .openInName
    else if c = '}' || c = ':' || c = '!' then .ok ([], c, rest)
    else (takeName (c = '[') rest).map fun r => (c :: r.1, r.2)

/-- The text up to the brace that closes the field, with `depth` braces open inside it. -/
def takeLayout (depth : Nat) : List Char → Except Fault (List Char × List Char)
  | [] => .error .unclosedLayout
  | c :: rest =>
    if c = '{' then (takeLayout (depth + 1) rest).map fun r => (c :: r.1, r.2)
    else if c = '}' then
      match depth with
      | 0 => .ok ([], rest)
      | depth + 1 => (takeLayout depth rest).map fun r => (c :: r.1, r.2)
    else (takeLayout depth rest).map fun r => (c :: r.1, r.2)

/-- Reads a field after its opening brace. -/
def Field.take (s : List Char) : Except Fault (Field × List Char) :=
  match takeName false s with
  | .error e => .error e
  | .ok (name, '}', rest) => .ok (⟨name, none, []⟩, rest)
  | .ok (name, ':', rest) => (takeLayout 0 rest).map fun r => (⟨name, none, r.1⟩, r.2)
  | .ok (_, _, []) => .error .noConversion
  | .ok (_, _, [_]) => .error .unclosedLayout
  | .ok (name, _, c :: '}' :: rest) => .ok (⟨name, some c, []⟩, rest)
  | .ok (name, _, c :: ':' :: rest) => (takeLayout 0 rest).map fun r => (⟨name, some c, r.1⟩, r.2)
  | .ok _ => .error .unexpectedAfterConversion

theorem map_eq_ok_iff {ε α β : Type} {f : α → β} {x : Except ε α} {y : β} :
    x.map f = .ok y ↔ ∃ a, x = .ok a ∧ f a = y := by
  cases x <;> simp [Except.map]

theorem length_of_takeName {b : Bool} {s name rest : List Char} {c : Char}
    (h : takeName b s = .ok (name, c, rest)) : rest.length < s.length := by
  induction s generalizing b name with
  | nil => simp [takeName] at h
  | cons d s ih =>
    unfold takeName at h
    grind [map_eq_ok_iff]

theorem length_of_takeLayout {depth : Nat} {s layout rest : List Char}
    (h : takeLayout depth s = .ok (layout, rest)) : rest.length < s.length := by
  induction s generalizing depth layout with
  | nil => simp [takeLayout] at h
  | cons d s ih =>
    unfold takeLayout at h
    grind [map_eq_ok_iff]

theorem Field.length_of_take {s rest : List Char} {f : Field}
    (h : Field.take s = .ok (f, rest)) : rest.length < s.length := by
  unfold Field.take at h
  split at h <;> grind [map_eq_ok_iff, → length_of_takeName, → length_of_takeLayout]

/-! ## Values of fields -/

def Item.attribute (name : String) (v : Item) : Except Fault Item :=
  match v.attribute? name with
  | some v => .ok v
  | none => .error (.noAttribute v.holder name)

/-- The number that a whole text writes, if it writes one. -/
def wholeNumber? (s : List Char) : Except Fault (Option Nat) :=
  match Text.leadingNumber 0 0 s with
  | none => .error .tooManyDigits
  | some (n, _, rest) => .ok (if s.isEmpty || !rest.isEmpty then none else some n)

/-- The part of a value under a key in brackets, which has to be a number. -/
def Item.subscript (key : Option Nat) (v : Item) : Except Fault Item :=
  if !v.hasParts then .error (.notSubscriptable v.whole)
  else
    match key with
    | none => .error (.badIndex v.kindOf.name)
    | some n =>
      match v, v.part? n with
      | _, some part => .ok part
      | .parents _, none => .error (.noParent n)
      | _, none => .error (.outOfRange v.kindOf.name)

def endsStep (c : Char) : Bool := c = '.' || c = '['

/-- One step of a field's name after the first word, and the rest of the name. -/
inductive Step where
  | attribute (name : List Char)
  | key (written : List Char)
  deriving DecidableEq, Repr

def takeStep : List Char → Except Fault (Step × List Char)
  | '.' :: s => .ok (.attribute (s.takeWhile fun c => !endsStep c), s.dropWhile fun c => !endsStep c)
  | '[' :: s =>
    match s.dropWhile (· ≠ ']') with
    | [] => .error .unclosedBracket
    | _ :: rest => .ok (.key (s.takeWhile (· ≠ ']')), rest)
  | _ => .error .unexpectedAfterBracket

theorem length_of_takeStep {s rest : List Char} {step : Step}
    (h : takeStep s = .ok (step, rest)) : rest.length < s.length := by
  unfold takeStep at h
  split at h
  · next s =>
    have := (List.dropWhile_sublist (fun c => !endsStep c) (l := s)).length_le
    grind
  · next s =>
    have := (List.dropWhile_sublist (fun c => decide (c ≠ ']')) (l := s)).length_le
    grind
  · simp at h

def Item.step (v : Item) : Step → Except Fault Item
  | .attribute name =>
    if name.isEmpty then .error .emptyAttribute else v.attribute (String.ofList name)
  | .key written => do
    let key ← wholeNumber? written
    if written.isEmpty then throw .emptyAttribute
    v.subscript key

/-- Follows the steps of a name, as it is read, from a value. -/
def Item.follow (v : Item) (steps : List Char) : Except Fault Item :=
  if steps.isEmpty then .ok v
  else
    match _h : takeStep steps with
    | .error e => .error e
    | .ok (step, rest) =>
      match v.step step with
      | .error e => .error e
      | .ok v => v.follow rest
  termination_by steps.length
  decreasing_by exact length_of_takeStep _h

/-- The value that a field names. There are no values by position. -/
def lookupField (values : List (String × Item)) (name : List Char) : Except Fault Item := do
  let first := name.takeWhile fun c => !endsStep c
  let number ← wholeNumber? first
  if first.isEmpty then throw (.noPosition 0)
  if let some n := number then throw (.noPosition n)
  match values.lookup (String.ofList first) with
  | none => throw (.unknownName (String.ofList first))
  | some v => v.follow (name.dropWhile fun c => !endsStep c)

/-- The value under a conversion: its text, its quoted form, or that in ASCII. -/
def Item.convert (v : Item) : Option Char → Except Fault Item
  | none | some '\x00' => .ok v
  | some 's' => .ok (.text v.toString)
  | some 'r' => .ok (.text (v.shown Text.quoted))
  | some 'a' => .ok (.text (v.shown Text.quotedAscii))
  | some c => .error (.unknownConversion c)

/-- The text of a value under a layout. Only texts can be laid out. -/
def Item.laidOut (v : Item) (layout : List Char) : Except Fault (List Char) :=
  match v with
  | .text s => (Layout.apply layout s.toList).mapError .layout
  | v => if layout.isEmpty then .ok v.toString.toList else .error (.layoutOf v.kindOf.name)

end ScriptRunner.Template
