import ScriptRunner.Text.Digit

/-! Layouts: how a text is cut and padded when it is put into a template. A layout is written as
`fill align sign z # 0 width separator .precision type`, every part of it optional. -/

namespace ScriptRunner.Template

inductive Align where
  | left
  | right
  | center
  | afterSign
  deriving DecidableEq, Repr

def Align.ofChar? : Char → Option Align
  | '<' => some .left
  | '>' => some .right
  | '^' => some .center
  | '=' => some .afterSign
  | _ => none

/-- A layout as it is written. Signs, separators and most types are meant for numbers only. -/
structure Layout where
  fill : Char := ' '
  align : Align := .left
  sign : Option Char := none
  noNegativeZero : Bool := false
  alternate : Bool := false
  width : Nat := 0
  separator : Option Char := none
  limit : Option Nat := none
  type : Char := 's'
  deriving DecidableEq, Repr

inductive LayoutError where
  | tooManyDigits
  /-- The text would be too long to be held. -/
  | tooWide
  | bothSeparators
  | missingPrecision
  | malformed (layout : String)
  | separatorWith (separator type : Char)
  | unknownType (type : Char)
  | space
  | sign
  | negativeZero
  | alternate
  | afterSign
  deriving DecidableEq, Repr

/-- A character as it is named in a message: by its code unless it is visible and among the first
`bound` ones. -/
def codeName (bound : Nat) (c : Char) : String :=
  if 32 < c.toNat && c.toNat < bound then c.toString
  else "\\x" ++ String.ofList (Nat.toDigits 16 c.toNat)

def LayoutError.message : LayoutError → String
  | .tooManyDigits => "Too many decimal digits in format string"
  | .tooWide => ""
  | .bothSeparators => "Cannot specify both ',' and '_'."
  | .missingPrecision => "Format specifier missing precision"
  | .malformed layout => "Invalid format specifier '" ++ layout ++ "' for object of type 'str'"
  | .separatorWith separator type =>
    "Cannot specify '" ++ separator.toString ++ "' with '" ++ codeName 128 type ++ "'."
  | .unknownType type => "Unknown format code '" ++ codeName 128 type ++ "' for object of type 'str'"
  | .space => "Space not allowed in string format specifier"
  | .sign => "Sign not allowed in string format specifier"
  | .negativeZero => "Negative zero coercion (z) not allowed in string format specifier"
  | .alternate => "Alternate form (#) not allowed in string format specifier"
  | .afterSign => "'=' alignment not allowed in string format specifier"

namespace Layout

/-- The alignment, with the fill character before it if there is one. -/
def takeAlign : List Char → Option Char × Option Align × List Char
  | [] => (none, none, [])
  | [c] =>
    match Align.ofChar? c with
    | some a => (none, some a, [])
    | none => (none, none, [c])
  | c :: d :: rest =>
    match Align.ofChar? d, Align.ofChar? c with
    | some a, _ => (some c, some a, rest)
    | none, some a => (none, some a, d :: rest)
    | none, none => (none, none, c :: d :: rest)

def takeSign : List Char → Option Char × List Char
  | c :: rest => if c ∈ [' ', '+', '-'] then (some c, rest) else (none, c :: rest)
  | [] => (none, [])

def takeMark (mark : Char) : List Char → Bool × List Char
  | c :: rest => if c = mark then (true, rest) else (false, c :: rest)
  | [] => (false, [])

/-- The separator of thousands. Two of them are refused, but a comma twice is left for the type
to stumble over. -/
def takeSeparator : List Char → Except LayoutError (Option Char × List Char)
  | ',' :: '_' :: _ | '_' :: ',' :: _ => .error .bothSeparators
  | ',' :: rest => .ok (some ',', rest)
  | '_' :: rest => .ok (some '_', rest)
  | rest => .ok (none, rest)

def takePrecision : List Char → Except LayoutError (Option Nat × List Char)
  | '.' :: rest =>
    match Text.leadingNumber 0 0 rest with
    | none => .error .tooManyDigits
    | some (_, 0, _) => .error .missingPrecision
    | some (n, _, rest) => .ok (some n, rest)
  | rest => .ok (none, rest)

/-- The types of number that a separator may be written with. -/
def separates (separator type : Char) : Bool :=
  type ∈ ['d', 'e', 'f', 'g', 'E', 'G', '%', 'F', '\x00'] ||
    (separator = '_' && type ∈ ['b', 'o', 'x', 'X'])

def parse (written : List Char) : Except LayoutError Layout := do
  let (fill?, align?, rest) := takeAlign written
  let (sign, rest) := takeSign rest
  let (noNegativeZero, rest) := takeMark 'z' rest
  let (alternate, rest) := takeMark '#' rest
  let (zero, rest) := if fill?.isSome then (false, rest) else takeMark '0' rest
  let some (width, _, rest) := Text.leadingNumber 0 0 rest | throw .tooManyDigits
  let (separator, rest) ← takeSeparator rest
  let (limit, rest) ← takePrecision rest
  let type ← match rest with
    | [] => pure 's'
    | [c] => pure c
    | _ => throw (.malformed (String.ofList written))
  if let some s := separator then
    if !separates s type then throw (.separatorWith s type)
  return {
    fill := fill?.getD (if zero then '0' else ' ')
    align := align?.getD .left
    sign, noNegativeZero, alternate, width, separator, limit, type }

/-- Whether the layout is one for texts: nothing that only numbers have is asked for. -/
def checkForText (l : Layout) : Except LayoutError Unit :=
  if l.type ≠ 's' then .error (.unknownType l.type)
  else if l.sign = some ' ' then .error .space
  else if l.sign.isSome then .error .sign
  else if l.noNegativeZero then .error .negativeZero
  else if l.alternate then .error .alternate
  else if l.align = .afterSign then .error .afterSign
  else .ok ()

/-- The longest text that is laid out. -/
def maxWidth : Nat := 34359738368

/-- How much of `space` stands before the text. -/
def before (l : Layout) (space : Nat) : Nat :=
  match l.align with
  | .right => space
  | .center => space / 2
  | _ => 0

/-- Cuts a text to the limit, then pads it to the width. -/
def pad (l : Layout) (text : List Char) : List Char :=
  let text := (l.limit.map text.take).getD text
  let space := l.width - text.length
  List.replicate (l.before space) l.fill ++ text ++
    List.replicate (space - l.before space) l.fill

/-- The text under a written layout; the empty layout leaves it alone. -/
def apply (written text : List Char) : Except LayoutError (List Char) :=
  if written.isEmpty then .ok text
  else do
    let l ← parse written
    l.checkForText
    if maxWidth < l.width then throw .tooWide
    return l.pad text

end Layout
end ScriptRunner.Template
