import ScriptRunner.Text.Blank
import ScriptRunner.Text.ColorTable
import ScriptRunner.Text.Digit
import ScriptRunner.Text.LetterCase

/-! Styles of console texts: attributes, colors and a link, written as words in any order. Each style
has one normal form. -/

namespace ScriptRunner.Text

structure Style where
  /-- The attributes that are given, the last one first, and whether they are on. -/
  marks : List (String × Bool) := []
  color : Option String := none
  background : Option String := none
  link : Option String := none
  deriving DecidableEq, Repr

namespace Style

/-- The attributes, in the order in which a normal form names them. -/
def attributes : List String :=
  ["bold", "dim", "italic", "underline", "blink", "blink2", "reverse", "conceal", "strike",
    "underline2", "frame", "encircle", "overline"]

/-- Short names of attributes. -/
def shortNames : List (String × String) :=
  [("b", "bold"), ("d", "dim"), ("i", "italic"), ("u", "underline"), ("r", "reverse"),
    ("c", "conceal"), ("s", "strike"), ("uu", "underline2"), ("o", "overline")]

def attribute? (word : String) : Option String :=
  if attributes.contains word then some word else shortNames.lookup word

/-- Why digits are not one of the three parts of a color. -/
inductive PartFault where
  | noDigits
  | tooManyDigits (count : Nat)
  deriving DecidableEq, Repr

def PartFault.message : PartFault → String
  | .noDigits => "invalid literal for int() with base 10: ''"
  | .tooManyDigits count => tooManyDigitsMessage count

/-- Why words are not a style. -/
inductive Fault where
  | unknownWord
  | badPart (fault : PartFault)
  deriving DecidableEq, Repr

/-- The largest part of a color, and the largest number of one. -/
def maxPart : Nat := 255

/-- Whether the part of a color that is written with these digits is small enough. -/
def checkPart (digits : List Char) : Except Fault Bool :=
  if digits.isEmpty then .error (.badPart .noDigits)
  else if maxDigits < digits.length then .error (.badPart (.tooManyDigits digits.length))
  else .ok ((leadingNumber 0 0 digits).any (·.1 ≤ maxPart))

def isHexDigit (c : Char) : Bool := c.isDigit || 'a' ≤ c && c ≤ 'f'

/-- What stands in the parentheses behind a name. -/
def arguments? (name : String) (word : List Char) : Option (List Char) :=
  let front := name.toList ++ ['(']
  if front.isPrefixOf word && word.getLast? = some ')' then some (word.drop front.length).dropLast
  else none

/-- Checks a color in small letters: a name, six hexadecimal digits, a number or three parts. -/
def checkColor (word : List Char) : Except Fault Unit :=
  if (String.ofList word) = "default" || colorNames.contains (String.ofList word) then .ok ()
  else if word.head? = some '#' then
    if word.length = 7 && (word.drop 1).all isHexDigit then .ok () else .error .unknownWord
  else
    match arguments? "color" word, arguments? "rgb" word with
    | some digits, _ =>
      if 0 < digits.length && digits.length ≤ 3 && digits.all Char.isDigit then do
        if ← checkPart digits then .ok () else .error .unknownWord
      else .error .unknownWord
    | _, some digits =>
      if digits.all fun c => c = ',' || (digit? c).isSome then
        match digits.splitOn ',' with
        | [red, green, blue] => do
          if (← [red, green, blue].mapM checkPart).all id then .ok () else .error .unknownWord
        | _ => .error .unknownWord
      else .error .unknownWord
    | none, none => .error .unknownWord

/-- The name of a color in small letters. -/
def colorName (word : String) : Except Fault String := do
  let name := lower word
  checkColor name.toList
  return name

/-- Adds the words of a style. -/
def addWords (s : Style) : List String → Except Fault Style
  | [] => .ok s
  | word :: rest =>
    match lower word, rest with
    | "on", [] | "not", [] | "link", [] => .error .unknownWord
    | "on", color :: rest => do
      let name ← colorName color
      addWords { s with background := some name } rest
    | "not", word :: rest =>
      match attribute? word with
      | some name => addWords { s with marks := (name, false) :: s.marks } rest
      | none => .error .unknownWord
    | "link", target :: rest => addWords { s with link := some target } rest
    | word, rest =>
      match attribute? word with
      | some name => addWords { s with marks := (name, true) :: s.marks } rest
      | none => do
        let name ← colorName word
        addWords { s with color := some name } rest

/-- The words of a style in their order. -/
def words (s : Style) : List String :=
  (attributes.filterMap fun name => (s.marks.lookup name).map fun on =>
    if on then name else "not " ++ name) ++
    s.color.toList ++ (s.background.map ("on " ++ ·)).toList ++ (s.link.map ("link " ++ ·)).toList

def text (s : Style) : String := if s.words.isEmpty then "none" else " ".intercalate s.words

/-- The normal form of what names a style. What is no style is put into small letters. -/
def normalForm (name : String) : Except Fault String :=
  let words := ((name.toList.splitOnP isBlank).map String.ofList).filter (· ≠ "")
  if words = [] || words = ["none"] then .ok "none"
  else
    match addWords {} words with
    | .ok s => .ok s.text
    | .error .unknownWord => .ok (lower (trim name))
    | .error fault => .error fault

end Style
end ScriptRunner.Text
