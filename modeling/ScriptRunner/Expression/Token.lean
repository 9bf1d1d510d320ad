/-! Tokens of expressions, and what keeps a text from being split into tokens. -/

namespace ScriptRunner.Expression

inductive TokenKind where
  | word
  | number
  | text
  | symbol
  | newline
  | indent
  | dedent
  | finish
  deriving DecidableEq, Repr

structure Token where
  kind : TokenKind
  /-- What is written; nothing for tokens that are not visible. -/
  written : String := ""
  line : Nat
  /-- How many brackets are open behind the token. -/
  depth : Nat
  /-- Whether the end of the text had to be seen to know where the token ends. -/
  seesEnd : Bool := false
  deriving DecidableEq, Repr

/-- The ways to write a number. -/
inductive Radix where
  | binary
  | octal
  | decimal
  | hexadecimal
  | imaginary
  deriving DecidableEq, Repr

def Radix.name : Radix → String
  | .binary => "binary"
  | .octal => "octal"
  | .decimal => "decimal"
  | .hexadecimal => "hexadecimal"
  | .imaginary => "imaginary"

/-- A bracket that is open, and the line that it stands on. -/
structure Opening where
  bracket : Char
  line : Nat
  deriving DecidableEq, Repr

/-- Why a text cannot be split into tokens from some place on. -/
inductive TokenFault where
  | badNumber (radix : Radix)
  | badDigit (digit : Char) (radix : Radix)
  | leadingZeros
  | badCharacter (c : Char)
  /-- A character that cannot be printed. -/
  | hiddenCharacter (c : Char)
  | openText (line : Nat)
  | openLongText (line : Nat)
  | tooDeep
  | unmatched (bracket : Char)
  | mismatched (bracket : Char) (opening : Opening) (line : Nat)
  /-- A bracket is still open at the end of the text. -/
  | unclosed (bracket : Char)
  | unexpectedEnd
  | strayBackslash
  | badDedent
  | badTabs
  | tooManyIndents
  deriving DecidableEq, Repr

/-- The capital hexadecimal digits of a code point, four of them or more. -/
def codePoint (c : Char) : String :=
  let digits := String.ofList ((Nat.toDigits 16 c.toNat).map Char.toUpper)
  "".pushn '0' (4 - digits.length) ++ digits

namespace TokenFault

def message : TokenFault → String
  | .badNumber radix => "invalid " ++ radix.name ++ " literal"
  | .badDigit digit radix =>
    "invalid digit '" ++ digit.toString ++ "' in " ++ radix.name ++ " literal"
  | .leadingZeros =>
    "leading zeros in decimal integer literals are not permitted; use an 0o prefix for octal integers"
  | .badCharacter c => "invalid character '" ++ c.toString ++ "' (U+" ++ codePoint c ++ ")"
  | .hiddenCharacter c => "invalid non-printable character U+" ++ codePoint c
  | .openText line => "unterminated string literal (detected at line " ++ toString line ++ ")"
  | .openLongText line =>
    "unterminated triple-quoted string literal (detected at line " ++ toString line ++ ")"
  | .tooDeep => "too many nested parentheses"
  | .unmatched bracket => "unmatched '" ++ bracket.toString ++ "'"
  | .mismatched bracket opening line =>
    "closing parenthesis '" ++ bracket.toString ++ "' does not match opening parenthesis '" ++
      opening.bracket.toString ++ "'" ++
      if opening.line = line then "" else " on line " ++ toString opening.line
  | .unclosed bracket => "'" ++ bracket.toString ++ "' was never closed"
  | .unexpectedEnd => "unexpected EOF while parsing"
  | .strayBackslash => "unexpected character after line continuation character"
  | .badDedent => "unindent does not match any outer indentation level"
  | .badTabs => "inconsistent use of tabs and spaces in indentation"
  | .tooManyIndents => "too many levels of indentation"

/-- Whether the fault is a matter of lines only. Such a fault is worth no mention next to one that
stands before it. -/
def isMinor : TokenFault → Bool
  | .unclosed _ | .unexpectedEnd | .strayBackslash | .badDedent | .badTabs | .tooManyIndents => true
  | _ => false

end TokenFault

/-- A text in tokens, up to the end of it or to the first fault. -/
structure Tokens where
  items : Array Token
  /-- Why there are no more tokens; none if the last one is the end of the text. -/
  fault? : Option TokenFault
  /-- The brackets that are open behind the last token, the innermost first. -/
  opened : List Opening
  deriving Repr

end ScriptRunner.Expression
