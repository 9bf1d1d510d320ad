import ScriptRunner.Text.CategoryTable
import ScriptRunner.Text.Digit
import ScriptRunner.Text.LetterCase

/-! Words and identifiers of all scripts. -/

namespace ScriptRunner.Text

/-- Whether a character is part of a word: a letter, a number or an underscore. -/
def isWordChar (c : Char) : Bool :=
  if c.toNat < 128 then c.isAlphanum || c = '_'
  else inRanges letterRanges c || (digit? c).isSome || inRanges letterNumberRanges c ||
    inRanges otherNumberRanges c

/-- Letters whose compatible form starts with a character that starts no identifier. -/
def unstableStarts : List (Nat × Nat) := [
  (0x37A, 0x37A), (0xE33, 0xE33), (0xEB3, 0xEB3), (0x2E2F, 0x2E2F), (0xFC5E, 0xFC63),
  (0xFDFA, 0xFDFB), (0xFE70, 0xFE70), (0xFE72, 0xFE72), (0xFE74, 0xFE74), (0xFE76, 0xFE76),
  (0xFE78, 0xFE78), (0xFE7A, 0xFE7A), (0xFE7C, 0xFE7C), (0xFE7E, 0xFE7E), (0xFF9E, 0xFF9F)]

/-- Characters that start identifiers and are no letters. -/
def otherStarts : List (Nat × Nat) := [(0x1885, 0x1886), (0x2118, 0x2118), (0x212E, 0x212E)]

/-- Characters of identifiers that are neither letters, marks nor digits. -/
def otherParts : List (Nat × Nat) := [
  (0xB7, 0xB7), (0x387, 0x387), (0xE33, 0xE33), (0xEB3, 0xEB3), (0x1369, 0x1371),
  (0x19DA, 0x19DA), (0xFF9E, 0xFF9F)]

def isIdentifierStart (c : Char) : Bool :=
  if c.toNat < 128 then c.isAlpha || c = '_'
  else (inRanges letterRanges c && !inRanges unstableStarts c) || inRanges letterNumberRanges c ||
    inRanges otherStarts c

def isIdentifierPart (c : Char) : Bool :=
  if c.toNat < 128 then c.isAlphanum || c = '_'
  else isIdentifierStart c || inRanges markRanges c || (digit? c).isSome ||
    inRanges connectorRanges c || inRanges otherParts c

/-- The first character that keeps a text from being an identifier. -/
def invalidChar? : List Char → Option Char
  | [] => none
  | c :: rest => if isIdentifierStart c then rest.find? (!isIdentifierPart ·) else some c

def isIdentifier (s : List Char) : Bool := !s.isEmpty && (invalidChar? s).isNone

end ScriptRunner.Text
