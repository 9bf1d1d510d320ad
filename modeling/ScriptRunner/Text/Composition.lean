import ScriptRunner.Text.CompositionTable
import ScriptRunner.Text.Digit

/-! The plain form of a text: every character is replaced by the characters that it is another way to
write, marks are put in order, and what can be composed is composed. -/

namespace ScriptRunner.Text

/-- A row of a table: a range of characters, and the numbers that its first one is mapped to. -/
structure CompositionRow where
  first : Nat
  last : Nat
  image : List Nat
  deriving DecidableEq, Repr

namespace CompositionRow

def ofWord (word : List Char) : CompositionRow :=
  let range := word.takeWhile (· ≠ ':')
  let image := (word.dropWhile (· ≠ ':')).drop 1
  let first := hexNumber (range.takeWhile (· ≠ '-'))
  let last := hexNumber ((range.dropWhile (· ≠ '-')).drop 1)
  ⟨first, max first last, (image.splitOn '+').map hexNumber⟩

def ofRows (rows : List String) : List CompositionRow :=
  rows.flatMap fun row => (row.toList.splitOn ' ').map ofWord

def find? (rows : List CompositionRow) (n : Nat) : Option CompositionRow :=
  rows.find? fun r => r.first ≤ n && n ≤ r.last

end CompositionRow

def composed : List CompositionRow := CompositionRow.ofRows composedRows

def expanded : List CompositionRow := CompositionRow.ofRows expandedRows

def markClasses : List CompositionRow := CompositionRow.ofRows markClassRows

/-- The combining class of a character: zero unless it is a mark that can trade places. -/
def markClass (c : Char) : Nat :=
  if c.toNat < 128 then 0
  else ((CompositionRow.find? markClasses c.toNat).bind (·.image.head?)).getD 0

/-- The characters that a character stands for. What is composed is taken apart at most `depth`
times. -/
def expand : Nat → Char → List Char
  | 0, c => [c]
  | depth + 1, c =>
    if c.toNat < 128 then [c]
    else
      match CompositionRow.find? composed c.toNat with
      | some row => row.image.flatMap fun n => expand depth (Char.ofNat n)
      | none =>
        match CompositionRow.find? expanded c.toNat with
        | some ⟨first, _, [n]⟩ => [Char.ofNat (n + (c.toNat - first))]
        | some row => row.image.map Char.ofNat
        | none => [c]

/-- Puts a mark before those of its own class or a higher one. -/
def insertMark (c : Char) : List Char → List Char
  | [] => [c]
  | d :: rest =>
    if markClass c ≤ markClass d || markClass d = 0 then c :: d :: rest else d :: insertMark c rest

/-- Orders the marks behind every character by their classes. -/
def orderMarks : List Char → List Char
  | [] => []
  | c :: rest => if markClass c = 0 then c :: orderMarks rest else insertMark c (orderMarks rest)

/-- The syllable that a consonant and a vowel, or a syllable and a final consonant, are written as. -/
def composeSyllable? (a b : Nat) : Option Nat :=
  if 0x1100 ≤ a && a ≤ 0x1112 && 0x1161 ≤ b && b ≤ 0x1175 then
    some (0xAC00 + ((a - 0x1100) * 21 + (b - 0x1161)) * 28)
  else if 0xAC00 ≤ a && a ≤ 0xD7A3 && (a - 0xAC00) % 28 = 0 && 0x11A8 ≤ b && b ≤ 0x11C2 then
    some (a + (b - 0x11A7))
  else none

def compose? (a b : Char) : Option Char :=
  match composeSyllable? a.toNat b.toNat with
  | some n => some (Char.ofNat n)
  | none => (composed.find? (·.image = [a.toNat, b.toNat])).map (Char.ofNat ·.first)

/-- Composes a text with the character `start` before it and the marks `between`, read backwards,
between them. A mark is out of reach behind one of its own class. -/
def composeAfter (start : Char) (between : List Char) : List Char → List Char
  | [] => start :: between.reverse
  | c :: rest =>
    if between.head?.all fun d => markClass d < markClass c then
      match compose? start c with
      | some d => composeAfter d between rest
      | none =>
        if markClass c = 0 then start :: between.reverse ++ composeAfter c [] rest
        else composeAfter start (c :: between) rest
    else if markClass c = 0 then start :: between.reverse ++ composeAfter c [] rest
    else composeAfter start (c :: between) rest

def composeAll (s : List Char) : List Char :=
  match s.dropWhile fun c => markClass c ≠ 0 with
  | [] => s
  | start :: rest => (s.takeWhile fun c => markClass c ≠ 0) ++ composeAfter start [] rest

/-- The form of a text under which two ways to write the same identifier are the same. -/
def plainForm (s : List Char) : List Char :=
  if s.all fun c => c.toNat < 128 then s else composeAll (orderMarks (s.flatMap (expand 5)))

end ScriptRunner.Text
