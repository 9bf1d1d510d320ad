import ScriptRunner.Text.CellTable
import ScriptRunner.Text.LetterCase
import ScriptRunner.Text.Line

/-! Cells of a terminal: how many a text takes, and where its tabs lead. -/

namespace ScriptRunner.Text

/-- The cells that a character takes by itself. -/
def cellWidth (c : Char) : Nat :=
  if 32 ≤ c.toNat && c.toNat < 127 then 1
  else if inRanges wideRanges c then 2
  else if inRanges zeroWidthRanges c then 0
  else 1

/-- The cells that a text takes. A joiner hides the character after it; the emoji selector widens
the last character that was seen, if it can be an emoji and was not widened before. -/
def cells (seen : Option Char) : List Char → Nat
  | [] => 0
  | ['\u200d'] => 0
  | '\u200d' :: _ :: rest => cells seen rest
  | '\ufe0f' :: rest => (if seen.any (inRanges emojiRanges) then 1 else 0) + cells none rest
  | c :: rest => cellWidth c + cells (if cellWidth c = 0 then seen else some c) rest

/-- How far apart the stops are that tabs lead to. -/
def tabWidth : Nat := 8

/-- The first stop that is not before a column. -/
def stopFrom (column : Nat) : Nat := (column + (tabWidth - 1)) / tabWidth * tabWidth

/-- Puts spaces in the place of the tabs between parts of a line, the first of which starts at
`column`. The first space belongs to the part before it, so that a joiner at the part's end hides
that space; the other spaces lead on to a stop. -/
def joinAtStops (column : Nat) : List (List Char) → List Char
  | [] => []
  | [last] => last
  | part :: rest =>
    let spaced := part ++ [' ']
    let reached := column + cells none spaced
    spaced ++ List.replicate (stopFrom reached - reached) ' ' ++ joinAtStops (stopFrom reached) rest

def expandLine (l : Line) : Line := joinAtStops 0 (l.splitOn '\t')

/-- The text with spaces in the place of its tabs. -/
def expandTabs (s : List Char) : List Char := unlines ((lines s).map expandLine)

end ScriptRunner.Text
