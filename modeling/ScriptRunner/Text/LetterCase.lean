import ScriptRunner.Text.CaseTable

/-! Upper and lower case of whole texts. A letter may become several, and a capital sigma at the
end of a word is lowered to its final form. -/

namespace ScriptRunner.Text

def inRanges (ranges : List (Nat × Nat)) (c : Char) : Bool :=
  ranges.any fun r => r.1 ≤ c.toNat && c.toNat ≤ r.2

/-- The image of a character under a table of expansions and a table of shifts. -/
def mapCase (expansions : List (Nat × List Nat)) (shifts : List ShiftRow) (c : Char) : List Char :=
  match expansions.lookup c.toNat with
  | some ns => ns.map Char.ofNat
  | none =>
    match shifts.find? (·.covers c.toNat) with
    | some r => [Char.ofNat (c.toNat + r.shift).toNat]
    | none => [c]

def lowerChar (c : Char) : List Char :=
  if c.toNat < 128 then [c.toLower] else mapCase lowerExpansions lowerShifts c

def upperChar (c : Char) : List Char :=
  if c.toNat < 128 then [c.toUpper] else mapCase upperExpansions upperShifts c

/-- Whether the place between `before` (read backwards) and `after` is the end of a word:
a cased letter stands before it and none after it, case-ignorable characters passed over. -/
def endsWord (before after : List Char) : Bool :=
  (before.dropWhile (inRanges caseIgnorableRanges)).head?.any (inRanges casedRanges) &&
    !(after.dropWhile (inRanges caseIgnorableRanges)).head?.any (inRanges casedRanges)

/-- Lowers a text that stands after `before`, which is read backwards. -/
def lowerAfter (before : List Char) : List Char → List Char
  | [] => []
  | c :: rest =>
    (if c = '\u03a3' && endsWord before rest then ['\u03c2'] else lowerChar c) ++
      lowerAfter (c :: before) rest

def lower (s : String) : String := String.ofList (lowerAfter [] s.toList)

def upper (s : String) : String := String.ofList (s.toList.flatMap upperChar)

/-- Case folding as far as the result is ASCII. Two texts of which one is ASCII fold to the same
text under it if and only if they do under full case folding. -/
def foldChar (c : Char) : List Char :=
  match c with
  | '\u017f' => ['s']
  | '\u212a' => ['k']
  | '\u00df' | '\u1e9e' => ['s', 's']
  | '\ufb00' => ['f', 'f']
  | '\ufb01' => ['f', 'i']
  | '\ufb02' => ['f', 'l']
  | '\ufb03' => ['f', 'f', 'i']
  | '\ufb04' => ['f', 'f', 'l']
  | '\ufb05' | '\ufb06' => ['s', 't']
  | _ => [c.toLower]

def fold (s : String) : String := String.ofList (s.toList.flatMap foldChar)

end ScriptRunner.Text
