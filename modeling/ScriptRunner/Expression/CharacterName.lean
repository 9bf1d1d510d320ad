import ScriptRunner.Expression.CharacterNameTable
import ScriptRunner.Text.Digit

/-! Names of characters, as they can stand in an escape. Small letters count as capitals. -/

namespace ScriptRunner.Expression

def isListedName (name : List Char) : Bool :=
  characterNameRows.any fun (stem, endings) =>
    let front := if stem = "" then [] else stem.toList ++ [' ']
    front.isPrefixOf name &&
      endings.any fun row => (row.toList.splitOn ',').contains (name.drop front.length)

/-- The code points of characters that are named by their number. -/
def isIdeograph (n : Nat) : Bool :=
  [(0x3400, 0x4DBF), (0x4E00, 0x9FFF), (0x20000, 0x2A6DF), (0x2A700, 0x2B738), (0x2B740, 0x2B81D),
    (0x2B820, 0x2CEA1), (0x2CEB0, 0x2EBE0), (0x30000, 0x3134A)].any fun r => r.1 ≤ n && n ≤ r.2

/-- The parts that names of syllables are made of. -/
def syllableStarts : List String :=
  ["G", "GG", "N", "D", "DD", "R", "M", "B", "BB", "S", "SS", "", "J", "JJ", "C", "K", "T", "P", "H"]

def syllableMiddles : List String :=
  ["A", "AE", "YA", "YAE", "EO", "E", "YEO", "YE", "O", "WA", "WAE", "OE", "YO", "U", "WEO", "WE",
    "WI", "YU", "EU", "YI", "I"]

def syllableEnds : List String :=
  ["", "G", "GG", "GS", "N", "NJ", "NH", "D", "L", "LG", "LM", "LB", "LS", "LT", "LP", "LH", "M",
    "B", "BS", "S", "SS", "NG", "J", "C", "K", "T", "P", "H"]

def isSyllable (name : List Char) : Bool :=
  syllableStarts.any fun start => start.toList.isPrefixOf name &&
    let rest := name.drop start.length
    syllableMiddles.any fun middle => middle.toList.isPrefixOf rest &&
      syllableEnds.contains (String.ofList (rest.drop middle.length))

def isCharacterName (name : List Char) : Bool :=
  let name := name.map Char.toUpper
  let ideograph := "CJK UNIFIED IDEOGRAPH-".toList
  let syllable := "HANGUL SYLLABLE ".toList
  if ideograph.isPrefixOf name then
    let digits := name.drop ideograph.length
    (digits.length = 4 || digits.length = 5) && digits.all (fun c => (Text.hexValue? c).isSome) &&
      isIdeograph (Text.hexNumber digits)
  else if syllable.isPrefixOf name then isSyllable (name.drop syllable.length)
  else isListedName name

end ScriptRunner.Expression
