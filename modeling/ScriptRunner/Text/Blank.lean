/-! Blank characters, and texts without the blanks at their ends. -/

namespace ScriptRunner.Text

/-- The white space of Unicode and the four information separators `U+001C` to `U+001F`. -/
def isBlank (c : Char) : Bool :=
  ('\t' ≤ c && c ≤ '\r') || ('\x1c' ≤ c && c ≤ ' ') || c == '\x85' || c == '\xa0' ||
    c == '\u1680' || ('\u2000' ≤ c && c ≤ '\u200a') || c == '\u2028' || c == '\u2029' ||
    c == '\u202f' || c == '\u205f' || c == '\u3000'

def trimEndBy (p : Char → Bool) (s : List Char) : List Char :=
  (s.reverse.dropWhile p).reverse

/-- Drops the characters that satisfy `p` from both ends. -/
def trimBy (p : Char → Bool) (s : List Char) : List Char :=
  trimEndBy p (s.dropWhile p)

def trim (s : String) : String := String.ofList (trimBy isBlank s.toList)

def trimEnd (s : String) : String := String.ofList (trimEndBy isBlank s.toList)

/-- Whether a text has no character but blanks. -/
def allBlank (s : String) : Bool := s.toList.all isBlank

end ScriptRunner.Text
