import ScriptRunner.Text.Digit
import ScriptRunner.Text.Utf8

/-! File URLs: the path in them, and the bytes that are written there as percent signs with two
hexadecimal digits. -/

namespace ScriptRunner.FileUrl

open Text (hexValue?)

/-- The bytes of an ASCII text. A percent sign without two digits after it stands for itself. -/
def percentBytes : List Char → Bytes
  | '%' :: a :: b :: rest =>
    match hexValue? a, hexValue? b with
    | some h, some l => (16 * h + l).toUInt8 :: percentBytes rest
    | _, _ => '%'.toNat.toUInt8 :: percentBytes (a :: b :: rest)
  | c :: rest => c.toNat.toUInt8 :: percentBytes rest
  | [] => []

/-- Decodes a text that goes on after the ASCII characters `run`, which are read backwards. A
character outside ASCII ends the bytes before it. -/
def unquoteAfter (run : List Char) : List Char → List Char
  | [] => Utf8.decodeLossy none (percentBytes run.reverse)
  | c :: rest =>
    if c.toNat < 128 then unquoteAfter (c :: run) rest
    else Utf8.decodeLossy none (percentBytes run.reverse) ++ c :: unquoteAfter [] rest

def unquote (s : List Char) : List Char := unquoteAfter [] s

def dropped (c : Char) : Bool := c = '\t' || c = '\r' || c = '\n'

/-- The path of a URL, still quoted, from what follows its scheme and host. Query and fragment do
not belong to it, and neither do tabs and line ends. -/
def quotedPath (s : List Char) : List Char :=
  (s.filter fun c => !dropped c).takeWhile fun c => c ≠ '?' && c ≠ '#'

/-- The path of a text that is a file URL without a host. -/
def path? (s : List Char) : Option (List Char) :=
  let scheme := "file://".toList
  if (scheme ++ ['/']).isPrefixOf s then some (unquote (quotedPath (s.drop scheme.length)))
  else none

end ScriptRunner.FileUrl
