import ScriptRunner.Text.LetterCase
import ScriptRunner.Text.PrintableTable

/-! Quoted text: how a name is shown inside a message. Single quotes are used unless the text
holds a single quote and no double quote; what cannot be printed is escaped. -/

namespace ScriptRunner.Text

def isPrintable (c : Char) : Bool :=
  if c.toNat < 128 then 32 ≤ c.toNat && c.toNat < 127 else inRanges printableRanges c

/-- The last `width` hexadecimal digits of a number. -/
def hexDigits : Nat → Nat → List Char
  | 0, _ => []
  | width + 1, n => hexDigits width (n / 16) ++ [Nat.digitChar (n % 16)]

def codeEscape (n : Nat) : List Char :=
  if n < 0x100 then '\\' :: 'x' :: hexDigits 2 n
  else if n < 0x10000 then '\\' :: 'u' :: hexDigits 4 n
  else '\\' :: 'U' :: hexDigits 8 n

def escapeChar (plain : Char → Bool) (quote c : Char) : List Char :=
  if c = quote || c = '\\' then ['\\', c]
  else if c = '\n' then ['\\', 'n']
  else if c = '\t' then ['\\', 't']
  else if c = '\r' then ['\\', 'r']
  else if plain c then [c]
  else codeEscape c.toNat

def quoteFor (s : List Char) : Char :=
  if s.contains '\'' && !s.contains '"' then '"' else '\''

def quoteWith (plain : Char → Bool) (s : String) : String :=
  let q := quoteFor s.toList
  String.ofList (q :: s.toList.flatMap (escapeChar plain q) ++ [q])

def quoted (s : String) : String := quoteWith isPrintable s

/-- Quoted text in which everything outside ASCII is escaped. -/
def quotedAscii (s : String) : String :=
  quoteWith (fun c => c.toNat < 128 && isPrintable c) s

end ScriptRunner.Text
