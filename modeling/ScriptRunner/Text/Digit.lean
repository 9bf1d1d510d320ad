/-! Decimal digits of all scripts, hexadecimal digits, and numbers written with them. -/

namespace ScriptRunner.Text

/-- The digits of each script are ten code points in a row; these are their zeros. -/
def digitZeros : List Nat := [
  0x30, 0x660, 0x6F0, 0x7C0, 0x966, 0x9E6, 0xA66, 0xAE6, 0xB66, 0xBE6, 0xC66, 0xCE6, 0xD66,
  0xDE6, 0xE50, 0xED0, 0xF20, 0x1040, 0x1090, 0x17E0, 0x1810, 0x1946, 0x19D0, 0x1A80, 0x1A90,
  0x1B50, 0x1BB0, 0x1C40, 0x1C50, 0xA620, 0xA8D0, 0xA900, 0xA9D0, 0xA9F0, 0xAA50, 0xABF0, 0xFF10,
  0x104A0, 0x10D30, 0x11066, 0x110F0, 0x11136, 0x111D0, 0x112F0, 0x11450, 0x114D0, 0x11650,
  0x116C0, 0x11730, 0x118E0, 0x11950, 0x11C50, 0x11D50, 0x11DA0, 0x16A60, 0x16AC0, 0x16B50,
  0x1D7CE, 0x1D7D8, 0x1D7E2, 0x1D7EC, 0x1D7F6, 0x1E140, 0x1E2F0, 0x1E950, 0x1FBF0]

def digit? (c : Char) : Option Nat :=
  (digitZeros.find? fun z => z ≤ c.toNat && c.toNat < z + 10).map (c.toNat - ·)

def hexValue? (c : Char) : Option Nat :=
  if '0' ≤ c && c ≤ '9' then some (c.toNat - '0'.toNat)
  else if 'a' ≤ c && c ≤ 'f' then some (c.toNat - 'a'.toNat + 10)
  else if 'A' ≤ c && c ≤ 'F' then some (c.toNat - 'A'.toNat + 10)
  else none

/-- The number that hexadecimal digits write; all else is passed over. -/
def hexNumber (digits : List Char) : Nat :=
  (digits.filterMap hexValue?).foldl (fun n d => 16 * n + d) 0

/-- The largest number that a field may be given: the largest signed one of 64 bits. -/
def maxNumber : Nat := 9223372036854775807

/-- The number written by the digits that a text starts with, their count and the rest of the
text; `none` if the number is too large. -/
def leadingNumber (acc count : Nat) : List Char → Option (Nat × Nat × List Char)
  | [] => some (acc, count, [])
  | c :: rest =>
    match digit? c with
    | none => some (acc, count, c :: rest)
    | some d =>
      if acc * 10 + d ≤ maxNumber then leadingNumber (acc * 10 + d) (count + 1) rest else none

/-- How many digits of a decimal number are read. -/
def maxDigits : Nat := 4300

def tooManyDigitsMessage (count : Nat) : String :=
  "Exceeds the limit (" ++ toString maxDigits ++
    " digits) for integer string conversion: value has " ++ toString count ++
    " digits; use sys.set_int_max_str_digits() to increase the limit"

end ScriptRunner.Text
