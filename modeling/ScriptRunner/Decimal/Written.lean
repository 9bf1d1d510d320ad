import ScriptRunner.Decimal.Shortest

/-! Floating-point numbers as they are written: with the fewest digits that read back, in positions
from a ten-thousandth up to ten to the power of 16, and with an exponent beyond. -/

namespace ScriptRunner.Decimal

/-- What the bits of a number say. -/
inductive Reading where
  | finite (v : Magnitude)
  | infinite
  | notANumber
  deriving DecidableEq, Repr

/-- Reads the 63 bits below the sign. -/
def Reading.ofBits (bits : Nat) : Reading :=
  let fraction := bits % Nat.pow 2 52
  let exponent := bits / Nat.pow 2 52 % Nat.pow 2 11
  if exponent = Nat.pow 2 11 - 1 then if fraction = 0 then .infinite else .notANumber
  else if exponent = 0 then .finite ⟨fraction, 0⟩
  else .finite ⟨Nat.pow 2 52 + fraction, exponent - 1⟩

/-- Digits without the zeros at their end; the first one stays. -/
def trimZeros (digits : List Char) : List Char :=
  match (digits.reverse.dropWhile (· = '0')).reverse with
  | [] => ['0']
  | trimmed => trimmed

/-- Digits with a point, the first of them standing for the power of ten `exponent`. -/
def positional (digits : List Char) : Int → List Char
  | .ofNat exponent =>
    let whole := digits.take (exponent + 1)
    let fraction := digits.drop (exponent + 1)
    whole ++ List.replicate (exponent + 1 - whole.length) '0' ++ '.' ::
      if fraction.isEmpty then ['0'] else fraction
  | .negSucc n => '0' :: '.' :: List.replicate n '0' ++ digits

/-- Digits with an exponent of at least two digits; there is no point behind a single digit. -/
def scientific (digits : List Char) (exponent : Int) : List Char :=
  let mantissa := match digits with
    | first :: next :: rest => first :: '.' :: next :: rest
    | _ => digits
  let power := Nat.toDigits 10 exponent.natAbs
  mantissa ++ 'e' :: (if exponent < 0 then '-' else '+') ::
    List.replicate (2 - power.length) '0' ++ power

def Magnitude.written (v : Magnitude) : List Char :=
  if v.mantissa = 0 then ['0', '.', '0']
  else
    let (number, place) := v.shortest
    let digits := Nat.toDigits 10 number
    let exponent := place + digits.length - 1
    let digits := trimZeros digits
    if -4 ≤ exponent && exponent < 16 then positional digits exponent
    else scientific digits exponent

def Reading.written : Reading → List Char
  | .finite v => v.written
  | .infinite => ['i', 'n', 'f']
  | .notANumber => ['n', 'a', 'n']

/-- The text of a number. One that is not a number has no sign. -/
def text (x : Float) : String :=
  let bits := x.toBits.toNat
  let reading := Reading.ofBits bits
  let sign := if Nat.pow 2 63 ≤ bits && reading ≠ .notANumber then ['-'] else []
  String.ofList (sign ++ reading.written)

/-- The whole number that a magnitude is, if it is one. -/
def Magnitude.whole? (v : Magnitude) : Option Nat :=
  let one := Nat.pow 10 depth
  if v.exact % one = 0 then some (v.exact / one) else none

/-- The whole number that a number equals, if it equals one. -/
def whole? (x : Float) : Option Int :=
  let bits := x.toBits.toNat
  match Reading.ofBits bits with
  | .finite v => v.whole?.map fun n => if Nat.pow 2 63 ≤ bits then -(n : Int) else n
  | _ => none

end ScriptRunner.Decimal
