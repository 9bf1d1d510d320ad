/-! The shortest decimal that reads back as a binary fraction of 64 bits. All numbers are taken as
multiples of ten to the power of -1074, of which every such fraction is one. -/

namespace ScriptRunner.Decimal

/-- The power of two, and of ten, that the smallest fraction above zero is a multiple of. -/
def depth : Nat := 1074

/-- A fraction without its sign: `mantissa` times two to the power of `scale - depth`. -/
structure Magnitude where
  mantissa : Nat
  scale : Nat
  deriving DecidableEq, Repr

namespace Magnitude

/-- The weight of the last bit of the mantissa. -/
def unit (v : Magnitude) : Nat := Nat.pow 2 v.scale * Nat.pow 5 depth

def exact (v : Magnitude) : Nat := v.mantissa * v.unit

/-- Whether the fractions below stand closer together than those above. -/
def isLowest (v : Magnitude) : Bool := v.mantissa = Nat.pow 2 52 && 0 < v.scale

/-- Whether a number is read as the fraction: it is no further away than half the way to the next
fraction. From the middle it goes to the fraction with the even mantissa. -/
def readsBack (v : Magnitude) (n : Nat) : Bool :=
  let low := (4 * v.mantissa - if v.isLowest then 1 else 2) * v.unit
  let high := (4 * v.mantissa + 2) * v.unit
  if v.mantissa % 2 = 0 then low ≤ 4 * n && 4 * n ≤ high else low < 4 * n && 4 * n < high

/-- The multiple of a step that reads back as the fraction, counted in steps. It is one of the two
next to the fraction: the nearer one, and of two as near the even one. -/
def onGrid? (v : Magnitude) (step : Nat) : Option Nat :=
  let below := v.exact / step
  let toBelow := v.exact - below * step
  let toAbove := (below + 1) * step - v.exact
  let first := if toBelow < toAbove || toBelow = toAbove && below % 2 = 0 then below else below + 1
  let second := if first = below then below + 1 else below
  [first, second].find? fun k => v.readsBack (k * step)

/-- How many digits are always enough. -/
def maxDigits : Nat := 17

/-- The shortest decimal that reads back: its digits as a number, and the power of ten that they are
a multiple of. -/
def shortest (v : Magnitude) : Nat × Int :=
  let length := (Nat.toDigits 10 v.exact).length
  let found := (List.range maxDigits).findSome? fun n =>
    (v.onGrid? (Nat.pow 10 (length - (n + 1)))).map fun digits => (digits, length - (n + 1))
  let (digits, place) := found.getD (v.exact, 0)
  (digits, (place : Int) - depth)

end Magnitude
end ScriptRunner.Decimal
