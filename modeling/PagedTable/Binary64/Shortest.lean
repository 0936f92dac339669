/-
  PagedTable.Binary64.Shortest — the fewest decimal digits that read back to the same number.

  A positive number owns the interval of reals that round to it.  For 1, 2, … 17 digits the two
  decimal neighbours of the number on that grid are tested against the interval: the first grid
  with a hit wins, of two hits the nearer one, of two equally near the even one.
-/
import PagedTable.Binary64

namespace PagedTable.Binary64

/-- `digits · 10 ^ exponent`, without trailing zeros in `digits`. -/
structure Decimal where
  digits : Nat
  exponent : Int
  deriving DecidableEq, Repr

namespace Decimal

/-- Moves trailing zeros of the digits into the exponent; `fuel` bounds how many. -/
def trim : (fuel : Nat) → Decimal → Decimal
  | 0, x => x
  | fuel + 1, x =>
    if x.digits % 10 = 0 then trim fuel ⟨x.digits / 10, x.exponent + 1⟩ else x

end Decimal

/-! ## §1. The interval of a number -/

/-- A positive number and the ends of its interval, all over one denominator. -/
structure Interval where
  low : Nat
  value : Nat
  high : Nat
  den : Nat
  /-- The ends round to the number itself: ties go to an even mantissa. -/
  closed : Bool

/-- The reals that round to a positive number.  Below a power of two the neighbour is half as
far, except at the bottom of the range. -/
def interval (x : Binary64) : Interval :=
  let (unit, den) := shifted 1 4 x.exponent
  let below := if x.mantissa = twoTo 52 ∧ x.exponent ≠ -1074 then 1 else 2
  { low := (4 * x.mantissa - below) * unit
    value := 4 * x.mantissa * unit
    high := (4 * x.mantissa + 2) * unit
    den
    closed := x.mantissa % 2 == 0 }

/-- Does `digits · 10 ^ exponent` lie in the interval? -/
def Interval.contains (i : Interval) (x : Decimal) : Bool :=
  let (num, den) := tenShifted x.digits x.exponent
  let scaledLow := i.low * den
  let scaledHigh := i.high * den
  let point := num * i.den
  if i.closed then scaledLow ≤ point && point ≤ scaledHigh
  else scaledLow < point && point < scaledHigh
where
  /-- `n · 10 ^ e` as a quotient of integers. -/
  tenShifted (n : Nat) : Int → Nat × Nat
    | .ofNat e => (n * tenTo e, 1)
    | .negSucc e => (n, tenTo (e + 1))

/-! ## §2. The decimal grids -/

/-- The exponent `e` with `10 ^ e ≤ num / den < 10 ^ (e + 1)`, for a positive quotient. -/
def leadingExponent (num den : Nat) : Int :=
  if den ≤ num then wholeDigits (num / den).log2 (num / den) else -(leadingZeros 400 num den : Int)
where
  /-- One less than the count of decimal digits. -/
  wholeDigits : (fuel : Nat) → Nat → Nat
    | 0, _ => 0
    | fuel + 1, n => if n < 10 then 0 else wholeDigits fuel (n / 10) + 1
  /-- How often the quotient is multiplied by ten until it is at least one. -/
  leadingZeros : (fuel : Nat) → Nat → Nat → Nat
    | 0, _, _ => 0
    | fuel + 1, n, d => if d ≤ n then 0 else leadingZeros fuel (10 * n) d + 1

/-- The neighbour of the number on the grid of multiples of `10 ^ exponent` that reads back, the
nearer one if both do. -/
def onGrid? (i : Interval) (exponent : Int) : Option Decimal :=
  let (num, den) : Nat × Nat :=
    match exponent with
    | .ofNat e => (i.value, i.den * tenTo e)
    | .negSucc e => (i.value * tenTo (e + 1), i.den)
  let below : Decimal := ⟨num / den, exponent⟩
  let above : Decimal := ⟨num / den + 1, exponent⟩
  match i.contains below, i.contains above with
  | true, true => some ⟨roundHalfEven num den, exponent⟩
  | true, false => some below
  | false, true => some above
  | false, false => none

/-- The shortest decimal that reads back to a positive number, nearest among the shortest. -/
def shortest (x : Binary64) : Decimal :=
  let i := x.interval
  let leading := leadingExponent i.value i.den
  let grids := (List.range 17).map fun (n : Nat) => leading - (n : Int)
  match grids.findSome? (onGrid? i) with
  | some found => found.trim 20
  | none => ⟨0, 0⟩

end PagedTable.Binary64
