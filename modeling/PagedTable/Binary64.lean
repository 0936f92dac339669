/-
  PagedTable.Binary64 — the finite numbers of the 64-bit binary floating-point format, exactly.

  A number is a sign, a mantissa below `2^53` and a power of two, in the one form the format
  stores.  Arithmetic is exact arithmetic on integers followed by one rounding to the nearest
  number, ties to the even mantissa.  There are no infinities and no "not a number": a result
  beyond the largest finite number is `none`.

  Main interface: `Binary64.nearest?` (the rounding), `Binary64.units` (the exact value, counted
  in units of the smallest positive number, so that comparing is comparing integers).
-/
import PagedTable.Power

namespace PagedTable

/-! ## §1. Rounding a quotient -/

/-- The integer nearest to `num / den`; a half goes to the even neighbour. -/
def roundHalfEven (num den : Nat) : Nat :=
  let quotient := num / den
  let twice := 2 * (num % den)
  if twice < den then quotient
  else if den < twice then quotient + 1
  else quotient + quotient % 2

/-- `n` rounded to 53 significant binary digits: the integer a 64-bit float holds in its place. -/
def roundTo53Bits (n : Nat) : Nat :=
  let spare := n.log2 + 1 - 53
  roundHalfEven n (twoTo spare) * twoTo spare

/-- `roundTo53Bits` on the magnitude, with the sign kept. -/
def roundIntTo53Bits : Int → Int
  | .ofNat n => roundTo53Bits n
  | .negSucc n => -(roundTo53Bits (n + 1) : Int)

/-! ## §2. The numbers -/

/-- The stored form: as many mantissa bits as fit, fewer only at the bottom of the range. -/
def Binary64.Stored (mantissa : Nat) (exponent : Int) : Prop :=
  mantissa < twoTo 53 ∧ -1074 ≤ exponent ∧ exponent ≤ 971 ∧
    (twoTo 52 ≤ mantissa ∨ exponent = -1074)

instance (mantissa : Nat) (exponent : Int) : Decidable (Binary64.Stored mantissa exponent) :=
  inferInstanceAs (Decidable (_ ∧ _ ∧ _ ∧ _))

/-- A finite number `± mantissa · 2 ^ exponent`.  Zero keeps its sign. -/
structure Binary64 where
  negative : Bool
  mantissa : Nat
  exponent : Int
  stored : Binary64.Stored mantissa exponent := by decide
  deriving DecidableEq, Repr

namespace Binary64

/-- Zero with the given sign. -/
def zero (negative : Bool) : Binary64 := ⟨negative, 0, -1074, by decide⟩

/-- The number with these parts, if the format stores them. -/
def ofParts? (negative : Bool) (mantissa : Nat) (exponent : Int) : Option Binary64 :=
  if h : Stored mantissa exponent then some ⟨negative, mantissa, exponent, h⟩ else none

/-- Is the number one of the two zeros? -/
def isZero (x : Binary64) : Bool := x.mantissa == 0

/-- The quotient `num / den · 2 ^ e`, again as a numerator and a denominator. -/
def shifted (num den : Nat) : Int → Nat × Nat
  | .ofNat e => (num * twoTo e, den)
  | .negSucc e => (num, den * twoTo (e + 1))

/-- The power of two of the last mantissa bit of a number near `num / den`: 53 bits from the
leading one, but never below the smallest unit of the format. -/
def lastBitExponent (num den : Nat) : Int :=
  let estimate : Int := (num.log2 : Int) - den.log2 - 52
  let (n, d) := shifted num den (-estimate)
  max (if n < twoTo 52 * d then estimate - 1 else estimate) (-1074)

/-- The number nearest to `± num / den`, ties to the even mantissa; `none` beyond the largest
finite number.  `den` is positive. -/
def nearest? (negative : Bool) (num den : Nat) : Option Binary64 :=
  if num = 0 then some (zero negative)
  else
    let exponent := lastBitExponent num den
    let (n, d) := shifted num den (-exponent)
    let mantissa := roundHalfEven n d
    if mantissa = twoTo 53 then ofParts? negative (twoTo 52) (exponent + 1)
    else ofParts? negative mantissa exponent

/-- The magnitude as an exact quotient of integers. -/
def ratio (x : Binary64) : Nat × Nat := shifted x.mantissa 1 x.exponent

/-! ## §3. Arithmetic: exact, then rounded once -/

/-- The rounded product. -/
def mul? (x y : Binary64) : Option Binary64 :=
  nearest? (x.negative != y.negative) (x.ratio.1 * y.ratio.1) (x.ratio.2 * y.ratio.2)

/-- The rounded quotient by a nonzero number. -/
def div? (x y : Binary64) : Option Binary64 :=
  nearest? (x.negative != y.negative) (x.ratio.1 * y.ratio.2) (x.ratio.2 * y.ratio.1)

/-- The number nearest to `10 ^ n`; the range of the format ends after `10 ^ 308`. -/
def powerOfTen? (n : Nat) : Option Binary64 := nearest? false (tenTo n) 1

/-- The same magnitude with the given sign. -/
def withSign (x : Binary64) (negative : Bool) : Binary64 := { x with negative }

/-! ## §4. Order: values as whole numbers of the smallest unit -/

/-- The exact value, counted in units of `2 ^ -1074`. -/
def units (x : Binary64) : Int :=
  let magnitude : Nat := x.mantissa * twoTo (x.exponent + 1074).toNat
  if x.negative then -(magnitude : Int) else magnitude

/-- Equality of values: the two zeros are equal. -/
def same (x y : Binary64) : Bool := x.units == y.units

end Binary64
end PagedTable
