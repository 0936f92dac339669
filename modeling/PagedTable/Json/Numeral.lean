/-
  PagedTable.Json.Numeral — number literals and the numbers they denote.

  A literal without fraction and exponent that lies in -2⁶³ … 2⁶⁴-1 is an integer; `-0` and
  everything else is a float.  The float is computed in two roundings: the digits are gathered
  into a significand for as long as it stays below 2⁶⁴ (later digits only count places), the
  significand is rounded to a float, and the result is multiplied or divided by a rounded power
  of ten.  A literal beyond the largest float denotes nothing.

  Main interface: `Numeral.ofChars?` (the grammar) and `Numeral.value?` (the number).
-/
import PagedTable.Json.Basic

namespace PagedTable

/-- A number literal, taken apart. -/
structure Numeral where
  negative : Bool
  whole : List Nat
  /-- The digits after the point, if there is a point. -/
  fraction : Option (List Nat)
  /-- The sign (`true` for minus) and the digits of the exponent, if there is one. -/
  exponent : Option (Bool × List Nat)
  deriving DecidableEq, Repr

namespace Numeral

/-! ## §1. Grammar -/

/-- The leading digits of a text and what follows them. -/
def spanDigits (cs : List Char) : List Nat × List Char :=
  ((cs.takeWhile Char.isDigit).map fun c => c.toNat - '0'.toNat, cs.dropWhile Char.isDigit)

/-- An exponent part, which ends the literal. -/
def exponentOf? (cs : List Char) : Option (Bool × List Nat) :=
  let (minus, digits) : Bool × List Char :=
    match cs with
    | '+' :: rest => (false, rest)
    | '-' :: rest => (true, rest)
    | rest => (false, rest)
  match spanDigits digits with
  | (ds@(_ :: _), []) => some (minus, ds)
  | _ => none

/-- The exponent part after the digits, if there is more. -/
def withExponent? (n : Numeral) : List Char → Option Numeral
  | [] => some n
  | c :: rest =>
    if c = 'e' ∨ c = 'E' then (exponentOf? rest).map fun e => { n with exponent := some e } else none

/-- Reads a whole text as a number literal: a minus sign or none, digits without a needless
leading zero, then a point with digits or none, then an exponent or none. -/
def ofChars? (cs : List Char) : Option Numeral :=
  let (negative, unsigned) : Bool × List Char :=
    match cs with
    | '-' :: rest => (true, rest)
    | rest => (false, rest)
  match spanDigits unsigned with
  | ([], _) => none
  | (0 :: _ :: _, _) => none
  | (whole, '.' :: rest) =>
    match spanDigits rest with
    | ([], _) => none
    | (fraction, rest) => withExponent? ⟨negative, whole, some fraction, none⟩ rest
  | (whole, rest) => withExponent? ⟨negative, whole, none, none⟩ rest

/-! ## §2. Value -/

/-- Appends digits to a significand while it stays below 2⁶⁴; the digits left over come back. -/
def gather (significand : Nat) : List Nat → Nat × List Nat
  | [] => (significand, [])
  | d :: ds =>
    let next := significand * 10 + d
    if next < twoTo 64 then gather next ds else (significand, d :: ds)

/-- The number that digits denote. -/
def ofDigits (ds : List Nat) : Nat := ds.foldl (fun n d => n * 10 + d) 0

/-- Divides by `10 ^ places`, in steps of at most `10 ^ 308`. -/
def divideByTens (x : Binary64) (places : Nat) : Option Binary64 :=
  if places ≤ 308 then (Binary64.powerOfTen? places).bind x.div?
  else if x.isZero then some x
  else
    ((Binary64.powerOfTen? 308).bind x.div?).bind fun smaller =>
      divideByTens smaller (places - 308)
termination_by places

/-- The float nearest to a significand, scaled by a power of ten. -/
def scaled? (negative : Bool) (significand : Nat) (exponent : Int) : Option Binary64 :=
  ((Binary64.nearest? false significand 1).bind (scale · exponent)).map (·.withSign negative)
where
  scale (x : Binary64) : Int → Option Binary64
    | .ofNat e =>
      if e ≤ 308 then (Binary64.powerOfTen? e).bind x.mul?
      else if x.isZero then some x else none
    | .negSucc e => divideByTens x (e + 1)

/-- The value of a literal that is not an integer.  Digits of the whole part that the significand
has no room for raise the exponent, digits of the fraction that it has room for lower it. -/
def float? (n : Numeral) : Option Binary64 :=
  let (whole, leftOver) := gather 0 n.whole
  let fraction := n.fraction.getD []
  let (significand, unused) := gather whole fraction
  let places : Int := (leftOver.length : Int) - ((fraction.length - unused.length : Nat) : Int)
  match n.exponent with
  | none => scaled? n.negative significand places
  | some (minus, digits) =>
    let e := ofDigits digits
    if twoTo 31 ≤ e then
      if significand ≠ 0 ∧ !minus then none else some (Binary64.zero n.negative)
    else scaled? n.negative significand (if minus then places - e else places + e)

/-- The number a literal denotes. -/
def value? (n : Numeral) : Option Number :=
  let (whole, leftOver) := gather 0 n.whole
  if n.fraction.isNone ∧ n.exponent.isNone ∧ leftOver.isEmpty ∧
      (!n.negative ∨ (0 < whole ∧ whole ≤ twoTo 63)) then
    some (.int (if n.negative then -(whole : Int) else whole))
  else n.float?.map .float

end Numeral
end PagedTable
