/-
  PagedTable.Proofs.Json.Integers — integers of 64 bits survive being written and read.

  The digits of a natural number have no needless zero in front, so they are a number literal
  without fraction and exponent.  Its digits are gathered one by one, and since the number they
  denote stays below 2⁶⁴ none is left over: the literal denotes the integer that was written and
  not a rounded float.

      decimal_eq_cons        — only the number zero is written with a zero in front
      gather_digitValues     — below 2⁶⁴ gathering is exact
      ofChars?_decimalInt    — decimal text is a literal
      value?_decimalInt      — ... that denotes the integer
-/
import PagedTable.Json.Numeral
import PagedTable.Json.Printer
import Mathlib.Data.List.TakeWhile

namespace PagedTable

/-- The integers that fit into 64 bits, with a sign or without. -/
def IsWord (n : Int) : Prop := -(twoTo 63 : Int) ≤ n ∧ n < twoTo 64

namespace Numeral

/-! ## §1. Decimal digits -/

/-- What the digits of a text are worth. -/
def digitValues (cs : List Char) : List Nat := cs.map fun c => c.toNat - '0'.toNat

/-- Decimal text is made of digits. -/
theorem isDigit_of_mem_decimal {n : Nat} {c : Char} (h : c ∈ decimal n) : c.isDigit = true :=
  Nat.isDigit_of_mem_toDigits (by decide) (by decide) h

/-- The first digit of a positive number is not worth nothing. -/
theorem exists_decimal_of_pos {n : Nat} (h : 0 < n) :
    ∃ d rest, decimal n = d :: rest ∧ d.toNat - '0'.toNat ≠ 0 := by
  -- The digits of `n` are those of `n / 10` and one more.
  induction n using Nat.strongRecOn with
  | ind n ih =>
      by_cases small : n < 10
      · refine ⟨Nat.digitChar n, [], Nat.toDigits_of_lt_base small, ?_⟩
        have worth := Nat.toNat_digitChar_of_lt_ten small
        have zero : '0'.toNat = 48 := rfl
        omega
      · obtain ⟨d, rest, shape, nonzero⟩ := ih (n / 10) (by omega) (by omega)
        refine ⟨d, rest ++ [Nat.digitChar (n % 10)], ?_, nonzero⟩
        have last : decimal n = decimal (n / 10) ++ [Nat.digitChar (n % 10)] :=
          Nat.toDigits_of_base_le (by decide) (by omega)
        rw [last, shape, List.cons_append]

/-- Only zero is written with a zero in front, and then with nothing behind it. -/
theorem decimal_eq_cons (n : Nat) :
    ∃ d rest, decimal n = d :: rest ∧ (d.toNat - '0'.toNat = 0 → rest = []) := by
  rcases Nat.eq_zero_or_pos n with rfl | positive
  · exact ⟨'0', [], rfl, fun _ => rfl⟩
  · obtain ⟨d, rest, shape, nonzero⟩ := exists_decimal_of_pos positive
    exact ⟨d, rest, shape, fun zero => absurd zero nonzero⟩

/-! ## §2. Decimal text is a literal -/

/-- A text of digits is spanned by its digits. -/
theorem spanDigits_of_isDigit {cs : List Char} (h : ∀ c ∈ cs, c.isDigit = true) :
    spanDigits cs = (digitValues cs, []) := by
  have all : cs.takeWhile Char.isDigit = cs := List.takeWhile_eq_self_iff.2 h
  have none_left : cs.dropWhile Char.isDigit = [] := List.dropWhile_eq_nil_iff.2 h
  rw [spanDigits, all, none_left]
  rfl

/-- Digits without a needless zero in front are a literal, after a minus sign or without. -/
theorem ofChars?_digits {cs : List Char} {first : Nat} {others : List Nat}
    (span : spanDigits cs = (first :: others, [])) (plain : first = 0 → others = [])
    (unsigned : ∀ rest, cs ≠ '-' :: rest) :
    ofChars? cs = some ⟨false, first :: others, none, none⟩ ∧
    ofChars? ('-' :: cs) = some ⟨true, first :: others, none, none⟩ := by
  -- The grammar tells the literal `0` from a zero with digits behind it.
  have shape : first = 0 ∧ others = [] ∨ ∃ k, first = k + 1 := by
    cases first with
    | zero => exact .inl ⟨rfl, plain rfl⟩
    | succ k => exact .inr ⟨k, rfl⟩
  constructor
  · unfold ofChars?
    split
    next sign =>
      split at sign
      · exact absurd rfl (unsigned _)
      · cases sign
        rw [span]
        obtain ⟨rfl, rfl⟩ | ⟨k, rfl⟩ := shape <;> rfl
  · unfold ofChars?
    simp only [span]
    obtain ⟨rfl, rfl⟩ | ⟨k, rfl⟩ := shape <;> rfl

/-- The text of an integer is a literal: its sign and its digits. -/
theorem ofChars?_decimalInt (n : Int) :
    ofChars? (decimalInt n) =
      some ⟨decide (n < 0), digitValues (decimal n.natAbs), none, none⟩ := by
  obtain ⟨d, rest, shape, plain⟩ := decimal_eq_cons n.natAbs
  have digits : ∀ c ∈ decimal n.natAbs, c.isDigit = true := fun c => isDigit_of_mem_decimal
  have span : spanDigits (decimal n.natAbs) = (digitValues (d :: rest), []) :=
    shape ▸ spanDigits_of_isDigit digits
  have unsigned : ∀ rest, decimal n.natAbs ≠ '-' :: rest := by
    intro rest starts
    have digit : '-'.isDigit = true := digits '-' (by simp [starts])
    exact absurd digit (by decide)
  have literal := ofChars?_digits span (fun zero => by rw [plain zero]; rfl) unsigned
  rw [shape]
  cases n with
  | ofNat k => exact literal.1
  | negSucc k =>
      rw [decide_eq_true (Int.negSucc_lt_zero k)]
      exact literal.2

/-! ## §3. The literal denotes the integer -/

/-- Digits only make a number larger. -/
theorem le_ofDigitChars (cs : List Char) (n : Nat) : n ≤ Nat.ofDigitChars 10 cs n := by
  rw [Nat.ofDigitChars_eq_ofDigitChars_zero]
  have : n ≤ 10 ^ cs.length * n := Nat.le_mul_of_pos_left n (Nat.pow_pos (by decide))
  omega

/-- While the number stays below 2⁶⁴ all digits are gathered. -/
theorem gather_digitValues {cs : List Char} {significand : Nat}
    (h : Nat.ofDigitChars 10 cs significand < twoTo 64) :
    gather significand (digitValues cs) = (Nat.ofDigitChars 10 cs significand, []) := by
  induction cs generalizing significand with
  | nil => rfl
  | cons c rest ih =>
      rw [Nat.ofDigitChars_cons, Nat.mul_comm] at h ⊢
      have fits : significand * 10 + (c.toNat - '0'.toNat) < twoTo 64 :=
        Nat.lt_of_le_of_lt (le_ofDigitChars rest _) h
      show gather significand (_ :: digitValues rest) = _
      rw [gather, if_pos fits, ih h]

/-- A literal of the digits of a number below 2⁶⁴ denotes the number, and with a minus sign its
negative, unless that is zero or below -2⁶³. -/
theorem value?_digitValues (negative : Bool) {n : Nat} (below : n < twoTo 64)
    (signed : negative = true → 0 < n ∧ n ≤ twoTo 63) :
    value? ⟨negative, digitValues (decimal n), none, none⟩ =
      some (.int (if negative then -(n : Int) else n)) := by
  have whole : Nat.ofDigitChars 10 (decimal n) 0 = n :=
    Nat.ofDigitChars_toDigits (by decide) (by decide)
  have gathered : gather 0 (digitValues (decimal n)) = (n, []) := by
    rw [gather_digitValues (by rwa [whole]), whole]
  have exact : !negative ∨ 0 < n ∧ n ≤ twoTo 63 := by
    cases negative with
    | false => exact .inl rfl
    | true => exact .inr (signed rfl)
  unfold value?
  rw [gathered]
  exact if_pos ⟨rfl, rfl, rfl, exact⟩

/-- **An integer of 64 bits is what its text denotes.** -/
theorem value?_decimalInt {n : Int} (h : IsWord n) :
    (ofChars? (decimalInt n)).map value? = some (some (.int n)) := by
  have below : n.natAbs < twoTo 64 := by
    have half : twoTo 63 < twoTo 64 := by decide
    have ⟨low, high⟩ := h
    omega
  have signed : decide (n < 0) = true → 0 < n.natAbs ∧ n.natAbs ≤ twoTo 63 := by
    intro negative
    have lt : n < 0 := of_decide_eq_true negative
    have low := h.1
    omega
  have abs : (if decide (n < 0) = true then -(n.natAbs : Int) else n.natAbs) = n := by
    split
    · next negative =>
      have lt : n < 0 := of_decide_eq_true negative
      omega
    · next nonneg =>
      have ge : ¬ n < 0 := fun lt => nonneg (decide_eq_true lt)
      omega
  rw [ofChars?_decimalInt, Option.map_some, value?_digitValues _ below signed, abs]

end Numeral
end PagedTable
