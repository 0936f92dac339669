/-
  PagedTable.Proofs.Binary64.Rounding — rounding to 53 bits keeps the order of integers.

  Rounding a quotient to the nearest integer is monotone and gives back every multiple of the
  denominator.  Numbers of equally many bits are rounded with one denominator.  Between numbers of
  different lengths lies a power of two, which both roundings give back.

      roundHalfEven_mono        — one denominator
      roundTo53Bits_mono        — naturals
      roundIntTo53Bits_mono     — integers
      roundIntTo53Bits_of_le    — up to 2⁵³ nothing is rounded
-/
import PagedTable.Binary64

namespace PagedTable

/-! ## §1. Powers of two -/

/-- A power of two is positive. -/
theorem twoTo_pos (n : Nat) : 0 < twoTo n := Nat.pow_pos (by decide)

/-- Powers of two multiply by adding exponents. -/
theorem twoTo_sub_mul {k e : Nat} (h : k ≤ e) : twoTo (e - k) * twoTo k = twoTo e :=
  Nat.pow_sub_mul_pow 2 h

/-- A larger exponent makes a larger power. -/
theorem twoTo_le_twoTo {k e : Nat} (h : k ≤ e) : twoTo k ≤ twoTo e :=
  Nat.pow_le_pow_right (by decide) h

/-! ## §2. Rounding a quotient -/

section

variable {den : Nat} (pos : 0 < den)

include pos

/-- The rounded quotient is at least every integer that the quotient is at least. -/
theorem le_roundHalfEven {q n : Nat} (h : q * den ≤ n) : q ≤ roundHalfEven n den := by
  have floor : q ≤ n / den := (Nat.le_div_iff_mul_le pos).2 h
  unfold roundHalfEven
  dsimp only
  split
  · exact floor
  · split <;> omega

/-- The rounded quotient is at most every integer that the quotient is at most. -/
theorem roundHalfEven_le {q n : Nat} (h : n ≤ q * den) : roundHalfEven n den ≤ q := by
  have floor : n / den ≤ q := Nat.div_le_of_le_mul (by rwa [Nat.mul_comm] at h)
  -- Only an exact quotient reaches `q`, and it leaves nothing to round.
  have exact_of_eq : n / den = q → n % den = 0 := by
    rintro rfl
    have parts := Nat.div_add_mod n den
    rw [Nat.mul_comm] at h
    omega
  unfold roundHalfEven
  dsimp only
  split
  · exact floor
  · split <;> omega

/-- **Rounding with one denominator is monotone.** -/
theorem roundHalfEven_mono {m n : Nat} (h : m ≤ n) :
    roundHalfEven m den ≤ roundHalfEven n den := by
  rcases Nat.lt_or_ge (m / den) (n / den) with below | above
  · -- The integer above the smaller quotient is at most the larger quotient.
    have up : m ≤ (m / den + 1) * den := by
      have parts := Nat.div_add_mod m den
      have rest := Nat.mod_lt m pos
      rw [Nat.add_mul, Nat.mul_comm]
      omega
    have down : (m / den + 1) * den ≤ n := (Nat.le_div_iff_mul_le pos).1 below
    exact Nat.le_trans (roundHalfEven_le pos up) (le_roundHalfEven pos down)
  · have same : m / den = n / den := Nat.le_antisymm (Nat.div_le_div_right h) above
    have rests : m % den ≤ n % den := by
      have left := Nat.div_add_mod m den
      have right := Nat.div_add_mod n den
      rw [same] at left
      omega
    unfold roundHalfEven
    dsimp only
    rw [same]
    split
    · split
      · exact Nat.le_refl _
      · split <;> omega
    · split
      · -- The smaller rest is above the half, so the larger one is, too.
        refine Nat.le_of_eq ?_
        rw [if_neg (by omega), if_pos (by omega)]
      · rw [if_neg (by omega)]
        split <;> omega

end

/-! ## §3. Natural numbers -/

/-- A number that has at most as many bits to spare as a power of two, and is at most that power,
is rounded to at most the power. -/
theorem roundTo53Bits_le_twoTo {n e : Nat} (spare : n.log2 + 1 - 53 ≤ e) (h : n ≤ twoTo e) :
    roundTo53Bits n ≤ twoTo e := by
  have quotient : roundHalfEven n (twoTo (n.log2 + 1 - 53)) ≤ twoTo (e - (n.log2 + 1 - 53)) :=
    roundHalfEven_le (twoTo_pos _) (by rwa [twoTo_sub_mul spare])
  calc roundTo53Bits n
      ≤ twoTo (e - (n.log2 + 1 - 53)) * twoTo (n.log2 + 1 - 53) :=
        Nat.mul_le_mul_right _ quotient
    _ = twoTo e := twoTo_sub_mul spare

/-- A number that has at most as many bits to spare as a power of two, and is at least that power,
is rounded to at least the power. -/
theorem twoTo_le_roundTo53Bits {n e : Nat} (spare : n.log2 + 1 - 53 ≤ e) (h : twoTo e ≤ n) :
    twoTo e ≤ roundTo53Bits n := by
  have quotient : twoTo (e - (n.log2 + 1 - 53)) ≤ roundHalfEven n (twoTo (n.log2 + 1 - 53)) :=
    le_roundHalfEven (twoTo_pos _) (by rwa [twoTo_sub_mul spare])
  calc twoTo e = twoTo (e - (n.log2 + 1 - 53)) * twoTo (n.log2 + 1 - 53) :=
        (twoTo_sub_mul spare).symm
    _ ≤ roundTo53Bits n := Nat.mul_le_mul_right _ quotient

/-- A larger number has at least as many bits. -/
theorem log2_le_log2 {m n : Nat} (h : m ≤ n) : m.log2 ≤ n.log2 := by
  by_cases zero : m = 0
  · subst zero
    exact Nat.zero_le _
  · exact (Nat.le_log2 (by omega)).2 (Nat.le_trans (Nat.log2_self_le zero) h)

/-- **Rounding to 53 bits is monotone.** -/
theorem roundTo53Bits_mono {m n : Nat} (h : m ≤ n) : roundTo53Bits m ≤ roundTo53Bits n := by
  rcases Nat.eq_or_lt_of_le (log2_le_log2 h) with same | shorter
  · unfold roundTo53Bits
    dsimp only
    rw [same]
    exact Nat.mul_le_mul_right _ (roundHalfEven_mono (twoTo_pos _) h)
  · -- The leading bit of the longer number is a power of two between the two.
    have positive : n ≠ 0 := by
      rintro rfl
      exact Nat.not_lt_zero _ shorter
    have above : twoTo n.log2 ≤ n := Nat.log2_self_le positive
    have below : m ≤ twoTo n.log2 :=
      Nat.le_of_lt (Nat.lt_of_lt_of_le Nat.lt_log2_self (twoTo_le_twoTo shorter))
    exact Nat.le_trans (roundTo53Bits_le_twoTo (by omega) below)
      (twoTo_le_roundTo53Bits (by omega) above)

/-- **Up to 2⁵³ nothing is rounded.** -/
theorem roundTo53Bits_of_le {n : Nat} (h : n ≤ twoTo 53) : roundTo53Bits n = n := by
  rcases Nat.eq_or_lt_of_le h with rfl | below
  · have spare : (twoTo 53).log2 + 1 - 53 ≤ 53 := by decide
    exact Nat.le_antisymm (roundTo53Bits_le_twoTo spare (Nat.le_refl _))
      (twoTo_le_roundTo53Bits spare (Nat.le_refl _))
  · have spare : n.log2 + 1 - 53 = 0 := by
      by_cases zero : n = 0
      · subst zero
        decide
      · have bits := (Nat.log2_lt zero).2 below
        omega
    unfold roundTo53Bits
    dsimp only
    have one : twoTo 0 = 1 := rfl
    rw [spare, one, Nat.mul_one]
    exact Nat.le_antisymm (roundHalfEven_le Nat.one_pos (by omega))
      (le_roundHalfEven Nat.one_pos (by omega))

/-! ## §4. Integers -/

/-- The rounding of a natural number, as an integer. -/
theorem roundIntTo53Bits_natCast (n : Nat) : roundIntTo53Bits n = roundTo53Bits n := rfl

/-- The rounding of the negative of a natural number. -/
theorem roundIntTo53Bits_neg (n : Nat) : roundIntTo53Bits (-n) = -(roundTo53Bits n : Int) := by
  cases n with
  | zero => rfl
  | succ n => rfl

/-- **Rounding keeps the order of integers.** -/
theorem roundIntTo53Bits_mono {m n : Int} (h : m ≤ n) :
    roundIntTo53Bits m ≤ roundIntTo53Bits n := by
  obtain ⟨a, rfl | rfl⟩ := Int.eq_nat_or_neg m <;> obtain ⟨b, rfl | rfl⟩ := Int.eq_nat_or_neg n
  · exact Int.ofNat_le.2 (roundTo53Bits_mono (Int.ofNat_le.1 h))
  · -- A natural number below a negative one: both are zero.
    obtain ⟨rfl, rfl⟩ : a = 0 ∧ b = 0 := by omega
    exact Int.le_refl _
  · rw [roundIntTo53Bits_natCast, roundIntTo53Bits_neg]
    omega
  · have mirrored := roundTo53Bits_mono (m := b) (n := a) (by omega)
    rw [roundIntTo53Bits_neg, roundIntTo53Bits_neg]
    omega

/-- **Integers of magnitude up to 2⁵³ are not rounded.** -/
theorem roundIntTo53Bits_of_le {n : Int} (h : n.natAbs ≤ twoTo 53) : roundIntTo53Bits n = n := by
  obtain ⟨a, rfl | rfl⟩ := Int.eq_nat_or_neg n
  · rw [roundIntTo53Bits_natCast, roundTo53Bits_of_le (by omega)]
  · rw [roundIntTo53Bits_neg, roundTo53Bits_of_le (by omega)]

end PagedTable
