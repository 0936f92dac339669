/-
  PagedTable.Proofs.Json.Comparison — how far the order of values is an order.

  Comparing the other way round always gives the reverse.  Values of different kinds are ordered
  by kind, and truth values and strings by their own order.  Numbers are compared in two ways: two
  integers that fit in 64 bits with a sign (words) exactly, all others after rounding to floats.
  Rounding keeps the order of words, but it makes neighbours equal: a number that is no word and
  is the rounding of two words `n < m` ties with both, so `m ≤ y` and `y ≤ n` hold and `m ≤ n`
  does not.  This is the only way in which transitivity fails.

      units_le_of_isLE                  — both ways of comparing keep the order of the roundings
      Number.isLE_trans                 — numbers
      Json.isLE_trans                   — values
      Json.compare_preorder_iff         — reversal, and exactly when transitivity holds
      Json.isLE_trans_of_exact          — no integer beyond 2⁵³ at the ends: it does
-/
import PagedTable.Json.Order
import PagedTable.Proofs.Binary64.Rounding

namespace PagedTable

/-! ## §1. Numbers -/

namespace Number

/-- The integer that a number is, if it fits in 64 bits with a sign. -/
def word? : Number → Option Int
  | .int n => if fitsWord n then some n else none
  | .float _ => none

/-- The number is no word, but it is the rounding of two words, the first of which is greater. -/
def Blurs (y x z : Number) : Prop :=
  ∃ m n, x.word? = some m ∧ z.word? = some n ∧ n < m ∧
    y.word? = none ∧ x.units = y.units ∧ z.units = y.units

variable {x y z : Number} {m n : Int}

/-- A word is an integer that fits. -/
theorem word?_eq_some_iff : x.word? = some n ↔ x = .int n ∧ fitsWord n = true := by
  cases x with
  | float _ => simp [word?]
  | int k =>
      by_cases fits : fitsWord k = true
      · simp only [word?, fits, if_true, Option.some.injEq, Number.int.injEq]
        exact ⟨fun eq => ⟨eq, eq ▸ fits⟩, And.left⟩
      · simp only [word?, fits, Number.int.injEq]
        exact ⟨fun eq => (nomatch eq), fun ⟨eq, fits'⟩ => absurd (eq ▸ fits') fits⟩

/-- Words compare exactly. -/
theorem compare_of_words (hx : x.word? = some m) (hy : y.word? = some n) :
    x.compare y = Ord.compare m n := by
  obtain ⟨rfl, left⟩ := word?_eq_some_iff.1 hx
  obtain ⟨rfl, right⟩ := word?_eq_some_iff.1 hy
  rw [Number.compare, left, right]
  rfl

/-- Numbers that are not both words compare after rounding. -/
theorem compare_of_not_word (h : x.word? = none ∨ y.word? = none) :
    x.compare y = Ord.compare x.units y.units := by
  cases x with
  | float _ => rfl
  | int m =>
      cases y with
      | float _ => rfl
      | int n =>
          have unfit : (fitsWord m && fitsWord n) = false := by
            rcases h with h | h
            · have : fitsWord m = false := by simpa [word?] using h
              rw [this, Bool.false_and]
            · have : fitsWord n = false := by simpa [word?] using h
              rw [this, Bool.and_false]
          rw [Number.compare, unfit]
          rfl

/-- Both ways to compare give the reverse the other way round. -/
theorem compare_swap (x y : Number) : y.compare x = (x.compare y).swap := by
  cases hx : x.word? with
  | none =>
      rw [compare_of_not_word (.inl hx), compare_of_not_word (.inr hx)]
      exact Std.OrientedOrd.eq_swap
  | some m =>
      cases hy : y.word? with
      | none =>
          rw [compare_of_not_word (.inr hy), compare_of_not_word (.inl hy)]
          exact Std.OrientedOrd.eq_swap
      | some n =>
          rw [compare_of_words hx hy, compare_of_words hy hx]
          exact Std.OrientedOrd.eq_swap

/-- Rounding keeps the order of words. -/
theorem units_le_of_le (hx : x.word? = some m) (hy : y.word? = some n) (h : m ≤ n) :
    x.units ≤ y.units := by
  obtain ⟨rfl, -⟩ := word?_eq_some_iff.1 hx
  obtain ⟨rfl, -⟩ := word?_eq_some_iff.1 hy
  exact Int.mul_le_mul_of_nonneg_right (roundIntTo53Bits_mono h) (Int.natCast_nonneg _)

/-- **Numbers in order are in order after rounding.** -/
theorem units_le_of_isLE (h : (x.compare y).isLE) : x.units ≤ y.units := by
  cases hx : x.word? with
  | none =>
      rw [compare_of_not_word (.inl hx)] at h
      exact Int.isLE_compare.1 h
  | some m =>
      cases hy : y.word? with
      | none =>
          rw [compare_of_not_word (.inr hy)] at h
          exact Int.isLE_compare.1 h
      | some n =>
          rw [compare_of_words hx hy] at h
          exact units_le_of_le hx hy (Int.isLE_compare.1 h)

/-- **The order of numbers is transitive where the middle does not blur the ends.** -/
theorem isLE_trans (hxy : (x.compare y).isLE) (hyz : (y.compare z).isLE) (clear : ¬ y.Blurs x z) :
    (x.compare z).isLE := by
  have left := units_le_of_isLE hxy
  have right := units_le_of_isLE hyz
  have rounded : (Ord.compare x.units z.units).isLE := Int.isLE_compare.2 (Int.le_trans left right)
  cases hx : x.word? with
  | none => rwa [compare_of_not_word (.inl hx)]
  | some m =>
      cases hz : z.word? with
      | none => rwa [compare_of_not_word (.inr hz)]
      | some n =>
          rw [compare_of_words hx hz, Int.isLE_compare]
          by_cases before : m ≤ n
          · exact before
          have after : n < m := Int.not_le.1 before
          cases hy : y.word? with
          | some k =>
              -- Three words compare exactly.
              rw [compare_of_words hx hy, Int.isLE_compare] at hxy
              rw [compare_of_words hy hz, Int.isLE_compare] at hyz
              exact Int.le_trans hxy hyz
          | none =>
              -- The roundings of the ends are in both orders, so the middle is equal to them.
              have back := units_le_of_le hz hx (Int.le_of_lt after)
              exact absurd ⟨m, n, hx, hz, after, hy, by omega, by omega⟩ clear

/-- Where the middle blurs the ends, it ties with them, and they are not in order. -/
theorem Blurs.not_trans (h : y.Blurs x z) :
    x.compare y = .eq ∧ y.compare z = .eq ∧ x.compare z = .gt := by
  obtain ⟨m, n, hx, hz, after, hy, left, right⟩ := h
  refine ⟨?_, ?_, ?_⟩
  · rw [compare_of_not_word (.inr hy), Int.compare_eq_eq, left]
  · rw [compare_of_not_word (.inl hy), Int.compare_eq_eq, right]
  · rw [compare_of_words hx hz, Int.compare_eq_gt]
    exact after

end Number

/-! ## §2. Values -/

namespace Json

/-- The three values are numbers, and the first is the rounding of the two others. -/
def Blurs (b a c : Json) : Prop :=
  ∃ x y z, a = .num x ∧ b = .num y ∧ c = .num z ∧ y.Blurs x z

variable {a b c : Json}

/-- **Comparing the other way round gives the reverse.** -/
theorem compare_swap (a b : Json) : b.compare a = (a.compare b).swap := by
  cases a <;> cases b <;>
    first
    | rfl
    | exact Std.OrientedOrd.eq_swap
    | exact Number.compare_swap _ _

/-- Values of different kinds compare as their kinds. -/
theorem compare_of_kind_ne (h : a.kind ≠ b.kind) :
    a.compare b = Ord.compare a.kind.rank b.kind.rank := by
  cases a <;> cases b <;> first | rfl | exact absurd rfl h

/-- No two kinds have the same rank. -/
theorem rank_injective {k l : Kind} (h : k.rank = l.rank) : k = l := by
  cases k <;> cases l <;> first | rfl | exact nomatch h

/-- Values in order are of kinds in order. -/
theorem rank_le_of_isLE (h : (a.compare b).isLE) : a.kind.rank ≤ b.kind.rank := by
  by_cases same : a.kind = b.kind
  · exact Nat.le_of_eq (congrArg Kind.rank same)
  · rw [compare_of_kind_ne same] at h
    exact Nat.isLE_compare.1 h

/-- **The order of values is transitive where the middle does not blur the ends.** -/
theorem isLE_trans (hab : (a.compare b).isLE) (hbc : (b.compare c).isLE) (clear : ¬ b.Blurs a c) :
    (a.compare c).isLE := by
  have left := rank_le_of_isLE hab
  have right := rank_le_of_isLE hbc
  by_cases ends : a.kind = c.kind
  · -- All three are of one kind.
    have first : a.kind = b.kind := rank_injective (by rw [ends] at left ⊢; omega)
    have last : b.kind = c.kind := first ▸ ends
    cases a <;> cases b <;> cases first <;> cases c <;> cases last
    · rfl
    · exact Std.TransOrd.isLE_trans hab hbc
    · exact Number.isLE_trans hab hbc fun blurs => clear ⟨_, _, _, rfl, rfl, rfl, blurs⟩
    · exact Std.TransOrd.isLE_trans hab hbc
    · rfl
    · rfl
  · rw [compare_of_kind_ne ends]
    exact Nat.isLE_compare.2 (Nat.le_trans left right)

/-- **The order of values is a total preorder, but for blurring.**  Comparing two values the other
way round gives the reverse, and of three values `a ≤ b` and `b ≤ c` give `a ≤ c` exactly if `b`
is not the common rounding of two integers `a > c`. -/
theorem compare_preorder_iff (a b c : Json) :
    b.compare a = (a.compare b).swap ∧
    ((a.compare b ≠ .gt → b.compare c ≠ .gt → a.compare c ≠ .gt) ↔ ¬ b.Blurs a c) := by
  refine ⟨compare_swap a b, ⟨?_, fun clear hab hbc => ?_⟩⟩
  · rintro transitive ⟨x, y, z, rfl, rfl, rfl, blurs⟩
    obtain ⟨left, right, ends⟩ := blurs.not_trans
    refine transitive ?_ ?_ ends
    · exact fun greater => nomatch left.symm.trans greater
    · exact fun greater => nomatch right.symm.trans greater
  · exact Ordering.isLE_iff_ne_gt.1
      (isLE_trans (Ordering.isLE_iff_ne_gt.2 hab) (Ordering.isLE_iff_ne_gt.2 hbc) clear)

/-- **The order of values is no total preorder.**  The float `2⁵³` ties with the integers `2⁵³ + 1`
and `2⁵³`, of which the first is greater. -/
theorem compare_not_preorder :
    ¬ ((∀ a b : Json, b.compare a = (a.compare b).swap) ∧
      ∀ a b c : Json, a.compare b ≠ .gt → b.compare c ≠ .gt → a.compare c ≠ .gt) := by
  intro ⟨_, transitive⟩
  exact transitive (.int 9007199254740993) (.num (.float ⟨false, 4503599627370496, 1, by decide⟩))
    (.int 9007199254740992) (by decide +kernel) (by decide +kernel) (by decide +kernel)

/-! ## §3. Exact values -/

/-- Is the value anything but an integer of magnitude above `2⁵³`? -/
def Exact : Json → Prop
  | .num (.int n) => n.natAbs ≤ twoTo 53
  | _ => True

instance (v : Json) : Decidable v.Exact :=
  match v with
  | .num (.int n) => inferInstanceAs (Decidable (n.natAbs ≤ twoTo 53))
  | .num (.float _) | .null | .bool _ | .str _ | .arr _ | .obj _ => .isTrue trivial

/-- Exact values are not blurred: rounding does not change them. -/
theorem not_blurs_of_exact (ha : a.Exact) (hc : c.Exact) : ¬ b.Blurs a c := by
  rintro ⟨x, y, z, rfl, rfl, rfl, m, n, hx, hz, after, -, left, right⟩
  obtain ⟨rfl, -⟩ := Number.word?_eq_some_iff.1 hx
  obtain ⟨rfl, -⟩ := Number.word?_eq_some_iff.1 hz
  have same : m * twoTo 1074 = n * twoTo 1074 := by
    have rounded := left.trans right.symm
    rwa [Number.units, Number.units, roundIntTo53Bits_of_le ha, roundIntTo53Bits_of_le hc] at rounded
  have positive := twoTo_pos 1074
  have eq := Int.eq_of_mul_eq_mul_right (by omega) same
  omega

/-- **The order of exact values is transitive.** -/
theorem isLE_trans_of_exact (ha : a.Exact) (hc : c.Exact) (hab : (a.compare b).isLE)
    (hbc : (b.compare c).isLE) : (a.compare c).isLE :=
  isLE_trans hab hbc (not_blurs_of_exact ha hc)

end Json

end PagedTable
