/-
  PagedTable.Proofs.Query.FreeNames — the search for a free name always finds the first one.

  No name starts with a longer one.  With every copy of a padding that is not empty a candidate
  grows, so after as many copies as the longest name in use has bytes, and one more, it is longer
  than all of them:

      isFree_of_longer  — a candidate longer than all names in use is free
      isFree_padded     — so is one with enough copies of the padding
      isSome_freeName?  — the search gets as far as that, and finds a name
      freeName?_least   — it finds the one with the fewest copies of all, not only of those tried
-/
import Mathlib.Order.Bounds.Defs
import PagedTable.Proofs.Query.Freshness

namespace PagedTable

/-! ## §1. Sizes -/

/-- A name is at least as long as its beginnings. -/
theorem utf8ByteSize_le_of_startsWith {name beginning : String}
    (h : startsWith name beginning = true) : beginning.utf8ByteSize ≤ name.utf8ByteSize := by
  obtain ⟨rest, split⟩ := (startsWith_iff name beginning).1 h
  have joined : name = beginning ++ String.ofList rest := by
    rw [← String.toList_inj, String.toList_append, String.toList_ofList, split]
  rw [joined, String.utf8ByteSize_append]
  exact Nat.le_add_right _ _

/-- A maximum is at least what it starts from, and at least every number of the list. -/
theorem le_foldl_max (sizes : List Nat) (start : Nat) :
    start ≤ sizes.foldl max start ∧ ∀ size ∈ sizes, size ≤ sizes.foldl max start := by
  induction sizes generalizing start with
  | nil => exact ⟨Nat.le_refl start, fun _ mem => absurd mem List.not_mem_nil⟩
  | cons first rest ih =>
      obtain ⟨fromStart, fromRest⟩ := ih (max start first)
      rw [List.foldl_cons]
      refine ⟨Nat.le_trans (Nat.le_max_left start first) fromStart, fun size mem => ?_⟩
      rcases List.mem_cons.1 mem with rfl | mem
      · exact Nat.le_trans (Nat.le_max_right start size) fromStart
      · exact fromRest size mem

/-- No name in use is longer than the longest. -/
theorem utf8ByteSize_le_longest {name : String} {names : List String} (h : name ∈ names) :
    name.utf8ByteSize ≤ longest names :=
  (le_foldl_max (names.map String.utf8ByteSize) 0).2 _ (List.mem_map_of_mem h)

/-- Every copy of the padding adds its size. -/
theorem utf8ByteSize_padded (field padding : String) (n : Nat) :
    (padded field padding n).utf8ByteSize = field.utf8ByteSize + n * padding.utf8ByteSize := by
  induction n with
  | zero => simp [padded]
  | succ n ih => rw [padded, String.utf8ByteSize_append, ih, Nat.succ_mul, Nat.add_assoc]

/-! ## §2. The search -/

/-- **What is longer than all names in use is free.** -/
theorem isFree_of_longer {inUse : List String} {candidate : String}
    (longer : longest inUse < candidate.utf8ByteSize) : isFree inUse candidate = true := by
  refine List.all_eq_true.2 fun name mem => ?_
  rw [Bool.not_eq_true']
  by_contra starts
  have shorter := utf8ByteSize_le_of_startsWith (Bool.not_eq_false _ ▸ starts)
  have bounded := utf8ByteSize_le_longest mem
  omega

/-- **A field with enough copies of a padding behind it is free.** -/
theorem isFree_padded (inUse : List String) (field : String) {padding : String}
    (nonempty : padding ≠ "") {n : Nat} (enough : longest inUse < n) :
    isFree inUse (padded field padding n) = true := by
  apply isFree_of_longer
  have size : 1 ≤ padding.utf8ByteSize := by
    rw [Nat.one_le_iff_ne_zero]
    exact fun none => nonempty (String.utf8ByteSize_eq_zero_iff.1 none)
  have copies : n ≤ n * padding.utf8ByteSize := Nat.le_mul_of_pos_right n size
  rw [utf8ByteSize_padded]
  omega

/-- **The search finds a name.** -/
theorem isSome_freeName? (inUse : List String) (field : String) {padding : String}
    (nonempty : padding ≠ "") : (freeName? inUse field padding).isSome = true := by
  rw [freeName?, Option.isSome_map, List.find?_isSome]
  exact ⟨longest inUse + 1, List.mem_range.2 (Nat.lt_succ_self _),
    isFree_padded inUse field nonempty (Nat.lt_succ_self _)⟩

/-- A padding that can be part of a name is not empty. -/
theorem nonempty_of_usable {padding : String} (h : paddingFault? padding = none) :
    padding ≠ "" := by
  rintro rfl
  exact absurd h (by decide)

/-! ## §3. The fewest copies -/

/-- A candidate is free when it begins no name in use. -/
theorem isFree_iff (inUse : List String) (candidate : String) :
    isFree inUse candidate = true ↔ ∀ name ∈ inUse, ¬ candidate.toList <+: name.toList := by
  rw [isFree, List.all_eq_true]
  refine forall₂_congr fun name _ => ?_
  rw [Bool.not_eq_true', ← Bool.not_eq_true, startsWith_iff]

/-- The numbers of copies of a padding with which a field begins no name in use. -/
def freeCopies (inUse : List String) (field padding : String) : Set Nat :=
  {n | ∀ name ∈ inUse, ¬ (padded field padding n).toList <+: name.toList}

theorem mem_freeCopies_iff {inUse : List String} {field padding : String} {n : Nat} :
    n ∈ freeCopies inUse field padding ↔ isFree inUse (padded field padding n) = true :=
  (isFree_iff inUse (padded field padding n)).symm

/-- The search finds the first free candidate, if it is among those that are tried: as many as
the longest name in use has bytes, and two more. -/
theorem freeName?_eq_some_iff {inUse : List String} {field padding name : String} :
    freeName? inUse field padding = some name ↔
      ∃ n ≤ longest inUse + 1, IsLeast (freeCopies inUse field padding) n
        ∧ name = padded field padding n := by
  simp only [freeName?, Option.map_eq_some_iff, List.find?_range_eq_some, List.mem_range]
  refine exists_congr fun n => ?_
  have first : (∀ m < n, (!isFree inUse (padded field padding m)) = true)
      ↔ n ∈ lowerBounds (freeCopies inUse field padding) := by
    constructor
    · intro taken m free
      by_contra below
      have := taken m (Nat.lt_of_not_le below)
      rw [mem_freeCopies_iff.1 free] at this
      exact absurd this (by decide)
    · intro least m below
      rw [Bool.not_eq_true', ← Bool.not_eq_true, ← mem_freeCopies_iff]
      exact fun free => Nat.not_lt.2 (least free) below
  rw [first, ← mem_freeCopies_iff, IsLeast, Nat.lt_succ_iff]
  constructor
  · rintro ⟨⟨free, tried, least⟩, rfl⟩
    exact ⟨tried, ⟨free, least⟩, rfl⟩
  · rintro ⟨tried, ⟨free, least⟩, rfl⟩
    exact ⟨⟨free, tried, least⟩, rfl⟩

/-- Copies of an empty padding change nothing. -/
theorem padded_empty (field : String) (n : Nat) : padded field "" n = field := by
  induction n with
  | zero => rfl
  | succ n ih => rw [padded, ih, String.append_empty]

/-- With an empty padding the field is the only candidate. -/
theorem freeName?_empty_eq_some_iff {inUse : List String} {field name : String} :
    freeName? inUse field "" = some name ↔ isFree inUse field = true ∧ name = field := by
  have all : ∀ n, n ∈ freeCopies inUse field "" ↔ isFree inUse field = true := by
    intro n
    rw [mem_freeCopies_iff, padded_empty]
  rw [freeName?_eq_some_iff]
  constructor
  · rintro ⟨n, -, ⟨free, -⟩, rfl⟩
    exact ⟨(all n).1 free, padded_empty field n⟩
  · rintro ⟨free, rfl⟩
    exact ⟨0, Nat.zero_le _, ⟨(all 0).2 free, fun n _ => Nat.zero_le n⟩, rfl⟩

/-- **The search finds the free name with the fewest copies.**  With a padding that is not empty
there is a least number of copies with which the field begins no name in use, the least of all
numbers and not only of those that are tried; it is at most the size of the longest name in use
and one, and the search gives the field with so many copies.  With an empty padding the search
gives the field if it begins no name in use, and nothing otherwise. -/
theorem freeName?_least (inUse : List String) (field : String) :
    (∀ padding ≠ "", ∃ k, IsLeast (freeCopies inUse field padding) k ∧ k ≤ longest inUse + 1
        ∧ freeName? inUse field padding = some (padded field padding k))
      ∧ ∀ name, freeName? inUse field "" = some name
          ↔ (∀ used ∈ inUse, ¬ field.toList <+: used.toList) ∧ name = field := by
  constructor
  · intro padding nonempty
    obtain ⟨name, found⟩ := Option.isSome_iff_exists.1 (isSome_freeName? inUse field nonempty)
    obtain ⟨k, tried, least, rfl⟩ := freeName?_eq_some_iff.1 found
    exact ⟨k, least, tried, found⟩
  · intro name
    rw [freeName?_empty_eq_some_iff, isFree_iff]

/-- One copy begins a longer name, so there are two; the padding has two characters. -/
theorem product_freeName?_least :
    "__" ≠ "" ∧ freeName? ["product", "product__key"] "product" "__" = some "product____"
      ∧ ∃ k, IsLeast (freeCopies ["product", "product__key"] "product" "__") k
          ∧ k ≤ longest ["product", "product__key"] + 1
          ∧ freeName? ["product", "product__key"] "product" "__"
              = some (padded "product" "__" k) := by
  have nonempty : "__" ≠ "" := by decide
  exact ⟨nonempty, by decide,
    (freeName?_least ["product", "product__key"] "product").1 "__" nonempty⟩

end PagedTable
