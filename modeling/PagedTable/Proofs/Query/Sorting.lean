/-
  PagedTable.Proofs.Query.Sorting — sorting is a stable permutation into the order of the keys.

  Documents are put in place one after the other, each of them in front of those at the end of the
  list that it precedes.  So for whatever keys the sorted list is a permutation of the documents.

  What documents are in order is said without the comparison of the sort: one document precedes
  another when some key has it before the other and all earlier keys have them level.  When the
  values to sort on are exact, being in order is transitive.  Then a document only passes documents
  that it precedes, never one that it ties with, and whatever it stops behind is in order with it.

      perm_sort                — the sorted list is a permutation of the documents
      isLE_compareAll_trans    — on exact values the comparison of documents is transitive
      pairwise_place           — putting a document in its place keeps a list in order
      filter_place             — ... and leaves the documents that tie as they are
      sort_ordered_stable      — the sorted list is in order, and ties keep their order
-/
import PagedTable.Proofs.Json.Comparison
import PagedTable.Query.Sort

namespace PagedTable

namespace SortKey

/-! ## §1. Permutation -/

/-- Putting a document in its place adds this document. -/
theorem perm_place (keys : List SortKey) (document : Json) (sorted : List Json) :
    (place keys document sorted).Perm (document :: sorted) := by
  induction sorted with
  | nil => exact .refl _
  | cons last before ih =>
      rw [place]
      by_cases precedes : (compareAll keys document last).isLT = true
      · rw [if_pos precedes]
        exact (ih.cons last).trans (.swap document last before)
      · rw [if_neg precedes]

/-- Documents put in their places one after the other come to those already there. -/
theorem perm_foldl_place (keys : List SortKey) (documents sorted : List Json) :
    (documents.foldl (fun sorted document => place keys document sorted) sorted).Perm
      (documents ++ sorted) := by
  induction documents generalizing sorted with
  | nil => exact .refl sorted
  | cons document rest ih =>
      have placed := (perm_place keys document sorted).append_left rest
      exact ((ih (place keys document sorted)).trans placed).trans List.perm_middle

/-- **Sorting permutes the documents.** -/
theorem perm_sort (keys : List SortKey) (documents : List Json) :
    (sort keys documents).Perm documents := by
  unfold sort
  by_cases unsorted : keys.isEmpty = true
  · rw [if_pos unsorted]
  · rw [if_neg unsorted]
    have placed := perm_foldl_place keys documents []
    rw [List.append_nil] at placed
    exact (List.reverse_perm _).trans placed

theorem length_sort (keys : List SortKey) (documents : List Json) :
    (sort keys documents).length = documents.length := (perm_sort keys documents).length_eq

/-! ## §2. Documents in order -/

/-- The key has the first document before the second: its value is less, or greater if the key is
descending. -/
def Before (key : SortKey) (a b : Json) : Prop :=
  match key.direction with
  | .ascending => (value a key.field).compare (value b key.field) = .lt
  | .descending => (value b key.field).compare (value a key.field) = .lt

/-- The key has the documents level: their values tie. -/
def Level (key : SortKey) (a b : Json) : Prop :=
  (value a key.field).compare (value b key.field) = .eq

/-- The documents tie on every key. -/
def Ties (keys : List SortKey) (a b : Json) : Prop := ∀ key ∈ keys, key.Level a b

instance (key : SortKey) (a b : Json) : Decidable (key.Level a b) :=
  inferInstanceAs (Decidable (_ = _))

instance (keys : List SortKey) (a b : Json) : Decidable (Ties keys a b) :=
  inferInstanceAs (Decidable (∀ key ∈ keys, key.Level a b))

/-- Some key has the first document before the second, and the earlier keys have them level. -/
inductive Precedes : List SortKey → Json → Json → Prop where
  | now {key : SortKey} {rest : List SortKey} {a b : Json} (before : key.Before a b) :
    Precedes (key :: rest) a b
  | later {key : SortKey} {rest : List SortKey} {a b : Json} (level : key.Level a b)
    (behind : Precedes rest a b) : Precedes (key :: rest) a b

/-- Every value to sort on is exact. -/
def ExactOn (keys : List SortKey) (document : Json) : Prop :=
  ∀ key ∈ keys, (value document key.field).Exact

instance (keys : List SortKey) (document : Json) : Decidable (ExactOn keys document) :=
  inferInstanceAs (Decidable (∀ key ∈ keys, (value document key.field).Exact))

variable {key : SortKey} {keys : List SortKey} {a b c document : Json}

/-- Comparing under a descending key is comparing the other way round. -/
theorem compare_eq (key : SortKey) (a b : Json) :
    key.compare a b = match key.direction with
      | .ascending => (value a key.field).compare (value b key.field)
      | .descending => (value b key.field).compare (value a key.field) := by
  rw [compare]
  cases key.direction with
  | ascending => rfl
  | descending => exact (Json.compare_swap _ _).symm

/-- Comparing under a key the other way round gives the reverse. -/
theorem compare_swap (key : SortKey) (a b : Json) : key.compare b a = (key.compare a b).swap := by
  rw [compare_eq, compare_eq]
  cases key.direction with
  | ascending => exact Json.compare_swap _ _
  | descending => exact Json.compare_swap _ _

/-- The comparison under a key says whether the key has a document before another. -/
theorem compare_eq_lt_iff : key.compare a b = .lt ↔ key.Before a b := by
  rw [compare_eq, Before]
  cases key.direction with
  | ascending => exact Iff.rfl
  | descending => exact Iff.rfl

/-- The comparison under a key says whether the key has the documents level. -/
theorem compare_eq_eq_iff : key.compare a b = .eq ↔ key.Level a b := by
  rw [compare, Level]
  cases key.direction with
  | ascending => exact Iff.rfl
  | descending => exact Ordering.swap_eq_eq

/-- On exact values the order under a key is transitive. -/
theorem isLE_compare_trans (ha : (value a key.field).Exact) (hc : (value c key.field).Exact)
    (hab : (key.compare a b).isLE) (hbc : (key.compare b c).isLE) : (key.compare a c).isLE := by
  rw [compare_eq] at hab hbc ⊢
  cases h : key.direction with
  | ascending =>
      rw [h] at hab hbc
      exact Json.isLE_trans_of_exact ha hc hab hbc
  | descending =>
      rw [h] at hab hbc
      exact Json.isLE_trans_of_exact hc ha hbc hab

/-! ## §3. The comparison on all keys -/

/-- Documents compare as less when the first precedes the second. -/
theorem compareAll_eq_lt_iff : compareAll keys a b = .lt ↔ Precedes keys a b := by
  induction keys with
  | nil => exact ⟨nofun, nofun⟩
  | cons key rest ih =>
      rw [compareAll, Ordering.then_eq_lt, compare_eq_lt_iff, compare_eq_eq_iff, ih]
      constructor
      · rintro (before | ⟨level, behind⟩)
        · exact .now before
        · exact .later level behind
      · rintro (before | ⟨level, behind⟩)
        · exact .inl before
        · exact .inr ⟨level, behind⟩

/-- Documents compare as equal when they tie. -/
theorem compareAll_eq_eq_iff : compareAll keys a b = .eq ↔ Ties keys a b := by
  induction keys with
  | nil => exact ⟨fun _ key mem => absurd mem List.not_mem_nil, fun _ => rfl⟩
  | cons key rest ih =>
      rw [compareAll, Ordering.then_eq_eq, compare_eq_eq_iff, ih, Ties, Ties, List.forall_mem_cons]

/-- Comparing documents the other way round gives the reverse. -/
theorem compareAll_swap (keys : List SortKey) (a b : Json) :
    compareAll keys b a = (compareAll keys a b).swap := by
  induction keys with
  | nil => rfl
  | cons key rest ih => rw [compareAll, compareAll, Ordering.swap_then, compare_swap, ih]

/-- Documents in order are those that precede or tie. -/
theorem isLE_compareAll_iff :
    (compareAll keys a b).isLE ↔ Precedes keys a b ∨ Ties keys a b := by
  rw [Ordering.isLE_iff_eq_lt_or_eq_eq, compareAll_eq_lt_iff, compareAll_eq_eq_iff]

/-- When the ends are level, so is what is between them. -/
theorem eq_of_isLE_of_isLE (ha : (value a key.field).Exact) (hb : (value b key.field).Exact)
    (hc : (value c key.field).Exact) (hab : (key.compare a b).isLE) (hbc : (key.compare b c).isLE)
    (ends : key.compare a c = .eq) : key.compare a b = .eq ∧ key.compare b c = .eq := by
  have back : (key.compare c a).isLE := by
    rw [compare_swap, ends]
    rfl
  have hba : (key.compare b a).isLE := isLE_compare_trans hb ha hbc back
  have hcb : (key.compare c b).isLE := isLE_compare_trans hc hb back hab
  rw [compare_swap] at hba hcb
  exact ⟨Ordering.eq_eq_of_isLE_of_isLE_swap hab hba, Ordering.eq_eq_of_isLE_of_isLE_swap hbc hcb⟩

/-- **On exact values the order of documents is transitive.** -/
theorem isLE_compareAll_trans (ha : ExactOn keys a) (hb : ExactOn keys b) (hc : ExactOn keys c)
    (hab : (compareAll keys a b).isLE) (hbc : (compareAll keys b c).isLE) :
    (compareAll keys a c).isLE := by
  induction keys with
  | nil => rfl
  | cons key rest ih =>
      obtain ⟨ha, ha_rest⟩ := List.forall_mem_cons.1 ha
      obtain ⟨hb, hb_rest⟩ := List.forall_mem_cons.1 hb
      obtain ⟨hc, hc_rest⟩ := List.forall_mem_cons.1 hc
      rw [compareAll, Ordering.isLE_then_iff_and] at hab hbc ⊢
      refine ⟨isLE_compare_trans ha hc hab.1 hbc.1, ?_⟩
      -- If the key has the ends level, it has all three level, and the other keys decide.
      rcases Ordering.isLE_iff_eq_lt_or_eq_eq.1 (isLE_compare_trans ha hc hab.1 hbc.1) with lt | eq
      · exact .inl lt
      · obtain ⟨first, second⟩ := eq_of_isLE_of_isLE ha hb hc hab.1 hbc.1 eq
        refine .inr (ih ha_rest hb_rest hc_rest ?_ ?_)
        · exact hab.2.resolve_left fun lt => nomatch lt.symm.trans first
        · exact hbc.2.resolve_left fun lt => nomatch lt.symm.trans second

/-! ## §4. Putting documents in their places -/

/-- A document is put in its place among those that were there. -/
theorem mem_place {sorted : List Json} :
    a ∈ place keys document sorted ↔ a = document ∨ a ∈ sorted :=
  (perm_place keys document sorted).mem_iff.trans List.mem_cons

/-- **Putting a document in its place keeps a list in order**; the list is given from its end. -/
theorem pairwise_place {sorted : List Json} (exact : ∀ d ∈ document :: sorted, ExactOn keys d)
    (ordered : sorted.Pairwise fun later earlier => (compareAll keys earlier later).isLE) :
    (place keys document sorted).Pairwise
      fun later earlier => (compareAll keys earlier later).isLE := by
  induction sorted with
  | nil => exact List.pairwise_singleton _ _
  | cons last before ih =>
      obtain ⟨document_exact, last_exact, before_exact⟩ :
          ExactOn keys document ∧ ExactOn keys last ∧ ∀ d ∈ before, ExactOn keys d := by
        simpa using exact
      have ⟨below_last, before_ordered⟩ := List.pairwise_cons.1 ordered
      rw [place]
      by_cases precedes : (compareAll keys document last).isLT = true
      · rw [if_pos precedes]
        refine List.pairwise_cons.2 ⟨fun d mem => ?_, ih ?_ before_ordered⟩
        · rcases mem_place.1 mem with rfl | mem
          · exact Ordering.isLE_iff_eq_lt_or_eq_eq.2 (.inl (Ordering.isLT_iff_eq_lt.1 precedes))
          · exact below_last d mem
        · exact List.forall_mem_cons.2 ⟨document_exact, before_exact⟩
      · rw [if_neg precedes]
        -- The document stays behind the last one, and so behind all that are before that.
        have stays : (compareAll keys last document).isLE := by
          rw [compareAll_swap]
          revert precedes
          cases compareAll keys document last <;> simp
        refine List.pairwise_cons.2 ⟨fun d mem => ?_, ordered⟩
        rcases List.mem_cons.1 mem with rfl | mem
        · exact stays
        · exact isLE_compareAll_trans (before_exact d mem) last_exact document_exact
            (below_last d mem) stays

/-- **Putting a document in its place passes no document that it is level with**: of documents none
of which it precedes the order is as if it had been put at the end. -/
theorem filter_place {p : Json → Bool} {sorted : List Json}
    (level : p document → ∀ d ∈ sorted, p d → (compareAll keys document d).isLT = false) :
    (place keys document sorted).filter p = (document :: sorted).filter p := by
  induction sorted with
  | nil => rfl
  | cons last before ih =>
      by_cases precedes : (compareAll keys document last).isLT = true
      · -- The document passes the last one, so not both of them are selected.
        have passed : p document = true → p last = false := by
          intro mine
          by_cases yours : p last = true
          · have stays := level mine last List.mem_cons_self yours
            exact absurd (stays.symm.trans precedes) Bool.false_ne_true
          · exact Bool.eq_false_iff.2 yours
        have rest := ih fun mine d mem => level mine d (List.mem_cons_of_mem last mem)
        rw [place, if_pos precedes, List.filter_cons, rest]
        cases mine : p document with
        | false => simp [List.filter_cons, mine]
        | true => simp [mine, passed mine]
      · rw [place, if_neg precedes]

/-- Documents put in their places one after the other are in order. -/
theorem pairwise_foldl_place {documents sorted : List Json}
    (exact : ∀ d ∈ documents ++ sorted, ExactOn keys d)
    (ordered : sorted.Pairwise fun later earlier => (compareAll keys earlier later).isLE) :
    (documents.foldl (fun sorted document => place keys document sorted) sorted).Pairwise
      fun later earlier => (compareAll keys earlier later).isLE := by
  induction documents generalizing sorted with
  | nil => exact ordered
  | cons document rest ih =>
      have placed := (perm_place keys document sorted).append_left rest
      have same := placed.trans List.perm_middle
      refine ih (fun d mem => exact d (same.mem_iff.1 mem)) (pairwise_place ?_ ordered)
      exact fun d mem => exact d (same.mem_iff.1 (placed.mem_iff.2 (List.mem_append_right rest mem)))

/-- Documents put in their places one after the other come behind those that are level with them. -/
theorem filter_foldl_place {p : Json → Bool} {documents sorted : List Json}
    (level : ∀ a ∈ documents ++ sorted, ∀ b ∈ documents ++ sorted, p a → p b →
      (compareAll keys a b).isLT = false) :
    (documents.foldl (fun sorted document => place keys document sorted) sorted).filter p =
      (documents.filter p).reverse ++ sorted.filter p := by
  induction documents generalizing sorted with
  | nil => rfl
  | cons document rest ih =>
      have same := ((perm_place keys document sorted).append_left rest).trans List.perm_middle
      have placed : (place keys document sorted).filter p = (document :: sorted).filter p :=
        filter_place fun mine d mem yours =>
          level document (by simp) d (by simp [mem]) mine yours
      rw [List.foldl_cons, ih fun a ma b mb => level a (same.mem_iff.1 ma) b (same.mem_iff.1 mb),
        placed, List.filter_cons, List.filter_cons]
      split
      · rw [List.reverse_cons, List.append_assoc]
        rfl
      · rfl

/-! ## §5. Sorting -/

/-- Documents that tie with a third tie with one another. -/
theorem compareAll_of_ties {d : Json} (hd : ExactOn keys d) (ha : ExactOn keys a)
    (hb : ExactOn keys b) (first : Ties keys d a) (second : Ties keys d b) :
    compareAll keys a b = .eq := by
  have da := compareAll_eq_eq_iff.2 first
  have db := compareAll_eq_eq_iff.2 second
  have le : (compareAll keys a b).isLE :=
    isLE_compareAll_trans ha hd hb (by rw [compareAll_swap, da]; rfl) (by rw [db]; rfl)
  have ge : (compareAll keys b a).isLE :=
    isLE_compareAll_trans hb hd ha (by rw [compareAll_swap, db]; rfl) (by rw [da]; rfl)
  rw [compareAll_swap] at ge
  exact Ordering.eq_eq_of_isLE_of_isLE_swap le ge

/-- Without keys a document is put at the end. -/
theorem foldl_place_nil (documents sorted : List Json) :
    documents.foldl (fun sorted document => place [] document sorted) sorted =
      documents.reverse ++ sorted := by
  induction documents generalizing sorted with
  | nil => rfl
  | cons document rest ih =>
      have last : place [] document sorted = document :: sorted := by cases sorted <;> rfl
      rw [List.foldl_cons, last, ih, List.reverse_cons, List.append_assoc]
      rfl

/-- With or without keys, the documents are put in their places one after the other. -/
theorem sort_eq (keys : List SortKey) (documents : List Json) :
    sort keys documents =
      (documents.foldl (fun sorted document => place keys document sorted) []).reverse := by
  cases keys with
  | nil =>
      rw [foldl_place_nil, List.append_nil, List.reverse_reverse]
      rfl
  | cons key rest => rfl

/-- **Sorting is a stable sort by the keys.**  When no value to sort on is an integer of magnitude
above `2⁵³`, the sorted list is a permutation of the documents, of any two of its documents the
earlier one precedes the other or ties with it, and the documents that tie with any one of them
stand in the order in which they were given. -/
theorem sort_ordered_stable (keys : List SortKey) (documents : List Json)
    (exact : ∀ d ∈ documents, ExactOn keys d) :
    (sort keys documents).Perm documents ∧
    (sort keys documents).Pairwise (fun a b => Precedes keys a b ∨ Ties keys a b) ∧
    ∀ d ∈ documents,
      (sort keys documents).filter (Ties keys d ·) = documents.filter (Ties keys d ·) := by
  have nothing_placed : documents ++ [] = documents := List.append_nil documents
  refine ⟨perm_sort keys documents, ?_, fun d mem => ?_⟩
  · have all_exact : ∀ d ∈ documents ++ [], ExactOn keys d := by rwa [nothing_placed]
    have ordered := pairwise_foldl_place all_exact .nil
    rw [sort_eq, List.pairwise_reverse]
    exact ordered.imp fun le => isLE_compareAll_iff.1 le
  · have level : ∀ a ∈ documents ++ [], ∀ b ∈ documents ++ [], decide (Ties keys d a) = true →
        decide (Ties keys d b) = true → (compareAll keys a b).isLT = false := by
      rw [nothing_placed]
      intro a ma b mb first second
      rw [compareAll_of_ties (exact d mem) (exact a ma) (exact b mb) (of_decide_eq_true first)
        (of_decide_eq_true second)]
      rfl
    rw [sort_eq, List.filter_reverse, filter_foldl_place level, List.reverse_append,
      List.reverse_reverse]
    rfl

/-- The best scores first, and the teams of one score by name. -/
def byScore : List SortKey := [⟨"score", .descending⟩, ⟨"team", .ascending⟩]

/-- Documents with the score 2 in two spellings, with a list of scores and without a score. -/
def scored : List Json :=
  [ .obj [("id", .int 1), ("team", .str "b"), ("score", .int 2)]
  , .obj [("id", .int 2), ("team", .str "a"), ("score", .arr [.int 1, .int 3])]
  , .obj [("id", .int 3), ("team", .str "b"),
      ("score", .num (.float ⟨false, 4503599627370496, -51, by decide⟩))]
  , .obj [("id", .int 4), ("team", .str "a"), ("score", .int 2)]
  , .obj [("id", .int 5), ("team", .str "b")] ]

/-- The scored documents are sorted stably by score and team. -/
theorem scored_ordered_stable :
    (∀ d ∈ scored, ExactOn byScore d) ∧
    (sort byScore scored).Perm scored ∧
    (sort byScore scored).Pairwise (fun a b => Precedes byScore a b ∨ Ties byScore a b) ∧
    ∀ d ∈ scored,
      (sort byScore scored).filter (Ties byScore d ·) = scored.filter (Ties byScore d ·) := by
  have exact : ∀ d ∈ scored, ExactOn byScore d := by decide +kernel
  exact ⟨exact, sort_ordered_stable byScore scored exact⟩

example : (sort byScore scored).map (Json.get? · "id") =
    [2, 4, 1, 3, 5].map fun n => some (.int n) := by
  decide +kernel

end SortKey

end PagedTable
