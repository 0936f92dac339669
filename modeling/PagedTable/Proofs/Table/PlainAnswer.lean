/-
  PagedTable.Proofs.Table.PlainAnswer — what the answer to a request without references means.

  `Request.PlainMatch` says of a stored document, without any filter being built, whether it
  belongs to the table: the caller's criteria hold, the global search finds something in one of
  the searchable columns, and every column's own search finds something in its column.
  `Request.effectiveKeys` lists the sort directives that count.

      plainMatch_iff — the conditions of the compiled find say the same as `PlainMatch`
      answer_plain   — total, filtered count and page of a run over a collection
-/
import PagedTable.Proofs.Query.PathEquivalence
import PagedTable.Proofs.Table.MemoryRun

namespace PagedTable

/-! ## §1. The documents of the table -/

namespace Request

/-- The document belongs to the table that a request without references asks for. -/
structure PlainMatch (r : Request) (criteria : Criteria) (d : Json) : Prop where
  /-- The caller's criteria hold. -/
  criteria : ∀ f ∈ criteria.fragments, f.holds d = true
  /-- A global search that has text, and columns to look at, finds something in one of them. -/
  search : r.search.hasText = true → (∃ c ∈ r.columns, c.searchable = true) →
    ∃ c ∈ r.columns, c.searchable = true ∧ (r.search.fragment c.path).holds d = true
  /-- The search of a searchable column, if it has text, finds something in the column. -/
  columns : ∀ c ∈ r.columns, c.searchable = true → c.search.hasText = true →
    (c.search.columnFragment c.path).holds d = true

/-- What the condition of the global search says. -/
theorem plainSearch?_holds_iff (r : Request) (d : Json) :
    r.plainSearch?.all (Filter.holds d) = true
      ↔ (r.search.hasText = true → (∃ c ∈ r.columns, c.searchable = true) →
          ∃ c ∈ r.columns, c.searchable = true ∧ (r.search.fragment c.path).holds d = true) := by
  unfold plainSearch?
  cases r.search.hasText with
  | false => simp
  | true =>
      rw [if_pos rfl, Filter.holds_any?, Bool.or_eq_true, List.isEmpty_iff, List.map_eq_nil_iff,
          List.filter_eq_nil_iff, List.any_map, List.any_filter, List.any_eq_true]
      constructor
      · rintro (none | ⟨c, mem, found⟩) - ⟨c', mem', searchable⟩
        · exact absurd searchable (none c' mem')
        · rw [Bool.and_eq_true] at found
          exact ⟨c, mem, found⟩
      · intro h
        by_cases searched : ∃ c ∈ r.columns, c.searchable = true
        · obtain ⟨c, mem, searchable, found⟩ := h rfl searched
          exact .inr ⟨c, mem, by rw [searchable]; exact found⟩
        · exact .inl fun c mem searchable => searched ⟨c, mem, searchable⟩

/-- What the conditions of the columns' own searches say. -/
theorem plainColumnSearches_hold_iff (r : Request) (d : Json) :
    r.plainColumnSearches.all (Filter.holds d) = true
      ↔ ∀ c ∈ r.columns, c.searchable = true → c.search.hasText = true →
          (c.search.columnFragment c.path).holds d = true := by
  rw [plainColumnSearches, List.all_map, List.all_filter, List.all_eq_true]
  refine forall₂_congr fun c _ => ?_
  rw [Column.hasOwnSearch]
  cases c.searchable <;> cases c.search.hasText <;> simp

/-- **The compiled conditions hold of exactly the documents of the table.** -/
theorem plainMatch_iff (r : Request) (criteria : Criteria) (d : Json) :
    r.PlainMatch criteria d ↔ (r.plainConditions criteria).all (Filter.holds d) = true := by
  rw [plainConditions, List.all_append, List.all_append, Bool.and_eq_true, Bool.and_eq_true,
      List.all_eq_true, Filter.holds_toList, plainSearch?_holds_iff, plainColumnSearches_hold_iff]
  exact ⟨fun h => ⟨h.criteria, h.search, h.columns⟩, fun h => ⟨h.1, h.2.1, h.2.2⟩⟩

instance (r : Request) (criteria : Criteria) : DecidablePred (r.PlainMatch criteria) := fun d =>
  decidable_of_iff _ (r.plainMatch_iff criteria d).symm

/-! ## §2. The order of the table -/

/-- The sort directives that count: those whose position is that of an orderable column. -/
def effectiveKeys (r : Request) : List SortKey :=
  r.order.filterMap fun o =>
    match r.columns[o.column.toNat]? with
    | some c => if c.orderable then some ⟨c.path, o.direction⟩ else none
    | none => none

/-- A request without references sorts on the directives that count. -/
theorem findQuery_sort {r : Request} (plain : r.hasReferences = false) (criteria : Criteria) :
    (r.findQuery criteria).sort = r.effectiveKeys := by
  show r.order.filterMap _ = r.order.filterMap _
  refine List.filterMap_congr fun o _ => ?_
  rw [sortedColumn?]
  cases found : r.columns[o.column.toNat]? with
  | none => rfl
  | some c =>
      have notRef := reference_eq_false plain (List.mem_of_getElem? found)
      rw [Option.filter_some, Column.sortable, notRef, Bool.not_false, Bool.true_or,
          Bool.and_true]
      cases orderable : c.orderable <;> simp [orderable]

end Request

theorem SortKey.sort_nil (keys : List SortKey) : sort keys [] = [] := by
  unfold sort
  split <;> rfl

/-! ## §3. The answer -/

namespace Store

variable (s : Store) (collection : String) {r : Request} {criteria : Criteria}

/-- The documents of the table, in the order of the collection. -/
def tableRows (r : Request) (criteria : Criteria) : List Json :=
  (s.documents collection).filter fun d => r.PlainMatch criteria d

/-- The documents that the total counts. -/
def countedRows (criteria : Criteria) : List Json :=
  (s.documents collection).filter fun d => criteria.preFilter.all (Filter.holds d)

/-- Every document of the table is counted in the total. -/
theorem tableRows_sublist (r : Request) (criteria : Criteria) :
    (s.tableRows collection r criteria).Sublist (s.countedRows collection criteria) := by
  refine List.monotone_filter_right _ fun d inTable => ?_
  have fits := (decide_eq_true_iff.1 inTable).criteria
  cases pre : criteria.preFilter with
  | none => rfl
  | some f => exact fits f (by simp [Criteria.fragments, pre])

/-- A find whose patterns can be read selects the documents of the table. -/
theorem matching_findQuery_of_valid
    (valid : (r.findQuery criteria).filter.all Filter.validPatterns = true) :
    s.matching collection (r.findQuery criteria).filter
      = .ok (s.tableRows collection r criteria) := by
  have selected := r.matching_findQuery criteria s collection
  rw [r.validPatterns_findQuery] at valid
  rw [selectAll_of_valid valid] at selected
  have table : s.tableRows collection r criteria = (s.documents collection).filter fun d =>
      (r.plainConditions criteria).all (Filter.holds d) := by
    refine List.filter_congr fun d _ => ?_
    rw [Bool.eq_iff_iff, decide_eq_true_iff]
    exact r.plainMatch_iff criteria d
  rw [table]
  cases found : s.matching collection (r.findQuery criteria).filter with
  | error e =>
      rw [found] at selected
      exact absurd selected (by simp [Except.toOption])
  | ok rows =>
      rw [found] at selected
      exact congrArg Except.ok (Option.some.inj selected)

/-- Counting the documents of the total when the caller's patterns can be read. -/
theorem count_preFilter_of_valid (valid : criteria.fragments.all Filter.validPatterns = true) :
    s.count collection criteria.preFilter
      = .ok (s.countedRows collection criteria).length := by
  rw [count, countedRows]
  cases pre : criteria.preFilter with
  | none =>
      show Except.ok _ = Except.ok ((s.documents collection).filter fun _ => true).length
      rw [List.filter_true]
  | some f =>
      have readable : f.validPatterns = true :=
        List.all_eq_true.1 valid f (by simp [Criteria.fragments, pre])
      show (f.select (s.documents collection)).map List.length = _
      rw [Filter.select_of_valid readable]
      rfl

end Store

/-- **The answer to a request without references.**  When all patterns of the compiled filter,
those of the caller's criteria among them, can be read, the run over a collection has no error;
the total counts the documents of the pre-filter, the filtered count those of the table, and the
rows are the page of the table in the order of the directives that count. -/
theorem answer_plain (s : Store) (collection : String) (r : Request) (criteria : Criteria)
    (settings : Settings) (world : World) (plain : r.hasReferences = false)
    (asked : r.length ≠ 0)
    (criteriaValid : criteria.fragments.all Filter.validPatterns = true)
    (filterValid : (r.findQuery criteria).filter.all Filter.validPatterns = true) :
    r.answer criteria settings (s.executor collection World) world
      = { draw := r.draw
          total := (s.countedRows collection criteria).length
          filtered := (s.tableRows collection r criteria).length
          rows := r.pageOf (SortKey.sort r.effectiveKeys (s.tableRows collection r criteria))
          error := none } := by
  have found := s.matching_findQuery_of_valid collection filterValid
  have compiled : r.compile criteria settings = .ok (.find (r.findQuery criteria)) := by
    rw [Request.compile, Request.route, plain]
    rfl
  have passes : r.refusal? criteria settings = none := by
    rw [Request.refusal?, plain]
    rfl
  have fewer := (s.tableRows_sublist collection r criteria).length_le
  rw [answer_executor, Store.answer, if_neg asked, passes,
      s.count_preFilter_of_valid collection criteriaValid, compiled]
  have counted : s.countRows collection settings (.find (r.findQuery criteria))
      = .ok (s.tableRows collection r criteria).length := by
    rw [Store.countRows, Store.count, found]
    rfl
  have fetched : s.fetchRows collection (.find (r.findQuery criteria))
      = .ok (r.pageOf (SortKey.sort r.effectiveKeys (s.tableRows collection r criteria))) := by
    rw [Store.fetchRows, Store.find, found, ← window_limit, ← Request.findQuery_sort plain criteria]
    rfl
  -- An early end leaves the page empty, and so is the page of a table without rows.
  have noRows : (s.tableRows collection r criteria).length = 0 →
      r.pageOf (SortKey.sort r.effectiveKeys (s.tableRows collection r criteria)) = [] := by
    intro none
    rw [List.length_eq_zero_iff.1 none, SortKey.sort_nil, Request.pageOf]
    simp
  cases total : (s.countedRows collection criteria).length with
  | zero =>
      have none : (s.tableRows collection r criteria).length = 0 := by omega
      rw [noRows none, none]
      rfl
  | succ total =>
      simp only [counted]
      cases rows : (s.tableRows collection r criteria).length with
      | zero =>
          rw [noRows rows]
          rfl
      | succ rows =>
          simp only [fetched]

/-- The answer to a page of labelled orders. -/
theorem labelledOrders_answer :
    labelledOrders.hasReferences = false ∧ labelledOrders.length ≠ 0
      ∧ withoutFourth.fragments.all Filter.validPatterns = true
      ∧ (labelledOrders.findQuery withoutFourth).filter.all Filter.validPatterns = true
      ∧ labelledOrders.answer withoutFourth {} (orderStore.executor "orders" Unit) ()
        = { draw := 1
            total := (orderStore.countedRows "orders" withoutFourth).length
            filtered := (orderStore.tableRows "orders" labelledOrders withoutFourth).length
            rows := labelledOrders.pageOf (SortKey.sort labelledOrders.effectiveKeys
              (orderStore.tableRows "orders" labelledOrders withoutFourth))
            error := none } := by
  have readable : (labelledOrders.findQuery withoutFourth).filter.all Filter.validPatterns = true :=
    by decide +kernel
  exact ⟨rfl, by decide, rfl, readable,
    answer_plain orderStore "orders" labelledOrders withoutFourth {} () rfl (by decide) rfl
      readable⟩

end PagedTable
