/-
  PagedTable.Proofs.Query.PathEquivalence — two ways to compile a request without references.

  A request without reference columns can be compiled to one find, or to a plan that joins
  nothing.  The find tests one collapsed conjunction, searches first and the caller's criteria
  last; the plan matches the criteria first and every search in a stage of its own.  Both select
  the same rows in the same order, and the count pipeline carries the count of the find:

      plan_of_plain          — the plan of such a request, with the find's searches and order
      find_agrees_with_plan  — the two give the same rows and the same count, or both fail
-/
import PagedTable.Proofs.Query.Freshness
import PagedTable.Proofs.Store.Pipeline

namespace PagedTable

/-! ## §1. The plan of a request without references -/

namespace Request

variable {r : Request}

theorem reference_eq_false (plain : r.hasReferences = false) {c : Column} (h : c ∈ r.columns) :
    c.reference = false := by
  cases isRef : c.reference with
  | false => rfl
  | true =>
      have : r.columns.any (·.reference) = true := List.any_eq_true.2 ⟨c, h, isRef⟩
      rw [hasReferences, this] at plain
      exact plain

theorem joinedColumns_of_plain (plain : r.hasReferences = false) : r.joinedColumns = [] := by
  refine List.filter_eq_nil_iff.2 fun c mem joins => ?_
  have notRef := reference_eq_false plain (Column.mem_of_mem_unreplaced mem)
  rw [Column.needsJoin, notRef] at joins
  exact absurd joins (by simp)

/-- Without references the searches on the joined rows are those on the stored documents. -/
theorem joinedSearch?_of_plain (plain : r.hasReferences = false) :
    r.joinedSearch? [] = r.plainSearch? := by
  have searched : (r.columns.filter (·.searchable)).flatMap (Column.searchedFields [])
      = (r.columns.filter (·.searchable)).map (·.path) := by
    rw [← List.flatMap_pure_eq_map]
    refine List.flatMap_congr fun c mem => ?_
    have notRef := reference_eq_false plain (List.mem_of_mem_filter mem)
    rw [Column.searchedFields, if_neg (by simp [notRef])]
    rfl
  rw [joinedSearch?, plainSearch?, searched, List.map_map]
  rfl

theorem joinedColumnSearches_of_plain (plain : r.hasReferences = false) :
    (r.columns.filter (·.hasOwnSearch)).filterMap (Column.joinedSearch? [])
      = r.plainColumnSearches := by
  rw [plainColumnSearches, ← List.filterMap_eq_map]
  refine List.filterMap_congr fun c mem => ?_
  have notRef := reference_eq_false plain (List.mem_of_mem_filter mem)
  rw [Column.joinedSearch?, if_neg (by simp [notRef])]
  rfl

/-- Two choices of sort fields that agree on the columns give the same keys. -/
theorem sortKeys_congr {target other : Column → Option String}
    (same : ∀ c ∈ r.columns, target c = other c) : r.sortKeys target = r.sortKeys other := by
  unfold sortKeys
  refine List.filterMap_congr fun o _ => ?_
  cases found : r.sortedColumn? o with
  | none => rfl
  | some c =>
      have mem : c ∈ r.columns := by
        rw [sortedColumn?, Option.filter_eq_some_iff] at found
        exact List.mem_of_getElem? found.1
      rw [Option.bind_some, Option.bind_some, same c mem]

theorem joinedSortKeys_of_plain (plain : r.hasReferences = false) :
    r.sortKeys (Column.sortTarget? []) = r.sortKeys fun c => some c.path := by
  refine sortKeys_congr fun c mem => ?_
  rw [Column.sortTarget?, if_neg (by simp [reference_eq_false plain mem])]

/-- The plan of a request without references. -/
def plainPlan (r : Request) (criteria : Criteria) (settings : Settings) : Plan where
  criteria := criteria.fragments
  joins := []
  searches := r.plainSearch?.toList ++ r.plainColumnSearches
  countField := settings.countField
  sort := (r.findQuery criteria).sort
  skip := r.start.toNat
  limit := r.limit

/-- **A request without references has a plan, and the plan joins nothing.** -/
theorem plan_of_plain (plain : r.hasReferences = false) (criteria : Criteria)
    (settings : Settings) :
    r.plan criteria settings = .ok (r.plainPlan criteria settings) := by
  rw [plan, joinedColumns_of_plain plain]
  show Except.ok _ = _
  rw [joinedSearch?_of_plain plain, joinedColumnSearches_of_plain plain,
      joinedSortKeys_of_plain plain]
  rfl

/-! ## §2. The rows that both ways select -/

/-- All conditions of a request without references, the caller's criteria first. -/
def plainConditions (r : Request) (criteria : Criteria) : List Filter :=
  criteria.fragments ++ (r.plainSearch?.toList ++ r.plainColumnSearches)

/-- The order of the conditions makes no difference to the rows. -/
theorem selectAll_append_comm (first second : List Filter) (rows : List Json) :
    Store.selectAll (first ++ second) rows = Store.selectAll (second ++ first) rows := by
  simp only [Store.selectAll, List.all_append, Bool.and_comm]

/-- The find tests all conditions on the documents of the collection. -/
theorem matching_findQuery (r : Request) (criteria : Criteria) (s : Store) (collection : String) :
    (s.matching collection (r.findQuery criteria).filter).toOption
      = Store.selectAll (r.plainConditions criteria) (s.documents collection) := by
  show (s.matching collection (Filter.all? _)).toOption = _
  rw [s.matching_all?_toOption, selectAll_append_comm]
  rfl

/-- The patterns of the find are those of all conditions. -/
theorem validPatterns_findQuery (r : Request) (criteria : Criteria) :
    (r.findQuery criteria).filter.all Filter.validPatterns
      = (r.plainConditions criteria).all Filter.validPatterns := by
  show (Filter.all? _).all _ = _
  rw [Filter.validPatterns_all?, plainConditions, List.all_append, Bool.and_comm]
  exact List.all_append.symm

/-- The filtering stages of the plan test all conditions on the documents of the collection. -/
theorem runStages_filtering_plain (r : Request) (criteria : Criteria) (settings : Settings)
    (s : Store) (rows : List Json) :
    (s.runStages rows (r.plainPlan criteria settings).filtering).toOption
      = Store.selectAll (r.plainConditions criteria) rows := by
  have stages : (r.plainPlan criteria settings).filtering
      = (r.plainConditions criteria).map .filter := by
    rw [Plan.filtering, plainConditions, List.map_append]
    show criteria.fragments.map Stage.filter ++ [] ++ _ = _
    rw [List.append_nil]
    rfl
  rw [stages, s.runStages_filters_toOption]

/-! ## §3. The two ways agree -/

/-- **The page and the count of the plan are those of the find.**  Along the route by reference,
which a request without references can take as well, either both ways fail or the pages are the
same list, and the count pipeline gives no document for a count of zero and otherwise the one
document that carries the count. -/
theorem find_agrees_with_plan (s : Store) (collection : String) (r : Request)
    (criteria : Criteria) (settings : Settings) (plain : r.hasReferences = false)
    (usable : paddingFault? settings.padding = none) :
    ∃ plan, r.compileAlong criteria settings .reference = .ok (.aggregate plan)
      ∧ (s.find collection (r.findQuery criteria)).toOption
          = (s.aggregate collection plan.page).toOption
      ∧ (s.aggregate collection plan.count).toOption
          = (s.count collection (r.findQuery criteria).filter).toOption.map fun n =>
              if n = 0 then [] else [.obj [(settings.countField, .int n)]] := by
  refine ⟨r.plainPlan criteria settings, ?_, ?_, ?_⟩
  · rw [compileAlong, usable]
    show (r.plan criteria settings).map _ = _
    rw [plan_of_plain plain]
    rfl
  · have selected := r.matching_findQuery criteria s collection
    have filtered := r.runStages_filtering_plain criteria settings s (s.documents collection)
    rw [Store.aggregate, Plan.page, s.runStages_append_toOption, filtered, ← selected, Store.find]
    cases s.matching collection (r.findQuery criteria).filter with
    | error e => rfl
    | ok rows =>
        show some _ = (s.runStages rows _).toOption
        rw [s.runStages_window]
        rfl
  · have selected := r.matching_findQuery criteria s collection
    have filtered := r.runStages_filtering_plain criteria settings s (s.documents collection)
    rw [Store.aggregate, Plan.count, s.runStages_append_toOption, filtered, ← selected,
        Store.count]
    cases s.matching collection (r.findQuery criteria).filter with
    | error e => rfl
    | ok rows =>
        show some (countRow settings.countField rows) = some _
        cases rows <;> rfl

end Request

/-- Paid orders searched by label, the last number first, from the second row on. -/
def labelledOrders : Request where
  start := 1
  search := { value := "^order[12]", regex := true }
  order := [⟨1, .descending⟩, ⟨7, .ascending⟩]
  columns :=
    [ { path := "label", searchable := true }
    , { path := "id", orderable := true }
    , { path := "paid", searchable := true, search := { value := " True " } } ]

/-- The caller leaves out the order with the number 4. -/
def withoutFourth : Criteria := { preFilter := some (.field "id" (.compare (.ne (.int 4)))) }

/-- A store with four orders, one of them not paid. -/
def orderStore : Store :=
  ⟨[("orders",
    [ .obj [("id", .int 1), ("label", .str "order1"), ("paid", .bool true)]
    , .obj [("id", .int 2), ("label", .str "order2"), ("paid", .bool true)]
    , .obj [("id", .int 3), ("label", .str "order1"), ("paid", .bool false)]
    , .obj [("id", .int 4), ("label", .str "order2"), ("paid", .bool true)] ])]⟩

/-- The two ways agree on a page of labelled orders. -/
theorem labelledOrders_find_agrees :
    labelledOrders.hasReferences = false ∧ paddingFault? "_" = none
      ∧ ∃ plan, labelledOrders.compileAlong withoutFourth {} .reference = .ok (.aggregate plan)
        ∧ (orderStore.find "orders" (labelledOrders.findQuery withoutFourth)).toOption
            = (orderStore.aggregate "orders" plan.page).toOption
        ∧ (orderStore.aggregate "orders" plan.count).toOption
            = (orderStore.count "orders"
                (labelledOrders.findQuery withoutFourth).filter).toOption.map fun n =>
                  if n = 0 then [] else [.obj [("count", .int n)]] :=
  ⟨rfl, by decide,
    labelledOrders.find_agrees_with_plan orderStore "orders" withoutFourth {} rfl (by decide)⟩

end PagedTable
