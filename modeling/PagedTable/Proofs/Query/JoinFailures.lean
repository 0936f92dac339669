/-
  PagedTable.Proofs.Query.JoinFailures — when the filtering stages of a plan fail.

  Joins run over all documents at once, and the rows of one join are the documents of the next.
  Still the only thing that can go wrong is a pointer in a stored document: a join finds in its
  rows the pointers of the documents, and every stage behind the first one of a join is given what
  it needs.  Filters fail for their patterns, whatever the rows are.

  Main results:
    * `Join.exists_rows` — one join over documents whose values can be pointers
    * `Chain.runStages_cases` — a chain of joins gives rows, or names the path of a bad pointer
    * `exists_rows_of_filtering_iff` — when the filtering stages of a plan give rows
    * `error_of_filtering` — and the errors that they fail with otherwise
-/
import PagedTable.Proofs.Filter.Faults
import PagedTable.Proofs.Query.JoinFrame

namespace PagedTable

/-! ## §1. Joins over many documents -/

/-- If every element on the left has a related one, so has the list. -/
theorem exists_forall₂ {R : α → β → Prop} {left : List α} (h : ∀ a ∈ left, ∃ b, R a b) :
    ∃ right, List.Forall₂ R left right := by
  induction left with
  | nil => exact ⟨[], .nil⟩
  | cons a rest ih =>
      obtain ⟨b, here⟩ := h a List.mem_cons_self
      obtain ⟨right, later⟩ := ih fun x mem => h x (List.mem_cons_of_mem _ mem)
      exact ⟨b :: right, .cons here later⟩

namespace Join

variable {inUse : List String} {j : Join}

/-- **A join turns every document whose value can be a pointer into its row.** -/
theorem exists_rows (s : Store) (fresh : j.Fresh inUse) {documents : List Json}
    (pointers : ∀ d ∈ documents, isPointer (d.getPath? j.path) = true) :
    ∃ rows, s.runStages documents j.stages = .ok rows
      ∧ List.Forall₂ (j.RowOf s) documents rows := by
  obtain ⟨rows, made⟩ := exists_forall₂ fun d mem => exists_row s fresh (pointers d mem)
  refine ⟨rows, ?_, made.imp fun _ _ h => h.2⟩
  have rowwise : ∀ stage ∈ j.stages, stage.isRowwise = true := fun stage mem =>
    isRowwise_of_mem_stages (List.mem_flatMap.2 ⟨j, List.mem_singleton_self j, mem⟩)
  exact (s.runStages_eq_ok_iff rowwise documents rows).2 (made.imp fun _ _ h => h.1)

namespace Chain

variable {kept : List String} {joins : List Join}

/-- **A chain of joins gives rows, or fails for a bad pointer** in one of the documents, and names
its path. -/
theorem runStages_cases (s : Store) (chain : Chain inUse kept joins)
    (ready : Ready inUse kept joins) (documents : List Json) :
    (∃ rows, s.runStages documents (joins.flatMap stages) = .ok rows)
      ∨ ∃ j ∈ joins, (∃ d ∈ documents, isPointer (d.getPath? j.path) = false)
          ∧ s.runStages documents (joins.flatMap stages)
              = .error (.stage (.notAnObject j.path)) := by
  induction chain generalizing documents with
  | nil => exact .inl ⟨documents, rfl⟩
  | @cons inUse kept j rest free flat keeps later ih =>
      have chain : Chain inUse kept (j :: rest) := .cons free flat keeps later
      rw [List.flatMap_cons, s.runStages_append]
      by_cases pointers : ∀ d ∈ documents, isPointer (d.getPath? j.path) = true
      · obtain ⟨between, toBetween, made⟩ := exists_rows s (chain.fresh ready) pointers
        rw [toBetween]
        rcases ih (chain.ready_later ready) between with done | ⟨other, mem, ⟨x, here, bad⟩, fails⟩
        · exact .inl done
        · -- The pointer in the row is that of the document which the row was made of.
          obtain ⟨d, inside, row⟩ := exists_right_of_forall₂ made.flip here
          rw [chain.getPath?_later ready row mem] at bad
          exact .inr ⟨other, List.mem_cons_of_mem _ mem, ⟨d, inside, bad⟩, fails⟩
      · push Not at pointers
        obtain ⟨d, inside, bad⟩ := pointers
        have bad : isPointer (d.getPath? j.path) = false := Bool.not_eq_true _ ▸ bad
        refine .inr ⟨j, List.mem_cons_self, ⟨d, inside, bad⟩, ?_⟩
        rw [runStages_eq_error s inside bad]
        rfl

/-- When a chain of joins gives rows. -/
theorem exists_rows_iff (s : Store) (chain : Chain inUse kept joins)
    (ready : Ready inUse kept joins) (documents : List Json) :
    (∃ rows, s.runStages documents (joins.flatMap stages) = .ok rows)
      ↔ ∀ d ∈ documents, ∀ j ∈ joins, isPointer (d.getPath? j.path) = true := by
  constructor
  · rintro ⟨rows, ran⟩ d mem
    rw [s.runStages_eq_ok_iff fun stage mem => isRowwise_of_mem_stages mem] at ran
    obtain ⟨row, -, toRow⟩ := exists_right_of_forall₂ ran mem
    exact chain.isPointer_of_runStages s ready toRow
  · intro pointers
    rcases chain.runStages_cases s ready documents with done | ⟨j, mem, ⟨d, here, bad⟩, -⟩
    · exact done
    · rw [pointers d here j mem] at bad
      exact absurd bad (by simp)

end Chain

end Join

/-! ## §2. Filters -/

namespace Store

variable (s : Store)

/-- Filters give rows when their patterns can be read, whatever the documents are. -/
theorem exists_rows_of_filters_iff (filters : List Filter) (documents : List Json) :
    (∃ rows, s.runStages documents (filters.map .filter) = .ok rows)
      ↔ ∀ f ∈ filters, f.validPatterns = true := by
  have selected := s.runStages_filters_toOption filters documents
  rw [selectAll] at selected
  rw [← List.all_eq_true]
  cases ran : s.runStages documents (filters.map .filter) with
  | error e =>
      rw [ran] at selected
      by_cases valid : filters.all Filter.validPatterns = true
      · rw [if_pos valid] at selected
        exact absurd selected (by simp [Except.toOption])
      · simpa using valid
  | ok rows =>
      rw [ran] at selected
      by_cases valid : filters.all Filter.validPatterns = true
      · exact ⟨fun _ => valid, fun _ => ⟨rows, rfl⟩⟩
      · rw [if_neg valid] at selected
        exact absurd selected (by simp [Except.toOption])

/-- The error of filters is that of one of them. -/
theorem error_of_filters {filters : List Filter} {documents : List Json} {e : StoreError}
    (h : s.runStages documents (filters.map .filter) = .error e) :
    ∃ pattern reason, e = .invalidPattern pattern reason := by
  induction filters generalizing documents with
  | nil => exact absurd h (by simp [runStages])
  | cons f rest ih =>
      have step : s.runStage documents (.filter f) = f.select documents := rfl
      rw [List.map_cons, runStages, step] at h
      cases selected : f.select documents with
      | error e' =>
          rw [selected] at h
          injection h with same
          rw [← same]
          exact Filter.exists_pattern_of_prepare (Filter.select_eq_error_iff.1 selected)
      | ok rows =>
          rw [selected] at h
          exact ih h

end Store

/-! ## §3. The filtering stages of a plan -/

variable {r : Request} {criteria : Criteria} {settings : Settings} {plan : Plan}

namespace Request

/-- What holds at the paths of the joins holds at the paths of the joined columns. -/
theorem forall_joins_iff (compiled : r.plan criteria settings = .ok plan)
    (holdsAt : String → Prop) :
    (∀ j ∈ plan.joins, holdsAt j.path) ↔ ∀ c ∈ r.joinedColumns, holdsAt c.path := by
  constructor
  · intro h c mem
    obtain ⟨j, here, joined, -⟩ := exists_join_of_plan compiled mem
    exact joined.path ▸ h j here
  · intro h j mem
    obtain ⟨c, here, joined, -⟩ := exists_column_of_plan compiled mem
    exact joined.path ▸ h c here

end Request

namespace Store

variable (s : Store)

/-- **When the filtering stages of a plan give rows**: all patterns can be read, and the documents
that fit the criteria have values that can be pointers at the paths of all joined columns. -/
theorem exists_rows_of_filtering_iff (usable : paddingFault? settings.padding = none)
    (compiled : r.plan criteria settings = .ok plan) (documents : List Json) :
    (∃ rows, s.runStages documents plan.filtering = .ok rows)
      ↔ (∀ f ∈ plan.criteria ++ plan.searches, f.validPatterns = true)
        ∧ ∀ d ∈ documents, (∀ f ∈ criteria.fragments, f.holds d = true) →
            ∀ c ∈ r.joinedColumns, isPointer (d.getPath? c.path) = true := by
  have chain := Request.chain_of_plan usable compiled
  have ready := Request.ready_of_plan compiled
  have criteriaOf := Request.criteria_of_plan compiled
  have pointersOf : ∀ d : Json, (∀ j ∈ plan.joins, isPointer (d.getPath? j.path) = true)
      ↔ ∀ c ∈ r.joinedColumns, isPointer (d.getPath? c.path) = true := fun d =>
    Request.forall_joins_iff compiled fun path => isPointer (d.getPath? path) = true
  simp only [List.forall_mem_append]
  constructor
  · rintro ⟨rows, ran⟩
    rw [Plan.filtering, runStages_append_eq_ok_iff] at ran
    obtain ⟨joined, ran, searched⟩ := ran
    rw [runStages_append_eq_ok_iff] at ran
    obtain ⟨fitting, criteriaRan, joinsRan⟩ := ran
    refine ⟨⟨(s.exists_rows_of_filters_iff _ _).1 ⟨_, criteriaRan⟩,
      (s.exists_rows_of_filters_iff _ _).1 ⟨_, searched⟩⟩, fun d mem fits => ?_⟩
    have inside : d ∈ fitting := by
      rw [s.eq_filter_of_runStages_filters criteriaRan, criteriaOf]
      exact List.mem_filter.2 ⟨mem, List.all_eq_true.2 fits⟩
    exact (pointersOf d).1 ((chain.exists_rows_iff s ready fitting).1 ⟨_, joinsRan⟩ d inside)
  · rintro ⟨⟨criteriaValid, searchesValid⟩, pointers⟩
    obtain ⟨fitting, criteriaRan⟩ :=
      (s.exists_rows_of_filters_iff plan.criteria documents).2 criteriaValid
    have fits := s.eq_filter_of_runStages_filters criteriaRan
    rw [criteriaOf] at fits
    obtain ⟨joined, joinsRan⟩ := (chain.exists_rows_iff s ready fitting).2 <| by
      intro d mem
      rw [fits] at mem
      obtain ⟨here, all⟩ := List.mem_filter.1 mem
      exact (pointersOf d).2 (pointers d here (List.all_eq_true.1 all))
    obtain ⟨rows, searched⟩ := (s.exists_rows_of_filters_iff plan.searches joined).2 searchesValid
    refine ⟨rows, ?_⟩
    rw [Plan.filtering, s.runStages_append_eq_ok_iff]
    exact ⟨joined, (s.runStages_append_eq_ok_iff ..).2 ⟨fitting, criteriaRan, joinsRan⟩, searched⟩

/-- **The filtering stages of a plan fail for a pattern or a pointer**, and for nothing else. -/
theorem error_of_filtering (usable : paddingFault? settings.padding = none)
    (compiled : r.plan criteria settings = .ok plan) {documents : List Json} {e : StoreError}
    (h : s.runStages documents plan.filtering = .error e) :
    (∃ pattern reason, e = .invalidPattern pattern reason)
      ∨ ∃ path, e = .stage (.notAnObject path) := by
  rw [Plan.filtering, runStages_append, runStages_append] at h
  cases criteriaRan : s.runStages documents (plan.criteria.map .filter) with
  | error e' =>
      rw [criteriaRan] at h
      injection h with same
      exact .inl (same ▸ s.error_of_filters criteriaRan)
  | ok fitting =>
      rw [criteriaRan] at h
      rcases (Request.chain_of_plan usable compiled).runStages_cases s
        (Request.ready_of_plan compiled) fitting with ⟨joined, joinsRan⟩ | ⟨j, -, -, fails⟩
      · change Except.bind (s.runStages fitting _) _ = _ at h
        rw [joinsRan] at h
        exact .inl (s.error_of_filters h)
      · change Except.bind (s.runStages fitting _) _ = _ at h
        rw [fails] at h
        injection h with same
        exact .inr ⟨j.path, same.symm⟩

end Store
end PagedTable
