/-
  PagedTable.Proofs.Store.Pipeline — what runs of stages do to lists of documents.

  Three kinds of stages make up the pipelines of a plan, and each kind has its own law:

    • filters        — `runStages_filters_toOption`: one `List.filter` by all conditions, or a
                       failure that does not depend on the rows,
    • row by row     — `runStages_eq_ok_iff`: projections and lookups turn every document into one
                       row of its own, whatever the other documents are,
    • the window     — `runStages_window`: sorting and cutting out a page never fail.

  `runStages_append` puts them together.
-/
import Mathlib.Data.List.Forall2
import PagedTable.Proofs.Filter.Meaning
import PagedTable.Query.Plan
import PagedTable.Store.Memory

namespace PagedTable

namespace Store

/-! ## §1. Runs one after the other -/

/-- **A run through two pipelines in turn.** -/
theorem runStages_append (s : Store) (rows : List Json) (first second : List Stage) :
    s.runStages rows (first ++ second)
      = (s.runStages rows first).bind fun between => s.runStages between second := by
  -- Every stage of the first pipeline changes the rows, so the induction is for all of them.
  induction first generalizing rows with
  | nil => rfl
  | cons stage rest ih =>
      rw [List.cons_append, runStages, runStages]
      cases s.runStage rows stage with
      | error e => rfl
      | ok between => exact ih between

/-- Two pipelines in turn succeed when the first does and the second does on its rows. -/
theorem runStages_append_eq_ok_iff (s : Store) (rows result : List Json)
    (first second : List Stage) :
    s.runStages rows (first ++ second) = .ok result
      ↔ ∃ between, s.runStages rows first = .ok between
          ∧ s.runStages between second = .ok result := by
  rw [runStages_append]
  cases s.runStages rows first with
  | error e => simp [Except.bind]
  | ok between => simp [Except.bind]

theorem runStages_append_toOption (s : Store) (rows : List Json) (first second : List Stage) :
    (s.runStages rows (first ++ second)).toOption
      = (s.runStages rows first).toOption.bind fun between =>
          (s.runStages between second).toOption := by
  rw [runStages_append]
  cases s.runStages rows first <;> rfl

/-! ## §2. Filters -/

/-- The rows of which every filter is true, unless a text in one of the filters is no pattern. -/
def selectAll (filters : List Filter) (rows : List Json) : Option (List Json) :=
  if filters.all Filter.validPatterns then
    some (rows.filter fun row => filters.all (Filter.holds row))
  else none

theorem selectAll_of_valid {filters : List Filter}
    (valid : filters.all Filter.validPatterns = true) (rows : List Json) :
    selectAll filters rows = some (rows.filter fun row => filters.all (Filter.holds row)) := by
  rw [selectAll, if_pos valid]

/-- **A run through filters is one selection by all of them.** -/
theorem runStages_filters_toOption (s : Store) (filters : List Filter) (rows : List Json) :
    (s.runStages rows (filters.map .filter)).toOption = selectAll filters rows := by
  induction filters generalizing rows with
  | nil =>
      show some rows = some (rows.filter fun _ => true)
      rw [List.filter_true]
  | cons f rest ih =>
      have step : s.runStage rows (.filter f) = f.select rows := rfl
      rw [List.map_cons, runStages, step, selectAll, List.all_cons]
      cases valid : f.validPatterns with
      | false =>
          -- A text that is no pattern fails here, and later for whatever rows are left.
          obtain ⟨e, fails⟩ := Filter.select_of_invalid valid rows
          rw [fails]
          rfl
      | true =>
          rw [Filter.select_of_valid valid, Bool.true_and]
          show (s.runStages (rows.filter f.holds) (rest.map .filter)).toOption = _
          rw [ih, selectAll, List.filter_filter]
          simp only [List.all_cons, Bool.and_comm]

/-- A run through filters that succeeds leaves the rows of which all filters are true. -/
theorem eq_filter_of_runStages_filters (s : Store) {filters : List Filter}
    {rows result : List Json} (h : s.runStages rows (filters.map .filter) = .ok result) :
    result = rows.filter fun row => filters.all (Filter.holds row) := by
  have selected := s.runStages_filters_toOption filters rows
  rw [h, selectAll] at selected
  split at selected
  · exact Option.some.inj selected
  · exact absurd selected (by simp [Except.toOption])

/-- Selecting the documents of a collection by a collapsed conjunction. -/
theorem matching_all?_toOption (s : Store) (collection : String) (clauses : List Filter) :
    (s.matching collection (Filter.all? clauses)).toOption
      = selectAll clauses (s.documents collection) := by
  rw [selectAll, ← Filter.validPatterns_all?]
  simp only [← Filter.holds_all?]
  cases Filter.all? clauses with
  | none =>
      show some (s.documents collection) = some ((s.documents collection).filter fun _ => true)
      rw [List.filter_true]
  | some f =>
      show (f.select (s.documents collection)).toOption = _
      simp only [Option.all_some]
      cases valid : f.validPatterns with
      | false =>
          obtain ⟨e, fails⟩ := Filter.select_of_invalid valid (s.documents collection)
          rw [fails]
          rfl
      | true =>
          rw [Filter.select_of_valid valid]
          rfl

end Store

/-! ## §3. Stages that work row by row -/

/-- Does the stage turn every document into a row of its own? -/
def Stage.isRowwise : Stage → Bool
  | .project _ | .lookup _ => true
  | .filter _ | .sort _ | .skip _ | .limit _ | .count _ => false

/-- Applying a function to one more document. -/
theorem mapRows_cons_eq_ok_iff (f : Json → Except StoreError Json) (d : Json)
    (rest result : List Json) :
    mapRows f (d :: rest) = .ok result
      ↔ ∃ row others, f d = .ok row ∧ mapRows f rest = .ok others ∧ result = row :: others := by
  rw [mapRows]
  cases f d with
  | error e => simp
  | ok row =>
      cases mapRows f rest with
      | error e => simp [Except.map]
      | ok others => simp [Except.map, eq_comm]

theorem mapRows_singleton_eq_ok_iff (f : Json → Except StoreError Json) (d row : Json) :
    mapRows f [d] = .ok [row] ↔ f d = .ok row := by
  rw [mapRows]
  cases f d <;> simp [mapRows, Except.map]

/-- A function that fails in one way only, and does so for some document, fails on the list. -/
theorem mapRows_eq_error {f : Json → Except StoreError Json} {documents : List Json}
    {e : StoreError} (oneWay : ∀ d ∈ documents, f d = .error e ∨ ∃ row, f d = .ok row) {d : Json}
    (mem : d ∈ documents) (fails : f d = .error e) : mapRows f documents = .error e := by
  induction documents with
  | nil => exact absurd mem List.not_mem_nil
  | cons first rest ih =>
      rw [mapRows]
      rcases oneWay first List.mem_cons_self with failing | ⟨row, here⟩
      · rw [failing]
      · -- The failing document is behind the first one.
        have behind : d ∈ rest := by
          rcases List.mem_cons.1 mem with rfl | behind
          · rw [here] at fails
            exact absurd fails (by simp)
          · exact behind
        rw [here, ih (fun x inside => oneWay x (List.mem_cons_of_mem _ inside)) behind]
        rfl

namespace Store

variable (s : Store)

/-- A stage that works row by row treats one more document on its own. -/
theorem runStage_cons_eq_ok_iff {stage : Stage} (rowwise : stage.isRowwise = true) (d : Json)
    (rest result : List Json) :
    s.runStage (d :: rest) stage = .ok result
      ↔ ∃ row others, s.runStage [d] stage = .ok [row] ∧ s.runStage rest stage = .ok others
          ∧ result = row :: others := by
  cases stage with
  | project p =>
      rw [runStage, mapRows_cons_eq_ok_iff]
      simp only [runStage, mapRows_singleton_eq_ok_iff]
  | lookup l => simp [runStage, eq_comm]
  | filter f => simp [Stage.isRowwise] at rowwise
  | sort keys => simp [Stage.isRowwise] at rowwise
  | skip n => simp [Stage.isRowwise] at rowwise
  | limit n => simp [Stage.isRowwise] at rowwise
  | count field => simp [Stage.isRowwise] at rowwise

/-- On one document such a stage gives one row. -/
theorem exists_row_of_runStage {stage : Stage} (rowwise : stage.isRowwise = true) {d : Json}
    {result : List Json} (h : s.runStage [d] stage = .ok result) : ∃ row, result = [row] := by
  obtain ⟨row, others, -, none, rfl⟩ := (s.runStage_cons_eq_ok_iff rowwise d [] result).1 h
  have empty : s.runStage [] stage = .ok [] := by
    cases stage <;> first | rfl | simp [Stage.isRowwise] at rowwise
  rw [empty] at none
  injection none with none
  exact ⟨row, by rw [← none]⟩

/-- A run through stages that work row by row treats one more document on its own. -/
theorem runStages_cons_eq_ok_iff {stages : List Stage}
    (rowwise : ∀ stage ∈ stages, stage.isRowwise = true) (d : Json) (rest result : List Json) :
    s.runStages (d :: rest) stages = .ok result
      ↔ ∃ row others, s.runStages [d] stages = .ok [row] ∧ s.runStages rest stages = .ok others
          ∧ result = row :: others := by
  induction stages generalizing d rest with
  | nil => simp [runStages, eq_comm]
  | cons stage stages ih =>
      have first := rowwise stage List.mem_cons_self
      have later := ih fun other mem => rowwise other (List.mem_cons_of_mem _ mem)
      constructor
      · intro h
        rw [runStages] at h
        cases step : s.runStage (d :: rest) stage with
        | error e => simp [step] at h
        | ok between =>
            rw [step] at h
            -- The first stage sets one row apart, and so do all later ones.
            obtain ⟨row, others, one, many, rfl⟩ :=
              (s.runStage_cons_eq_ok_iff first d rest between).1 step
            obtain ⟨row', others', one', many', rfl⟩ := (later row others).1 h
            refine ⟨row', others', ?_, ?_, rfl⟩
            · rw [runStages, one]
              exact one'
            · rw [runStages, many]
              exact many'
      · rintro ⟨row', others', one', many', rfl⟩
        rw [runStages] at one' many'
        cases one : s.runStage [d] stage with
        | error e => simp [one] at one'
        | ok rows =>
            cases many : s.runStage rest stage with
            | error e => simp [many] at many'
            | ok others =>
                obtain ⟨row, rfl⟩ := s.exists_row_of_runStage first one
                rw [one] at one'
                rw [many] at many'
                have step := (s.runStage_cons_eq_ok_iff first d rest (row :: others)).2
                  ⟨row, others, one, many, rfl⟩
                rw [runStages, step]
                exact (later row others).2 ⟨row', others', one', many', rfl⟩

/-- No documents give no rows. -/
theorem runStages_nil {stages : List Stage}
    (rowwise : ∀ stage ∈ stages, stage.isRowwise = true) : s.runStages [] stages = .ok [] := by
  induction stages with
  | nil => rfl
  | cons stage rest ih =>
      have empty : s.runStage [] stage = .ok [] := by
        have first := rowwise stage List.mem_cons_self
        cases stage <;> first | rfl | simp [Stage.isRowwise] at first
      rw [runStages, empty]
      exact ih fun other mem => rowwise other (List.mem_cons_of_mem _ mem)

/-- **A run through stages that work row by row is one run for every document.** -/
theorem runStages_eq_ok_iff {stages : List Stage}
    (rowwise : ∀ stage ∈ stages, stage.isRowwise = true) (documents result : List Json) :
    s.runStages documents stages = .ok result
      ↔ List.Forall₂ (fun d row => s.runStages [d] stages = .ok [row]) documents result := by
  induction documents generalizing result with
  | nil =>
      rw [s.runStages_nil rowwise, List.forall₂_nil_left_iff, Except.ok.injEq, eq_comm]
  | cons d rest ih =>
      rw [s.runStages_cons_eq_ok_iff rowwise, List.forall₂_cons_left_iff]
      simp only [ih]

end Store

/-! ## §4. Pages -/

/-- The page of a request: the rows from its start on, cut to its length unless that is
negative. -/
def Request.pageOf (r : Request) (rows : List α) : List α :=
  if r.length < 0 then rows.drop r.start.toNat
  else (rows.drop r.start.toNat).take r.length.toInt.toNat

/-- The window that a request compiles to cuts out its page. -/
theorem window_limit (r : Request) (rows : List Json) :
    Store.window r.start.toNat r.limit rows = r.pageOf rows := by
  unfold Store.window Request.limit Request.pageOf
  by_cases h : r.length < 0
  · rw [if_neg (Int64.not_le.2 h), if_pos h]
    rfl
  · rw [if_pos (Int64.not_lt.1 h), if_neg h]
    rfl

/-- **Sorting and cutting out a page never fail.** -/
theorem Store.runStages_window (s : Store) (p : Plan) (rows : List Json) :
    s.runStages rows p.window = .ok (window p.skip p.limit (SortKey.sort p.sort rows)) := by
  have cut : ∀ sorted, s.runStages sorted (.skip p.skip :: (p.limit.map .limit).toList)
      = .ok (window p.skip p.limit sorted) := by
    intro sorted
    cases p.limit <;> rfl
  unfold Plan.window
  by_cases unsorted : p.sort.isEmpty = true
  · rw [if_pos unsorted, List.nil_append, cut, SortKey.sort, if_pos unsorted]
  · rw [if_neg unsorted]
    exact cut (SortKey.sort p.sort rows)

end PagedTable
