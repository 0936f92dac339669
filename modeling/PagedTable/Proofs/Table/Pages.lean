/-
  PagedTable.Proofs.Table.Pages — one table behind all pages.

  A run over a collection asks three times: for the total, for the count of the rows and for a page
  of them.  All three answers come from one table, in which the window of the request does not
  occur: `Store.table` is the total together with all rows in order, or the failure of the run.

  Main results:
    * `countRows_eq`, `fetchRows_eq` — the count and the page are those of the same rows
    * `answer_eq_table` — the answer to a request is a page of its table, or its failure
    * `table_onPage` — the table is the same whatever page is asked for
    * `length_rows_le_total` — there are no more rows than documents in the total
    * `pages_coherent` — all pages agree, and consecutive ones make up the table
-/
import PagedTable.Proofs.Query.Compilation
import PagedTable.Proofs.Query.ReferenceRows
import PagedTable.Proofs.Query.Sorting
import PagedTable.Proofs.Table.PlainAnswer
import PagedTable.Proofs.Table.Recording

namespace PagedTable

/-! ## §1. The rows of a compiled request -/

/-- The page of a compiled request among its rows. -/
def Compiled.cut : Compiled → List Json → List Json
  | .find query => Store.window query.skip query.limit
  | .aggregate plan => Store.window plan.skip plan.limit

/-- The page that a compiled request cuts out is that of the request. -/
theorem Compiled.cut_of_compile {r : Request} {criteria : Criteria} {settings : Settings}
    {compiled : Compiled} (compiles : r.compile criteria settings = .ok compiled)
    (rows : List Json) : compiled.cut rows = r.pageOf rows := by
  rw [← window_limit]
  rcases Request.compile_eq_ok_iff.1 compiles with ⟨-, rfl⟩ | ⟨-, -, plan, planned, rfl⟩
  · rfl
  · rw [(Request.plan_eq_of_ok planned).2]
    rfl

namespace Store

variable (s : Store) (collection : String)

/-- All rows of a compiled request, in order. -/
def compiledRows : Compiled → Except StoreError (List Json)
  | .find query => (s.matching collection query.filter).map (SortKey.sort query.sort)
  | .aggregate plan =>
    (s.runStages (s.documents collection) plan.filtering).map (SortKey.sort plan.sort)

/-- **The page is cut out of the rows.** -/
theorem fetchRows_eq (compiled : Compiled) :
    s.fetchRows collection compiled = (s.compiledRows collection compiled).map compiled.cut := by
  cases compiled with
  | find query =>
      rw [fetchRows, find, compiledRows]
      cases s.matching collection query.filter <;> rfl
  | aggregate plan =>
      rw [fetchRows, aggregate, Plan.page, s.runStages_append, compiledRows]
      cases s.runStages (s.documents collection) plan.filtering with
      | error e => rfl
      | ok rows => exact s.runStages_window plan rows

variable {r : Request} {criteria : Criteria} {settings : Settings} {compiled : Compiled}

/-- The document that carries the count of rows has this count in it. -/
theorem countOf_countRow (field : String) (rows : List Json) :
    countOf field (countRow field rows) = .ok rows.length := by
  cases rows with
  | nil => rfl
  | cons row rest =>
      have found : (Json.obj [(field, .int (row :: rest).length)]).get? field
          = some (.int (row :: rest).length) := Json.lookup_insert_self field _ []
      show countOf field [.obj [(field, .int (row :: rest).length)]] = _
      rw [countOf, found]
      rfl

/-- The count of a plan is read from the result of its count pipeline. -/
theorem countRows_aggregate (settings : Settings) (plan : Plan) :
    s.countRows collection settings (.aggregate plan)
      = ((s.aggregate collection plan.count).mapError .store).bind
          (countOf settings.countField) := by
  rw [countRows]
  cases s.aggregate collection plan.count with
  | error e => rfl
  | ok rows => cases rows <;> rfl

/-- **The count is that of the rows**; a count pipeline always carries it. -/
theorem countRows_eq (compiles : r.compile criteria settings = .ok compiled) :
    s.countRows collection settings compiled
      = ((s.compiledRows collection compiled).map List.length).mapError .store := by
  rcases Request.compile_eq_ok_iff.1 compiles with ⟨-, rfl⟩ | ⟨-, -, plan, planned, rfl⟩
  · rw [countRows, count, compiledRows]
    cases s.matching collection (r.findQuery criteria).filter with
    | error e => rfl
    | ok rows => exact congrArg Except.ok (SortKey.length_sort _ rows).symm
  · rw [countRows_aggregate, aggregate, Plan.count, s.runStages_append, compiledRows,
        Request.countField_of_plan planned]
    cases s.runStages (s.documents collection) plan.filtering with
    | error e => rfl
    | ok rows =>
        refine (countOf_countRow settings.countField rows).trans ?_
        exact congrArg Except.ok (SortKey.length_sort _ rows).symm

/-! ## §2. The table of a request -/

/-- The total and all rows of a request, in order, or the failure of its runs. -/
def table (s : Store) (collection : String) (r : Request) (criteria : Criteria)
    (settings : Settings) : Except TableError (Nat × List Json) :=
  match r.refusal? criteria settings with
  | some column => .error (.referencePredicate column.path)
  | none =>
    match s.count collection criteria.preFilter with
    | .error e => .error (.store e)
    | .ok 0 => .ok (0, [])
    | .ok total =>
      match r.compile criteria settings with
      | .error e => .error (.compile e)
      | .ok compiled =>
        match s.compiledRows collection compiled with
        | .error e => .error (.store e)
        | .ok rows => .ok (total, rows)

/-- What a table is made of. -/
theorem table_eq_ok_iff {total : Nat} {rows : List Json} :
    s.table collection r criteria settings = .ok (total, rows)
      ↔ r.refusal? criteria settings = none ∧ s.count collection criteria.preFilter = .ok total
        ∧ (total = 0 ∧ rows = []
          ∨ total ≠ 0 ∧ ∃ compiled, r.compile criteria settings = .ok compiled
              ∧ s.compiledRows collection compiled = .ok rows) := by
  rw [table]
  cases r.refusal? criteria settings with
  | some column => simp
  | none =>
      cases s.count collection criteria.preFilter with
      | error e => simp
      | ok n =>
          cases n with
          | zero => grind
          | succ n =>
              cases r.compile criteria settings with
              | error e => grind
              | ok compiled => cases found : s.compiledRows collection compiled <;> grind

/-- Why there is no table: the request is refused, the total cannot be counted, or it is not zero
and the request does not compile or its rows cannot be found. -/
theorem table_eq_error_iff {e : TableError} :
    s.table collection r criteria settings = .error e
      ↔ (∃ column, r.refusal? criteria settings = some column
          ∧ e = .referencePredicate column.path)
        ∨ r.refusal? criteria settings = none
          ∧ ((∃ reason, s.count collection criteria.preFilter = .error reason ∧ e = .store reason)
            ∨ ∃ total ≠ 0, s.count collection criteria.preFilter = .ok total
              ∧ ((∃ reason, r.compile criteria settings = .error reason ∧ e = .compile reason)
                ∨ ∃ compiled, r.compile criteria settings = .ok compiled
                  ∧ ∃ reason, s.compiledRows collection compiled = .error reason
                    ∧ e = .store reason)) := by
  rw [table]
  cases r.refusal? criteria settings with
  | some column => simp [eq_comm]
  | none =>
      cases s.count collection criteria.preFilter with
      | error reason => simp [eq_comm]
      | ok total =>
          cases total with
          | zero => simp
          | succ total =>
              cases r.compile criteria settings with
              | error reason => simp [eq_comm]
              | ok compiled =>
                  cases found : s.compiledRows collection compiled with
                  | error reason => simp [found, eq_comm]
                  | ok rows => simp [found]

/-- The total that a run gets to know; zero if it gets to know none. -/
def knownTotal (s : Store) (collection : String) (r : Request) (criteria : Criteria)
    (settings : Settings) : Nat :=
  match r.refusal? criteria settings with
  | some _ => 0
  | none => (s.count collection criteria.preFilter).toOption.getD 0

/-- **The answer to a request for rows is a page of its table**, or its failure. -/
theorem answer_eq_table (asked : r.length ≠ 0) :
    s.answer collection r criteria settings
      = match s.table collection r criteria settings with
        | .ok (total, rows) =>
          { draw := r.draw, total, filtered := rows.length, rows := r.pageOf rows }
        | .error e =>
          { draw := r.draw, total := s.knownTotal collection r criteria settings
            error := some e } := by
  have empty : r.pageOf ([] : List Json) = [] := by simp [Request.pageOf]
  rw [answer, if_neg asked, table, knownTotal]
  cases r.refusal? criteria settings with
  | some column => rfl
  | none =>
      cases s.count collection criteria.preFilter with
      | error e => rfl
      | ok total =>
          cases total with
          | zero =>
              show _ = Envelope.mk _ _ _ (r.pageOf []) _
              rw [empty]
              rfl
          | succ total =>
              cases compiles : r.compile criteria settings with
              | error e => rfl
              | ok compiled =>
                  dsimp only
                  rw [s.countRows_eq collection compiles, s.fetchRows_eq]
                  cases s.compiledRows collection compiled with
                  | error e => rfl
                  | ok rows =>
                      -- A count of zero ends the run; the page of no rows is empty anyway.
                      cases rows with
                      | nil =>
                          show _ = Envelope.mk _ _ _ (r.pageOf []) _
                          rw [empty]
                          rfl
                      | cons row rest =>
                          show Envelope.mk _ _ _ (compiled.cut (row :: rest)) _
                            = Envelope.mk _ _ _ (r.pageOf (row :: rest)) _
                          rw [Compiled.cut_of_compile compiles]

/-! ## §3. Pages of one table -/

/-- The rows of a compiled request do not depend on its window. -/
theorem compiledRows_withWindow (skip : Nat) (limit : Option Nat) :
    s.compiledRows collection (compiled.withWindow skip limit)
      = s.compiledRows collection compiled := by
  cases compiled <;> rfl

/-- **The table is the same for all pages.** -/
theorem table_onPage (r : Request) (criteria : Criteria) (settings : Settings) (start : UInt64)
    (length : Int64) :
    s.table collection (r.onPage start length) criteria settings
      = s.table collection r criteria settings := by
  have refusal : (r.onPage start length).refusal? criteria settings
      = r.refusal? criteria settings := rfl
  rw [table, table, refusal, r.compile_onPage]
  cases r.compile criteria settings with
  | error e => rfl
  | ok compiled => simp only [Except.map, compiledRows_withWindow]

/-! ## §4. Rows and total -/

/-- A selection that succeeds gives the documents of which the filter is true. -/
theorem eq_filter_of_matching {filter : Option Filter} {rows : List Json}
    (h : s.matching collection filter = .ok rows) :
    rows = (s.documents collection).filter fun d => filter.all (Filter.holds d) := by
  cases filter with
  | none =>
      injection h with h
      show rows = (s.documents collection).filter fun _ => true
      rw [List.filter_true, h]
  | some f =>
      change f.select (s.documents collection) = .ok rows at h
      cases valid : f.validPatterns with
      | false =>
          obtain ⟨e, fails⟩ := Filter.select_of_invalid valid (s.documents collection)
          rw [fails] at h
          exact absurd h (by simp)
      | true =>
          rw [Filter.select_of_valid valid] at h
          injection h with h
          exact h.symm

/-- Filtering makes no more rows than there are documents that fit the criteria. -/
theorem length_le_of_filtering (plan : Plan) {documents rows : List Json}
    (ran : s.runStages documents plan.filtering = .ok rows) :
    rows.length ≤ (documents.filter fun d => plan.criteria.all (Filter.holds d)).length := by
  rw [Plan.filtering, runStages_append_eq_ok_iff] at ran
  obtain ⟨joined, ran, searched⟩ := ran
  rw [runStages_append_eq_ok_iff] at ran
  obtain ⟨fitting, criteriaRan, joinsRan⟩ := ran
  rw [s.runStages_eq_ok_iff fun stage mem => Join.isRowwise_of_mem_stages mem] at joinsRan
  rw [← s.eq_filter_of_runStages_filters criteriaRan, joinsRan.length_eq,
      s.eq_filter_of_runStages_filters searched]
  exact List.length_filter_le _ _

/-- The documents that fit all criteria are counted in the total. -/
theorem fitting_sublist (criteria : Criteria) :
    ((s.documents collection).filter fun d => criteria.fragments.all (Filter.holds d)).Sublist
      (s.countedRows collection criteria) := by
  refine List.monotone_filter_right _ fun d fits => ?_
  rw [Criteria.fragments, List.all_append, Bool.and_eq_true, Filter.holds_toList,
      Filter.holds_toList] at fits
  exact fits.2

/-- The rows of a compiled request are no more than the documents that fit the criteria. -/
theorem length_compiledRows_le (compiles : r.compile criteria settings = .ok compiled)
    {rows : List Json} (found : s.compiledRows collection compiled = .ok rows) :
    rows.length
      ≤ ((s.documents collection).filter fun d =>
          criteria.fragments.all (Filter.holds d)).length := by
  rcases Request.compile_eq_ok_iff.1 compiles with ⟨-, rfl⟩ | ⟨-, -, plan, planned, rfl⟩
  · rw [compiledRows] at found
    obtain ⟨unsorted, selected, rfl⟩ := Filter.exists_of_map_eq_ok found
    rw [SortKey.length_sort, s.eq_filter_of_matching collection selected]
    refine (List.monotone_filter_right _ fun d fits => ?_).length_le
    -- The find tests the criteria behind the searches.
    rw [Request.findQuery, Filter.holds_all?, List.all_append, Bool.and_eq_true] at fits
    exact fits.2
  · rw [compiledRows] at found
    obtain ⟨unsorted, ran, rfl⟩ := Filter.exists_of_map_eq_ok found
    rw [SortKey.length_sort, ← Request.criteria_of_plan planned]
    exact s.length_le_of_filtering plan ran

/-- **There are no more rows than documents in the total.** -/
theorem length_rows_le_total {total : Nat} {rows : List Json}
    (h : s.table collection r criteria settings = .ok (total, rows)) : rows.length ≤ total := by
  obtain ⟨-, counted, ⟨-, rfl⟩ | ⟨-, compiled, compiles, found⟩⟩ :=
    (s.table_eq_ok_iff collection).1 h
  · exact Nat.zero_le total
  · obtain ⟨documents, selected, rfl⟩ := Filter.exists_of_map_eq_ok counted
    rw [s.eq_filter_of_matching collection selected]
    have fitting := s.length_compiledRows_le collection compiles found
    exact fitting.trans (s.fitting_sublist collection criteria).length_le

end Store

/-! ## §5. Consecutive pages -/

/-- Pages one behind the other: each one is bounded, has rows, and starts where the page before it
ends.  The numbers are the position of the first row and that behind the last one. -/
inductive Consecutive : Nat → List (UInt64 × Int64) → Nat → Prop where
  | nil (reached : Nat) : Consecutive reached [] reached
  | cons {first reached : Nat} {start : UInt64} {length : Int64} {rest : List (UInt64 × Int64)}
      (here : start.toNat = first) (some : 0 < length)
      (later : Consecutive (first + length.toInt.toNat) rest reached) :
      Consecutive first ((start, length) :: rest) reached

namespace Consecutive

variable {first reached : Nat} {pages : List (UInt64 × Int64)}

/-- Pages go forward. -/
theorem le (h : Consecutive first pages reached) : first ≤ reached := by
  induction h with
  | nil reached => exact Nat.le_refl reached
  | cons here some later ih => exact Nat.le_trans (Nat.le_add_right _ _) ih

/-- Pages are bounded, and not empty. -/
theorem pos (h : Consecutive first pages reached) : ∀ p ∈ pages, 0 < p.2 := by
  induction h with
  | nil reached => exact fun _ mem => absurd mem List.not_mem_nil
  | cons here some later ih =>
      intro p mem
      rcases List.mem_cons.1 mem with rfl | mem
      · exact some
      · exact ih p mem

/-- **Consecutive pages make up the rows that they cover.** -/
theorem flatMap_pageOf (h : Consecutive first pages reached) (r : Request) (rows : List α) :
    (pages.flatMap fun p => (r.onPage p.1 p.2).pageOf rows) = (rows.take reached).drop first := by
  induction h with
  | nil reached => rw [List.flatMap_nil, List.drop_take, Nat.sub_self, List.take_zero]
  | @cons first reached start length rest here some later ih =>
      have forward := later.le
      have page : (r.onPage start length).pageOf rows
          = ((rows.take reached).drop first).take length.toInt.toNat := by
        have bounded : ¬ (r.onPage start length).length < 0 :=
          Int64.not_lt.2 (Int64.le_of_lt some)
        rw [Request.pageOf, if_neg bounded, List.drop_take, List.take_take,
            Nat.min_eq_left (by omega), ← here]
        rfl
      rw [List.flatMap_cons, page, ih, ← List.drop_drop]
      exact List.take_append_drop _ _

end Consecutive

/-- **All pages of a request agree.**  Over a collection, either every run with a page to fill has
the same envelope, with an error and no rows, or none has an error: then there are a total and a
list of no more rows than that, and every run reports the total, the number of the rows, and the
rows of its page.  So consecutive pages from the first row on make up the first of these rows, and
as soon as they cover them all, those of the page without bounds; of these there are as many as
every run reports. -/
theorem Request.pages_coherent (s : Store) (collection : String) (r : Request)
    (criteria : Criteria) (settings : Settings) (world : World) :
    let page := fun (start : UInt64) (length : Int64) =>
      ({ r with start, length }).answer criteria settings (s.executor collection World) world
    (∃ failed : Envelope Json, failed.error.isSome = true ∧ failed.rows = []
        ∧ ∀ start length, length ≠ 0 → page start length = failed)
      ∨ ∃ (total : Nat) (rows : List Json), rows.length ≤ total
        ∧ (∀ start length, length ≠ 0 → page start length =
            { draw := r.draw
              total
              filtered := rows.length
              rows := if length < 0 then rows.drop start.toNat
                else (rows.drop start.toNat).take length.toInt.toNat
              error := none })
        ∧ (∀ pages reached, Consecutive 0 pages reached →
            (pages.flatMap fun p => (page p.1 p.2).rows) = rows.take reached
            ∧ (rows.length ≤ reached →
                (pages.flatMap fun p => (page p.1 p.2).rows) = (page 0 (-1)).rows))
        ∧ ∀ start length, length ≠ 0 →
            (page start length).filtered = (page 0 (-1)).rows.length := by
  intro page
  have answered : ∀ start length, page start length
      = s.answer collection (r.onPage start length) criteria settings :=
    fun start length => answer_executor s collection _ criteria settings world
  cases tabled : s.table collection r criteria settings with
  | error e =>
      refine .inl ⟨{ draw := r.draw, total := s.knownTotal collection r criteria settings
                     error := some e }, rfl, rfl, ?_⟩
      intro start length asked
      rw [answered, s.answer_eq_table collection asked, s.table_onPage, tabled]
      rfl
  | ok table =>
      obtain ⟨total, rows⟩ := table
      have envelope : ∀ start length, length ≠ 0 → page start length
          = { draw := r.draw, total, filtered := rows.length
              rows := (r.onPage start length).pageOf rows } := by
        intro start length asked
        rw [answered, s.answer_eq_table collection asked, s.table_onPage, tabled]
        rfl
      have unbounded : (page 0 (-1)).rows = rows := by
        rw [envelope 0 (-1) (by decide)]
        rfl
      refine .inr ⟨total, rows, s.length_rows_le_total collection tabled, envelope, ?_, ?_⟩
      · intro pages reached consecutive
        have together : (pages.flatMap fun p => (page p.1 p.2).rows) = rows.take reached := by
          have each : ∀ p ∈ pages, (page p.1 p.2).rows = (r.onPage p.1 p.2).pageOf rows := by
            intro p mem
            have asked : p.2 ≠ 0 := fun zero =>
              Int64.lt_irrefl (zero ▸ consecutive.pos p mem)
            rw [envelope p.1 p.2 asked]
          rw [List.flatMap_congr each, consecutive.flatMap_pageOf]
          rfl
        refine ⟨together, fun covered => ?_⟩
        rw [together, unbounded, List.take_of_length_le covered]
      · intro start length asked
        rw [envelope start length asked, unbounded]

/-- Two pages of two rows each. -/
example : Consecutive 0 [(0, 2), (2, 2)] 4 :=
  .cons rfl (by decide) (.cons rfl (by decide) (.nil 4))

end PagedTable
