/-
  PagedTable.Proofs.Table.FailureCauses — exactly when a run over a collection fails.

  `Store.Faulty` lists what can be wrong, without a run: criteria that look into a reference
  column, a pre-filter that cannot be read, and, once there is a document that the total counts, a
  padding, a collection name, a pattern or a pointer that is of no use.  There is nothing else:

    * `exists_count_error_iff`, `exists_compile_error_iff`, `exists_compiledRows_error_iff` — when
      each of the steps fails
    * `error_of_matching`, `error_of_compiledRows` — and with which errors
    * `page_error_iff_count_error` — the page of a plan fails as its count does
    * `isError_iff_faulty` — a run fails when something is wrong, and only then
-/
import PagedTable.Proofs.Query.JoinFailures
import PagedTable.Proofs.Table.CriteriaGuard
import PagedTable.Proofs.Table.Pages

namespace PagedTable

/-! ## §1. What can be wrong -/

/-- The condition of a stage that filters. -/
def Stage.condition? : Stage → Option Filter
  | .filter f => some f
  | .project _ | .lookup _ | .sort _ | .skip _ | .limit _ | .count _ => none

/-- The filters of a compiled request: that of the find, or those of the stages. -/
def Compiled.filters : Compiled → List Filter
  | .find query => query.filter.toList
  | .aggregate plan => plan.page.filterMap Stage.condition?

/-- What can be wrong with a request that has documents in its total. -/
inductive Store.Hindered (s : Store) (collection : String) (r : Request) (criteria : Criteria)
    (settings : Settings) : Prop where
  /-- The padding cannot be part of a name, and names have to be made. -/
  | padding (references : r.hasReferences = true)
      (unusable : paddingFault? settings.padding ≠ none)
  /-- A column that has to be joined names no collection. -/
  | unbound (c : Column) (joined : c ∈ r.joinedColumns) (missing : c.boundCollection? = none)
  /-- A pattern cannot be read. -/
  | pattern (compiled : Compiled) (f : Filter)
      (compiles : r.compile criteria settings = .ok compiled) (emitted : f ∈ compiled.filters)
      (invalid : f.validPatterns = false)
  /-- A document that fits the criteria has, at the path of a joined column, a value that is
  neither null nor an object. -/
  | pointer (d : Json) (c : Column) (here : d ∈ s.documents collection)
      (fits : ∀ f ∈ criteria.fragments, f.holds d = true) (joined : c ∈ r.joinedColumns)
      (bad : isPointer (d.getPath? c.path) = false)

/-- What can be wrong with a request for rows. -/
inductive Store.Faulty (s : Store) (collection : String) (r : Request) (criteria : Criteria)
    (settings : Settings) : Prop where
  /-- The criteria look into a reference column. -/
  | offended (f : Filter) (c : Column) (given : f ∈ criteria.fragments) (column : c ∈ r.columns)
      (reference : c.reference = true) (looks : f.LooksInto c settings.checkNested)
  /-- A pattern of the pre-filter cannot be read. -/
  | unreadable (f : Filter) (given : criteria.preFilter = some f)
      (invalid : f.validPatterns = false)
  /-- There are documents in the total, and something is in the way of their rows. -/
  | hindered (d : Json) (here : d ∈ s.documents collection)
      (counted : criteria.preFilter.all (Filter.holds d) = true)
      (reason : s.Hindered collection r criteria settings)

/-- The filters of a plan are the criteria and the searches. -/
theorem Plan.filterMap_condition? (plan : Plan) :
    plan.page.filterMap Stage.condition? = plan.criteria ++ plan.searches := by
  have filters : ∀ fs : List Filter, (fs.map Stage.filter).filterMap Stage.condition? = fs := by
    intro fs
    rw [List.filterMap_map]
    exact List.filterMap_some
  have joins : (plan.joins.flatMap Join.stages).filterMap Stage.condition? = [] := by
    rw [List.filterMap_eq_nil_iff]
    intro stage mem
    have rowwise := Join.isRowwise_of_mem_stages mem
    cases stage <;> first | rfl | exact absurd rowwise (by simp [Stage.isRowwise])
  have window : plan.window.filterMap Stage.condition? = [] := by
    rw [Plan.window]
    cases plan.sort.isEmpty <;> cases plan.limit <;> rfl
  rw [Plan.page, Plan.filtering, List.filterMap_append, List.filterMap_append,
      List.filterMap_append, filters, filters, joins, window, List.append_nil, List.append_nil]

/-! ## §2. When the steps fail -/

namespace Request

variable {r : Request} {criteria : Criteria} {settings : Settings}

/-- A request is refused when its criteria look into a reference column. -/
theorem exists_refusal?_iff :
    (∃ column, r.refusal? criteria settings = some column)
      ↔ ∃ f ∈ criteria.fragments, ∃ c ∈ r.columns, c.reference = true
          ∧ f.LooksInto c settings.checkNested := by
  rw [← exists_offendedReference?_iff, refusal?]
  cases references : r.hasReferences with
  | true => rw [if_pos rfl]
  | false =>
      -- Without reference columns nothing can be offended.
      rw [exists_offendedReference?_iff]
      constructor
      · rintro ⟨_, same⟩
        exact absurd same (by simp)
      · rintro ⟨_, _, c, mem, isRef, _⟩
        rw [reference_eq_false references mem] at isRef
        exact absurd isRef (by simp)

/-- A joined column is a reference column. -/
theorem hasReferences_of_joined {c : Column} (joined : c ∈ r.joinedColumns) :
    r.hasReferences = true := by
  by_contra plain
  rw [joinedColumns_of_plain (Bool.not_eq_true _ ▸ plain)] at joined
  exact absurd joined List.not_mem_nil

/-- Compilation fails for the padding, or for a joined column that names no collection. -/
theorem exists_compile_error_iff :
    (∃ e, r.compile criteria settings = .error e)
      ↔ (r.hasReferences = true ∧ paddingFault? settings.padding ≠ none)
        ∨ ∃ c ∈ r.joinedColumns, c.boundCollection? = none := by
  simp only [compile_eq_error_iff]
  constructor
  · rintro ⟨_, references, ⟨fault, unusable, -⟩ | ⟨-, c, found, -⟩⟩
    · exact .inl ⟨references, by rw [unusable]; exact Option.some_ne_none fault⟩
    · exact .inr ⟨c, List.mem_of_find?_eq_some found, by simpa using List.find?_some found⟩
  · intro reason
    cases padding : paddingFault? settings.padding with
    | some fault =>
        have references : r.hasReferences = true := by
          rcases reason with ⟨references, -⟩ | ⟨c, joined, -⟩
          · exact references
          · exact hasReferences_of_joined joined
        exact ⟨_, references, .inl ⟨fault, rfl, rfl⟩⟩
    | none =>
        rcases reason with ⟨-, unusable⟩ | ⟨c, joined, missing⟩
        · exact absurd padding unusable
        · have some : (r.joinedColumns.find? (·.boundCollection?.isNone)).isSome = true :=
            List.find?_isSome.2 ⟨c, joined, by rw [missing]; rfl⟩
          obtain ⟨first, found⟩ := Option.isSome_iff_exists.1 some
          exact ⟨_, hasReferences_of_joined joined, .inr ⟨rfl, first, found, rfl⟩⟩

end Request

namespace Store

variable (s : Store) (collection : String)
variable {r : Request} {criteria : Criteria} {settings : Settings} {compiled : Compiled}

/-- A selection fails when a pattern of its filter cannot be read. -/
theorem exists_matching_error_iff (filter : Option Filter) :
    (∃ e, s.matching collection filter = .error e)
      ↔ ∃ f, filter = some f ∧ f.validPatterns = false := by
  cases filter with
  | none => simp [matching]
  | some f =>
      simp only [Option.some.injEq, exists_eq_left']
      show (∃ e, f.select (s.documents collection) = .error e) ↔ _
      cases valid : f.validPatterns with
      | true => simp [Filter.select_of_valid valid]
      | false => simpa using Filter.select_of_invalid valid _

/-- A selection fails with a pattern. -/
theorem error_of_matching {filter : Option Filter} {e : StoreError}
    (h : s.matching collection filter = .error e) :
    ∃ pattern reason, e = .invalidPattern pattern reason := by
  cases filter with
  | none => exact absurd h (by simp [matching])
  | some f =>
      exact Filter.exists_pattern_of_prepare (Filter.select_eq_error_iff.1 h)

/-- Counting fails when the pre-filter cannot be read. -/
theorem exists_count_error_iff (filter : Option Filter) :
    (∃ e, s.count collection filter = .error e)
      ↔ ∃ f, filter = some f ∧ f.validPatterns = false := by
  rw [← s.exists_matching_error_iff collection]
  exact exists_congr fun e => map_eq_error_iff

/-- A count is not zero when there is a document of which the filter is true. -/
theorem count_ne_zero_iff {filter : Option Filter} {n : Nat}
    (h : s.count collection filter = .ok n) :
    n ≠ 0 ↔ ∃ d ∈ s.documents collection, filter.all (Filter.holds d) = true := by
  obtain ⟨rows, selected, rfl⟩ := Filter.exists_of_map_eq_ok h
  rw [s.eq_filter_of_matching collection selected, Ne, List.length_eq_zero_iff,
      List.filter_eq_nil_iff]
  push Not
  rfl

/-- **The rows of a compiled request cannot be found** when one of its patterns cannot be read, or
a document that fits the criteria has a bad pointer. -/
theorem exists_compiledRows_error_iff (compiles : r.compile criteria settings = .ok compiled) :
    (∃ e, s.compiledRows collection compiled = .error e)
      ↔ (∃ f ∈ compiled.filters, f.validPatterns = false)
        ∨ ∃ d ∈ s.documents collection, (∀ f ∈ criteria.fragments, f.holds d = true)
            ∧ ∃ c ∈ r.joinedColumns, isPointer (d.getPath? c.path) = false := by
  rcases Request.compile_eq_ok_iff.1 compiles with
    ⟨plain, rfl⟩ | ⟨-, usable, plan, planned, rfl⟩
  · rw [Request.joinedColumns_of_plain plain]
    simp only [compiledRows, map_eq_error_iff, exists_matching_error_iff, Compiled.filters,
      Option.mem_toList, List.not_mem_nil, false_and, exists_false, and_false, or_false]
  · have fails : (∃ e, s.runStages (s.documents collection) plan.filtering = .error e)
        ↔ ¬ ∃ rows, s.runStages (s.documents collection) plan.filtering = .ok rows := by
      cases s.runStages (s.documents collection) plan.filtering <;> simp
    simp only [compiledRows, map_eq_error_iff]
    rw [fails, s.exists_rows_of_filtering_iff usable planned, Compiled.filters,
        Plan.filterMap_condition?, not_and_or]
    push Not
    simp only [Bool.not_eq_true]

/-- The rows of a compiled request fail with a pattern or a pointer. -/
theorem error_of_compiledRows (compiles : r.compile criteria settings = .ok compiled)
    {e : StoreError} (h : s.compiledRows collection compiled = .error e) :
    (∃ pattern reason, e = .invalidPattern pattern reason)
      ∨ ∃ path, e = .stage (.notAnObject path) := by
  rcases Request.compile_eq_ok_iff.1 compiles with ⟨-, rfl⟩ | ⟨-, usable, plan, planned, rfl⟩
  · exact .inl (s.error_of_matching collection (map_eq_error_iff.1 h))
  · exact s.error_of_filtering usable planned (map_eq_error_iff.1 h)

/-- **The page of a plan fails as its count does**: the last stages of either never fail. -/
theorem page_error_iff_count_error (plan : Plan) (e : StoreError) :
    s.aggregate collection plan.page = .error e ↔ s.aggregate collection plan.count = .error e := by
  rw [aggregate, aggregate, Plan.page, Plan.count, s.runStages_append, s.runStages_append]
  cases s.runStages (s.documents collection) plan.filtering with
  | error e' => rfl
  | ok rows =>
      show s.runStages rows plan.window = .error e ↔ _
      rw [s.runStages_window]
      simp [Except.bind, runStages, runStage]

/-! ## §3. When a run fails -/

/-- What is in the way of the rows makes compilation fail, or the rows of what is compiled. -/
theorem hindered_iff :
    s.Hindered collection r criteria settings
      ↔ (∃ e, r.compile criteria settings = .error e)
        ∨ ∃ compiled, r.compile criteria settings = .ok compiled
            ∧ ∃ e, s.compiledRows collection compiled = .error e := by
  constructor
  · intro hindered
    cases compiles : r.compile criteria settings with
    | error e => exact .inl ⟨e, rfl⟩
    | ok compiled =>
        have compiled_ok : ¬ ∃ e, r.compile criteria settings = .error e := by
          rw [compiles]
          simp
        rw [Request.exists_compile_error_iff] at compiled_ok
        refine .inr ⟨compiled, rfl, (s.exists_compiledRows_error_iff collection compiles).2 ?_⟩
        cases hindered with
        | padding references unusable =>
            exact absurd (.inl ⟨references, unusable⟩) compiled_ok
        | unbound c joined missing => exact absurd (.inr ⟨c, joined, missing⟩) compiled_ok
        | pattern other f compiles' emitted invalid =>
            rw [compiles] at compiles'
            injection compiles' with same
            exact .inl ⟨f, same ▸ emitted, invalid⟩
        | pointer d c here fits joined bad => exact .inr ⟨d, here, fits, c, joined, bad⟩
  · rintro (uncompiled | ⟨compiled, compiles, unfound⟩)
    · rcases Request.exists_compile_error_iff.1 uncompiled with
        ⟨references, unusable⟩ | ⟨c, joined, missing⟩
      · exact .padding references unusable
      · exact .unbound c joined missing
    · rcases (s.exists_compiledRows_error_iff collection compiles).1 unfound with
        ⟨f, emitted, invalid⟩ | ⟨d, here, fits, c, joined, bad⟩
      · exact .pattern compiled f compiles emitted invalid
      · exact .pointer d c here fits joined bad

/-- **There is no table when something is wrong**, and only then. -/
theorem exists_table_error_iff :
    (∃ e, s.table collection r criteria settings = .error e)
      ↔ s.Faulty collection r criteria settings := by
  simp only [table_eq_error_iff]
  constructor
  · rintro ⟨_, ⟨column, refused, -⟩ | ⟨-, ⟨reason, uncounted, -⟩ | ⟨total, nonzero, counted, rest⟩⟩⟩
    · obtain ⟨f, given, c, mem, isRef, looks⟩ := Request.exists_refusal?_iff.1 ⟨column, refused⟩
      exact .offended f c given mem isRef looks
    · obtain ⟨f, given, invalid⟩ := (s.exists_count_error_iff collection _).1 ⟨reason, uncounted⟩
      exact .unreadable f given invalid
    · obtain ⟨d, here, fits⟩ := (s.count_ne_zero_iff collection counted).1 nonzero
      refine .hindered d here fits ((s.hindered_iff collection).2 ?_)
      rcases rest with ⟨e, uncompiled, -⟩ | ⟨compiled, compiles, e, unfound, -⟩
      · exact .inl ⟨e, uncompiled⟩
      · exact .inr ⟨compiled, compiles, e, unfound⟩
  · intro faulty
    cases refusal : r.refusal? criteria settings with
    | some column => exact ⟨_, .inl ⟨column, rfl, rfl⟩⟩
    | none =>
        cases counted : s.count collection criteria.preFilter with
        | error reason => exact ⟨_, .inr ⟨rfl, .inl ⟨reason, rfl, rfl⟩⟩⟩
        | ok total =>
            -- The request is not refused and its pre-filter can be read.
            cases faulty with
            | offended f c given mem isRef looks =>
                obtain ⟨column, refused⟩ :=
                  Request.exists_refusal?_iff.2 ⟨f, given, c, mem, isRef, looks⟩
                rw [refusal] at refused
                exact absurd refused (by simp)
            | unreadable f given invalid =>
                obtain ⟨reason, uncounted⟩ :=
                  (s.exists_count_error_iff collection _).2 ⟨f, given, invalid⟩
                rw [counted] at uncounted
                exact absurd uncounted (by simp)
            | hindered d here fits reason =>
                have nonzero := (s.count_ne_zero_iff collection counted).2 ⟨d, here, fits⟩
                rcases (s.hindered_iff collection).1 reason with
                  ⟨e, uncompiled⟩ | ⟨compiled, compiles, e, unfound⟩
                · exact ⟨_, .inr ⟨rfl, .inr ⟨total, nonzero, rfl, .inl ⟨e, uncompiled, rfl⟩⟩⟩⟩
                · exact ⟨_, .inr ⟨rfl, .inr ⟨total, nonzero, rfl,
                    .inr ⟨compiled, compiles, e, unfound, rfl⟩⟩⟩⟩

/-- The errors that there can be instead of a table. -/
theorem error_of_table {e : TableError} (h : s.table collection r criteria settings = .error e) :
    (∃ path, e = .referencePredicate path)
      ∨ (∃ reason, r.compile criteria settings = .error reason ∧ e = .compile reason)
      ∨ (∃ pattern reason, e = .store (.invalidPattern pattern reason))
      ∨ ∃ path, e = .store (.stage (.notAnObject path)) := by
  rcases (s.table_eq_error_iff collection).1 h with
    ⟨column, -, rfl⟩ | ⟨-, ⟨reason, uncounted, rfl⟩ | ⟨total, -, -, rest⟩⟩
  · exact .inl ⟨column.path, rfl⟩
  · obtain ⟨pattern, text, rfl⟩ := s.error_of_matching collection (map_eq_error_iff.1 uncounted)
    exact .inr (.inr (.inl ⟨pattern, text, rfl⟩))
  · rcases rest with ⟨reason, uncompiled, rfl⟩ | ⟨compiled, compiles, reason, unfound, rfl⟩
    · exact .inr (.inl ⟨reason, uncompiled, rfl⟩)
    · rcases s.error_of_compiledRows collection compiles unfound with
        ⟨pattern, text, rfl⟩ | ⟨path, rfl⟩
      · exact .inr (.inr (.inl ⟨pattern, text, rfl⟩))
      · exact .inr (.inr (.inr ⟨path, rfl⟩))

/-- The error of an answer is that of the table. -/
theorem answer_error_iff {e : TableError} :
    (s.answer collection r criteria settings).error = some e
      ↔ r.length ≠ 0 ∧ s.table collection r criteria settings = .error e := by
  by_cases asked : r.length = 0
  · rw [answer, if_pos asked]
    simp [asked]
  · rw [s.answer_eq_table collection asked]
    cases s.table collection r criteria settings with
    | error e' => simp [asked]
    | ok table => simp

end Store

/-- **Exactly when a run over a collection fails**: when it is asked for rows and one of the things
listed in `Store.Faulty` is wrong.  In particular an element of an array can always be taken, a
count pipeline always carries its count, and a free name is always found; and along the route by
reference the page fails as the count does. -/
theorem Request.isError_iff_faulty (s : Store) (collection : String) (r : Request)
    (criteria : Criteria) (settings : Settings) (world : World) :
    let answer := r.answer criteria settings (s.executor collection World) world
    (answer.isError = true ↔ r.length ≠ 0 ∧ s.Faulty collection r criteria settings)
      ∧ (∀ path, answer.error ≠ some (.store (.stage (.notAnArray path))))
      ∧ (∀ field, answer.error ≠ some (.invalidCount field))
      ∧ (∀ path, answer.error ≠ some (.compile (.aliasUnresolved path)))
      ∧ ∀ plan, r.compile criteria settings = .ok (.aggregate plan) →
          ∀ e, s.aggregate collection plan.page = .error e
            ↔ s.aggregate collection plan.count = .error e := by
  intro answer
  have answered : answer = s.answer collection r criteria settings :=
    answer_executor s collection r criteria settings world
  have errors : ∀ e, answer.error = some e → s.table collection r criteria settings = .error e :=
    fun e h => ((s.answer_error_iff collection).1 (answered ▸ h)).2
  refine ⟨?_, ?_, ?_, ?_, fun plan _ e => s.page_error_iff_count_error collection plan e⟩
  · rw [Envelope.isError, Option.isSome_iff_exists, answered, ← s.exists_table_error_iff]
    simp only [s.answer_error_iff collection]
    exact exists_and_left
  · intro path failed
    rcases s.error_of_table collection (errors _ failed) with
      ⟨_, h⟩ | ⟨_, _, h⟩ | ⟨_, _, h⟩ | ⟨_, h⟩ <;> exact absurd h (by simp)
  · intro field failed
    rcases s.error_of_table collection (errors _ failed) with
      ⟨_, h⟩ | ⟨_, _, h⟩ | ⟨_, _, h⟩ | ⟨_, h⟩ <;> exact absurd h (by simp)
  · intro path failed
    rcases s.error_of_table collection (errors _ failed) with
      ⟨_, h⟩ | ⟨reason, uncompiled, h⟩ | ⟨_, _, h⟩ | ⟨_, h⟩
    · exact absurd h (by simp)
    · injection h with same
      exact Request.compile_ne_aliasUnresolved path (same ▸ uncompiled)
    · exact absurd h (by simp)
    · exact absurd h (by simp)

end PagedTable
