/-
  PagedTable.Proofs.Table.CriteriaGuard — criteria that look into reference columns.

  The caller's criteria are tested on stored documents, where a reference column holds a pointer
  and nothing else.  A request with reference columns is therefore refused when a leaf of its
  criteria looks into one of them.  Strict settings look for such leaves at any depth, lenient
  ones only at criteria that are a single leaf.

  Main results:
    * `mem_paths_iff` — the paths of a filter are those of its leaves, at any depth
    * `offendedReference?_eq_some_iff` — the column that is named: the first one that the first
      offending condition looks into
    * `Ending.rejected_iff` — a run is rejected for its criteria alone, and before any call
    * `criteria_guard` — which requests are rejected, with which column, over every store
-/
import PagedTable.Proofs.Query.JoinFrame
import PagedTable.Proofs.Table.Account

namespace PagedTable

variable {World Row : Type}

/-! ## §1. Leaves and columns -/

/-- The filter has a leaf with the path, at whatever depth. -/
inductive Filter.HasLeaf (path : String) : Filter → Prop where
  | field (condition : Condition) : HasLeaf path (.field path condition)
  | and {clauses : List Filter} (clause : Filter) (mem : clause ∈ clauses)
      (inside : HasLeaf path clause) : HasLeaf path (.and clauses)
  | or {clauses : List Filter} (clause : Filter) (mem : clause ∈ clauses)
      (inside : HasLeaf path clause) : HasLeaf path (.or clauses)

namespace Filter

mutual

/-- **The paths of a filter are those of its leaves.** -/
theorem mem_paths_iff (path : String) : ∀ f : Filter, path ∈ f.paths ↔ f.HasLeaf path
  | .field other condition => by
      rw [paths, List.mem_singleton]
      constructor
      · rintro rfl
        exact .field condition
      · rintro ⟨⟩
        rfl
  | .and clauses => by
      rw [paths, mem_clausePaths_iff path clauses]
      constructor
      · rintro ⟨clause, mem, inside⟩
        exact .and clause mem inside
      · rintro (_ | ⟨clause, mem, inside⟩)
        exact ⟨clause, mem, inside⟩
  | .or clauses => by
      rw [paths, mem_clausePaths_iff path clauses]
      constructor
      · rintro ⟨clause, mem, inside⟩
        exact .or clause mem inside
      · rintro (_ | _ | ⟨clause, mem, inside⟩)
        exact ⟨clause, mem, inside⟩

theorem mem_clausePaths_iff (path : String) : ∀ clauses : List Filter,
    path ∈ clausePaths clauses ↔ ∃ clause ∈ clauses, clause.HasLeaf path
  | [] => by simp [clausePaths]
  | clause :: rest => by
      rw [clausePaths, List.mem_append, mem_paths_iff path clause, mem_clausePaths_iff path rest,
          List.exists_mem_cons_iff]

end

/-- The path of a filter that is a single leaf. -/
theorem mem_topPaths_iff (path : String) (f : Filter) :
    path ∈ f.topPaths ↔ ∃ condition, f = .field path condition := by
  cases f with
  | field other condition =>
      rw [topPaths, List.mem_singleton]
      constructor
      · rintro rfl
        exact ⟨condition, rfl⟩
      · rintro ⟨_, same⟩
        injection same with same
        exact same.symm
  | and clauses => simp [topPaths]
  | or clauses => simp [topPaths]

end Filter

/-- The path is that of a column, or goes on below it. -/
def LeadsInto (path column : String) : Prop :=
  path = column ∨ ∃ rest, path = column ++ "." ++ rest

theorem leadsInto_iff (path column : String) :
    leadsInto path column = true ↔ LeadsInto path column := by
  rw [leadsInto, Bool.or_eq_true, beq_iff_eq, List.isPrefixOf_iff_prefix, LeadsInto]
  refine or_congr_right ⟨?_, ?_⟩
  · rintro ⟨rest, split⟩
    refine ⟨String.ofList rest, String.toList_inj.1 ?_⟩
    simp [← split]
  · rintro ⟨rest, rfl⟩
    refine ⟨rest.toList, ?_⟩
    rw [String.toList_append, String.toList_append]
    rfl

/-- What shares its beginning with a column leads into it at a dot only. -/
theorem leadsInto_append_iff (column suffix : String) :
    LeadsInto (column ++ suffix) column ↔ suffix = "" ∨ ∃ rest, suffix = "." ++ rest := by
  simp only [LeadsInto, ← String.toList_inj, String.toList_append, List.append_assoc,
    List.append_cancel_left_eq, List.append_right_eq_self, String.toList_empty]

/-- A parent of a column does not lead into it. -/
theorem not_leadsInto_parent (parent rest : String) :
    ¬ LeadsInto parent (parent ++ "." ++ rest) := by
  -- The path of the column is the longer one.
  rintro (same | ⟨more, same⟩)
  · have sizes := congrArg (·.toList.length) same
    simp at sizes
  · have sizes := congrArg (·.toList.length) same
    simp only [String.toList_append, List.length_append] at sizes
    have dot : ".".toList.length = 1 := rfl
    omega

/-- A condition looks into a column: with a leaf at any depth, or as a single leaf. -/
def Filter.LooksInto (column : Column) : Bool → Filter → Prop
  | true, f => ∃ path, f.HasLeaf path ∧ LeadsInto path column.path
  | false, f => ∃ path condition, f = .field path condition ∧ LeadsInto path column.path

/-- A single leaf is a leaf. -/
theorem Filter.LooksInto.strict {column : Column} {f : Filter} (h : f.LooksInto column false) :
    f.LooksInto column true := by
  obtain ⟨path, condition, rfl, into⟩ := h
  exact ⟨path, .field condition, into⟩

theorem any_inspectedPaths_iff (nested : Bool) (f : Filter) (column : Column) :
    (inspectedPaths nested f).any (leadsInto · column.path) = true ↔ f.LooksInto column nested := by
  simp only [List.any_eq_true, leadsInto_iff]
  cases nested with
  | true =>
      refine exists_congr fun path => and_congr_left fun _ => ?_
      exact f.mem_paths_iff path
  | false =>
      refine exists_congr fun path => ?_
      rw [exists_and_right]
      exact and_congr_left fun _ => f.mem_topPaths_iff path

/-! ## §2. The column that is named -/

section Offence

variable (r : Request) (criteria : Criteria) (nested : Bool)

/-- **The named column** is the first reference column that the first offending condition looks
into. -/
theorem offendedReference?_eq_some_iff (column : Column) :
    offendedReference? r criteria nested = some column
      ↔ ∃ before fragment after, criteria.fragments = before ++ fragment :: after
          ∧ (∀ f ∈ before, ∀ c ∈ r.references, ¬ f.LooksInto c nested)
          ∧ ∃ first last, r.references = first ++ column :: last
              ∧ (∀ c ∈ first, ¬ fragment.LooksInto c nested)
              ∧ fragment.LooksInto column nested := by
  rw [offendedReference?, List.findSome?_eq_some_iff]
  refine exists_congr fun before => exists_congr fun fragment => exists_congr fun after =>
    and_congr_right fun _ => ?_
  rw [List.find?_eq_some_iff_append, any_inspectedPaths_iff, and_comm]
  refine and_congr (forall₂_congr fun f _ => ?_) ?_
  · rw [List.find?_eq_none]
    exact forall₂_congr fun c _ => not_congr (any_inspectedPaths_iff nested f c)
  · have passed : ∀ c, (!(inspectedPaths nested fragment).any (leadsInto · c.path)) = true
        ↔ ¬ fragment.LooksInto c nested := by
      intro c
      rw [Bool.not_eq_true', ← Bool.not_eq_true, any_inspectedPaths_iff]
    simp only [passed]
    constructor
    · rintro ⟨looks, first, last, split, others⟩
      exact ⟨first, last, split, others, looks⟩
    · rintro ⟨first, last, split, others, looks⟩
      exact ⟨looks, first, last, split, others⟩

/-- There is an offence when some condition looks into some reference column. -/
theorem exists_offendedReference?_iff :
    (∃ column, offendedReference? r criteria nested = some column)
      ↔ ∃ f ∈ criteria.fragments, ∃ c ∈ r.columns, c.reference = true ∧ f.LooksInto c nested := by
  rw [← Option.isSome_iff_exists, offendedReference?, List.findSome?_isSome_iff]
  refine exists_congr fun f => and_congr_right fun _ => ?_
  rw [List.find?_isSome]
  refine exists_congr fun c => ?_
  rw [Request.references, List.mem_filter, any_inspectedPaths_iff, and_assoc]

end Offence

/-! ## §3. Rejected runs -/

/-- No call fails because of the criteria. -/
theorem Exchange.delivered_ne_rejection (x : Exchange) (field path : String) :
    x.delivered field ≠ .error (.referencePredicate path) := by
  cases x with
  | count filter answer => cases answer <;> simp [delivered, Except.mapError]
  | find query answer => cases answer <;> simp [delivered, Except.mapError, Except.map]
  | aggregate stages answer =>
      cases answer with
      | error e => simp [delivered, Except.mapError, Except.bind]
      | ok rows =>
          show countOf field rows ≠ _
          cases rows with
          | nil => simp [countOf]
          | cons row rest =>
              rw [countOf]
              cases (row.get? field).bind Json.nat? <;> simp

theorem Exchange.rows_ne_rejection (x : Exchange) (path : String) :
    x.rows ≠ .error (.referencePredicate path) := by
  cases x with
  | count filter answer => simp [rows]
  | find query answer => cases answer <;> simp [rows, Except.mapError]
  | aggregate stages answer => cases answer <;> simp [rows, Except.mapError]

/-- And no conversion does. -/
theorem Converted.ne_rejection {rows : List Json} {conversions : List (Conversion Row)}
    {result : Except TableError (List Row)} (h : Converted rows conversions result)
    (path : String) : result ≠ .error (.referencePredicate path) := by
  induction h with
  | nil => simp
  | @cons rest conversions result row x later ih =>
      cases result with
      | error e => simpa [Except.map] using ih
      | ok out => simp [Except.map]
  | stop row rest reason => simp

namespace Request

variable {r : Request} {criteria : Criteria} {settings : Settings} {queryId : String}

/-- **A run is rejected for its criteria alone.** -/
theorem Ending.rejected_iff {exchanges : List Exchange} {conversions : List (Conversion Row)}
    {e : Envelope Row} {events : List Event} {path : String}
    (h : r.Ending criteria settings queryId exchanges conversions e events) :
    e.error = some (.referencePredicate path)
      ↔ r.length ≠ 0 ∧ ∃ column, r.refusal? criteria settings = some column
          ∧ column.path = path := by
  cases h with
  | empty nothing => simp [nothing]
  | refused asked offended => simp [asked, offended]
  | uncounted passes | nothing passes | uncompiled passes _ _ => simp [passes.unrefused]
  | noneLeft counts _ => simp [counts.unrefused]
  | complete fetches _ _ => simp [fetches.unrefused]
  -- What the store or the conversion reports is an error of its own.
  | unfiltered counts fails =>
      have other := fails.symm.trans_ne (Exchange.delivered_ne_rejection _ _ path)
      simpa [counts.unrefused] using other
  | unfetched fetches fails =>
      have other := fails.symm.trans_ne (Exchange.rows_ne_rejection _ path)
      simpa [fetches.unrefused] using other
  | unconverted fetches _ stops =>
      simpa [fetches.unrefused] using stops.ne_rejection path

/-- The run is rejected for criteria that look into the reference column with a path: this is its
error, and it has made no call. -/
structure Rejected (r : Request) (criteria : Criteria) (settings : Settings) (queryId : String)
    (store : Executor World) (convert : Json → World → Except String Row × World) (world : World)
    (path : String) : Prop where
  error : (r.run criteria settings queryId store convert world).envelope.error
    = some (.referencePredicate path)
  noCalls : (r.recordedRun criteria settings queryId store convert world).world.exchanges = []

variable {store : Executor World} {convert : Json → World → Except String Row × World}
variable {world : World} {path : String}

/-- A run with this error is rejected: it has made no call. -/
theorem rejected_of_error
    (error : (r.run criteria settings queryId store convert world).envelope.error
      = some (.referencePredicate path)) :
    r.Rejected criteria settings queryId store convert world path := by
  have ending := r.ending_of_run criteria settings queryId store convert world
  refine ⟨error, ?_⟩
  rw [r.run_recording] at error
  obtain ⟨-, column, offended, -⟩ := ending.rejected_iff.1 error
  by_contra called
  have unrefused := (ending.first.1 called).2
  rw [offended] at unrefused
  exact absurd unrefused (by simp)

/-- A request for rows with reference columns is rejected for the offended column. -/
theorem rejected_iff_offended (asked : r.length ≠ 0) (references : r.hasReferences = true) :
    r.Rejected criteria settings queryId store convert world path
      ↔ ∃ column, offendedReference? r criteria settings.checkNested = some column
          ∧ column.path = path := by
  have refusal : r.refusal? criteria settings
      = offendedReference? r criteria settings.checkNested := if_pos references
  have ending := r.ending_of_run criteria settings queryId store convert world
  rw [← refusal]
  constructor
  · rintro ⟨error, -⟩
    rw [r.run_recording] at error
    exact (ending.rejected_iff.1 error).2
  · intro offended
    refine rejected_of_error ?_
    rw [r.run_recording]
    exact ending.rejected_iff.2 ⟨asked, offended⟩

/-- It is rejected at all when a condition looks into a reference column. -/
theorem exists_rejected_iff (asked : r.length ≠ 0) (references : r.hasReferences = true) :
    (∃ path, r.Rejected criteria settings queryId store convert world path)
      ↔ ∃ f ∈ criteria.fragments, ∃ c ∈ r.columns, c.reference = true
          ∧ f.LooksInto c settings.checkNested := by
  rw [← exists_offendedReference?_iff]
  simp only [rejected_iff_offended asked references]
  constructor
  · rintro ⟨_, column, offended, -⟩
    exact ⟨column, offended⟩
  · rintro ⟨column, offended⟩
    exact ⟨column.path, column, offended, rfl⟩

/-- **The guard on the caller's criteria.**  A request for rows with reference columns is rejected,
before any call and whatever the store is, under strict settings when some leaf of the criteria at
any depth leads into a reference column, and under lenient ones when a condition that is a single
leaf does; so what is rejected under lenient settings is rejected under strict ones.  The error
names the first reference column that the first offending condition looks into.  Paths that only
share their beginning with a column, and parents of a column, do not lead into it. -/
theorem criteria_guard (r : Request) (criteria : Criteria) (settings : Settings)
    (queryId : String) (store : Executor World)
    (convert : Json → World → Except String Row × World) (world : World) (asked : r.length ≠ 0)
    (references : r.hasReferences = true) :
    let rejected := fun nested => r.Rejected criteria { settings with checkNested := nested }
      queryId store convert world
    ((∃ path, rejected true path) ↔ ∃ f ∈ criteria.additional.toList ++ criteria.preFilter.toList,
        ∃ path, f.HasLeaf path ∧ ∃ c ∈ r.columns, c.reference = true ∧ LeadsInto path c.path)
      ∧ ((∃ path, rejected false path) ↔
        ∃ path condition, .field path condition ∈ criteria.additional.toList
            ++ criteria.preFilter.toList
          ∧ ∃ c ∈ r.columns, c.reference = true ∧ LeadsInto path c.path)
      ∧ ((∃ path, rejected false path) → ∃ path, rejected true path)
      ∧ (∀ nested path, rejected nested path ↔ ∃ before fragment after,
          criteria.additional.toList ++ criteria.preFilter.toList = before ++ fragment :: after
          ∧ (∀ f ∈ before, ∀ c ∈ r.references, ¬ f.LooksInto c nested)
          ∧ ∃ first column last, r.references = first ++ column :: last
              ∧ (∀ c ∈ first, ¬ fragment.LooksInto c nested)
              ∧ fragment.LooksInto column nested ∧ column.path = path)
      ∧ (∀ nested path,
          (r.run criteria { settings with checkNested := nested } queryId store convert
            world).envelope.error = some (.referencePredicate path) → rejected nested path)
      ∧ (∀ column suffix, LeadsInto (column ++ suffix) column
          ↔ suffix = "" ∨ ∃ rest, suffix = "." ++ rest)
      ∧ (∀ parent rest, ¬ LeadsInto parent (parent ++ "." ++ rest)) := by
  intro rejected
  have strict : (∃ path, rejected true path) ↔ ∃ f ∈ criteria.fragments, ∃ c ∈ r.columns,
      c.reference = true ∧ f.LooksInto c true := exists_rejected_iff asked references
  have lenient : (∃ path, rejected false path) ↔ ∃ f ∈ criteria.fragments, ∃ c ∈ r.columns,
      c.reference = true ∧ f.LooksInto c false := exists_rejected_iff asked references
  refine ⟨strict.trans ?_, lenient.trans ?_, ?_, ?_, fun nested path => rejected_of_error,
    leadsInto_append_iff, not_leadsInto_parent⟩
  · constructor
    · rintro ⟨f, mem, c, here, isRef, path, leaf, into⟩
      exact ⟨f, mem, path, leaf, c, here, isRef, into⟩
    · rintro ⟨f, mem, path, leaf, c, here, isRef, into⟩
      exact ⟨f, mem, c, here, isRef, path, leaf, into⟩
  · constructor
    · rintro ⟨_, mem, c, here, isRef, path, condition, rfl, into⟩
      exact ⟨path, condition, mem, c, here, isRef, into⟩
    · rintro ⟨path, condition, mem, c, here, isRef, into⟩
      exact ⟨_, mem, c, here, isRef, path, condition, rfl, into⟩
  · rw [strict, lenient]
    rintro ⟨f, mem, c, here, isRef, looks⟩
    exact ⟨f, mem, c, here, isRef, looks.strict⟩
  · intro nested path
    have named : rejected nested path ↔ ∃ column, offendedReference? r criteria nested = some column
        ∧ column.path = path := rejected_iff_offended asked references
    rw [named]
    simp only [offendedReference?_eq_some_iff]
    -- The two sides differ in the place of the column only.
    constructor
    · rintro ⟨column, ⟨before, f, after, split, others, first, last, cut, passed, looks⟩, same⟩
      exact ⟨before, f, after, split, others, first, column, last, cut, passed, looks, same⟩
    · rintro ⟨before, f, after, split, others, first, column, last, cut, passed, looks, same⟩
      exact ⟨column, ⟨before, f, after, split, others, first, last, cut, passed, looks⟩, same⟩

end Request

/-- Criteria with a leaf below the product of an order, two levels down.  The other paths come
close to those of reference columns: one shares its beginning, one is a parent. -/
def nestedCriteria : Criteria where
  additional := some (.eq "item.products" (.int 1))
  preFilter := some (.and
    [.eq "item" .null, .or [.eq "label" (.str "order1"), .eq "item.product.$id" (.int 7)]])

/-- Strict settings reject these criteria, and lenient ones do not. -/
theorem nestedCriteria_rejected :
    let rejected := fun nested => productOrders.Rejected nestedCriteria { checkNested := nested }
      "" (productStore.executor "orders" Unit)
      (fun row world => ((.ok row : Except String Json), world)) ()
    productOrders.length ≠ 0 ∧ productOrders.hasReferences = true
      ∧ (∃ path, rejected true path) ∧ ¬ ∃ path, rejected false path := by
  intro rejected
  have asked : productOrders.length ≠ 0 := by decide
  have references : productOrders.hasReferences = true := rfl
  have guarded := productOrders.criteria_guard nestedCriteria {} ""
    (productStore.executor "orders" Unit)
    (fun row world => ((.ok row : Except String Json), world)) () asked references
  refine ⟨asked, references, guarded.1.2 ?_, ?_⟩
  · -- The last leaf of the pre-filter leads into the product.
    refine ⟨_, List.mem_cons_of_mem _ List.mem_cons_self, "item.product.$id", ?_,
      _, List.mem_cons_of_mem _ List.mem_cons_self, rfl, .inr ⟨"$id", rfl⟩⟩
    refine .and _ (List.mem_cons_of_mem _ List.mem_cons_self) ?_
    exact .or _ (List.mem_cons_of_mem _ List.mem_cons_self) (.field _)
  · -- The only condition that is a single leaf shares no more than its beginning with a column.
    intro lenient
    obtain ⟨path, condition, mem, c, here, isRef, into⟩ := guarded.2.1.1 lenient
    have apart : ∀ c ∈ productOrders.columns, leadsInto "item.products" c.path = false := by
      decide +kernel
    rcases List.mem_cons.1 mem with single | mem
    · injection single with samePath
      rw [samePath, ← leadsInto_iff, apart c here] at into
      exact absurd into Bool.false_ne_true
    · exact absurd (List.mem_singleton.1 mem) (by simp)

end PagedTable
