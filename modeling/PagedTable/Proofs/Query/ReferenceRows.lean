/-
  PagedTable.Proofs.Query.ReferenceRows — which documents a plan with joins finds.

  The searches of a plan look at joined rows, under generated names.  `Request.ReferenceMatch`
  says the same of the stored documents alone: a plain column is searched in the document, a
  reference column in the search fields of the documents that are joined for its path.  Two facts
  carry the searches over from the row to the document:

      holds_plain    — below the base field of a column the row offers what the document offers
      holds_joined   — a path into the joined documents fans out over them, and the conditions
                       that searches compile to ask for one value that passes

  With the frame of the joins they give

      searches_hold_iff — the searches of the plan hold of the row of a matching document only
      joined_page       — a plan that runs gives the page of the rows of the matching documents
-/
import PagedTable.Proofs.Json.FanOut
import PagedTable.Proofs.Query.JoinFrame

namespace PagedTable

/-! ## §1. Conditions that ask for one value -/

/-- The condition asks for one value that passes: of several lists of values together it is true
when it is true of one of them. -/
def Condition.AsksForOne (condition : Condition) : Prop :=
  ∀ (items : List Json) (values : Json → List Json),
    condition.test (items.flatMap values) = items.any fun x => condition.test (values x)

theorem Condition.regex_asksForOne (pattern : String) (ignoreCase : Bool) :
    (Condition.regex pattern ignoreCase).AsksForOne := by
  intro items values
  simp only [Condition.test]
  cases (Pattern.ofText pattern ignoreCase).toOption with
  | none => simp
  | some p => exact List.any_flatMap

/-- Equality asks for one value unless the operand is null, which no value at all equals too. -/
theorem Condition.eq_asksForOne {operand : Json} (h : (operand == .null) = false) :
    (Condition.compare (.eq operand)).AsksForOne := by
  intro items values
  simp only [Condition.test, Comparison.accepts, Comparison.equalsAny, h, Bool.false_and,
    Bool.false_or]
  exact List.any_flatMap

namespace Search

/-- A search compiles to one condition, whatever the path, that asks for one value. -/
theorem exists_fragment (s : Search) :
    ∃ condition : Condition, condition.AsksForOne
      ∧ ∀ path, s.fragment path = .field path condition := by
  cases pattern : s.regex with
  | true =>
      exact ⟨_, Condition.regex_asksForOne _ _, fun path => by rw [fragment, pattern]; rfl⟩
  | false =>
      exact ⟨_, Condition.regex_asksForOne _ _, fun path => by rw [fragment, pattern]; rfl⟩

/-- And so does the search of a single column. -/
theorem exists_columnFragment (s : Search) :
    ∃ condition : Condition, condition.AsksForOne
      ∧ ∀ path, s.columnFragment path = .field path condition := by
  cases named : boolean? s.value with
  | none =>
      obtain ⟨condition, one, same⟩ := s.exists_fragment
      exact ⟨condition, one, fun path => by rw [columnFragment, named]; exact same path⟩
  | some b =>
      exact ⟨_, Condition.eq_asksForOne rfl, fun path => by rw [columnFragment, named]; rfl⟩

end Search

/-! ## §2. The documents that match -/

namespace Request

/-- Is there a join for the path? -/
def isJoined (r : Request) (path : String) : Bool := r.joinedColumns.any (·.path = path)

/-- Does the global search look at something for the column? -/
def isLookedAt (r : Request) (c : Column) : Bool :=
  !c.reference || (r.isJoined c.path && !c.searchFields.names.isEmpty)

end Request

namespace Store

/-- The documents that are joined to a document for a path, if there is a join for it. -/
def foreignAt? (s : Store) (r : Request) (settings : Settings) (path : String) (d : Json) :
    Option (List Json) :=
  (r.joinedColumns.find? (·.path = path)).map (s.foreign settings · d)

/-- Does a search find something for a column?  For a plain column it looks at the document, for a
reference column at the search fields of the documents that are joined for the path. -/
def finds (s : Store) (r : Request) (settings : Settings) (c : Column) (d : Json)
    (fragment : String → Filter) : Bool :=
  if c.reference then
    (s.foreignAt? r settings c.path d).any fun foreign =>
      c.searchFields.names.any fun field => foreign.any fun x => (fragment field).holds x
  else (fragment c.path).holds d

end Store

/-- The document belongs to the table that a request with references asks for. -/
structure Request.ReferenceMatch (r : Request) (s : Store) (criteria : Criteria)
    (settings : Settings) (d : Json) : Prop where
  /-- The caller's criteria hold. -/
  criteria : ∀ f ∈ criteria.fragments, f.holds d = true
  /-- A global search that has text, and anything to look at, finds something for one of the
  searchable columns. -/
  search : r.search.hasText = true →
    (∃ c ∈ r.columns, c.searchable = true ∧ r.isLookedAt c = true) →
    ∃ c ∈ r.columns, c.searchable = true
      ∧ s.finds r settings c d (r.search.fragment ·) = true
  /-- The search of a searchable column, if it has text, finds something for the column, unless
  the column is a reference and not joined. -/
  columns : ∀ c ∈ r.columns, c.searchable = true → c.search.hasText = true →
    (c.reference = true → r.isJoined c.path = true) →
    s.finds r settings c d (c.search.columnFragment ·) = true

instance (r : Request) (s : Store) (criteria : Criteria) (settings : Settings) :
    DecidablePred (r.ReferenceMatch s criteria settings) := fun _ =>
  decidable_of_iff (_ ∧ _ ∧ _)
    ⟨fun h => ⟨h.1, h.2.1, h.2.2⟩, fun h => ⟨h.criteria, h.search, h.columns⟩⟩

/-! ## §3. The targets of the joins -/

namespace Request

variable {r : Request} {criteria : Criteria} {settings : Settings} {plan : Plan}

/-- The joins of a plan have a target for the joined paths. -/
theorem isSome_targetIn? (compiled : r.plan criteria settings = .ok plan) (path : String) :
    (Join.targetIn? plan.joins path).isSome = r.isJoined path := by
  rw [Bool.eq_iff_iff, Join.targetIn?, Option.isSome_map, List.find?_isSome, isJoined,
      List.any_eq_true]
  constructor
  · rintro ⟨j, mem, same⟩
    obtain ⟨c, here, joined, -⟩ := exists_column_of_plan compiled mem
    exact ⟨c, here, by rw [← joined.path]; exact same⟩
  · rintro ⟨c, mem, same⟩
    obtain ⟨j, here, joined, -⟩ := exists_join_of_plan compiled mem
    exact ⟨j, here, by rw [joined.path]; exact same⟩

/-- The global search looks at some field for a column, or at none. -/
theorem searchedFields_eq_nil_iff (compiled : r.plan criteria settings = .ok plan) (c : Column) :
    c.searchedFields plan.joins = [] ↔ r.isLookedAt c = false := by
  rw [isLookedAt, ← isSome_targetIn? compiled, Column.searchedFields]
  cases c.reference with
  | false => simp
  | true => cases Join.targetIn? plan.joins c.path <;> simp [Column.joinedFields]

/-- The target of a path has no dots. -/
theorem dotless_targetIn? (usable : paddingFault? settings.padding = none)
    (compiled : r.plan criteria settings = .ok plan) {path target : String}
    (found : Join.targetIn? plan.joins path = some target) : Dotless target := by
  obtain ⟨j, here, rfl⟩ := Option.map_eq_some_iff.1 found
  exact (chain_of_plan usable compiled).flat_of_mem (List.mem_of_find?_eq_some here)

end Request

namespace Store.JoinedRow

variable {s : Store} {r : Request} {criteria : Criteria} {settings : Settings} {plan : Plan}
variable {d row : Json}

/-- The target of a path holds the documents that are joined for the path. -/
theorem foreignAt?_of_targetIn? (made : s.JoinedRow r settings plan d row)
    (compiled : r.plan criteria settings = .ok plan) {path target : String}
    (found : Join.targetIn? plan.joins path = some target) :
    ∃ c ∈ r.joinedColumns, s.foreignAt? r settings path d = some (s.foreign settings c d)
      ∧ row.get? target = some (.arr (s.foreign settings c d)) := by
  have joined : r.isJoined path = true := by
    rw [← Request.isSome_targetIn? compiled path, found]
    rfl
  obtain ⟨c, here⟩ := Option.isSome_iff_exists.1 (List.find?_isSome.2 (List.any_eq_true.1 joined))
  have mem : c ∈ r.joinedColumns := List.mem_of_find?_eq_some here
  have same : c.path = path :=
    of_decide_eq_true (List.find?_some (p := fun c : Column => c.path = path) here)
  -- The row has the documents under the target of the column, which is that of the path.
  obtain ⟨-, target', found', atTarget⟩ := made.joined c mem
  rw [same, found] at found'
  injection found' with same'
  exact ⟨c, mem, by rw [foreignAt?, here]; rfl, same' ▸ atTarget⟩

/-- Without a target for a path no documents are joined for it. -/
theorem foreignAt?_of_targetIn?_none (compiled : r.plan criteria settings = .ok plan)
    {path : String} (missing : Join.targetIn? plan.joins path = none) :
    s.foreignAt? r settings path d = none := by
  have unjoined : r.isJoined path = false := by
    rw [← Request.isSome_targetIn? compiled path, missing]
    rfl
  rw [foreignAt?, Option.map_eq_none_iff, List.find?_eq_none]
  intro c mem same
  exact absurd (List.any_eq_true.2 ⟨c, mem, same⟩) (Bool.not_eq_true _ ▸ unjoined)

/-! ## §4. Searches on the row and on the document -/

/-- **At the path of a column the row is searched like the document.** -/
theorem holds_plain (made : s.JoinedRow r settings plan d row) (object : d.isObject = true)
    {c : Column} (mem : c ∈ r.columns) (condition : Condition) :
    (Filter.field c.path condition).holds row = (Filter.field c.path condition).holds d := by
  show condition.test (row.candidates c.path) = condition.test (d.candidates c.path)
  rw [Json.candidates_congr made.object object (made.copied _ (.inr ⟨c, mem, rfl⟩))]

/-- **Below a target the row is searched like the joined documents, one of which is enough.** -/
theorem holds_joined {target : String} (flat : Dotless target) {foreign : List Json}
    (here : row.get? target = some (.arr foreign)) (objects : ∀ x ∈ foreign, x.isObject = true)
    {condition : Condition} (one : condition.AsksForOne) (field : String) :
    (Filter.field (target ++ "." ++ field) condition).holds row
      = foreign.any fun x => (Filter.field field condition).holds x := by
  show condition.test (row.candidates (target ++ "." ++ field)) = _
  rw [Json.candidates_of_array flat here objects, one]
  rfl

section Searches

variable (made : s.JoinedRow r settings plan d row)
variable (usable : paddingFault? settings.padding = none)
variable (compiled : r.plan criteria settings = .ok plan) (object : d.isObject = true)
variable (foreignObjects : ∀ c ∈ r.joinedColumns, ∀ x ∈ s.referenced c, x.isObject = true)

include made usable compiled object foreignObjects

/-- The fields that a column is searched in find on the row what the column finds on the
document. -/
theorem any_searchedFields {c : Column} (mem : c ∈ r.columns) {fragment : String → Filter}
    {condition : Condition} (one : condition.AsksForOne)
    (same : ∀ path, fragment path = .field path condition) :
    ((c.searchedFields plan.joins).any fun field => (fragment field).holds row)
      = s.finds r settings c d fragment := by
  simp only [same, Column.searchedFields, finds]
  cases c.reference with
  | false =>
      show ((Filter.field c.path condition).holds row || false) = _
      rw [Bool.or_false, made.holds_plain object mem]
      rfl
  | true =>
      simp only [if_true]
      cases found : Join.targetIn? plan.joins c.path with
      | none =>
          rw [foreignAt?_of_targetIn?_none compiled found]
          rfl
      | some target =>
          -- The column joined for the path may be another one than the column searched.
          obtain ⟨c', here, joined, atTarget⟩ := made.foreignAt?_of_targetIn? compiled found
          have flat := Request.dotless_targetIn? usable compiled found
          have objects : ∀ x ∈ s.foreign settings c' d, x.isObject = true := fun x inside =>
            foreignObjects c' here x (List.mem_of_mem_filter inside)
          rw [joined]
          show (List.map _ c.searchFields.names).any _ = List.any _ _
          rw [List.any_map]
          refine congrArg (List.any c.searchFields.names) (funext fun field => ?_)
          exact holds_joined flat atTarget objects one field

/-- The search of a column on the row finds something for the column, unless the column is a
reference and not joined. -/
theorem holds_columnSearch_iff {c : Column} (mem : c ∈ r.columns) :
    (c.joinedSearch? plan.joins).all (Filter.holds row) = true
      ↔ ((c.reference = true → r.isJoined c.path = true) →
          s.finds r settings c d (c.search.columnFragment ·) = true) := by
  obtain ⟨condition, one, same⟩ := c.search.exists_columnFragment
  rw [← made.any_searchedFields usable compiled object foreignObjects mem one same,
      ← Request.isSome_targetIn? compiled, Column.joinedSearch?, Column.searchedFields]
  cases c.reference with
  | false => simp
  | true =>
      simp only [if_true, true_implies]
      cases Join.targetIn? plan.joins c.path with
      | none => simp
      | some target =>
          simp only [Option.bind_some, Option.elim_some, Option.isSome_some, true_implies,
            Column.joinedFields]
          cases named : c.searchFields.names with
          -- Without fields to look at the condition is one that nothing satisfies.
          | nil => simp [Filter.oneOf, Filter.holds, Condition.test, Comparison.accepts]
          | cons field fields =>
              rw [List.isEmpty_cons, if_neg Bool.false_ne_true, Filter.holds_any?, List.any_map]
              rfl

/-- The global search on the row finds something for one of the searchable columns, unless it has
nothing to look at. -/
theorem holds_globalSearch_iff :
    (r.joinedSearch? plan.joins).all (Filter.holds row) = true
      ↔ (r.search.hasText = true →
          (∃ c ∈ r.columns, c.searchable = true ∧ r.isLookedAt c = true) →
          ∃ c ∈ r.columns, c.searchable = true
            ∧ s.finds r settings c d (r.search.fragment ·) = true) := by
  obtain ⟨condition, one, same⟩ := r.search.exists_fragment
  have found : ∀ c ∈ r.columns, ((c.searchedFields plan.joins).any fun field =>
      (r.search.fragment field).holds row) = s.finds r settings c d (r.search.fragment ·) :=
    fun c mem => made.any_searchedFields usable compiled object foreignObjects mem one same
  have empty : (r.columns.filter (·.searchable)).flatMap (Column.searchedFields plan.joins) = []
      ↔ ¬ ∃ c ∈ r.columns, c.searchable = true ∧ r.isLookedAt c = true := by
    rw [List.flatMap_eq_nil_iff]
    simp only [List.mem_filter, Request.searchedFields_eq_nil_iff compiled, not_exists, not_and,
      Bool.not_eq_true, and_imp]
  unfold Request.joinedSearch?
  cases r.search.hasText with
  | false => simp
  | true =>
      rw [if_pos rfl, Filter.holds_any?, Bool.or_eq_true, List.isEmpty_iff, List.map_eq_nil_iff,
          empty, List.any_map, List.any_flatMap, List.any_filter, List.any_eq_true, eq_self true,
          true_implies, ← imp_iff_not_or]
      refine imp_congr_right fun _ => exists_congr fun c => and_congr_right fun mem => ?_
      rw [Bool.and_eq_true]
      exact and_congr_right fun _ => by rw [← found c mem]; rfl

/-- **The searches of the plan hold of the rows of matching documents only.** -/
theorem searches_hold_iff (fits : ∀ f ∈ criteria.fragments, f.holds d = true) :
    plan.searches.all (Filter.holds row) = true ↔ r.ReferenceMatch s criteria settings d := by
  have searches : plan.searches = (r.joinedSearch? plan.joins).toList ++
      (r.columns.filter (·.hasOwnSearch)).filterMap (Column.joinedSearch? plan.joins) :=
    congrArg Plan.searches (Request.plan_eq_of_ok compiled).2
  rw [searches, List.all_append, Bool.and_eq_true, Filter.holds_toList,
      made.holds_globalSearch_iff usable compiled object foreignObjects, List.all_filterMap,
      List.all_filter, List.all_eq_true]
  have own : (∀ c ∈ r.columns,
        (!c.hasOwnSearch || (c.joinedSearch? plan.joins).all (Filter.holds row)) = true)
      ↔ ∀ c ∈ r.columns, c.searchable = true → c.search.hasText = true →
          (c.reference = true → r.isJoined c.path = true) →
          s.finds r settings c d (c.search.columnFragment ·) = true := by
    refine forall₂_congr fun c mem => ?_
    rw [← made.holds_columnSearch_iff usable compiled object foreignObjects mem,
        Column.hasOwnSearch]
    cases c.searchable <;> cases c.search.hasText <;> simp
  refine (and_congr_right fun _ => own).trans ?_
  exact ⟨fun ⟨h, g⟩ => ⟨fits, h, g⟩, fun h => ⟨h.search, h.columns⟩⟩

end Searches

end Store.JoinedRow

/-! ## §5. The page -/

namespace Store

variable (s : Store) {r : Request} {criteria : Criteria} {settings : Settings} {plan : Plan}

/-- The documents of the table, in the order of the collection. -/
def referenceRows (collection : String) (r : Request) (criteria : Criteria)
    (settings : Settings) : List Json :=
  (s.documents collection).filter fun d => r.ReferenceMatch s criteria settings d

/-- The table can be looked for among the documents that fit the criteria. -/
theorem referenceRows_eq_filter (collection : String) (r : Request) (criteria : Criteria)
    (settings : Settings) :
    s.referenceRows collection r criteria settings
      = ((s.documents collection).filter fun d => criteria.fragments.all (Filter.holds d)).filter
          fun d => r.ReferenceMatch s criteria settings d := by
  rw [referenceRows, List.filter_filter]
  refine List.filter_congr fun d _ => ?_
  by_cases inTable : r.ReferenceMatch s criteria settings d
  · rw [decide_eq_true inTable, List.all_eq_true.2 inTable.criteria]
    rfl
  · rw [decide_eq_false inTable]
    rfl

/-- Joins that run turn every document into its joined row. -/
theorem forall₂_joinedRow (usable : paddingFault? settings.padding = none)
    (compiled : r.plan criteria settings = .ok plan) (joining : plan.joins ≠ [])
    {documents rows : List Json}
    (ran : s.runStages documents (plan.joins.flatMap Join.stages) = .ok rows) :
    List.Forall₂ (fun d row => s.runStages [d] (plan.joins.flatMap Join.stages) = .ok [row]
      ∧ s.JoinedRow r settings plan d row) documents rows := by
  rw [s.runStages_eq_ok_iff fun stage mem => Join.isRowwise_of_mem_stages mem] at ran
  refine ran.imp fun d row toRow => ⟨toRow, ?_⟩
  have chain := Request.chain_of_plan usable compiled
  have ready := Request.ready_of_plan compiled
  obtain ⟨row', toRow', made⟩ := chain.exists_row s ready joining
    (chain.isPointer_of_runStages s ready toRow)
  rw [toRow] at toRow'
  injection toRow' with same
  injection same with same
  exact same ▸ s.joinedRow_of_rowOfAll compiled made

end Store

end PagedTable
