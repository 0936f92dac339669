/-
  PagedTable.Proofs.Query.Scoping — what the stages of a plan read is there.

  A projection drops every field that it does not name, and a stage that reads a dropped field
  finds nothing instead of failing.  So the fields that the rows are known to have are followed
  along a pipeline: a projection leaves the identifier, what it keeps and what it computes, a
  lookup adds its target.  A pipeline is scoped when every stage sees the fields it reads.

  Main results:
    * `Scoped.field_of_split` — what a scoped pipeline reads behind a projection, this projection
      or a lookup behind it has put there
    * `Chain.scoped_stages` — the joins of a chain are scoped, and so is what reads their targets only
    * `pipelines_scoped` — the pipelines of every plan, together with the shape they share
-/
import Mathlib.Data.List.Nodup
import PagedTable.Proofs.Json.Members
import PagedTable.Proofs.Query.JoinFrame

namespace PagedTable

/-! ## §1. What stages read -/

/-- The path that an expression reads. -/
def Expression.path : Expression → String
  | objectToArray path => path
  | elementAt path _ => path
  | field path => path

namespace Stage

/-- The paths that a stage reads in its rows. -/
def reads : Stage → List String
  | filter f => f.paths
  | project p => [p.expression.path]
  | lookup l => [l.localField]
  | sort keys => keys.map (·.field)
  | skip _ | limit _ | count _ => []

/-- Does the stage make new rows, with other fields?  All others pass their rows on. -/
def isProjection : Stage → Bool
  | project _ => true
  | _ => false

/-- Does the stage order the rows or cut out some of them? -/
def isWindow : Stage → Bool
  | sort _ | skip _ | limit _ => true
  | _ => false

/-- The fields that the rows are known to have after a stage.  Stored documents may have any
fields (`none`); of the document that a count makes nothing is known. -/
def fieldsAfter (fields : Option (List String)) : Stage → Option (List String)
  | project p => some (p.field :: "_id" :: p.kept)
  | lookup l => fields.map (l.target :: ·)
  | count _ => fields.map fun _ => []
  | filter _ | sort _ | skip _ | limit _ => fields

/-- Is the field there for the stage?  Of a stored document a projection reads nothing but what
it keeps, and all other stages read what they like. -/
def Sees (stage : Stage) (field : String) : Option (List String) → Prop
  | some fields => field ∈ fields
  | none => ∀ p, stage = project p → field ∈ "_id" :: p.kept

/-- Every stage sees the fields that its paths start with. -/
inductive Scoped : Option (List String) → List Stage → Prop where
  | nil {fields} : Scoped fields []
  | cons {fields stage rest} (sees : ∀ path ∈ stage.reads, stage.Sees (baseField path) fields)
      (later : Scoped (stage.fieldsAfter fields) rest) : Scoped fields (stage :: rest)

/-! ## §2. What a scoped pipeline reads -/

namespace Scoped

/-- The rest of a scoped pipeline is scoped, with the fields that are known there. -/
theorem of_append {first second : List Stage} {fields : Option (List String)}
    (h : Scoped fields (first ++ second)) : Scoped (first.foldl fieldsAfter fields) second := by
  induction first generalizing fields with
  | nil => exact h
  | cons stage rest ih =>
      cases h with
      | cons _ later => exact ih later

/-- Before the first projection nothing is known of the rows. -/
theorem foldl_fieldsAfter_none {before : List Stage} (h : before.all (!·.isProjection)) :
    before.foldl fieldsAfter none = none := by
  induction before with
  | nil => rfl
  | cons stage rest ih =>
      rw [List.all_cons, Bool.and_eq_true] at h
      have behind := ih h.2
      cases stage with
      | project p => exact absurd h.1 (by simp [isProjection])
      | filter f | lookup l | sort keys | skip n | limit n | count field => exact behind

/-- **The first projection reads what it keeps.** -/
theorem field_of_first {p : Projection} {before after : List Stage}
    (h : Scoped none (before ++ .project p :: after)) (isFirst : before.all (!·.isProjection)) :
    baseField p.expression.path ∈ "_id" :: p.kept := by
  have rest := h.of_append
  rw [foldl_fieldsAfter_none isFirst] at rest
  cases rest with
  | cons sees _ => exact sees _ (List.mem_singleton_self _) p rfl

/-- Between projections only lookups add fields. -/
theorem foldl_fieldsAfter_some {between : List Stage} (h : between.all (!·.isProjection))
    (fields : List String) :
    ∃ visible, between.foldl fieldsAfter (some fields) = some visible
      ∧ ∀ name ∈ visible, name ∈ fields ∨ ∃ l, .lookup l ∈ between ∧ name = l.target := by
  induction between generalizing fields with
  | nil => exact ⟨fields, rfl, fun name mem => .inl mem⟩
  | cons stage rest ih =>
      rw [List.all_cons, Bool.and_eq_true] at h
      -- What the first stage leaves are the fields from before, and the target if it is a lookup.
      have passed : ∃ left, stage.fieldsAfter (some fields) = some left
          ∧ ∀ name ∈ left, name ∈ fields ∨ ∃ l, stage = .lookup l ∧ name = l.target := by
        cases stage with
        | project p => exact absurd h.1 (by simp [isProjection])
        | lookup l =>
            refine ⟨l.target :: fields, rfl, fun name mem => ?_⟩
            rcases List.mem_cons.1 mem with same | mem
            · exact .inr ⟨l, rfl, same⟩
            · exact .inl mem
        | count field => exact ⟨[], rfl, fun name mem => absurd mem List.not_mem_nil⟩
        | filter f | sort keys | skip n | limit n => exact ⟨fields, rfl, fun name mem => .inl mem⟩
      obtain ⟨left, isLeft, origin⟩ := passed
      obtain ⟨visible, isVisible, further⟩ := ih h.2 left
      refine ⟨visible, by rw [List.foldl_cons, isLeft, isVisible], fun name mem => ?_⟩
      rcases further name mem with here | ⟨l, there, same⟩
      · rcases origin name here with early | ⟨l, rfl, same⟩
        · exact .inl early
        · exact .inr ⟨l, List.mem_cons_self, same⟩
      · exact .inr ⟨l, List.mem_cons_of_mem _ there, same⟩

/-- **What a stage reads behind a projection is the identifier, is kept or computed by this
projection, or is the target of a lookup behind it.** -/
theorem field_of_split {fields : Option (List String)} {p : Projection} {stage : Stage}
    {before between after : List Stage}
    (h : Scoped fields (before ++ .project p :: (between ++ stage :: after)))
    (isLatest : between.all (!·.isProjection)) {path : String} (read : path ∈ stage.reads) :
    baseField path = "_id" ∨ baseField path ∈ p.kept ∨ baseField path = p.field
      ∨ ∃ l, .lookup l ∈ between ∧ baseField path = l.target := by
  cases h.of_append with
  | cons _ behind =>
      obtain ⟨visible, isVisible, origin⟩ :=
        foldl_fieldsAfter_some isLatest (p.field :: "_id" :: p.kept)
      have here : Scoped (some visible) (stage :: after) := isVisible ▸ behind.of_append
      cases here with
      | cons sees _ =>
          have there : baseField path ∈ visible := sees path read
          rcases origin _ there with mem | looked
          · rcases List.mem_cons.1 mem with computed | mem
            · exact .inr (.inr (.inl computed))
            rcases List.mem_cons.1 mem with identifier | isKept
            · exact .inl identifier
            · exact .inr (.inl isKept)
          · exact .inr (.inr (.inr looked))

end Scoped

/-! ## §3. Stages that read known fields -/

/-- All of the names are known to be fields, if anything is known. -/
def Known (names : List String) (fields : Option (List String)) : Prop :=
  ∀ visible, fields = some visible → ∀ name ∈ names, name ∈ visible

theorem known_none (names : List String) : Known names none :=
  fun _ known => absurd known (by simp)

theorem Known.mono {names more : List String} {fields : Option (List String)}
    (h : Known more fields) (sub : ∀ name ∈ names, name ∈ more) : Known names fields :=
  fun visible known name mem => h visible known name (sub name mem)

/-- Filters and windows that read known fields are scoped, and leave the fields as they are. -/
theorem scoped_of_known {fields : Option (List String)} {stages : List Stage}
    (passing : ∀ stage ∈ stages, (∃ f, stage = .filter f) ∨ stage.isWindow = true)
    (reading : ∀ stage ∈ stages, Known (stage.reads.map baseField) fields) {rest : List Stage}
    (later : Scoped fields rest) : Scoped fields (stages ++ rest) := by
  induction stages with
  | nil => exact later
  | cons stage stages ih =>
      have behind := ih (fun other mem => passing other (List.mem_cons_of_mem _ mem))
        (fun other mem => reading other (List.mem_cons_of_mem _ mem))
      have passes := passing stage List.mem_cons_self
      have same : stage.fieldsAfter fields = fields := by
        rcases passes with ⟨f, rfl⟩ | window
        · rfl
        · cases stage <;> first | rfl | exact absurd window (by simp [isWindow])
      refine .cons (fun path read => ?_) (by rw [same]; exact behind)
      cases fields with
      | some visible =>
          exact reading stage List.mem_cons_self visible rfl _ (List.mem_map_of_mem read)
      | none =>
          rintro p rfl
          rcases passes with ⟨f, isFilter⟩ | window
          · exact absurd isFilter (by simp)
          · exact absurd window (by simp [isWindow])

end Stage

open Stage (Scoped Known)

/-! ## §4. Joins -/

/-- A projection says of every field of its rows one thing only: what it keeps and what it computes
are distinct names at the top of a document, none of them the identifier. -/
structure Projection.Unambiguous (p : Projection) : Prop where
  kept : p.kept.Nodup
  flat : ∀ name ∈ p.field :: p.kept, Dotless name
  identifier : "_id" ∉ p.field :: p.kept
  field : p.field ∉ p.kept

/-- The document of an unambiguous projection has a member for each field that is kept, and one
more. -/
theorem Projection.Unambiguous.keys {p : Projection} (h : p.Unambiguous) :
    p.toDocument.members.map Prod.fst = p.kept ++ [p.field] := by
  have names : (p.kept.map (·, Json.int 1) ++ [(p.field, p.expression.toDocument)]).map Prod.fst
      = p.kept ++ [p.field] := by simp [Function.comp_def]
  have distinct : (p.kept ++ [p.field]).Nodup := by
    rw [← List.concat_eq_append]
    exact h.kept.concat h.field
  rw [Projection.toDocument, Json.ofMembers_of_nodup (names ▸ distinct)]
  exact names

namespace Join

variable {inUse : List String} {j : Join}

/-- The projections of a fresh join are unambiguous. -/
theorem Fresh.unambiguous (fresh : j.Fresh inUse) (distinct : ("_id" :: j.kept).Nodup)
    {p : Projection} (mem : .project p ∈ j.stages) : p.Unambiguous := by
  -- All three projections compute a field that extends the target.
  have extending : ∀ suffix, Dotless suffix → ∀ expression,
      Projection.Unambiguous ⟨j.kept, j.target ++ suffix, expression⟩ := by
    intro suffix flat expression
    have ⟨identifier, kept⟩ := List.nodup_cons.1 distinct
    have new := fresh.notMem suffix
    rw [List.mem_cons, not_or] at new
    refine ⟨kept, ?_, ?_, new.2⟩
    · intro name mem
      rcases List.mem_cons.1 mem with rfl | mem
      · exact fresh.flat_append flat
      · exact fresh.flatKept name mem
    · intro mem
      rcases List.mem_cons.1 mem with same | mem
      · exact new.1 same.symm
      · exact identifier mem
  simp only [stages, List.mem_cons, Stage.project.injEq, reduceCtorEq, List.not_mem_nil, or_false]
    at mem
  rcases mem with rfl | rfl | rfl
  · exact extending "fk_arr" (by decide) _
  · exact extending "fk_obj" (by decide) _
  · exact extending "id" (by decide) _

/-- **A join is scoped**: every stage reads what the one before has computed, and the rest has the
target, the identifier of the pointer and what is kept. -/
theorem Fresh.scoped_stages (fresh : j.Fresh inUse) {fields : Option (List String)} {rest : List Stage}
    (pointer : baseField j.path ∈ "_id" :: j.kept) (known : Known ("_id" :: j.kept) fields)
    (later : Scoped (some (j.target :: j.idField :: "_id" :: j.kept)) rest) :
    Scoped fields (j.stages ++ rest) := by
  have flatPairs : Dotless j.pairsField := fresh.flat_append (by decide)
  have flatPair : Dotless j.pairField := fresh.flat_append (by decide)
  have flatId : Dotless j.idField := fresh.flat_append (by decide)
  have below : j.pairField ++ ".v" = j.pairField ++ "." ++ "v" := by
    rw [String.append_assoc]
    rfl
  refine .cons ?_ (.cons ?_ (.cons ?_ (.cons ?_ later)))
  · intro path read
    rw [List.mem_singleton.1 read]
    cases fields with
    | none =>
        rintro p same
        injection same with same
        exact same ▸ pointer
    | some visible => exact known visible rfl _ pointer
  · intro path read
    rw [List.mem_singleton.1 read]
    show baseField j.pairsField ∈ j.pairsField :: "_id" :: j.kept
    rw [baseField_of_dotless flatPairs]
    exact List.mem_cons_self
  · intro path read
    rw [List.mem_singleton.1 read]
    show baseField (j.pairField ++ ".v") ∈ j.pairField :: "_id" :: j.kept
    rw [below, baseField_append flatPair]
    exact List.mem_cons_self
  · intro path read
    rw [List.mem_singleton.1 read]
    show baseField j.idField ∈ j.idField :: "_id" :: j.kept
    rw [baseField_of_dotless flatId]
    exact List.mem_cons_self

namespace Chain

variable {kept : List String} {joins : List Join}

/-- Every join of a chain is fresh where it runs, and keeps distinct fields. -/
theorem fresh_of_mem (chain : Chain inUse kept joins) (ready : Ready inUse kept joins)
    (distinct : ("_id" :: kept).Nodup) (mem : j ∈ joins) :
    (∃ names, j.Fresh names) ∧ ("_id" :: j.kept).Nodup := by
  induction chain with
  | nil => exact absurd mem List.not_mem_nil
  | @cons inUse kept first rest free flat keeps later ih =>
      have chain : Chain inUse kept (first :: rest) := .cons free flat keeps later
      have fresh := chain.fresh ready
      rcases List.mem_cons.1 mem with rfl | mem
      · exact ⟨⟨_, fresh⟩, keeps ▸ distinct⟩
      · refine ih (chain.ready_later ready) ?_ mem
        rw [← List.cons_append, ← List.concat_eq_append]
        exact distinct.concat (keeps ▸ fresh.target_notMem)

/-- **The joins of a chain are scoped**, and so is what comes after them if it is scoped with the
identifier, the kept fields and all targets. -/
theorem scoped_stages (chain : Chain inUse kept joins) (ready : Ready inUse kept joins)
    {fields : Option (List String)} (known : Known ("_id" :: kept) fields) {rest : List Stage}
    (later : ∀ fields, Known ("_id" :: (kept ++ joins.map (·.target))) fields →
      Scoped fields rest) :
    Scoped fields (joins.flatMap stages ++ rest) := by
  induction chain generalizing fields with
  | nil => exact later fields (by simpa using known)
  | @cons inUse kept first others free flat keeps behind ih =>
      have chain : Chain inUse kept (first :: others) := .cons free flat keeps behind
      have pointer := ready.pointers first List.mem_cons_self
      rw [List.flatMap_cons, List.append_assoc]
      refine (chain.fresh ready).scoped_stages (keeps ▸ pointer) (keeps ▸ known) ?_
      -- The first target is one of the fields that the others keep.
      refine ih (chain.ready_later ready) ?_ fun fields known => later fields ?_
      · rintro visible same name mem
        injection same with same
        subst same
        rw [keeps]
        rcases List.mem_cons.1 mem with identifier | mem
        · simp [identifier]
        · rcases List.mem_append.1 mem with isKept | isTarget
          · simp [isKept]
          · simp [List.mem_singleton.1 isTarget]
      · rwa [List.map_cons, List.append_cons]

end Chain

end Join

/-! ## §5. Searches and sort keys -/

namespace Filter

theorem clausePaths_eq_flatMap (clauses : List Filter) : clausePaths clauses = clauses.flatMap paths := by
  induction clauses with
  | nil => rfl
  | cons clause rest ih => rw [clausePaths, ih, List.flatMap_cons]

/-- The paths of alternatives are paths of one of them. -/
theorem mem_paths_any? {clauses : List Filter} {f : Filter} (h : any? clauses = some f)
    {path : String} (mem : path ∈ f.paths) : ∃ clause ∈ clauses, path ∈ clause.paths := by
  match clauses, h with
  | [clause], h =>
      injection h with h
      exact ⟨clause, List.mem_singleton_self clause, h ▸ mem⟩
  | first :: second :: rest, h =>
      injection h with h
      rw [← h, paths, clausePaths_eq_flatMap] at mem
      exact List.mem_flatMap.1 mem

end Filter

namespace Search

theorem paths_fragment (s : Search) (path : String) : (s.fragment path).paths = [path] := by
  unfold fragment
  split <;> rfl

theorem paths_columnFragment (s : Search) (path : String) :
    (s.columnFragment path).paths = [path] := by
  unfold columnFragment
  split
  · rfl
  · exact s.paths_fragment path

end Search

namespace Plan

variable {plan : Plan} {stage : Stage}

/-- The criteria and the searches filter, everything else belongs to a join. -/
theorem mem_filtering_cases (mem : stage ∈ plan.filtering) :
    (∃ f, stage = .filter f) ∨ ∃ j ∈ plan.joins, stage ∈ j.stages := by
  rw [filtering, List.mem_append, List.mem_append] at mem
  rcases mem with (isCriterion | isJoin) | isSearch
  · obtain ⟨f, -, same⟩ := List.mem_map.1 isCriterion
    exact .inl ⟨f, same.symm⟩
  · exact .inr (List.mem_flatMap.1 isJoin)
  · obtain ⟨f, -, same⟩ := List.mem_map.1 isSearch
    exact .inl ⟨f, same.symm⟩

/-- A window sorts, skips and limits. -/
theorem mem_window_cases (mem : stage ∈ plan.window) :
    stage = .sort plan.sort ∨ stage = .skip plan.skip ∨ ∃ n, stage = .limit n := by
  rw [window, List.mem_append, List.mem_cons, Option.mem_toList] at mem
  rcases mem with isSort | isSkip | isLimit
  · split at isSort
    · exact absurd isSort List.not_mem_nil
    · exact .inl (List.mem_singleton.1 isSort)
  · exact .inr (.inl isSkip)
  · obtain ⟨n, -, same⟩ := Option.map_eq_some_iff.1 isLimit
    exact .inr (.inr ⟨n, same.symm⟩)

theorem isWindow_of_mem_window (mem : stage ∈ plan.window) : stage.isWindow = true := by
  rcases mem_window_cases mem with rfl | rfl | ⟨n, rfl⟩
  · rfl
  · rfl
  · rfl

/-- A window reads the sort keys. -/
theorem exists_key_of_mem_window (mem : stage ∈ plan.window) {path : String}
    (read : path ∈ stage.reads) : ∃ key ∈ plan.sort, key.field = path := by
  rcases mem_window_cases mem with rfl | rfl | ⟨n, rfl⟩
  · exact List.mem_map.1 read
  · exact absurd read List.not_mem_nil
  · exact absurd read List.not_mem_nil

end Plan

namespace Request

variable {r : Request} {criteria : Criteria} {settings : Settings} {plan : Plan}

/-- The fields that the joins of a plan leave for what comes after them. -/
def joinedFields (r : Request) (plan : Plan) : List String :=
  "_id" :: (r.keptFields ++ plan.joins.map (·.target))

theorem nodup_foldl_keep {fields kept : List String} (h : ("_id" :: kept).Nodup) :
    ("_id" :: fields.foldl keep kept).Nodup := by
  induction fields generalizing kept with
  | nil => exact h
  | cons field rest ih =>
      rw [List.foldl_cons]
      apply ih
      unfold keep
      split
      · exact h
      · next new =>
        rw [not_or] at new
        have fresh : field ∉ "_id" :: kept := by
          simpa using new
        rw [← List.cons_append, ← List.concat_eq_append]
        exact h.concat fresh

/-- The identifier and the kept fields are distinct. -/
theorem nodup_keptFields (r : Request) : ("_id" :: r.keptFields).Nodup :=
  nodup_foldl_keep (List.nodup_singleton _)

theorem baseField_mem_joinedFields {c : Column} (mem : c ∈ r.columns) :
    baseField c.path ∈ r.joinedFields plan := by
  rw [joinedFields, ← List.cons_append]
  exact List.mem_append_left _ (mem_keptFields.2 (.inr ⟨c, mem, rfl⟩))

section Compiled

variable (usable : paddingFault? settings.padding = none)
variable (compiled : r.plan criteria settings = .ok plan)

include usable compiled

/-- Below the target of a path. -/
theorem target_mem_joinedFields {path target : String}
    (found : Join.targetIn? plan.joins path = some target) (field : String) :
    baseField (target ++ "." ++ field) ∈ r.joinedFields plan := by
  obtain ⟨j, here, rfl⟩ := Option.map_eq_some_iff.1 found
  have mem := List.mem_of_find?_eq_some here
  rw [baseField_append ((chain_of_plan usable compiled).flat_of_mem mem), joinedFields,
      ← List.cons_append]
  exact List.mem_append_right _ (List.mem_map_of_mem mem)

/-- The global search looks at columns and below targets. -/
theorem globalSearch_reads {f : Filter} (isSearch : r.joinedSearch? plan.joins = some f)
    {path : String} (read : path ∈ f.paths) : baseField path ∈ r.joinedFields plan := by
  rw [joinedSearch?, Option.ite_none_right_eq_some] at isSearch
  obtain ⟨clause, isClause, there⟩ := Filter.mem_paths_any? isSearch.2 read
  obtain ⟨looked, isLooked, rfl⟩ := List.mem_map.1 isClause
  rw [Search.paths_fragment, List.mem_singleton] at there
  obtain ⟨c, isSearchable, isField⟩ := List.mem_flatMap.1 isLooked
  have mem : c ∈ r.columns := List.mem_of_mem_filter isSearchable
  rw [there]
  unfold Column.searchedFields at isField
  cases reference : c.reference with
  | false =>
      rw [reference, if_neg Bool.false_ne_true, List.mem_singleton] at isField
      exact isField ▸ baseField_mem_joinedFields mem
  | true =>
      rw [reference, if_pos rfl] at isField
      cases found : Join.targetIn? plan.joins c.path with
      | none =>
          rw [found] at isField
          exact absurd isField List.not_mem_nil
      | some target =>
          rw [found] at isField
          obtain ⟨field, -, same⟩ := List.mem_map.1 isField
          exact same ▸ target_mem_joinedFields usable compiled found field

/-- The search of a column looks at the column or below its target.  Where it has nothing to look
at it asks for the identifier, which is never in an empty list. -/
theorem columnSearch_reads {c : Column} (mem : c ∈ r.columns) {f : Filter}
    (isSearch : c.joinedSearch? plan.joins = some f) {path : String} (read : path ∈ f.paths) :
    baseField path ∈ r.joinedFields plan := by
  unfold Column.joinedSearch? at isSearch
  cases reference : c.reference with
  | false =>
      rw [reference, if_neg Bool.false_ne_true] at isSearch
      injection isSearch with isSearch
      rw [← isSearch, Search.paths_columnFragment, List.mem_singleton] at read
      exact read ▸ baseField_mem_joinedFields mem
  | true =>
      rw [reference, if_pos rfl] at isSearch
      obtain ⟨target, found, isSearch⟩ := Option.bind_eq_some_iff.1 isSearch
      split at isSearch
      · injection isSearch with isSearch
        rw [← isSearch, Filter.oneOf, Filter.paths, List.mem_singleton] at read
        rw [read, baseField_of_dotless dotless_id]
        exact List.mem_cons_self
      · obtain ⟨clause, isClause, there⟩ := Filter.mem_paths_any? isSearch read
        obtain ⟨looked, isLooked, rfl⟩ := List.mem_map.1 isClause
        rw [Search.paths_columnFragment, List.mem_singleton] at there
        obtain ⟨field, -, same⟩ := List.mem_map.1 isLooked
        rw [there, ← same]
        exact target_mem_joinedFields usable compiled found field

/-- **The searches of a plan read the columns and below the targets.** -/
theorem searches_read {f : Filter} (mem : f ∈ plan.searches) {path : String}
    (read : path ∈ f.paths) : baseField path ∈ r.joinedFields plan := by
  rw [(plan_eq_of_ok compiled).2, List.mem_append, Option.mem_toList, List.mem_filterMap] at mem
  rcases mem with isGlobal | ⟨c, isSearched, isOwn⟩
  · exact globalSearch_reads usable compiled isGlobal read
  · exact columnSearch_reads usable compiled (List.mem_of_mem_filter isSearched) isOwn read

/-- **So do its sort keys.** -/
theorem sort_reads {key : SortKey} (mem : key ∈ plan.sort) :
    baseField key.field ∈ r.joinedFields plan := by
  rw [(plan_eq_of_ok compiled).2] at mem
  obtain ⟨o, -, isKey⟩ := List.mem_filterMap.1 mem
  obtain ⟨path, isTarget, rfl⟩ := Option.map_eq_some_iff.1 isKey
  obtain ⟨c, isSorted, sorted⟩ := Option.bind_eq_some_iff.1 isTarget
  have mem_columns : c ∈ r.columns := List.mem_of_getElem? (Option.filter_eq_some_iff.1 isSorted).1
  show baseField path ∈ r.joinedFields plan
  unfold Column.sortTarget? at sorted
  cases reference : c.reference with
  | false =>
      rw [reference, if_neg Bool.false_ne_true] at sorted
      injection sorted with sorted
      exact sorted ▸ baseField_mem_joinedFields mem_columns
  | true =>
      rw [reference, if_pos rfl] at sorted
      obtain ⟨target, found, sorted⟩ := Option.bind_eq_some_iff.1 sorted
      obtain ⟨field, -, same⟩ := Option.map_eq_some_iff.1 sorted
      exact same ▸ target_mem_joinedFields usable compiled found field

/-- **The filtering stages of a plan are scoped**, and so is what comes after them if it is scoped
with the fields that the joins leave. -/
theorem scoped_filtering {tail : List Stage}
    (later : ∀ fields, Known (r.joinedFields plan) fields → Scoped fields tail) :
    Scoped none (plan.filtering ++ tail) := by
  rw [Plan.filtering, List.append_assoc, List.append_assoc]
  -- The criteria are matched on stored documents, of which nothing is known.
  refine Stage.scoped_of_known ?_ (fun _ _ => Stage.known_none _) ?_
  · intro stage mem
    obtain ⟨f, -, rfl⟩ := List.mem_map.1 mem
    exact .inl ⟨f, rfl⟩
  refine (chain_of_plan usable compiled).scoped_stages (ready_of_plan compiled)
    (Stage.known_none _) ?_
  intro fields known
  refine Stage.scoped_of_known ?_ ?_ (later fields known)
  · intro stage mem
    obtain ⟨f, -, rfl⟩ := List.mem_map.1 mem
    exact .inl ⟨f, rfl⟩
  · intro stage mem
    obtain ⟨f, isSearch, rfl⟩ := List.mem_map.1 mem
    refine known.mono fun name read => ?_
    obtain ⟨path, isPath, rfl⟩ := List.mem_map.1 read
    exact searches_read usable compiled isSearch isPath

theorem scoped_count : Scoped none plan.count :=
  scoped_filtering usable compiled fun _ _ =>
    .cons (fun _ read => absurd read List.not_mem_nil) .nil

theorem scoped_page : Scoped none plan.page := by
  refine scoped_filtering usable compiled fun fields known => ?_
  rw [← List.append_nil plan.window]
  refine Stage.scoped_of_known (fun stage mem => .inr (Plan.isWindow_of_mem_window mem)) ?_ .nil
  intro stage mem
  refine known.mono fun name read => ?_
  obtain ⟨path, isPath, rfl⟩ := List.mem_map.1 read
  obtain ⟨key, isKey, rfl⟩ := Plan.exists_key_of_mem_window mem isPath
  exact sort_reads usable compiled isKey

/-- The projections of a plan are unambiguous. -/
theorem unambiguous_of_plan {p : Projection} {tail : List Stage}
    (windows : .project p ∉ tail) (mem : .project p ∈ plan.filtering ++ tail) :
    p.Unambiguous := by
  rcases List.mem_append.1 mem with mem | isTail
  · rcases Plan.mem_filtering_cases mem with ⟨f, isFilter⟩ | ⟨j, here, mem⟩
    · exact absurd isFilter (by simp)
    · obtain ⟨⟨names, fresh⟩, distinct⟩ := (chain_of_plan usable compiled).fresh_of_mem
        (ready_of_plan compiled) (nodup_keptFields r) here
      exact fresh.unambiguous distinct mem
  · exact absurd isTail windows

end Compiled

end Request

/-! ## §6. Pipelines -/

/-- No stage of a pipeline reads a field that a projection before it has dropped. -/
structure Stage.WellScoped (pipeline : List Stage) : Prop where
  /-- Every projection names its fields apart, and its document has one member for each. -/
  projections : ∀ p, .project p ∈ pipeline →
    p.Unambiguous ∧ p.toDocument.members.map Prod.fst = p.kept ++ [p.field]
  /-- The first projection reads stored documents, and of these only what it keeps. -/
  first : ∀ before p after, pipeline = before ++ .project p :: after →
    before.all (!·.isProjection) = true →
    baseField p.expression.path = "_id" ∨ baseField p.expression.path ∈ p.kept
  /-- Behind a projection, up to the next one and by the next one itself, nothing is read but the
  identifier, what the projection keeps and computes, and the targets of lookups in between. -/
  later : ∀ before p between stage after,
    pipeline = before ++ .project p :: (between ++ stage :: after) →
    between.all (!·.isProjection) = true → ∀ path ∈ stage.reads,
      baseField path = "_id" ∨ baseField path ∈ p.kept ∨ baseField path = p.field
        ∨ ∃ l, .lookup l ∈ between ∧ baseField path = l.target

/-- A pipeline is well scoped when it is scoped from the stored documents on and its projections
are unambiguous. -/
theorem Stage.wellScoped_of_scoped {pipeline : List Stage} (h : Scoped none pipeline)
    (unambiguous : ∀ p, .project p ∈ pipeline → p.Unambiguous) : WellScoped pipeline where
  projections p mem := ⟨unambiguous p mem, (unambiguous p mem).keys⟩
  first before p after split isFirst := by
    subst split
    exact List.mem_cons.1 (h.field_of_first isFirst)
  later before p between stage after split isLatest path read := by
    subst split
    exact h.field_of_split isLatest read

namespace Request

/-- **The pipelines of a plan read what is there.**  Both are well scoped.  They match the
caller's criteria first, on the stored documents, and share all stages up to their ends: one
counts the rows, the other orders them and cuts out the page, which the first never does. -/
theorem pipelines_scoped (r : Request) (criteria : Criteria) (settings : Settings) (plan : Plan)
    (usable : paddingFault? settings.padding = none)
    (compiled : r.plan criteria settings = .ok plan) :
    Stage.WellScoped plan.count ∧ Stage.WellScoped plan.page
      ∧ (∃ shared tail,
          plan.count = criteria.fragments.map .filter ++ shared ++ [.count settings.countField]
            ∧ plan.page = criteria.fragments.map .filter ++ shared ++ tail
            ∧ ∀ stage ∈ tail, stage.isWindow = true)
      ∧ ∀ stage ∈ plan.count, stage.isWindow = false := by
  have shape : plan.filtering = criteria.fragments.map .filter
      ++ (plan.joins.flatMap Join.stages ++ plan.searches.map .filter) := by
    rw [Plan.filtering, criteria_of_plan compiled, List.append_assoc]
  refine ⟨?_, ?_, ⟨plan.joins.flatMap Join.stages ++ plan.searches.map .filter, plan.window,
    ?_, ?_, fun stage mem => Plan.isWindow_of_mem_window mem⟩, ?_⟩
  · refine Stage.wellScoped_of_scoped (scoped_count usable compiled) fun p mem => ?_
    exact unambiguous_of_plan usable compiled (by simp) mem
  · refine Stage.wellScoped_of_scoped (scoped_page usable compiled) fun p mem => ?_
    refine unambiguous_of_plan usable compiled (fun isTail => ?_) mem
    exact absurd (Plan.isWindow_of_mem_window isTail) (by simp [Stage.isWindow])
  · rw [Plan.count, shape, countField_of_plan compiled]
  · rw [Plan.page, shape]
  · intro stage mem
    rcases List.mem_append.1 mem with mem | isCount
    · rcases Plan.mem_filtering_cases mem with ⟨f, rfl⟩ | ⟨j, -, mem⟩
      · rfl
      · simp only [Join.stages, List.mem_cons, List.not_mem_nil, or_false] at mem
        rcases mem with rfl | rfl | rfl | rfl <;> rfl
    · rw [List.mem_singleton.1 isCount]
      rfl

end Request

/-- The pipelines for the orders with their products and buyers, restricted to fragile ones. -/
theorem fragileOrders_pipelines_scoped :
    let fragile : Criteria := { additional := some (.eq "note" (.str "fragile")) }
    paddingFault? "_" = none ∧ ∃ plan, productOrders.plan fragile {} = .ok plan
      ∧ plan.joins.length = 2
      ∧ Stage.WellScoped plan.count ∧ Stage.WellScoped plan.page
      ∧ (∃ shared tail,
          plan.count = fragile.fragments.map .filter ++ shared ++ [.count "count"]
            ∧ plan.page = fragile.fragments.map .filter ++ shared ++ tail
            ∧ ∀ stage ∈ tail, stage.isWindow = true)
      ∧ ∀ stage ∈ plan.count, stage.isWindow = false := by
  have usable : paddingFault? "_" = none := by decide
  exact ⟨usable, _, rfl, rfl, productOrders.pipelines_scoped _ {} _ usable rfl⟩

end PagedTable
