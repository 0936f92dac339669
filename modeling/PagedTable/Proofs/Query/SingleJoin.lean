/-
  PagedTable.Proofs.Query.SingleJoin — what one join does to a document.

  A join is three projections and a lookup, and a projection drops every field that it does not
  name.  The frame of a join says what is left: the identifier and the kept fields as they were,
  the joined documents under the target, and the field with the identifier of the pointer.

      Projection.exists_row       — one computed field, the kept ones, nothing else
      Join.exists_row             — one join, with its frame
      Join.runStages_eq_error     — a value that cannot be a pointer fails the join
      Join.isPointer_of_runStages — so a join succeeds on a value that can be a pointer only

  The value at the path of a join can be a pointer when it is missing, null or an object.
-/
import PagedTable.Proofs.Query.Freshness
import PagedTable.Proofs.Store.Pipeline

namespace PagedTable

/-! ## §1. Projections -/

/-- The name of the identifier has no dots. -/
theorem dotless_id : Dotless "_id" := by decide

namespace Projection

theorem get?_copy {name : String} (flat : Dotless name) (d target : Json) (other : String) :
    (copy d target name).get? other
      = if other = name then (d.get? name).or (target.get? name) else target.get? other := by
  rw [copy, Json.getPath?_of_dotless flat]
  cases d.get? name with
  | none =>
      show target.get? other = if other = name then target.get? name else target.get? other
      by_cases same : other = name
      · rw [if_pos same, same]
      · rw [if_neg same]
  | some value => exact Json.get?_setPath flat target value other

/-- Copying several fields: they are as in the document, all others as they were. -/
theorem get?_foldl_copy {names : List String} (flat : ∀ name ∈ names, Dotless name)
    (d target : Json) (other : String) :
    (names.foldl (copy d) target).get? other
      = if other ∈ names then (d.get? other).or (target.get? other) else target.get? other := by
  induction names generalizing target with
  | nil => rfl
  | cons name rest ih =>
      rw [List.foldl_cons, ih fun other mem => flat other (List.mem_cons_of_mem _ mem),
          get?_copy (flat name List.mem_cons_self)]
      by_cases same : other = name
      · -- The name may come again; copying it twice puts the same value there.
        subst same
        rw [if_pos rfl, if_pos List.mem_cons_self]
        cases d.get? other <;> simp
      · rw [if_neg same]
        simp only [List.mem_cons, same, false_or]

/-- **A projection**: the computed field has its value, the kept fields are as in the document,
and no other field is left. -/
theorem exists_row {names : List String} {field : String} {expression : Expression}
    (flatNames : ∀ name ∈ names, Dotless name) (flat : Dotless field)
    (fresh : field ∉ "_id" :: names) {d : Json} {value : Option Json}
    (computed : expression.eval d = .ok value) :
    ∃ row, apply ⟨names, field, expression⟩ d = .ok row ∧ ∀ name, row.get? name
      = if name = field then value
        else if name ∈ "_id" :: names then d.get? name else none := by
  have flatAll : ∀ name ∈ "_id" :: names, Dotless name := by
    intro name mem
    rcases List.mem_cons.1 mem with rfl | mem
    · exact dotless_id
    · exact flatNames name mem
  have kept : ∀ name, (("_id" :: names).foldl (copy d) (.obj [])).get? name
      = if name ∈ "_id" :: names then d.get? name else none := by
    intro name
    rw [get?_foldl_copy flatAll]
    show (if _ then (d.get? name).or none else none) = _
    rw [Option.or_none]
  rw [apply, computed]
  cases value with
  | none =>
      refine ⟨_, rfl, fun name => ?_⟩
      rw [kept]
      by_cases same : name = field
      · rw [if_pos same, if_neg (same ▸ fresh)]
      · rw [if_neg same]
  | some value =>
      refine ⟨_, rfl, fun name => ?_⟩
      rw [Json.get?_setPath flat, kept]

end Projection

/-! ## §2. Pointers and identifiers -/

/-- Can the value be a pointer?  It is missing, null or an object. -/
def isPointer : Option Json → Bool
  | none | some .null | some (.obj _) => true
  | some _ => false

/-- The member of a list at a position; negative positions count from the end. -/
def memberAt? (members : List (String × Json)) (position : Int) : Option (String × Json) :=
  let index := if position < 0 then members.length + position else position
  if index < 0 then none else members[index.toNat]?

/-- The identifier that a pointer holds: the value of its member at a position. -/
def identifierAt? (position : Int) : Option Json → Option Json
  | some (.obj members) => (memberAt? members position).map (·.2)
  | _ => none

/-- Positions in the pairs of an object are positions of its members. -/
theorem elementAt?_pairs (members : List (String × Json)) (position : Int) :
    elementAt? (members.map pairOf) position = (memberAt? members position).map pairOf := by
  unfold memberAt?
  cases position with
  | ofNat n =>
      have up : ¬ (Int.ofNat n < 0) := Int.not_lt.2 (Int.natCast_nonneg n)
      simp only [if_neg up]
      exact List.getElem?_map
  | negSucc n =>
      have down : Int.negSucc n < 0 := by omega
      simp only [if_pos down, elementAt?, List.length_map]
      by_cases inside : n < members.length
      · have index : ((members.length : Int) + Int.negSucc n).toNat = members.length - 1 - n := by
          omega
        rw [if_pos inside, if_neg (by omega), index]
        exact List.getElem?_map
      · rw [if_neg inside, if_pos (by omega)]
        rfl

namespace Store

/-- The documents of a collection with an identifier.  A missing identifier counts as null, on
either side. -/
def pointedTo (s : Store) (collection : String) (identifier : Option Json) : List Json :=
  (s.documents collection).filter fun foreign =>
    ((foreign.get? "_id").getD .null).equalTo (identifier.getD .null)

end Store

/-! ## §3. One join -/

namespace Join

/-- The identifier that a document holds for a join. -/
def identifier? (j : Join) (d : Json) : Option Json :=
  identifierAt? j.idPosition (d.getPath? j.path)

/-- The names of a join do not get in the way of those in use. -/
structure Fresh (inUse : List String) (j : Join) : Prop where
  free : isFree inUse j.target = true
  flat : Dotless j.target
  /-- The identifier and what is kept are in use. -/
  used : ∀ name ∈ "_id" :: j.kept, name ∈ inUse
  flatKept : ∀ name ∈ j.kept, Dotless name

variable {inUse : List String} {j : Join}

/-- What starts with the target is not kept. -/
theorem Fresh.notMem (fresh : j.Fresh inUse) (suffix : String) :
    j.target ++ suffix ∉ "_id" :: j.kept := fun mem =>
  notMem_of_isFree fresh.free suffix (fresh.used _ mem)

theorem Fresh.target_notMem (fresh : j.Fresh inUse) : j.target ∉ "_id" :: j.kept := by
  have := fresh.notMem ""
  rwa [String.append_empty] at this

theorem Fresh.flat_append (fresh : j.Fresh inUse) {suffix : String} (h : Dotless suffix) :
    Dotless (j.target ++ suffix) := fresh.flat.append h

end Join

namespace Store

variable (s : Store)

/-- A run that starts with a projection of one document. -/
theorem runStages_project {p : Projection} {d row : Json} (h : p.apply d = .ok row)
    (stages : List Stage) :
    s.runStages [d] (.project p :: stages) = s.runStages [row] stages := by
  rw [runStages, runStage, (mapRows_singleton_eq_ok_iff p.apply d row).2 h]

/-- A run that starts with a lookup for one document. -/
theorem runStages_lookup (l : Lookup) (d : Json) (stages : List Stage) :
    s.runStages [d] (.lookup l :: stages) = s.runStages [s.lookup l d] stages := rfl

end Store

namespace Join

variable {inUse : List String} {j : Join}

/-- The pair that the second projection takes out of a pointer. -/
def pairAt? (position : Int) : Option Json → Option Json
  | some (.obj members) => (memberAt? members position).map pairOf
  | _ => some .null

theorem getPath?_pairAt? (position : Int) (pointer : Option Json) :
    (pairAt? position pointer).bind (·.getPath? "v") = identifierAt? position pointer := by
  match pointer with
  | some (.obj members) =>
      show ((memberAt? members position).map pairOf).bind _ = (memberAt? members position).map _
      cases memberAt? members position <;> rfl
  | none | some .null | some (.bool _) | some (.num _) | some (.str _) | some (.arr _) => rfl

/-- The pairs of a pointer, and one of them. -/
theorem exists_pairs {path : String} {d : Json} (pointer : isPointer (d.getPath? path) = true) :
    ∃ pairs, (Expression.objectToArray path).eval d = .ok (some pairs)
      ∧ ∀ (row : Json) (field : String) (position : Int), row.getPath? field = some pairs →
          (Expression.elementAt field position).eval row
            = .ok (pairAt? position (d.getPath? path)) := by
  cases value : d.getPath? path with
  | none =>
      refine ⟨.null, by rw [Expression.eval, value], fun row field position h => ?_⟩
      rw [Expression.eval, h]
      rfl
  | some v =>
      rw [value] at pointer
      cases v with
      | null =>
          refine ⟨.null, by rw [Expression.eval, value], fun row field position h => ?_⟩
          rw [Expression.eval, h]
          rfl
      | obj members =>
          refine ⟨.arr (members.map pairOf), by rw [Expression.eval, value],
            fun row field position h => ?_⟩
          rw [Expression.eval, h]
          exact congrArg Except.ok (elementAt?_pairs members position)
      | bool b => exact absurd pointer (by simp [isPointer])
      | num n => exact absurd pointer (by simp [isPointer])
      | str t => exact absurd pointer (by simp [isPointer])
      | arr items => exact absurd pointer (by simp [isPointer])

/-- The row that a join makes of a document: the joined documents under the target, the identifier
of the pointer, what is kept as it was, and nothing else. -/
structure RowOf (s : Store) (j : Join) (d row : Json) : Prop where
  object : row.isObject = true
  target : row.get? j.target = some (.arr (s.pointedTo j.collection (j.identifier? d)))
  copied : ∀ name ∈ "_id" :: j.kept, row.get? name = d.get? name
  others : ∀ name, row.get? name ≠ none →
    name ∈ "_id" :: j.kept ∨ name = j.target ∨ name = j.idField

/-- **A join turns a document whose value at its path can be a pointer into one row.** -/
theorem exists_row (s : Store) (fresh : j.Fresh inUse) {d : Json}
    (pointer : isPointer (d.getPath? j.path) = true) :
    ∃ row, s.runStages [d] j.stages = .ok [row] ∧ j.RowOf s d row := by
  obtain ⟨pairs, evalPairs, evalPair⟩ := exists_pairs pointer
  have flatPairs : Dotless j.pairsField := fresh.flat_append (by decide)
  have flatPair : Dotless j.pairField := fresh.flat_append (by decide)
  have flatId : Dotless j.idField := fresh.flat_append (by decide)
  -- The pairs of the pointer.
  obtain ⟨first, toFirst, atFirst⟩ :=
    Projection.exists_row fresh.flatKept flatPairs (fresh.notMem "fk_arr") evalPairs
  have firstPairs : first.getPath? j.pairsField = some pairs := by
    rw [Json.getPath?_of_dotless flatPairs, atFirst, if_pos rfl]
  -- The pair with the identifier.
  obtain ⟨second, toSecond, atSecond⟩ :=
    Projection.exists_row fresh.flatKept flatPair (fresh.notMem "fk_obj")
      (evalPair first j.pairsField j.idPosition firstPairs)
  -- The identifier.
  have evalId : (Expression.field (j.pairField ++ ".v")).eval second = .ok (j.identifier? d) := by
    have path : j.pairField ++ ".v" = j.pairField ++ "." ++ "v" := by
      rw [String.append_assoc]
      rfl
    rw [Expression.eval, path, Json.getPath?_append flatPair, atSecond, if_pos rfl,
        getPath?_pairAt?, identifier?]
  obtain ⟨third, toThird, atThird⟩ :=
    Projection.exists_row fresh.flatKept flatId (fresh.notMem "id") evalId
  -- The documents that have it.
  have joined : s.joined ⟨j.collection, j.idField, "_id", j.target⟩ third
      = s.pointedTo j.collection (j.identifier? d) := by
    refine List.filter_congr fun foreign _ => ?_
    rw [Json.getPath?_of_dotless flatId, atThird, if_pos rfl,
        Json.getPath?_of_dotless dotless_id]
  have atRow : ∀ name, (s.lookup ⟨j.collection, j.idField, "_id", j.target⟩ third).get? name
      = if name = j.target then some (.arr (s.pointedTo j.collection (j.identifier? d)))
        else third.get? name := by
    intro name
    rw [Store.lookup, joined, Json.get?_setPath fresh.flat]
  refine ⟨s.lookup ⟨j.collection, j.idField, "_id", j.target⟩ third, ?_, ?_⟩
  -- The run goes through the four rows; the frame reads the last of them backwards.
  · rw [stages, s.runStages_project toFirst, s.runStages_project toSecond,
        s.runStages_project toThird, s.runStages_lookup]
    rfl
  · refine ⟨Json.isObject_setPath _ _ _, ?_, ?_, ?_⟩
    · rw [atRow, if_pos rfl]
    · intro name mem
      have ne_target : name ≠ j.target := ne_of_mem_of_not_mem mem fresh.target_notMem
      have ne_id : name ≠ j.idField := ne_of_mem_of_not_mem mem (fresh.notMem "id")
      have ne_pair : name ≠ j.pairField := ne_of_mem_of_not_mem mem (fresh.notMem "fk_obj")
      have ne_pairs : name ≠ j.pairsField := ne_of_mem_of_not_mem mem (fresh.notMem "fk_arr")
      rw [atRow, if_neg ne_target, atThird, if_neg ne_id, if_pos mem, atSecond, if_neg ne_pair,
          if_pos mem, atFirst, if_neg ne_pairs, if_pos mem]
    · intro name there
      rw [atRow, atThird] at there
      by_cases isTarget : name = j.target
      · exact .inr (.inl isTarget)
      by_cases isId : name = j.idField
      · exact .inr (.inr isId)
      by_cases isKept : name ∈ "_id" :: j.kept
      · exact .inl isKept
      · rw [if_neg isTarget, if_neg isId, if_neg isKept] at there
        exact absurd rfl there

/-- The stages of joins work row by row. -/
theorem isRowwise_of_mem_stages {joins : List Join} {stage : Stage}
    (mem : stage ∈ joins.flatMap stages) : stage.isRowwise = true := by
  obtain ⟨j, -, mem⟩ := List.mem_flatMap.1 mem
  simp only [stages, List.mem_cons, List.not_mem_nil, or_false] at mem
  rcases mem with rfl | rfl | rfl | rfl <;> rfl

/-- No pairs can be made of a value that cannot be a pointer. -/
theorem eval_of_not_isPointer {path : String} {d : Json}
    (bad : isPointer (d.getPath? path) = false) :
    (Expression.objectToArray path).eval d = .error (.stage (.notAnObject path)) := by
  rw [Expression.eval]
  cases value : d.getPath? path with
  | none => exact absurd bad (by simp [value, isPointer])
  | some v =>
      rw [value] at bad
      cases v with
      | null | obj members => exact absurd bad (by simp [isPointer])
      | bool b | num n | str t | arr items => rfl

/-- **A value that cannot be a pointer fails the join of all documents**, which names its path. -/
theorem runStages_eq_error (s : Store) {documents : List Json} {d : Json} (mem : d ∈ documents)
    (bad : isPointer (d.getPath? j.path) = false) :
    s.runStages documents j.stages = .error (.stage (.notAnObject j.path)) := by
  have fails : ∀ x : Json, isPointer (x.getPath? j.path) = false →
      Projection.apply ⟨j.kept, j.pairsField, .objectToArray j.path⟩ x
        = .error (.stage (.notAnObject j.path)) := by
    intro x bad
    rw [Projection.apply, eval_of_not_isPointer bad]
    rfl
  -- The first projection fails for this document, and in the same way for any other.
  have projected : s.runStage documents (.project ⟨j.kept, j.pairsField, .objectToArray j.path⟩)
      = .error (.stage (.notAnObject j.path)) := by
    refine mapRows_eq_error (fun x _ => ?_) mem (fails d bad)
    cases pointer : isPointer (x.getPath? j.path) with
    | false => exact .inl (fails x pointer)
    | true =>
        obtain ⟨pairs, computed, -⟩ := exists_pairs pointer
        exact .inr ⟨_, by rw [Projection.apply, computed]; rfl⟩
  rw [stages, Store.runStages, projected]

/-- **A join that succeeds has met a value that can be a pointer.** -/
theorem isPointer_of_runStages (s : Store) {d : Json} {result : List Json}
    (h : s.runStages [d] j.stages = .ok result) : isPointer (d.getPath? j.path) = true := by
  by_contra bad
  rw [runStages_eq_error s List.mem_cons_self (Bool.not_eq_true _ ▸ bad)] at h
  exact absurd h (by simp)

end Join
end PagedTable
