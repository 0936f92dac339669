/-
  PagedTable.Proofs.Query.JoinedColumns — which columns are joined, and which requests compile.

  A path may be given to several columns, and then names the last of them.  A column is joined
  where it stands if its path names it and it needs a join.  Three checks look at its collection:
  the validation of requests, that of settings for the padding, and compilation itself.  They agree
  on what is blank, so what the first two accept is never refused by the third.

  Main results:
    * `exists_positions` — the joined columns, by their positions and in order
    * `find?_joined_eq_some_iff` — the first of them with a property
    * `boundCollection?_eq_none_iff` — the collection is missing or blank
    * `compile_outcome` — when a request compiles, with which error it does not, and what its plan
      joins
-/
import PagedTable.Proofs.Query.Compilation
import PagedTable.Proofs.Query.GeneratedNames
import PagedTable.Proofs.Query.ReferenceRows

namespace PagedTable

/-! ## §1. Blank names -/

theorem dropWhile_isBlankChar_eq_nil_iff (cs : List Char) :
    cs.dropWhile isBlankChar = [] ↔ cs.all isBlankChar = true := by
  induction cs with
  | nil => simp
  | cons c rest ih =>
      rw [List.dropWhile_cons, List.all_cons]
      cases isBlankChar c with
      | false => simp
      | true => simp [ih]

/-- **Nothing is left of a text after trimming exactly when it is blank.** -/
theorem trim_eq_empty_iff (s : String) : trim s = "" ↔ isBlank s = true := by
  have chars : trim s = "" ↔ trimChars s.toList = [] := by
    rw [trim, ← String.toList_inj, String.toList_ofList, String.toList_empty]
  rw [chars, isBlank, trimChars, List.reverse_eq_nil_iff, dropWhile_isBlankChar_eq_nil_iff,
      List.all_reverse]
  constructor
  · intro behind
    -- The first character that stays when the front is trimmed is not blank.
    rw [← dropWhile_isBlankChar_eq_nil_iff]
    cases left : s.toList.dropWhile isBlankChar with
    | nil => rfl
    | cons c rest =>
        have first := List.head?_dropWhile_not isBlankChar s.toList
        rw [left] at first behind
        rw [List.all_cons, Bool.and_eq_true] at behind
        exact absurd behind.1 (by simpa using first)
  · intro blank
    rw [(dropWhile_isBlankChar_eq_nil_iff _).2 blank]
    rfl

namespace Column

/-- **A column names no collection** if none is given or the name is blank. -/
theorem boundCollection?_eq_none_iff (c : Column) :
    c.boundCollection? = none ↔ c.collection.all isBlank = true := by
  unfold boundCollection?
  cases c.collection with
  | none => simp
  | some name => simp [trim_eq_empty_iff]

/-- The collection that a column names is the trimmed name. -/
theorem boundCollection?_eq_some_iff (c : Column) (name : String) :
    c.boundCollection? = some name ↔ c.collection.map trim = some name ∧ name ≠ "" := by
  rw [boundCollection?, Option.filter_eq_some_iff]
  simp

/-! ## §2. The positions of joined columns -/

/-- The column at the position is joined: its path names it, since no later column has this path,
and it needs a join. -/
structure JoinsAt (columns : List Column) (i : Nat) (c : Column) : Prop where
  here : columns[i]? = some c
  last : ∀ k other, i < k → columns[k]? = some other → other.path ≠ c.path
  needs : c.needsJoin = true

/-- The columns to be joined. -/
def joined (columns : List Column) : List Column := (unreplaced columns).filter (·.needsJoin)

variable {c d : Column} {rest : List Column}

theorem joinsAt_zero_iff :
    JoinsAt (c :: rest) 0 d
      ↔ d = c ∧ rest.any (·.path = c.path) = false ∧ c.needsJoin = true := by
  constructor
  · rintro ⟨here, last, needs⟩
    have same : c = d := Option.some.inj here
    subst same
    refine ⟨rfl, ?_, needs⟩
    rw [List.any_eq_false]
    intro other mem
    obtain ⟨k, at_k⟩ := List.mem_iff_getElem?.1 mem
    have distinct := last (k + 1) other (Nat.succ_pos k) at_k
    simpa using distinct
  · rintro ⟨rfl, last, needs⟩
    refine ⟨rfl, fun k other behind at_k => ?_, needs⟩
    obtain ⟨k, rfl⟩ := Nat.exists_eq_succ_of_ne_zero (Nat.ne_of_gt behind)
    have distinct := List.any_eq_false.1 last other (List.mem_of_getElem? at_k)
    simpa using distinct

theorem joinsAt_succ_iff {i : Nat} : JoinsAt (c :: rest) (i + 1) d ↔ JoinsAt rest i d := by
  constructor
  · rintro ⟨here, last, needs⟩
    exact ⟨here, fun k other behind at_k => last (k + 1) other (Nat.succ_lt_succ behind) at_k, needs⟩
  · rintro ⟨here, last, needs⟩
    refine ⟨here, fun k other behind at_k => ?_, needs⟩
    obtain ⟨k, rfl⟩ := Nat.exists_eq_succ_of_ne_zero (Nat.ne_of_gt (Nat.zero_lt_of_lt behind))
    exact last k other (Nat.lt_of_succ_lt_succ behind) at_k

/-- A column in front is joined first, unless a later one replaces it or it needs no join. -/
theorem joined_cons (c : Column) (rest : List Column) :
    (JoinsAt (c :: rest) 0 c ∧ joined (c :: rest) = c :: joined rest)
      ∨ ((∀ d, ¬ JoinsAt (c :: rest) 0 d) ∧ joined (c :: rest) = joined rest) := by
  unfold joined
  rw [unreplaced]
  cases replaced : rest.any (·.path = c.path) with
  | true =>
      refine .inr ⟨fun d joins => ?_, rfl⟩
      have := (joinsAt_zero_iff.1 joins).2.1
      rw [replaced] at this
      exact absurd this (by simp)
  | false =>
      rw [if_neg Bool.false_ne_true]
      cases needs : c.needsJoin with
      | true =>
          refine .inl ⟨joinsAt_zero_iff.2 ⟨rfl, replaced, needs⟩, ?_⟩
          rw [List.filter_cons_of_pos needs]
      | false =>
          refine .inr ⟨fun d joins => ?_, ?_⟩
          · have := (joinsAt_zero_iff.1 joins).2.2
            rw [needs] at this
            exact absurd this (by simp)
          · rw [List.filter_cons_of_neg (by simp [needs])]

/-- **The joined columns, by their positions and in order.** -/
theorem exists_positions (columns : List Column) :
    ∃ positions : List Nat, positions.Pairwise (· < ·)
      ∧ (∀ i, i ∈ positions ↔ ∃ c, JoinsAt columns i c)
      ∧ List.Forall₂ (JoinsAt columns) positions (joined columns) := by
  induction columns with
  | nil =>
      refine ⟨[], .nil, fun i => ⟨fun mem => absurd mem List.not_mem_nil, ?_⟩, .nil⟩
      rintro ⟨c, here, -, -⟩
      exact absurd here (by simp)
  | cons first rest ih =>
      obtain ⟨positions, ascending, all, joins⟩ := ih
      -- The positions in the rest move by one.
      have ascending' : (positions.map (· + 1)).Pairwise (· < ·) :=
        List.pairwise_map.2 (ascending.imp Nat.succ_lt_succ)
      have joins' : List.Forall₂ (JoinsAt (first :: rest)) (positions.map (· + 1)) (joined rest) :=
        List.forall₂_map_left_iff.2 (joins.imp fun _ _ h => joinsAt_succ_iff.2 h)
      have all' : ∀ i, i + 1 ∈ positions.map (· + 1) ↔ ∃ c, JoinsAt (first :: rest) (i + 1) c := by
        intro i
        simp only [joinsAt_succ_iff, ← all i, List.mem_map, Nat.add_right_cancel_iff,
          exists_eq_right]
      rcases joined_cons first rest with ⟨atFront, split⟩ | ⟨notFront, split⟩
      · refine ⟨0 :: positions.map (· + 1), ?_, fun i => ?_, ?_⟩
        · refine List.pairwise_cons.2 ⟨fun k mem => ?_, ascending'⟩
          obtain ⟨i, -, rfl⟩ := List.mem_map.1 mem
          exact Nat.succ_pos i
        · cases i with
          | zero => exact ⟨fun _ => ⟨first, atFront⟩, fun _ => List.mem_cons_self⟩
          | succ i =>
              rw [List.mem_cons, ← all' i]
              simp
        · rw [split]
          exact .cons atFront joins'
      · refine ⟨positions.map (· + 1), ascending', fun i => ?_, ?_⟩
        · cases i with
          | zero =>
              constructor
              · intro mem
                obtain ⟨i, -, isZero⟩ := List.mem_map.1 mem
                exact absurd isZero (Nat.succ_ne_zero i)
              · rintro ⟨c, atFront⟩
                exact absurd atFront (notFront c)
          | succ i => exact all' i
        · rw [split]
          exact joins'

/-- **The first joined column with a property**, by its position. -/
theorem find?_joined_eq_some_iff (p : Column → Bool) (columns : List Column) (c : Column) :
    (joined columns).find? p = some c
      ↔ ∃ i, JoinsAt columns i c ∧ p c = true
        ∧ ∀ k d, k < i → JoinsAt columns k d → p d = false := by
  induction columns with
  | nil =>
      constructor
      · intro found
        exact absurd found (by simp [joined, unreplaced])
      · rintro ⟨i, ⟨here, -, -⟩, -⟩
        exact absurd here (by simp)
  | cons first rest ih =>
      -- Where the column in front has not the property, the search goes on behind it.
      have behind : (∀ d, JoinsAt (first :: rest) 0 d → p d = false) →
          ((joined rest).find? p = some c
            ↔ ∃ i, JoinsAt (first :: rest) i c ∧ p c = true
              ∧ ∀ k d, k < i → JoinsAt (first :: rest) k d → p d = false) := by
        intro passed
        rw [ih]
        constructor
        · rintro ⟨i, joins, holds, isFirst⟩
          refine ⟨i + 1, joinsAt_succ_iff.2 joins, holds, fun k d before joins' => ?_⟩
          cases k with
          | zero => exact passed d joins'
          | succ k => exact isFirst k d (Nat.lt_of_succ_lt_succ before) (joinsAt_succ_iff.1 joins')
        · rintro ⟨i, joins, holds, isFirst⟩
          cases i with
          | zero => exact absurd holds (by rw [passed c joins]; simp)
          | succ i =>
              exact ⟨i, joinsAt_succ_iff.1 joins, holds, fun k d before joins' =>
                isFirst (k + 1) d (Nat.succ_lt_succ before) (joinsAt_succ_iff.2 joins')⟩
      rcases joined_cons first rest with ⟨atFront, split⟩ | ⟨notFront, split⟩
      · rw [split]
        cases holds : p first with
        | true =>
            rw [List.find?_cons_of_pos holds]
            constructor
            · intro same
              have same : first = c := Option.some.inj same
              subst same
              exact ⟨0, atFront, holds, fun k d before => absurd before (Nat.not_lt_zero k)⟩
            · rintro ⟨i, joins, -, isFirst⟩
              cases i with
              | zero => rw [(joinsAt_zero_iff.1 joins).1]
              | succ i =>
                  have := isFirst 0 first (Nat.succ_pos i) atFront
                  rw [holds] at this
                  exact absurd this (by simp)
        | false =>
            rw [List.find?_cons_of_neg (by simp [holds])]
            refine behind fun d joins => ?_
            rw [(joinsAt_zero_iff.1 joins).1, holds]
      · rw [split]
        exact behind fun d joins => absurd joins (notFront d)

end Column

/-! ## §3. Validation -/

namespace Request

/-- A validated list of columns has no reference column without a collection. -/
theorem isSome_boundCollection?_of_columnFault? {position : Nat} {columns : List Column}
    (h : columnFault? position columns = none) {c : Column} (mem : c ∈ columns)
    (reference : c.reference = true) : c.boundCollection?.isSome = true := by
  induction columns generalizing position with
  | nil => exact absurd mem List.not_mem_nil
  | cons first rest ih =>
      unfold columnFault? at h
      split at h
      · exact absurd h (by simp)
      split at h
      · exact absurd h (by simp)
      · next bound =>
        rcases List.mem_cons.1 mem with rfl | mem
        · rw [reference, Bool.true_and, Option.isNone_iff_eq_none] at bound
          exact Option.isSome_iff_ne_none.2 bound
        · exact ih h mem

/-- In a validated request all columns that have to be joined name a collection. -/
theorem isSome_boundCollection?_of_validate {r : Request} (valid : r.validate = .ok ())
    {c : Column} (mem : c ∈ r.joinedColumns) : c.boundCollection?.isSome = true := by
  have needs : c.needsJoin = true := (List.mem_filter.1 mem).2
  have reference : c.reference = true := (Bool.and_eq_true_iff.1 needs).1
  unfold validate at valid
  split at valid
  · exact absurd valid (by simp)
  split at valid
  · exact absurd valid (by simp)
  cases faultless : columnFault? 0 r.columns with
  | some fault =>
      rw [faultless] at valid
      exact absurd valid (by simp)
  | none =>
      exact isSome_boundCollection?_of_columnFault? faultless (mem_columns_of_joined mem) reference

end Request

/-- Validated settings have a padding that can be part of a name. -/
theorem Settings.usable_of_validate {settings : Settings} (valid : settings.validate = .ok ()) :
    paddingFault? settings.padding = none := by
  unfold validate at valid
  cases fault : paddingFault? settings.padding with
  | none => rfl
  | some fault' =>
      rw [fault] at valid
      exact absurd valid (by simp)

/-! ## §4. The outcome of compilation -/

/-- The joins of a plan are those of the joined columns, which stand at the given positions. -/
structure Plan.JoinsColumns (r : Request) (plan : Plan) (positions : List Nat) : Prop where
  ascending : positions.Pairwise (· < ·)
  /-- They are all positions of joined columns. -/
  all : ∀ i, i ∈ positions ↔ ∃ c, Column.JoinsAt r.columns i c
  /-- The joins are those of the columns there, in order, each with the trimmed name of the
  collection. -/
  joins : List.Forall₂ (fun i j => ∃ c, Column.JoinsAt r.columns i c ∧ j.path = c.path
    ∧ c.collection.map trim = some j.collection ∧ j.collection ≠ "") positions plan.joins
  once : (plan.joins.map (·.path)).Nodup
  /-- Exactly their paths have a target. -/
  targets : ∀ path, (Join.targetIn? plan.joins path).isSome = true
    ↔ ∃ i c, Column.JoinsAt r.columns i c ∧ c.path = path

namespace Request

variable {α β γ : Type} {r : Request} {criteria : Criteria} {settings : Settings} {plan : Plan}

/-- Two relations between lists, element by element, one after the other. -/
theorem forall₂_comp {R : α → β → Prop} {S : β → γ → Prop} {T : α → γ → Prop}
    (h : ∀ a b c, R a b → S b c → T a c) {as : List α} {bs : List β} {cs : List γ}
    (left : List.Forall₂ R as bs) (right : List.Forall₂ S bs cs) : List.Forall₂ T as cs := by
  induction left generalizing cs with
  | nil =>
      cases right
      exact .nil
  | cons first _ ih =>
      cases right with
      | cons second rest => exact .cons (h _ _ _ first second) (ih rest)

theorem mem_joinedColumns_iff (r : Request) (c : Column) :
    c ∈ r.joinedColumns ↔ ∃ i, Column.JoinsAt r.columns i c := by
  obtain ⟨positions, -, all, joins⟩ := Column.exists_positions r.columns
  constructor
  · intro mem
    obtain ⟨i, -, joinsAt⟩ := exists_right_of_forall₂ joins.flip mem
    exact ⟨i, joinsAt⟩
  · rintro ⟨i, joinsAt⟩
    obtain ⟨other, mem, joinsAt'⟩ := exists_right_of_forall₂ joins ((all i).2 ⟨c, joinsAt⟩)
    have same : some c = some other := joinsAt.here.symm.trans joinsAt'.here
    injection same with same
    exact same ▸ mem

/-- **A plan joins the joined columns.** -/
theorem exists_joinsColumns (compiled : r.plan criteria settings = .ok plan) :
    ∃ positions, plan.JoinsColumns r positions := by
  obtain ⟨positions, ascending, all, joins⟩ := Column.exists_positions r.columns
  refine ⟨positions, ascending, all, ?_, ?_, fun path => ?_⟩
  · refine forall₂_comp ?_ joins (joinedBy_of_plan compiled)
    rintro i c j joinsAt ⟨joined, -⟩
    have ⟨named, nonempty⟩ := (c.boundCollection?_eq_some_iff j.collection).1 joined.collection
    exact ⟨c, joinsAt, joined.path, named, nonempty⟩
  · rw [paths_of_plan compiled, List.Nodup, List.pairwise_map]
    exact (Column.pairwise_unreplaced r.columns).filter _
  · rw [isSome_targetIn? compiled, isJoined, List.any_eq_true]
    constructor
    · rintro ⟨c, mem, same⟩
      obtain ⟨i, joinsAt⟩ := (r.mem_joinedColumns_iff c).1 mem
      exact ⟨i, c, joinsAt, of_decide_eq_true same⟩
    · rintro ⟨i, c, joinsAt, same⟩
      exact ⟨c, (r.mem_joinedColumns_iff c).2 ⟨i, joinsAt⟩, decide_eq_true same⟩

/-- The first joined column that names no collection, by its position. -/
theorem find?_unbound_eq_some_iff (r : Request) (c : Column) :
    r.joinedColumns.find? (·.boundCollection?.isNone) = some c
      ↔ ∃ i, Column.JoinsAt r.columns i c ∧ c.collection.all isBlank = true
        ∧ ∀ k d, k < i → Column.JoinsAt r.columns k d → d.collection.all isBlank = false := by
  have blank : ∀ c : Column, c.boundCollection?.isNone = c.collection.all isBlank := by
    intro c
    rw [Bool.eq_iff_iff, Option.isNone_iff_eq_none, c.boundCollection?_eq_none_iff]
  show (Column.joined r.columns).find? (·.boundCollection?.isNone) = some c ↔ _
  rw [Column.find?_joined_eq_some_iff]
  simp only [blank]

/-- **Validated requests compile with validated settings.** -/
theorem exists_compiled_of_validate (valid : r.validate = .ok ())
    (validSettings : settings.validate = .ok ()) :
    ∃ compiled, r.compile criteria settings = .ok compiled := by
  cases h : r.compile criteria settings with
  | ok compiled => exact ⟨compiled, rfl⟩
  | error e =>
      have usable := Settings.usable_of_validate validSettings
      obtain ⟨-, ⟨fault, found, -⟩ | ⟨-, c, found, -⟩⟩ := compile_eq_error_iff.1 h
      · rw [usable] at found
        exact absurd found (by simp)
      · -- The validation of the request would have refused the column at fault.
        have bound := isSome_boundCollection?_of_validate valid (List.mem_of_find?_eq_some found)
        have unbound := List.find?_some found
        rw [← Option.not_isSome, bound] at unbound
        exact absurd unbound (by simp)

/-- **The outcome of compilation.**  A request without reference columns compiles.  A request with
reference columns is refused for a padding that cannot be part of a name; with any other padding it
is refused for the first joined column whose collection is missing or blank, and for nothing else.
What compiles joins exactly the joined columns.  So a validated request compiles with validated
settings. -/
theorem compile_outcome (r : Request) (criteria : Criteria) (settings : Settings) :
    (r.hasReferences = false → ∃ query, r.compile criteria settings = .ok (.find query))
      ∧ (r.hasReferences = true →
        ((∃ reason, r.compile criteria settings = .error (.invalidPadding settings.padding reason))
            ↔ settings.padding = "" ∨ '.' ∈ settings.padding.toList
              ∨ settings.padding.toList.head? = some '$')
          ∧ (paddingFault? settings.padding = none → ∀ e, r.compile criteria settings = .error e
            ↔ ∃ i c, Column.JoinsAt r.columns i c ∧ c.collection.all isBlank = true
              ∧ (∀ k d, k < i → Column.JoinsAt r.columns k d → d.collection.all isBlank = false)
              ∧ e = .referenceUnbound c.path)
          ∧ ∀ compiled, r.compile criteria settings = .ok compiled →
            ∃ plan positions, compiled = .aggregate plan ∧ plan.JoinsColumns r positions)
      ∧ (r.validate = .ok () → settings.validate = .ok () →
        ∃ compiled, r.compile criteria settings = .ok compiled) := by
  refine ⟨fun plain => ?_, fun references => ⟨?_, fun usable e => ?_, fun compiled h => ?_⟩,
    exists_compiled_of_validate⟩
  · exact ⟨_, compile_eq_ok_iff.2 (.inl ⟨plain, rfl⟩)⟩
  · rw [← exists_paddingFault?_iff]
    constructor
    · rintro ⟨reason, fails⟩
      obtain ⟨-, ⟨fault, found, -⟩ | ⟨-, c, -, same⟩⟩ := compile_eq_error_iff.1 fails
      · exact ⟨fault, found⟩
      · exact absurd same (by simp)
    · rintro ⟨fault, found⟩
      exact ⟨fault.reason, compile_eq_error_iff.2 ⟨references, .inl ⟨fault, found, rfl⟩⟩⟩
  · rw [compile_eq_error_iff]
    simp only [find?_unbound_eq_some_iff]
    constructor
    · rintro ⟨-, ⟨fault, found, -⟩ | ⟨-, c, ⟨i, joinsAt, unbound, isFirst⟩, same⟩⟩
      · rw [usable] at found
        exact absurd found (by simp)
      · exact ⟨i, c, joinsAt, unbound, isFirst, same⟩
    · rintro ⟨i, c, joinsAt, unbound, isFirst, same⟩
      exact ⟨references, .inr ⟨usable, c, ⟨i, joinsAt, unbound, isFirst⟩, same⟩⟩
  · obtain ⟨plain, -⟩ | ⟨-, -, plan, isPlan, same⟩ := compile_eq_ok_iff.1 h
    · rw [references] at plain
      exact absurd plain (by simp)
    · obtain ⟨positions, joins⟩ := exists_joinsColumns isPlan
      exact ⟨plan, positions, same, joins⟩

end Request

/-- Orders with two columns for the product, the first of which names no collection, and a column
for the buyer whose collection is blank. -/
def unboundOrders : Request where
  columns :=
    [ { path := "product", searchable := true, reference := true }
    , { path := "label", searchable := true }
    , { path := "buyer", searchable := true, reference := true, collection := some "  " }
    , { path := "product", searchable := true, reference := true
        collection := some "products" } ]

/-- The buyer is at fault: the first column for the product is replaced by the second. -/
theorem unboundOrders_compile_outcome :
    unboundOrders.hasReferences = true ∧ paddingFault? "_" = none
      ∧ unboundOrders.compile {} {} = .error (.referenceUnbound "buyer") := by
  have references : unboundOrders.hasReferences = true := by decide
  have usable : paddingFault? "_" = none := by decide
  refine ⟨references, usable, ?_⟩
  refine (((unboundOrders.compile_outcome {} {}).2.1 references).2.1 usable _).2
    ⟨2, _, ⟨rfl, fun k other behind at_k => ?_, rfl⟩, rfl, fun k d before joinsAt => ?_, rfl⟩
  · match k, at_k with
    | 3, at_3 =>
        injection at_3 with same
        subst same
        decide
    | k + 4, at_k => exact absurd at_k (by simp [unboundOrders])
  · match k, joinsAt with
    | 0, joinsAt => exact absurd joinsAt.here.symm (by
        rintro ⟨⟩
        exact joinsAt.last 3 _ (by decide) rfl rfl)
    | 1, joinsAt => exact absurd joinsAt.here.symm (by
        rintro ⟨⟩
        exact absurd joinsAt.needs (by decide))

end PagedTable
