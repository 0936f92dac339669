/-
  PagedTable.Proofs.Query.JoinFrame — what the joins of a plan do to a document.

  Every join of a chain keeps what the joins before it have made, and leaves the pointers of the
  joins after it as they were.  So all joins together turn a document into one row, in which every
  joined column has the documents that it points to:

      Join.Chain.exists_row — a chain of joins, by induction along the chain
      exists_join_of_plan   — the joins of a plan, seen from the joined columns
      joins_frame           — the joins of a plan turn a document into one joined row
-/
import PagedTable.Proofs.Query.SingleJoin

namespace PagedTable

/-! ## §1. Chains of joins -/

namespace Join

variable {inUse : List String} {j : Join}

/-- The row that a list of joins makes of a document: the joined documents of every join under its
target, what is kept as it was, and beside these only the identifier of the last join. -/
structure RowOfAll (s : Store) (kept : List String) (joins : List Join) (d row : Json) : Prop where
  object : row.isObject = true
  target : ∀ j ∈ joins,
    row.get? j.target = some (.arr (s.pointedTo j.collection (j.identifier? d)))
  copied : ∀ name ∈ "_id" :: kept, row.get? name = d.get? name
  others : ∀ name, row.get? name ≠ none →
    name ∈ "_id" :: kept ∨ (∃ j ∈ joins, name = j.target)
      ∨ ∃ j, joins.getLast? = some j ∧ name = j.idField

/-- What a chain of joins is given: the identifier and the kept fields are in use, kept fields have
no dots, and every pointer lies below one of them. -/
structure Ready (inUse kept : List String) (joins : List Join) : Prop where
  used : ∀ name ∈ "_id" :: kept, name ∈ inUse
  flat : ∀ name ∈ kept, Dotless name
  pointers : ∀ j ∈ joins, baseField j.path ∈ "_id" :: kept

namespace Chain

variable {kept : List String} {joins : List Join} {rest : List Join}

/-- The first join of a chain is fresh. -/
theorem fresh (chain : Chain inUse kept (j :: rest)) (ready : Ready inUse kept (j :: rest)) :
    j.Fresh inUse := by
  cases chain with
  | cons free flat keeps later =>
      exact ⟨free, flat, keeps ▸ ready.used, keeps ▸ ready.flat⟩

/-- After the first join the rest of a chain is ready. -/
theorem ready_later (chain : Chain inUse kept (j :: rest))
    (ready : Ready inUse kept (j :: rest)) :
    Ready (j.generated ++ inUse) (kept ++ [j.target]) rest := by
  cases chain with
  | cons free flat keeps later =>
      refine ⟨?_, ?_, ?_⟩
      · intro name mem
        rw [← List.cons_append] at mem
        rcases List.mem_append.1 mem with mem | mem
        · exact List.mem_append_right _ (ready.used name mem)
        · rw [List.mem_singleton.1 mem]
          exact List.mem_append_left _ List.mem_cons_self
      · intro name mem
        rcases List.mem_append.1 mem with mem | mem
        · exact ready.flat name mem
        · rw [List.mem_singleton.1 mem]
          exact flat
      · intro other mem
        rw [← List.cons_append]
        exact List.mem_append_left _ (ready.pointers other (List.mem_cons_of_mem _ mem))

/-- After the first join every pointer of the rest is as in the document. -/
theorem getPath?_later (chain : Chain inUse kept (j :: rest))
    (ready : Ready inUse kept (j :: rest)) {s : Store} {d row : Json} (made : j.RowOf s d row)
    {other : Join} (mem : other ∈ rest) : row.getPath? other.path = d.getPath? other.path := by
  cases chain with
  | cons free flat keeps later =>
      refine Json.getPath?_congr (made.copied _ ?_)
      rw [keeps]
      exact ready.pointers other (List.mem_cons_of_mem _ mem)

/-- **A chain of joins turns a document whose pointers can be pointers into one row.** -/
theorem exists_row (s : Store) (chain : Chain inUse kept joins) (ready : Ready inUse kept joins)
    (some : joins ≠ []) {d : Json}
    (pointers : ∀ j ∈ joins, isPointer (d.getPath? j.path) = true) :
    ∃ row, s.runStages [d] (joins.flatMap stages) = .ok [row] ∧ RowOfAll s kept joins d row := by
  induction chain generalizing d with
  | nil => exact absurd rfl some
  | @cons inUse kept j rest free flat keeps later ih =>
      have chain : Chain inUse kept (j :: rest) := .cons free flat keeps later
      obtain ⟨first, toFirst, made⟩ := Join.exists_row s (chain.fresh ready)
        (pointers j List.mem_cons_self)
      rw [List.flatMap_cons, s.runStages_append, toFirst]
      show ∃ row, s.runStages [first] (rest.flatMap stages) = _ ∧ _
      cases rest with
      | nil =>
          refine ⟨first, rfl, made.object, ?_, keeps ▸ made.copied, ?_⟩
          · intro other mem
            rw [List.mem_singleton.1 mem]
            exact made.target
          · intro name there
            rcases made.others name there with isKept | isTarget | isId
            · exact .inl (keeps ▸ isKept)
            · exact .inr (.inl ⟨j, List.mem_singleton_self j, isTarget⟩)
            · exact .inr (.inr ⟨j, rfl, isId⟩)
      | cons next others =>
          -- The rest of the chain finds in the first row the pointers of the document.
          have same : ∀ other ∈ next :: others, first.getPath? other.path = d.getPath? other.path :=
            fun other mem => chain.getPath?_later ready made mem
          obtain ⟨row, toRow, all⟩ := ih (chain.ready_later ready) (List.cons_ne_nil _ _)
            (fun other mem => same other mem ▸ pointers other (List.mem_cons_of_mem _ mem))
          refine ⟨row, toRow, all.object, ?_, ?_, ?_⟩
          · intro other mem
            rcases List.mem_cons.1 mem with rfl | mem
            -- The rest keeps the target of the first join.
            · rw [all.copied _ (List.mem_cons_of_mem _ (List.mem_append_right _
                  (List.mem_singleton_self _))), made.target]
            · rw [all.target other mem, identifier?, same other mem]
              rfl
          · intro name mem
            rw [all.copied name (List.mem_append_left [j.target] mem),
                made.copied name (keeps ▸ mem)]
          · intro name there
            rcases all.others name there with isKept | ⟨other, mem, isTarget⟩ | ⟨last, final, isId⟩
            · rw [← List.cons_append, List.mem_append, List.mem_singleton] at isKept
              rcases isKept with isKept | isTarget
              · exact .inl isKept
              · exact .inr (.inl ⟨j, List.mem_cons_self, isTarget⟩)
            · exact .inr (.inl ⟨other, List.mem_cons_of_mem _ mem, isTarget⟩)
            · exact .inr (.inr ⟨last, by rw [List.getLast?_cons_cons, final], isId⟩)

/-- **A chain of joins that succeeds has met values that can be pointers only.** -/
theorem isPointer_of_runStages (s : Store) (chain : Chain inUse kept joins)
    (ready : Ready inUse kept joins) {d : Json} {result : List Json}
    (h : s.runStages [d] (joins.flatMap stages) = .ok result) :
    ∀ j ∈ joins, isPointer (d.getPath? j.path) = true := by
  induction chain generalizing d with
  | nil => exact fun _ mem => absurd mem List.not_mem_nil
  | @cons inUse kept j rest free flat keeps later ih =>
      have chain : Chain inUse kept (j :: rest) := .cons free flat keeps later
      rw [List.flatMap_cons, s.runStages_append_eq_ok_iff] at h
      obtain ⟨between, toFirst, toRow⟩ := h
      have pointer := Join.isPointer_of_runStages s toFirst
      obtain ⟨first, toFirst', made⟩ := Join.exists_row s (chain.fresh ready) pointer
      rw [toFirst'] at toFirst
      injection toFirst with toFirst
      subst toFirst
      intro other mem
      rcases List.mem_cons.1 mem with rfl | mem
      · exact pointer
      · rw [← chain.getPath?_later ready made mem]
        exact ih (chain.ready_later ready) toRow other mem

end Chain

end Join

/-! ## §2. The joins of a plan -/

theorem mem_keep {kept : List String} {field name : String} :
    name ∈ keep kept field ↔ name ∈ kept ∨ (name = field ∧ field ≠ "_id") := by
  unfold keep
  by_cases identifier : field = "_id"
  · rw [if_pos (.inl identifier)]
    simp [identifier]
  by_cases already : field ∈ kept
  · rw [if_pos (.inr (List.contains_iff_mem.2 already))]
    constructor
    · exact .inl
    · rintro (mem | ⟨rfl, -⟩)
      · exact mem
      · exact already
  · rw [if_neg (by simp [identifier, already])]
    simp [identifier]

theorem mem_foldl_keep {fields kept : List String} {name : String} :
    name ∈ fields.foldl keep kept ↔ name ∈ kept ∨ (name ∈ fields ∧ name ≠ "_id") := by
  induction fields generalizing kept with
  | nil => simp
  | cons field rest ih =>
      rw [List.foldl_cons, ih, mem_keep, List.mem_cons]
      constructor
      · rintro ((mem | ⟨rfl, ne⟩) | ⟨mem, ne⟩)
        · exact .inl mem
        · exact .inr ⟨.inl rfl, ne⟩
        · exact .inr ⟨.inr mem, ne⟩
      · rintro (mem | ⟨rfl | mem, ne⟩)
        · exact .inl (.inl mem)
        · exact .inl (.inr ⟨rfl, ne⟩)
        · exact .inr ⟨mem, ne⟩

/-- In a list of joins made of columns with distinct paths, every column finds its own join. -/
theorem Join.find?_of_joinedBy {settings : Settings} {columns : List Column} {joins : List Join}
    (made : List.Forall₂ (fun c j => JoinedBy settings c j) columns joins)
    (distinct : columns.Pairwise fun c other => c.path ≠ other.path) :
    List.Forall₂ (fun c j => JoinedBy settings c j ∧ joins.find? (·.path = c.path) = some j)
      columns joins := by
  induction made with
  | nil => exact .nil
  | @cons first j columns joins joined _ ih =>
      have ⟨others, later⟩ := List.pairwise_cons.1 distinct
      have here : (j :: joins).find? (·.path = first.path) = some j :=
        List.find?_cons_of_pos (by simpa using joined.path)
      refine .cons ⟨joined, here⟩ ?_
      -- The columns behind the first have other paths, so their search passes over its join.
      refine ((List.forall₂_and_left columns joins).2 ⟨others, ih later⟩).imp ?_
      rintro c other ⟨distinctPath, joined', found⟩
      have passed : j.path ≠ c.path := joined.path ▸ distinctPath
      exact ⟨joined', by rw [List.find?_cons_of_neg (by simpa using passed), found]⟩

/-- Of two lists that are related element by element, every element on the left has one on the
right. -/
theorem exists_right_of_forall₂ {R : α → β → Prop} {left : List α} {right : List β}
    (h : List.Forall₂ R left right) {a : α} (mem : a ∈ left) : ∃ b ∈ right, R a b := by
  induction h with
  | nil => exact absurd mem List.not_mem_nil
  | cons related _ ih =>
      rcases List.mem_cons.1 mem with rfl | mem
      · exact ⟨_, List.mem_cons_self, related⟩
      · obtain ⟨b, here, related⟩ := ih mem
        exact ⟨b, List.mem_cons_of_mem _ here, related⟩

namespace Request

variable {r : Request} {criteria : Criteria} {settings : Settings} {plan : Plan}

theorem mem_columns_of_joined {c : Column} (h : c ∈ r.joinedColumns) : c ∈ r.columns :=
  Column.mem_of_mem_unreplaced (List.mem_of_mem_filter h)

/-- The base fields of the columns are kept, beside the identifier. -/
theorem mem_keptFields {name : String} :
    name ∈ "_id" :: r.keptFields ↔ name = "_id" ∨ ∃ c ∈ r.columns, name = baseField c.path := by
  rw [List.mem_cons, keptFields, mem_foldl_keep]
  constructor
  · rintro (rfl | mem | ⟨mem, -⟩)
    · exact .inl rfl
    · exact absurd mem List.not_mem_nil
    · obtain ⟨c, here, same⟩ := List.mem_map.1 mem
      exact .inr ⟨c, here, same.symm⟩
  · rintro (rfl | ⟨c, mem, rfl⟩)
    · exact .inl rfl
    · by_cases identifier : baseField c.path = "_id"
      · exact .inl identifier
      · exact .inr (.inr ⟨List.mem_map.2 ⟨c, mem, rfl⟩, identifier⟩)

/-- A plan is what its request gives, but for the joins, which are those of the joined columns. -/
theorem plan_eq_of_ok (compiled : r.plan criteria settings = .ok plan) :
    Column.joins settings (Column.namesInUse r.columns) r.keptFields r.joinedColumns
        = .ok plan.joins
      ∧ plan =
        { criteria := criteria.fragments
          joins := plan.joins
          searches := (r.joinedSearch? plan.joins).toList ++
            (r.columns.filter (·.hasOwnSearch)).filterMap (Column.joinedSearch? plan.joins)
          countField := settings.countField
          sort := r.sortKeys (Column.sortTarget? plan.joins)
          skip := r.start.toNat
          limit := r.limit } := by
  rw [Request.plan] at compiled
  split at compiled
  · exact absurd compiled (by simp)
  · next joins made =>
      injection compiled with compiled
      subst compiled
      exact ⟨made, rfl⟩

/-- The joins of a plan are those of the joined columns. -/
theorem joins_of_plan (compiled : r.plan criteria settings = .ok plan) :
    Column.joins settings (Column.namesInUse r.columns) r.keptFields r.joinedColumns
      = .ok plan.joins := (plan_eq_of_ok compiled).1

/-- A plan matches the caller's criteria, and counts in the field of the settings. -/
theorem criteria_of_plan (compiled : r.plan criteria settings = .ok plan) :
    plan.criteria = criteria.fragments := congrArg Plan.criteria (plan_eq_of_ok compiled).2

theorem countField_of_plan (compiled : r.plan criteria settings = .ok plan) :
    plan.countField = settings.countField := congrArg Plan.countField (plan_eq_of_ok compiled).2

/-- Every joined column has its join in the plan, which is the one that is found for its path. -/
theorem joinedBy_of_plan (compiled : r.plan criteria settings = .ok plan) :
    List.Forall₂ (fun c j => j.JoinedBy settings c
        ∧ plan.joins.find? (·.path = c.path) = some j) r.joinedColumns plan.joins :=
  Join.find?_of_joinedBy (Column.joinedBy_of_joins (joins_of_plan compiled))
    ((Column.pairwise_unreplaced r.columns).filter _)

/-- Every joined column finds its join in the plan. -/
theorem exists_join_of_plan (compiled : r.plan criteria settings = .ok plan) {c : Column}
    (mem : c ∈ r.joinedColumns) :
    ∃ j ∈ plan.joins, j.JoinedBy settings c
      ∧ plan.joins.find? (·.path = c.path) = some j :=
  exists_right_of_forall₂ (joinedBy_of_plan compiled) mem

/-- Every join of the plan is found by a joined column. -/
theorem exists_column_of_plan (compiled : r.plan criteria settings = .ok plan) {j : Join}
    (mem : j ∈ plan.joins) :
    ∃ c ∈ r.joinedColumns, j.JoinedBy settings c
      ∧ plan.joins.find? (·.path = c.path) = some j :=
  exists_right_of_forall₂ (joinedBy_of_plan compiled).flip mem

/-- The joins of a plan form a chain. -/
theorem chain_of_plan (usable : paddingFault? settings.padding = none)
    (compiled : r.plan criteria settings = .ok plan) :
    Join.Chain (Column.namesInUse r.columns) r.keptFields plan.joins := by
  refine Column.chain_of_joins (dotless_of_usable usable) List.mem_cons_self ?_
    (joins_of_plan compiled)
  intro name mem
  rcases mem_keptFields.1 (List.mem_cons_of_mem _ mem) with rfl | ⟨c, here, rfl⟩
  · exact List.mem_cons_self
  · exact List.mem_cons_of_mem _ (List.mem_flatMap.2 ⟨c, here, by simp⟩)

/-- The joins of a plan have what they need. -/
theorem ready_of_plan (compiled : r.plan criteria settings = .ok plan) :
    Join.Ready (Column.namesInUse r.columns) r.keptFields plan.joins := by
  refine ⟨?_, ?_, ?_⟩
  · intro name mem
    rcases mem_keptFields.1 mem with rfl | ⟨c, here, rfl⟩
    · exact List.mem_cons_self
    · exact List.mem_cons_of_mem _ (List.mem_flatMap.2 ⟨c, here, by simp⟩)
  · intro name mem
    rcases mem_keptFields.1 (List.mem_cons_of_mem _ mem) with rfl | ⟨c, -, rfl⟩
    · exact dotless_id
    · exact dotless_baseField c.path
  · intro j mem
    obtain ⟨c, here, joined, -⟩ := exists_column_of_plan compiled mem
    exact mem_keptFields.2 (.inr ⟨c, mem_columns_of_joined here, by rw [joined.path]⟩)

end Request

namespace Store

/-- The documents of the collection that a column refers to. -/
def referenced (s : Store) (c : Column) : List Json := c.boundCollection?.elim [] s.documents

/-- The documents that a joined column points to from a document. -/
def foreign (s : Store) (settings : Settings) (c : Column) (d : Json) : List Json :=
  (s.referenced c).filter fun foreign =>
    ((foreign.get? "_id").getD .null).equalTo
      ((identifierAt? settings.idPosition.toInt (d.getPath? c.path)).getD .null)

/-- The row that the joins of a plan make of a document. -/
structure JoinedRow (s : Store) (r : Request) (settings : Settings) (plan : Plan)
    (d row : Json) : Prop where
  object : row.isObject = true
  /-- The identifier and the base fields of all columns are as in the document. -/
  copied : ∀ name, name = "_id" ∨ (∃ c ∈ r.columns, name = baseField c.path) →
    row.get? name = d.get? name
  /-- Every joined column has the documents that it points to, in a field of its own. -/
  joined : ∀ c ∈ r.joinedColumns, c.boundCollection?.isSome = true ∧
    ∃ target, Join.targetIn? plan.joins c.path = some target
      ∧ row.get? target = some (.arr (s.foreign settings c d))
  /-- Beside these there is at most the identifier of the last join. -/
  others : ∀ name, row.get? name ≠ none →
    name = "_id" ∨ (∃ c ∈ r.columns, name = baseField c.path)
      ∨ (∃ c ∈ r.joinedColumns, Join.targetIn? plan.joins c.path = some name)
      ∨ ∃ j, plan.joins.getLast? = some j ∧ name = j.idField

variable {r : Request} {criteria : Criteria} {settings : Settings} {plan : Plan}

/-- The row of a plan's joins, seen from the columns. -/
theorem joinedRow_of_rowOfAll (s : Store) (compiled : r.plan criteria settings = .ok plan)
    {d row : Json} (made : Join.RowOfAll s r.keptFields plan.joins d row) :
    s.JoinedRow r settings plan d row := by
  refine ⟨made.object, fun name named => made.copied name (Request.mem_keptFields.2 named), ?_, ?_⟩
  · intro c mem
    obtain ⟨j, here, joined, found⟩ := Request.exists_join_of_plan compiled mem
    have same : s.pointedTo j.collection (j.identifier? d) = s.foreign settings c d := by
      rw [pointedTo, foreign, referenced, joined.collection, Join.identifier?,
          joined.idPosition, joined.path]
      rfl
    refine ⟨by rw [joined.collection]; rfl, j.target, ?_, ?_⟩
    · rw [Join.targetIn?, found]
      rfl
    · rw [made.target j here, same]
  · intro name there
    rcases made.others name there with isKept | ⟨j, mem, isTarget⟩ | isId
    · rcases Request.mem_keptFields.1 isKept with identifier | base
      · exact .inl identifier
      · exact .inr (.inl base)
    · obtain ⟨c, here, -, found⟩ := Request.exists_column_of_plan compiled mem
      refine .inr (.inr (.inl ⟨c, here, ?_⟩))
      rw [Join.targetIn?, found, isTarget]
      rfl
    · exact .inr (.inr (.inr isId))

/-- **The frame of a plan's joins.**  Of any document whose value at the path of every joined
column is missing, null or an object, the join stages make exactly one row, with the identifier
and all base fields as they were, the documents that each joined column points to, and beside
these at most the identifier of the last join. -/
theorem joins_frame (s : Store) (r : Request) (criteria : Criteria) (settings : Settings)
    (plan : Plan) (usable : paddingFault? settings.padding = none)
    (compiled : r.plan criteria settings = .ok plan) (joining : plan.joins ≠ []) (d : Json)
    (pointers : ∀ c ∈ r.joinedColumns, isPointer (d.getPath? c.path) = true) :
    ∃ row, s.runStages [d] (plan.joins.flatMap Join.stages) = .ok [row]
      ∧ s.JoinedRow r settings plan d row := by
  have pointers' : ∀ j ∈ plan.joins, isPointer (d.getPath? j.path) = true := by
    intro j mem
    obtain ⟨c, here, joined, -⟩ := Request.exists_column_of_plan compiled mem
    rw [joined.path]
    exact pointers c here
  obtain ⟨row, toRow, made⟩ := (Request.chain_of_plan usable compiled).exists_row s
    (Request.ready_of_plan compiled) joining pointers'
  exact ⟨row, toRow, s.joinedRow_of_rowOfAll compiled made⟩

end Store

/-- Orders searched by their label and by the label and the wood of their product, in the order of
the names of their buyers. -/
def productOrders : Request where
  search := { value := "^(order2|oak)", regex := true }
  order := [⟨2, .ascending⟩]
  columns :=
    [ { path := "label", searchable := true }
    , { path := "item.product", searchable := true, reference := true
        collection := some " products ", searchFields := .ofList ["label", "wood"] }
    , { path := "buyer", orderable := true, reference := true, collection := some "users"
        orderField := some "name" } ]

/-- The first order of the store below: its product is known, its buyer is not. -/
def firstOrder : Json :=
  .obj
    [ ("_id", .int 1), ("label", .str "order1"), ("note", .str "fragile")
    , ("item", .obj [("product", .obj [("$ref", .str "products"), ("$id", .int 7)])])
    , ("buyer", .null) ]

/-- A store with three orders, two products and two users. -/
def productStore : Store :=
  ⟨[ ("orders",
      [ firstOrder
      , .obj
          [ ("_id", .int 2), ("label", .str "order2")
          , ("buyer", .obj [("$ref", .str "users"), ("$id", .int 4)]) ]
      , .obj
          [ ("_id", .int 3), ("label", .str "order3")
          , ("item", .obj [("product", .obj [("$ref", .str "products"), ("$id", .int 8)])])
          , ("buyer", .obj [("$ref", .str "users"), ("$id", .int 5)]) ] ])
   , ("products",
      [ .obj [("_id", .int 7), ("label", .str "product7"), ("wood", .str "oak")]
      , .obj [("_id", .int 8), ("label", .str "product8"), ("wood", .str "ash")] ])
   , ("users",
      [ .obj [("_id", .int 4), ("name", .str "bob")]
      , .obj [("_id", .int 5), ("name", .str "alice")] ]) ]⟩

/-- The row of the first order. -/
theorem firstOrder_joins_frame :
    paddingFault? "_" = none ∧ ∃ plan, productOrders.plan {} {} = .ok plan ∧ plan.joins ≠ []
      ∧ (∀ c ∈ productOrders.joinedColumns, isPointer (firstOrder.getPath? c.path) = true)
      ∧ ∃ row, productStore.runStages [firstOrder] (plan.joins.flatMap Join.stages) = .ok [row]
          ∧ productStore.JoinedRow productOrders {} plan firstOrder row := by
  have usable : paddingFault? "_" = none := by decide
  have pointers : ∀ c ∈ productOrders.joinedColumns,
      isPointer (firstOrder.getPath? c.path) = true := by decide +kernel
  refine ⟨usable, _, rfl, by simp, pointers, ?_⟩
  exact productStore.joins_frame productOrders {} {} _ usable rfl (by simp) firstOrder pointers

end PagedTable
