/-
  PagedTable.Proofs.Query.GeneratedNames — the names of all joins of a plan together.

  Freshness is a test for beginnings: a target is free when no name in use starts with it.  That
  covers the names made from the target as well, in both directions: none of them is in use, since
  each starts with the target, and none is made again later, since it is in use from then on.

  Main results:
    * `paddingFault?_eq_none_iff` — which paddings can be part of a name
    * `Chain.startsWith_eq_false` — no name in use starts with the target of a join
    * `Chain.nodup_generated` — the names of a chain are distinct, and not in use before it
    * `generated_fresh` — so the names of a plan's joins collide with nothing
-/
import Mathlib.Data.List.Nodup
import PagedTable.Proofs.Query.FreeNames
import PagedTable.Proofs.Query.JoinFrame

namespace PagedTable

/-! ## §1. Usable paddings -/

/-- **A padding can be part of a name at the top of a document** unless it is empty, has a dot or
starts with a dollar sign. -/
theorem paddingFault?_eq_none_iff (padding : String) :
    paddingFault? padding = none
      ↔ padding ≠ "" ∧ Dotless padding ∧ padding.toList.head? ≠ some '$' := by
  unfold paddingFault? Dotless
  by_cases empty : padding = ""
  · simp [empty]
  rw [if_neg (by simpa using empty)]
  by_cases dotted : '.' ∈ padding.toList
  · simp [dotted]
  rw [if_neg (by simpa using dotted)]
  by_cases dollar : padding.toList.head? = some '$'
  · simp [dollar]
  · simp [empty, dotted, dollar]

/-- Any other padding has a fault. -/
theorem exists_paddingFault?_iff (padding : String) :
    (∃ fault, paddingFault? padding = some fault)
      ↔ padding = "" ∨ '.' ∈ padding.toList ∨ padding.toList.head? = some '$' := by
  rw [← Option.isSome_iff_exists, Option.isSome_iff_ne_none, ne_eq, paddingFault?_eq_none_iff,
      Dotless]
  simp only [not_and_or, ne_eq, not_not]

/-! ## §2. The names of one join -/

namespace Join

/-- Every name of a join is its target with something behind it, or with nothing. -/
theorem exists_suffix {j : Join} {name : String} (mem : name ∈ j.generated) :
    ∃ suffix, Dotless suffix ∧ name = j.target ++ suffix := by
  simp only [generated, List.mem_cons, List.not_mem_nil, or_false] at mem
  rcases mem with rfl | rfl | rfl | rfl
  · exact ⟨"", by decide, String.append_empty.symm⟩
  · exact ⟨"fk_arr", by decide, rfl⟩
  · exact ⟨"fk_obj", by decide, rfl⟩
  · exact ⟨"id", by decide, rfl⟩

/-- The four names of a join are distinct. -/
theorem nodup_generated (j : Join) : j.generated.Nodup := by
  have suffixes : (["", "fk_arr", "fk_obj", "id"] : List String).Nodup := by decide
  have names : j.generated = ["", "fk_arr", "fk_obj", "id"].map (j.target ++ ·) := by
    show [j.target, j.target ++ "fk_arr", j.target ++ "fk_obj", j.target ++ "id"] = _
    rw [List.map_cons, String.append_empty]
    rfl
  rw [names]
  exact List.Nodup.map (fun _ _ same => (String.append_right_inj j.target).1 same) suffixes

/-! ## §3. The names of a chain -/

namespace Chain

variable {inUse kept : List String} {joins : List Join}

/-- **No name in use where a join runs starts with its target**, neither the names in use before
the chain nor those of the joins before it. -/
theorem startsWith_eq_false {before after : List Join} {j : Join}
    (chain : Chain inUse kept (before ++ j :: after)) {name : String}
    (used : name ∈ inUse ∨ ∃ earlier ∈ before, name ∈ earlier.generated) :
    startsWith name j.target = false := by
  induction before generalizing inUse kept with
  | nil =>
      cases chain with
      | cons free _ _ _ =>
          rcases used with mem | ⟨earlier, mem, -⟩
          · have := List.all_eq_true.1 free name mem
            rwa [Bool.not_eq_true'] at this
          · exact absurd mem List.not_mem_nil
  | cons first rest ih =>
      cases chain with
      | cons _ _ _ later =>
          apply ih later
          rcases used with mem | ⟨earlier, mem, isName⟩
          · exact .inl (List.mem_append_right _ mem)
          rcases List.mem_cons.1 mem with rfl | mem
          · exact .inl (List.mem_append_left _ isName)
          · exact .inr ⟨earlier, mem, isName⟩

/-- **The names that a chain generates are distinct, and none of them was in use before.** -/
theorem nodup_generated (chain : Chain inUse kept joins) :
    (joins.flatMap generated).Nodup ∧ ∀ name ∈ joins.flatMap generated, name ∉ inUse := by
  induction chain with
  | nil => exact ⟨.nil, fun _ mem => absurd mem List.not_mem_nil⟩
  | @cons inUse kept j rest free flat keeps later ih =>
      obtain ⟨distinct, unused⟩ := ih
      rw [List.flatMap_cons]
      refine ⟨List.nodup_append.2 ⟨j.nodup_generated, distinct, ?_⟩, ?_⟩
      · -- The names of the first join are in use for the others.
        rintro name mem other mem' rfl
        exact unused name mem' (List.mem_append_left _ mem)
      · intro name mem
        rcases List.mem_append.1 mem with mem | mem
        · obtain ⟨suffix, -, rfl⟩ := exists_suffix mem
          exact notMem_of_isFree free suffix
        · exact fun used => unused name mem (List.mem_append_right _ used)

/-- They have no dots. -/
theorem dotless_generated (chain : Chain inUse kept joins) {name : String}
    (mem : name ∈ joins.flatMap generated) : Dotless name := by
  obtain ⟨j, here, mem⟩ := List.mem_flatMap.1 mem
  obtain ⟨suffix, flat, rfl⟩ := exists_suffix mem
  exact (chain.flat_of_mem here).append flat

end Chain

end Join

/-! ## §4. The names of a plan -/

theorem mem_namesInUse {columns : List Column} {name : String} :
    name ∈ Column.namesInUse columns
      ↔ name = "_id" ∨ ∃ c ∈ columns, name = c.path ∨ name = baseField c.path := by
  simp [Column.namesInUse]

/-- A plan joins the joined columns, in order. -/
theorem Request.paths_of_plan {r : Request} {criteria : Criteria} {settings : Settings}
    {plan : Plan} (compiled : r.plan criteria settings = .ok plan) :
    plan.joins.map (·.path) = r.joinedColumns.map (·.path) := by
  have made := (joinedBy_of_plan compiled).imp fun c j h => h.1.path.symm
  have paths := List.forall₂_map_left_iff.2 (List.forall₂_map_right_iff.2 made)
  rw [List.forall₂_eq_eq_eq] at paths
  exact paths.symm

/-- The names that the joins of a plan generate collide with nothing. -/
structure Plan.FreshNames (r : Request) (plan : Plan) : Prop where
  /-- The joins are those of the joined columns, in order. -/
  order : plan.joins.map (·.path) = r.joinedColumns.map (·.path)
  /-- Neither the identifier nor a path or a base field of a column nor a name of an earlier join
  starts with the target of a join. -/
  free : ∀ before j after, plan.joins = before ++ j :: after → ∀ name,
    (name = "_id" ∨ (∃ c ∈ r.columns, name = c.path ∨ name = baseField c.path)
      ∨ ∃ earlier ∈ before, name ∈ earlier.generated) →
    startsWith name j.target = false
  /-- The names of all joins together are distinct. -/
  distinct : (plan.joins.flatMap Join.generated).Nodup
  /-- They are names at the top of a document, and different from all names of the request. -/
  apart : ∀ name ∈ plan.joins.flatMap Join.generated,
    Dotless name ∧ name ≠ "_id" ∧ ∀ c ∈ r.columns, name ≠ c.path ∧ name ≠ baseField c.path

/-- **The names that a plan generates are fresh**, whatever the columns are called, if the padding
can be part of a name. -/
theorem Request.generated_fresh (r : Request) (criteria : Criteria) (settings : Settings)
    (plan : Plan) (nonempty : settings.padding ≠ "") (flat : Dotless settings.padding)
    (plain : settings.padding.toList.head? ≠ some '$')
    (compiled : r.plan criteria settings = .ok plan) : plan.FreshNames r := by
  have usable := (paddingFault?_eq_none_iff settings.padding).2 ⟨nonempty, flat, plain⟩
  have chain := chain_of_plan usable compiled
  obtain ⟨distinct, unused⟩ := chain.nodup_generated
  refine ⟨paths_of_plan compiled, ?_, distinct, ?_⟩
  · intro before j after split name used
    rw [split] at chain
    apply chain.startsWith_eq_false
    rcases used with identifier | column | earlier
    · exact .inl (mem_namesInUse.2 (.inl identifier))
    · exact .inl (mem_namesInUse.2 (.inr column))
    · exact .inr earlier
  · intro name mem
    have new : ¬ (name = "_id" ∨ ∃ c ∈ r.columns, name = c.path ∨ name = baseField c.path) :=
      fun used => unused name mem (mem_namesInUse.2 used)
    refine ⟨chain.dotless_generated mem, fun same => new (.inl same), fun c here => ⟨?_, ?_⟩⟩
    · exact fun same => new (.inr ⟨c, here, .inl same⟩)
    · exact fun same => new (.inr ⟨c, here, .inr same⟩)

/-- Orders whose plain columns look like generated names. -/
def clashingOrders : Request where
  columns :=
    [ { path := "item.product", searchable := true, reference := true
        collection := some "products", searchFields := .ofList ["label"] }
    , { path := "item_product" }
    , { path := "item_product_id" }
    , { path := "item", searchable := true, reference := true, collection := some "items"
        searchFields := .ofList ["label"] } ]

/-- Both joins need two copies of the padding. -/
theorem clashingOrders_generated_fresh :
    ("_" : String) ≠ "" ∧ Dotless "_" ∧ "_".toList.head? ≠ some '$'
      ∧ ∃ plan, clashingOrders.plan {} {} = .ok plan
        ∧ plan.joins.map (·.target) = ["item_product__", "item__"]
        ∧ plan.FreshNames clashingOrders := by
  have flat : Dotless "_" := by decide
  refine ⟨by decide, flat, by decide, _, rfl, rfl, ?_⟩
  exact clashingOrders.generated_fresh {} {} _ (by decide) flat (by decide) rfl

end PagedTable
