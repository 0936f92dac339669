/-
  PagedTable.Proofs.Json.FanOut — the walk that fans out over arrays, beside plain reading.

  Reading and the walk go along a path name by name.  Through objects they go together, and there
  is at most one value at a time.  At the first array reading ends, while the walk goes on in every
  object that the array holds; an array within the array it leaves aside.  So where reading ends
  settles what a path offers:

      reached_eq_foldl     — the walk goes one name at a time, from all values reached so far
      reached_of_arrayFree — with no array on the way the walk reaches what reading finds
      arrayFree_of_getAt   — reading that finds a value has met no array on the way
      reached_of_array     — below an array the walk goes on in its objects, one after the other
      candidates_laws      — the same for dotted paths, with the values that they offer
-/
import PagedTable.Proofs.Json.Path

namespace PagedTable.Json

/-! ## §1. One step -/

theorem stepInto_of_ne_arr {d : Json} (h : ∀ items, d ≠ .arr items) (name : String) :
    stepInto name d = (d.get? name).toList := by
  cases d with
  | arr items => exact absurd rfl (h items)
  | _ => rfl

theorem stepInto_of_isObject {d : Json} (h : d.isObject = true) (name : String) :
    stepInto name d = (d.get? name).toList :=
  stepInto_of_ne_arr (fun _ isArray => absurd (isArray ▸ h) (by simp [isObject])) name

/-- What is no object has no member. -/
theorem get?_of_not_isObject {d : Json} (h : d.isObject = false) (name : String) :
    d.get? name = none := by
  cases d with
  | obj members => exact absurd h (by simp [isObject])
  | _ => rfl

/-- A step into an array is a step into each of its objects.  An array inside the array is no
object, so a step does not go through two arrays at once. -/
theorem stepInto_arr (name : String) (items : List Json) :
    stepInto name (.arr items) = (items.filter isObject).flatMap (stepInto name) := by
  rw [stepInto]
  induction items with
  | nil => rfl
  | cons item rest ih =>
      rw [List.flatMap_cons, ih]
      cases kind : item.isObject with
      | true => rw [List.filter_cons_of_pos kind, List.flatMap_cons, stepInto_of_isObject kind]
      | false =>
          rw [List.filter_cons_of_neg (by simp [kind]), get?_of_not_isObject kind]
          rfl

/-! ## §2. One name after the other -/

/-- One step from each of the values. -/
def stepAll (values : List Json) (name : String) : List Json := values.flatMap (stepInto name)

theorem foldl_stepAll (names : List String) (values : List Json) :
    names.foldl stepAll values = values.flatMap (reached names) := by
  induction names generalizing values with
  | nil => exact (List.flatMap_singleton' values).symm
  | cons name rest ih =>
      rw [List.foldl_cons, ih, stepAll, List.flatMap_assoc]
      rfl

/-- **The walk goes one name at a time**, from all values that it has reached so far. -/
theorem reached_eq_foldl (names : List String) (d : Json) :
    reached names d = names.foldl stepAll [d] := by
  rw [foldl_stepAll, List.flatMap_singleton]

/-- What is reached along two lists of names is reached along the second from what the first
reaches. -/
theorem reached_append (front rest : List String) (d : Json) :
    reached (front ++ rest) d = (reached front d).flatMap (reached rest) := by
  rw [reached_eq_foldl, List.foldl_append, ← reached_eq_foldl, foldl_stepAll]

/-! ## §3. Without an array on the way -/

/-- No array stands on the way: no proper prefix of the names leads to one, be it the empty prefix,
which leads to the document.  What is at the end of the names does not count. -/
def ArrayFree (names : List String) (d : Json) : Prop :=
  ∀ front, front <+: names → front ≠ names → ∀ items, getAt front d ≠ some (.arr items)

@[simp] theorem arrayFree_nil (d : Json) : ArrayFree [] d :=
  fun _ begins proper => absurd (List.prefix_nil.1 begins) proper

theorem arrayFree_cons {name : String} {rest : List String} {d : Json} :
    ArrayFree (name :: rest) d ↔
      (∀ items, d ≠ .arr items) ∧ ∀ child, d.get? name = some child → ArrayFree rest child := by
  -- The empty prefix leads to the value itself, every other one starts with the name of a child.
  constructor
  · intro free
    refine ⟨fun items isArray => ?_, fun child here front begins proper items found => ?_⟩
    · exact free [] List.nil_prefix (List.cons_ne_nil name rest).symm items (congrArg some isArray)
    · refine free (name :: front) (List.cons_prefix_cons.2 ⟨rfl, begins⟩) ?_ items ?_
      · exact fun same => proper (List.cons.inj same).2
      · rw [getAt, here]
        exact found
  · rintro ⟨noArray, below⟩ front begins proper items found
    cases front with
    | nil => exact noArray items (Option.some.inj found)
    | cons first front =>
        obtain ⟨rfl, onward⟩ := List.cons_prefix_cons.1 begins
        obtain ⟨child, here, inChild⟩ := Option.bind_eq_some_iff.1 found
        exact below child here front onward (fun same => proper (same ▸ rfl)) items inChild

/-- **With no array on the way the walk reaches what reading finds**, and nothing else. -/
theorem reached_of_arrayFree {names : List String} {d : Json} (free : ArrayFree names d) :
    reached names d = (getAt names d).toList := by
  induction names generalizing d with
  | nil => rfl
  | cons name rest ih =>
      obtain ⟨noArray, below⟩ := arrayFree_cons.1 free
      rw [reached, stepInto_of_ne_arr noArray, getAt]
      cases here : d.get? name with
      | none => rfl
      | some child =>
          show [child].flatMap (reached rest) = (getAt rest child).toList
          rw [List.flatMap_singleton, ih (below child here)]

/-- **Reading that finds a value has met no array on the way**, for an array has no members. -/
theorem arrayFree_of_getAt {names : List String} {d value : Json}
    (found : getAt names d = some value) : ArrayFree names d := by
  induction names generalizing d with
  | nil => exact arrayFree_nil d
  | cons name rest ih =>
      obtain ⟨child, here, below⟩ := Option.bind_eq_some_iff.1 found
      refine arrayFree_cons.2 ⟨?_, ?_⟩
      · rintro items rfl
        exact absurd here (by simp [get?, members])
      · intro other there
        obtain rfl := Option.some.inj (here.symm.trans there)
        exact ih below

/-- Where reading finds a value, the walk reaches it alone. -/
theorem reached_of_getAt {names : List String} {d value : Json}
    (found : getAt names d = some value) : reached names d = [value] := by
  rw [reached_of_arrayFree (arrayFree_of_getAt found), found]
  rfl

/-! ## §4. Below an array -/

/-- **Below an array the walk goes on in its objects**, one after the other. -/
theorem reached_of_array {front rest : List String} {d : Json} {items : List Json}
    (here : getAt front d = some (.arr items)) (below : rest ≠ []) :
    reached (front ++ rest) d = (items.filter isObject).flatMap (reached rest) := by
  rw [reached_append, reached_of_getAt here, List.flatMap_singleton]
  -- Without a further name the walk stays at the array itself.
  cases rest with
  | nil => exact absurd rfl below
  | cons name rest =>
      rw [reached, stepInto_arr, List.flatMap_assoc]
      rfl

/-! ## §5. Dotted paths -/

/-- **Between objects the candidates depend on the member under the base field only.** -/
theorem candidates_congr {path : String} {d e : Json} (hd : d.isObject = true)
    (he : e.isObject = true) (h : d.get? (baseField path) = e.get? (baseField path)) :
    d.candidates path = e.candidates path := by
  obtain ⟨rest, split⟩ := segments_eq_cons path
  rw [candidates, candidates, split, reached, reached, stepInto_of_isObject hd,
      stepInto_of_isObject he, h]

/-- A value that reading finds is offered, with its elements if it is an array, and nothing else. -/
theorem candidates_of_getPath? {d value : Json} {path : String}
    (found : d.getPath? path = some value) : d.candidates path = value :: value.items := by
  rw [candidates, reached_of_getAt found, List.flatMap_singleton]
  rfl

/-- A path that leads nowhere without an array on the way offers nothing. -/
theorem candidates_eq_nil {d : Json} {path : String} (missing : d.getPath? path = none)
    (free : ArrayFree (segments path) d) : d.candidates path = [] := by
  rw [getPath?] at missing
  rw [candidates, reached_of_arrayFree free, missing]
  rfl

/-- A path below an array, wherever the array is, offers what the rest of the path offers in each
of its objects. -/
theorem candidates_below_array {d : Json} {front : String} {items : List Json}
    (here : d.getPath? front = some (.arr items)) (path : String) :
    d.candidates (front ++ "." ++ path) = (items.filter isObject).flatMap (·.candidates path) := by
  rw [candidates, segments_append_dot, reached_of_array here (segments_ne_nil path),
      List.flatMap_assoc]
  rfl

/-- **A path into an array of objects fans out over its elements.** -/
theorem candidates_of_array {d : Json} {name : String} {items : List Json} (hname : Dotless name)
    (here : d.get? name = some (.arr items)) (objects : ∀ x ∈ items, x.isObject = true)
    (path : String) :
    d.candidates (name ++ "." ++ path) = items.flatMap (·.candidates path) := by
  rw [← getPath?_of_dotless hname] at here
  rw [candidates_below_array here, List.filter_eq_self.2 objects]

/-- **The laws of fanning out**, for every document and every dotted path.  If reading finds a
value, the path offers this value and, when it is an array, its elements after it; if reading finds
nothing and no array is on the way, the path offers nothing; and below a field without dots that
holds an array of objects, it offers what it offers in each of the objects, in their order. -/
theorem candidates_laws (d : Json) (path : String) :
    (∀ value, d.getPath? path = some value → d.candidates path = value :: value.items)
      ∧ (d.getPath? path = none → ArrayFree (segments path) d → d.candidates path = [])
      ∧ (∀ name items, Dotless name → d.get? name = some (.arr items) →
          (∀ x ∈ items, x.isObject = true) →
          d.candidates (name ++ "." ++ path) = items.flatMap (·.candidates path)) :=
  ⟨fun _ found => candidates_of_getPath? found,
    fun missing free => candidates_eq_nil missing free,
    fun _ _ dotless here objects => candidates_of_array dotless here objects path⟩

/-- Joined products: one with a list of tags, one without tags, one with a single tag. -/
def taggedProducts : List Json :=
  [.obj [("tags", texts ["a", "b"])], .obj [], .obj [("tags", .str "c")]]

/-- An order with its products joined, and with a list below an object. -/
def taggedOrder : Json :=
  .obj
    [("buyer", .obj [("name", .str "buyer1"), ("tags", texts ["new", "vip"])]),
      ("product_", .arr taggedProducts)]

/-- The tags of the buyer are offered as a list and one by one, a path below the name of the buyer
offers nothing, and the tags of the products are offered together. -/
theorem taggedOrder_candidates_laws :
    taggedOrder.getPath? "buyer.tags" = some (texts ["new", "vip"])
      ∧ taggedOrder.candidates "buyer.tags" = [texts ["new", "vip"], .str "new", .str "vip"]
      ∧ taggedOrder.getPath? "buyer.name.first" = none
      ∧ ArrayFree (segments "buyer.name.first") taggedOrder
      ∧ taggedOrder.candidates "buyer.name.first" = []
      ∧ Dotless "product_" ∧ taggedOrder.get? "product_" = some (.arr taggedProducts)
      ∧ (∀ x ∈ taggedProducts, x.isObject = true)
      ∧ taggedOrder.candidates ("product_" ++ "." ++ "tags")
          = [texts ["a", "b"], .str "a", .str "b", .str "c"] := by
  have free : ArrayFree (segments "buyer.name.first") taggedOrder := by
    show ArrayFree ["buyer", "name", "first"] taggedOrder
    simp [arrayFree_cons, taggedOrder, get?, members, lookup]
  have dotless : Dotless "product_" := by decide
  have objects : ∀ x ∈ taggedProducts, x.isObject = true := by decide
  obtain ⟨found, -, -⟩ := candidates_laws taggedOrder "buyer.tags"
  obtain ⟨-, missing, -⟩ := candidates_laws taggedOrder "buyer.name.first"
  obtain ⟨-, -, joined⟩ := candidates_laws taggedOrder "tags"
  exact ⟨rfl, found _ rfl, rfl, free, missing rfl free, dotless, rfl, objects,
    joined "product_" taggedProducts dotless rfl objects⟩

end PagedTable.Json
