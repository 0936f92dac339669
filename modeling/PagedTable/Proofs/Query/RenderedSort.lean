/-
  PagedTable.Proofs.Query.RenderedSort — sort keys that are rendered as a document and read back.

  A document has one member for each name.  So of several keys with one field the document keeps
  the place of the first and the direction of the last, while documents are compared by the first:
  when a key has documents level, later keys with its field have them level, too.  Reading the
  document back gives keys that sort in the same way exactly if for each field the two directions
  agree; if they do not, two documents that differ in this field only are sorted the other way.

      foldl_setField_cons       — the first key takes the direction of the last of its field
      compareAll_filter         — keys that have the documents level do not count
      compareAll_ofDocument     — directions agree: the same comparison
      exists_reversed           — they do not: the reverse, for two documents
      sort_ofDocument_eq_iff    — the keys read back sort in the same way exactly if they agree
-/
import PagedTable.Proofs.Json.FanOut
import PagedTable.Proofs.Json.Writing
import PagedTable.Proofs.Query.Sorting
import PagedTable.Query.Plan

namespace PagedTable

/-- The direction that a number stands for in documents. -/
def Direction.ofSign? (n : Int) : Option Direction :=
  if n = 1 then some .ascending else if n = -1 then some .descending else none

/-- The number of a direction stands for it. -/
theorem Direction.ofSign?_sign (d : Direction) : ofSign? d.sign = some d := by
  cases d <;> rfl

namespace SortKey

/-! ## §1. Reading keys back -/

/-- The key that a member stands for. -/
def ofMember? : String × Json → Option SortKey
  | (field, .num (.int n)) => (Direction.ofSign? n).map (SortKey.mk field)
  | _ => none

/-- The keys that a document stands for, in order. -/
def ofDocument (document : Json) : List SortKey := document.members.filterMap ofMember?

/-- Gives a field its direction: in the place of its first key, or as a new last key. -/
def setField (key : SortKey) : List SortKey → List SortKey
  | [] => [key]
  | other :: rest => if other.field = key.field then key :: rest else other :: setField key rest

/-- The member for a key. -/
def toMember (key : SortKey) : String × Json := (key.field, .int key.direction.sign)

/-- The key is read back from its member. -/
theorem ofMember?_toMember (key : SortKey) : ofMember? key.toMember = some key := by
  rw [toMember, Json.int, ofMember?, Direction.ofSign?_sign]
  rfl

/-- Inserting the member for a key gives its field its direction. -/
theorem insert_toMember (key : SortKey) (keys : List SortKey) :
    Json.insert key.field (.int key.direction.sign) (keys.map toMember) =
      (setField key keys).map toMember := by
  induction keys with
  | nil => rfl
  | cons other rest ih =>
      rw [List.map_cons, toMember, Json.insert, setField]
      split
      · next same =>
        rw [List.map_cons, toMember, same]
      · rw [List.map_cons, ih]
        rfl

/-- The keys read back from a document are those that were set one after the other. -/
theorem ofDocument_toDocument (keys : List SortKey) :
    ofDocument (toDocument keys) = keys.foldl (fun set key => setField key set) [] := by
  have members (before : List SortKey) :
      (keys.map toMember).foldl (fun acc m => Json.insert m.1 m.2 acc) (before.map toMember) =
        (keys.foldl (fun set key => setField key set) before).map toMember := by
    induction keys generalizing before with
    | nil => rfl
    | cons key rest ih =>
        rw [List.map_cons, List.foldl_cons, List.foldl_cons, ← ih, ← insert_toMember]
        rfl
  have rendered : (toDocument keys).members =
      (keys.foldl (fun set key => setField key set) []).map toMember := members []
  have inverse : ofMember? ∘ toMember = some := funext ofMember?_toMember
  rw [ofDocument, rendered, List.filterMap_map, inverse, List.filterMap_some]

/-! ## §2. First and last keys of a field -/

/-- The keys with a field, in order. -/
def keysOf (keys : List SortKey) (field : String) : List SortKey :=
  keys.filter (·.field = field)

/-- The keys with other fields, in order. -/
def keysBut (keys : List SortKey) (field : String) : List SortKey :=
  keys.filter (·.field ≠ field)

/-- The keys with one of the other fields are still there. -/
theorem keysOf_keysBut {field other : String} (h : other ≠ field) (keys : List SortKey) :
    keysOf (keysBut keys field) other = keysOf keys other := by
  rw [keysOf, keysBut, List.filter_filter]
  refine List.filter_congr fun key _ => ?_
  by_cases eq : key.field = other <;> simp [eq, h]

/-- **The first key takes the direction of the last key with its field, and the keys with other
fields are set behind it.** -/
theorem foldl_setField_cons (key : SortKey) (before keys : List SortKey) :
    keys.foldl (fun set key => setField key set) (key :: before) =
      (keysOf keys key.field).getLast?.getD key ::
        (keysBut keys key.field).foldl (fun set key => setField key set) before := by
  induction keys generalizing key before with
  | nil => rfl
  | cons other rest ih =>
      rw [List.foldl_cons, setField, keysOf, keysBut]
      by_cases same : key.field = other.field
      · rw [if_pos same, ih, ← same, List.filter_cons_of_pos (by simp [same]),
          List.filter_cons_of_neg (by simp [same]), List.getLast?_cons, Option.getD_some]
        rfl
      · rw [if_neg same, ih, List.filter_cons_of_neg (by simp [Ne.symm same]),
          List.filter_cons_of_pos (by simp [Ne.symm same])]
        rfl

/-! ## §3. Comparing with the keys read back -/

variable {key : SortKey} {keys : List SortKey} {a b : Json}

/-- **Keys that have the documents level do not count.** -/
theorem compareAll_filter {p : SortKey → Bool}
    (level : ∀ key ∈ keys, p key = false → key.compare a b = .eq) :
    compareAll (keys.filter p) a b = compareAll keys a b := by
  induction keys with
  | nil => rfl
  | cons key rest ih =>
      have others := ih fun other mem => level other (List.mem_cons_of_mem key mem)
      cases kept : p key with
      | true => rw [List.filter_cons_of_pos kept, compareAll, compareAll, others]
      | false =>
          rw [List.filter_cons_of_neg (by simp [kept]), compareAll, others,
            level key List.mem_cons_self kept]
          rfl

/-- Behind a key the keys with its field do not count. -/
theorem then_compareAll_keysBut (key : SortKey) (keys : List SortKey) (a b : Json) :
    (key.compare a b).then (compareAll (keysBut keys key.field) a b) =
      compareAll (key :: keys) a b := by
  rw [compareAll]
  cases first : key.compare a b with
  | lt => rfl
  | gt => rfl
  | eq =>
      -- What is level under one direction is level under the other.
      refine compareAll_filter fun other _ dropped => ?_
      have same : other.field = key.field := by simpa using dropped
      have level := compare_eq_eq_iff.1 first
      rw [compare_eq_eq_iff, Level, same]
      exact level

/-- The keys read back begin with the last key of the first field, and behind it there is nothing
of this field. -/
theorem ofDocument_toDocument_cons (key : SortKey) (keys : List SortKey) :
    ofDocument (toDocument (key :: keys)) =
      (keysOf keys key.field).getLast?.getD key ::
        ofDocument (toDocument (keysBut keys key.field)) := by
  rw [ofDocument_toDocument, ofDocument_toDocument, List.foldl_cons]
  exact foldl_setField_cons key [] keys

/-- The last key of a field has the field. -/
theorem field_getLast (key : SortKey) (keys : List SortKey) :
    ((keysOf keys key.field).getLast?.getD key).field = key.field := by
  cases last : (keysOf keys key.field).getLast? with
  | none => rfl
  | some other => simpa using (List.mem_filter.1 (List.mem_of_getLast? last)).2

/-- Keys of one field and one direction are equal. -/
theorem eq_of_field_direction {key other : SortKey} (field : key.field = other.field)
    (direction : key.direction = other.direction) : key = other := by
  cases key
  cases other
  cases field
  cases direction
  rfl

/-- For each field the first key is the last one, or like it. -/
def Settled (keys : List SortKey) : Prop :=
  ∀ field, (keysOf keys field).head? = (keysOf keys field).getLast?

/-- The keys are settled when the first one is like the last of its field and the keys with other
fields are settled. -/
theorem settled_cons_iff (key : SortKey) (keys : List SortKey) :
    Settled (key :: keys) ↔
      (keysOf keys key.field).getLast?.getD key = key ∧ Settled (keysBut keys key.field) := by
  have mine : keysOf (key :: keys) key.field = key :: keysOf keys key.field :=
    List.filter_cons_of_pos (by simp)
  have others {field : String} (h : field ≠ key.field) :
      keysOf (key :: keys) field = keysOf keys field :=
    List.filter_cons_of_neg (by simpa using h.symm)
  have none_left : keysOf (keysBut keys key.field) key.field = [] := by
    rw [keysOf, keysBut, List.filter_filter, List.filter_eq_nil_iff]
    simp
  constructor
  · intro settled
    constructor
    · have ends := settled key.field
      rw [mine, List.head?_cons, List.getLast?_cons] at ends
      exact (Option.some.inj ends).symm
    · intro field
      by_cases same : field = key.field
      · rw [same, none_left]
        rfl
      · have ends := settled field
        rwa [keysOf_keysBut same, ← others same]
  · rintro ⟨first, settled⟩ field
    by_cases same : field = key.field
    · rw [same, mine, List.head?_cons, List.getLast?_cons, first]
    · have ends := settled field
      rwa [others same, ← keysOf_keysBut same]

/-- **When the keys are settled, the keys read back compare documents in the same way.** -/
theorem compareAll_ofDocument : (keys : List SortKey) → Settled keys → (a b : Json) →
    compareAll (ofDocument (toDocument keys)) a b = compareAll keys a b
  | [], _, _, _ => rfl
  | key :: rest, settled, a, b => by
    obtain ⟨first, others⟩ := (settled_cons_iff key rest).1 settled
    rw [ofDocument_toDocument_cons, first, compareAll, compareAll_ofDocument _ others,
      then_compareAll_keysBut]
termination_by keys => keys.length
decreasing_by exact Nat.lt_succ_of_le (List.length_filter_le _ _)

/-! ## §4. Documents that differ in one field -/

/-- The document with nothing but a truth value under one path. -/
def marked (path : String) (mark : Bool) : Json := Json.null.setPath path (.bool mark)

/-- Setting a value in nothing makes an object of one member. -/
theorem setAt_cons_null (value : Json) (name : String) (rest : List String) :
    Json.setAt value (name :: rest) .null = .obj [(name, Json.setAt value rest .null)] := rfl

/-- The value that a document is sorted on, for the names of a path. -/
def valueAt (names : List String) (document : Json) : Json :=
  ((Json.reached names document).flatMap Json.withItems).headD .null

/-- A path other than the one that was set does not reach the truth value. -/
theorem compare_valueAt_of_ne {names others : List String} (h : names ≠ others) (m n : Bool) :
    (valueAt names (Json.setAt (.bool m) others .null)).compare
      (valueAt names (Json.setAt (.bool n) others .null)) = .eq := by
  induction others generalizing names with
  | nil =>
      cases names with
      | nil => exact absurd rfl h
      | cons name rest => rfl
  | cons other others ih =>
      rw [setAt_cons_null, setAt_cons_null]
      cases names with
      | nil => rfl
      | cons name rest =>
          by_cases same : other = name
          · have step (v : Json) : Json.stepInto name (.obj [(other, v)]) = [v] := by
              simp [Json.stepInto, Json.get?, Json.members, Json.lookup, same]
            rw [valueAt, valueAt, Json.reached, Json.reached, step, step, List.flatMap_singleton,
              List.flatMap_singleton]
            exact ih fun eq => h (by rw [eq, same])
          · have step (v : Json) : Json.stepInto name (.obj [(other, v)]) = [] := by
              simp [Json.stepInto, Json.get?, Json.members, Json.lookup, same]
            rw [valueAt, valueAt, Json.reached, Json.reached, step, step]
            rfl

/-- A key of another field has the two documents level. -/
theorem compare_marked_of_ne {path : String} (h : key.field ≠ path) (m n : Bool) :
    key.compare (marked path m) (marked path n) = .eq :=
  compare_eq_eq_iff.2
    (compare_valueAt_of_ne (fun eq => h (segments_injective eq)) m n)

/-- Keys that begin with one of the field have the unmarked document before the marked one, or
behind it. -/
theorem compareAll_marked (key : SortKey) (keys : List SortKey) :
    compareAll (key :: keys) (marked key.field false) (marked key.field true) =
      key.direction.orient .lt := by
  have value_marked (m : Bool) : value (marked key.field m) key.field = .bool m := by
    have read : (marked key.field m).getPath? key.field = some (.bool m) :=
      Json.getAt_setAt _ _ _
    rw [value, Json.candidates_of_getPath? read]
    rfl
  rw [compareAll, compare, value_marked, value_marked]
  cases key.direction <;> rfl

/-! ## §5. Sorting with the keys read back -/

/-- **When the keys are not settled, there are two documents that the keys read back compare the
other way.** -/
theorem exists_reversed : (keys : List SortKey) → ¬ Settled keys → ∃ key ∈ keys,
    compareAll keys (marked key.field false) (marked key.field true) ≠ .eq ∧
    compareAll (ofDocument (toDocument keys)) (marked key.field false) (marked key.field true) =
      (compareAll keys (marked key.field false) (marked key.field true)).swap
  | [], unsettled => absurd (fun _ => rfl) unsettled
  | key :: rest, unsettled => by
    rw [ofDocument_toDocument_cons]
    by_cases first : (keysOf rest key.field).getLast?.getD key = key
    · -- The other keys are not settled, and the first key has their two documents level.
      have others : ¬ Settled (keysBut rest key.field) := fun settled =>
        unsettled ((settled_cons_iff key rest).2 ⟨first, settled⟩)
      obtain ⟨other, mem, apart, reversed⟩ := exists_reversed _ others
      have different : key.field ≠ other.field := by
        have := (List.mem_filter.1 mem).2
        simpa using Ne.symm (by simpa using this)
      have level := compare_marked_of_ne different false true
      refine ⟨other, List.mem_cons_of_mem key (List.mem_filter.1 mem).1, ?_⟩
      rw [← then_compareAll_keysBut, first, compareAll, level]
      exact ⟨apart, reversed⟩
    · -- The last key of the field has the other direction.
      have same := field_getLast key rest
      have opposite : ((keysOf rest key.field).getLast?.getD key).direction ≠ key.direction :=
        fun eq => first (eq_of_field_direction same eq)
      have read_back := compareAll_marked ((keysOf rest key.field).getLast?.getD key)
        (ofDocument (toDocument (keysBut rest key.field)))
      rw [same] at read_back
      refine ⟨key, List.mem_cons_self, ?_⟩
      rw [compareAll_marked, read_back]
      revert opposite
      generalize ((keysOf rest key.field).getLast?.getD key).direction = last
      cases last <;> cases key.direction <;> simp [Direction.orient]
termination_by keys => keys.length
decreasing_by exact Nat.lt_succ_of_le (List.length_filter_le _ _)

/-- Sorting two documents. -/
theorem sort_pair (keys : List SortKey) (a b : Json) :
    sort keys [a, b] = if (compareAll keys b a).isLT then [b, a] else [a, b] := by
  rw [sort_eq]
  show (place keys b [a]).reverse = _
  rw [place]
  split
  · rfl
  · rfl

/-- Keys that compare all documents in the same way sort in the same way. -/
theorem sort_congr {keys others : List SortKey}
    (same : ∀ a b, compareAll keys a b = compareAll others a b) (documents : List Json) :
    sort keys documents = sort others documents := by
  have placed (document : Json) (sorted : List Json) :
      place keys document sorted = place others document sorted := by
    induction sorted with
    | nil => rfl
    | cons last before ih => rw [place, place, same, ih]
  rw [sort_eq, sort_eq]
  simp only [placed]

/-- **A rendered sort means what its keys mean exactly if, for each field, the last key has the
direction of the first.**  Then the keys read back from the document sort every list of documents
as the keys themselves do; otherwise there is a list of two documents that they sort the other way
round. -/
theorem sort_ofDocument_eq_iff (keys : List SortKey) :
    (∀ documents, sort (ofDocument (toDocument keys)) documents = sort keys documents) ↔
      ∀ field, (keysOf keys field).head? = (keysOf keys field).getLast? := by
  constructor
  · intro same
    by_contra unsettled
    obtain ⟨key, -, apart, reversed⟩ := exists_reversed keys unsettled
    have different : marked key.field false ≠ marked key.field true := by
      intro eq
      rw [eq] at apart
      have itself := compareAll_swap keys (marked key.field true) (marked key.field true)
      revert apart itself
      cases compareAll keys (marked key.field true) (marked key.field true) <;> simp
    -- Of these two documents one sort changes the order and the other does not.
    have sorted := same [marked key.field true, marked key.field false]
    rw [sort_pair, sort_pair, reversed] at sorted
    revert apart sorted
    cases compareAll keys (marked key.field false) (marked key.field true) <;>
      simp [different, different.symm]
  · exact fun settled => sort_congr (compareAll_ofDocument keys settled)

end SortKey

/-- A request to sort its only column upward, and then downward. -/
def upAndDown : Request where
  order := [⟨0, .ascending⟩, ⟨0, .descending⟩]
  columns := [{ path := "label", orderable := true }]

/-- **A rendered sort need not mean what its keys mean.**  Of two directives for one column the
documents are sorted by the first, and the document of the keys holds the second. -/
theorem rendered_sort_reversed :
    ¬ ∀ (r : Request) (criteria : Criteria) (documents : List Json),
      SortKey.sort (SortKey.ofDocument (SortKey.toDocument (r.findQuery criteria).sort)) documents =
        SortKey.sort (r.findQuery criteria).sort documents := by
  intro same
  have sorted := same upAndDown {} [.obj [("label", .str "b")], .obj [("label", .str "a")]]
  revert sorted
  decide +kernel

end PagedTable
