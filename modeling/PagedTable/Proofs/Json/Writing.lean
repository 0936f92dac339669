/-
  PagedTable.Proofs.Json.Writing — what a write along a dotted path changes, and what it leaves.

  A write goes down one segment at a time.  At each segment it replaces one member of an object,
  and where there is no object it starts from an empty one, so what was there is lost; but nothing
  can be read below a value that is no object, so nothing that could be read is lost with it.

      getAt_setAt          — a written value is read back, whatever was on the way
      setAt_setAt          — the second of two writes wins
      setAt_eq_self_iff    — a write changes nothing exactly when the value is there already
      getAt_setAt_of_apart — a path that parts from the written one is read as before
      setPath_laws         — the four laws for dotted paths

  Each of the laws on names is an induction along the written path, by the law for one member.
-/
import PagedTable.Proofs.Json.Path

namespace PagedTable.Json

/-! ## §1. One member -/

/-- The second of two values under one name wins, and stays in the place of the first. -/
theorem insert_insert (name : String) (value old : Json) (members : List (String × Json)) :
    insert name value (insert name old members) = insert name value members := by
  induction members with
  | nil => simp [insert]
  | cons head rest ih =>
      obtain ⟨key, current⟩ := head
      by_cases h : key = name <;> simp [insert, h, ih]

/-- Giving a name the value that it has changes nothing, the order of the members included. -/
theorem insert_of_lookup {name : String} {value : Json} {members : List (String × Json)}
    (h : lookup name members = some value) : insert name value members = members := by
  induction members with
  | nil => exact absurd h (by simp)
  | cons head rest ih =>
      obtain ⟨key, current⟩ := head
      rw [lookup] at h
      by_cases here : key = name
      · rw [if_pos here] at h
        rw [insert, if_pos here, Option.some.inj h]
      · rw [if_neg here] at h
        rw [insert, if_neg here, ih h]

/-- Only an object has members. -/
theorem eq_obj_of_get? {d child : Json} {name : String} (h : d.get? name = some child) :
    d = .obj d.members := by
  cases d with
  | obj members => rfl
  | _ => exact absurd h (by simp [get?, members])

/-- What is read below the first name after a write. -/
theorem get?_setAt (value : Json) (name : String) (names : List String) (d : Json)
    (other : String) :
    (setAt value (name :: names) d).get? other
      = if other = name then some (setAt value names ((d.get? name).getD .null))
        else d.get? other := by
  rw [setAt]
  by_cases same : other = name
  · rw [if_pos same, same]
    exact lookup_insert_self _ _ _
  · rw [if_neg same]
    exact lookup_insert_of_ne same _ _

/-! ## §2. Lists of names -/

/-- Below a value that has no members nothing is read. -/
theorem getAt_null {names : List String} (h : names ≠ []) : getAt names .null = none := by
  cases names with
  | nil => exact absurd rfl h
  | cons name rest => rfl

/-- **A written value is read back**, also where objects were missing or in the way of a write. -/
theorem getAt_setAt (value : Json) (names : List String) (d : Json) :
    getAt names (setAt value names d) = some value := by
  induction names generalizing d with
  | nil => rfl
  | cons name rest ih => rw [getAt, get?_setAt, if_pos rfl, Option.bind_some, ih]

/-- **The second of two writes wins.** -/
theorem setAt_setAt (value old : Json) (names : List String) (d : Json) :
    setAt value names (setAt old names d) = setAt value names d := by
  induction names generalizing d with
  | nil => rfl
  | cons name rest ih =>
      have child : ((setAt old (name :: rest) d).get? name).getD .null
          = setAt old rest ((d.get? name).getD .null) := by
        rw [get?_setAt, if_pos rfl, Option.getD_some]
      calc setAt value (name :: rest) (setAt old (name :: rest) d)
          = .obj (insert name (setAt value rest (setAt old rest ((d.get? name).getD .null)))
              (setAt old (name :: rest) d).members) := by rw [setAt, child]
        _ = .obj (insert name (setAt value rest ((d.get? name).getD .null))
              (insert name (setAt old rest ((d.get? name).getD .null)) d.members)) := by
            rw [ih]
            rfl
        _ = setAt value (name :: rest) d := by rw [insert_insert, setAt]

/-- Writing what is there changes nothing. -/
theorem setAt_of_getAt {value : Json} {names : List String} {d : Json}
    (h : getAt names d = some value) : setAt value names d = d := by
  induction names generalizing d with
  | nil => exact (Option.some.inj h).symm
  | cons name rest ih =>
      obtain ⟨child, here, below⟩ := Option.bind_eq_some_iff.1 h
      have kept : insert name child d.members = d.members := insert_of_lookup here
      rw [setAt, here, Option.getD_some, ih below, kept, ← eq_obj_of_get? here]

/-- **A write changes nothing exactly when the value is there already.** -/
theorem setAt_eq_self_iff (value : Json) (names : List String) (d : Json) :
    setAt value names d = d ↔ getAt names d = some value := by
  constructor
  · intro unchanged
    have read := getAt_setAt value names d
    rwa [unchanged] at read
  · exact setAt_of_getAt

/-- **A path that parts from the written one is read as before.**  The two go the same way for a
while; where they part the write touches another member, and where the write has replaced a value
that is no object, nothing was read. -/
theorem getAt_setAt_of_apart {names others : List String} (beyond : ¬ names <+: others)
    (before : ¬ others <+: names) (value d : Json) :
    getAt others (setAt value names d) = getAt others d := by
  induction names generalizing others d with
  | nil => exact absurd List.nil_prefix beyond
  | cons name rest ih =>
      cases others with
      | nil => exact absurd List.nil_prefix before
      | cons other below =>
          rw [getAt, getAt, get?_setAt]
          by_cases same : other = name
          · subst same
            have beyond' : ¬ rest <+: below := fun p => beyond (List.cons_prefix_cons.2 ⟨rfl, p⟩)
            have before' : ¬ below <+: rest := fun p => before (List.cons_prefix_cons.2 ⟨rfl, p⟩)
            rw [if_pos rfl, Option.bind_some, ih beyond' before']
            -- A missing child is written to as if it were null, below which nothing is read.
            cases d.get? other with
            | some child => rfl
            | none =>
                have nonempty : below ≠ [] := by
                  rintro rfl
                  exact before' List.nil_prefix
                exact getAt_null nonempty
          · rw [if_neg same]

/-! ## §3. Dotted paths -/

/-- **The laws of reading and writing along dotted paths**, for every document, be it an object or
not.  A written value is read back; the second of two writes to a path wins; a write leaves the
document as it is, the order of its members included, exactly when the value is there already; and
if neither of two paths begins the other, segment by segment, a write to the one leaves the other
to be read as before. -/
theorem setPath_laws (d value old : Json) (path other : String) :
    (d.setPath path value).getPath? path = some value
      ∧ (d.setPath path old).setPath path value = d.setPath path value
      ∧ (d.setPath path value = d ↔ d.getPath? path = some value)
      ∧ (¬ segments path <+: segments other → ¬ segments other <+: segments path →
          (d.setPath path value).getPath? other = d.getPath? other) :=
  ⟨getAt_setAt value (segments path) d,
    setAt_setAt value old (segments path) d,
    setAt_eq_self_iff value (segments path) d,
    fun beyond before => getAt_setAt_of_apart beyond before value d⟩

/-- A document with a number where the written path wants an object. -/
def numberedNote : Json := .obj [("note", .int 5), ("label", .str "order1")]

/-- The paths part behind `note.`, where the write replaces the number by objects. -/
theorem numberedNote_setPath_laws :
    ¬ segments "note..by" <+: segments "note.by" ∧ ¬ segments "note.by" <+: segments "note..by"
      ∧ numberedNote.setPath "note..by" .null
          = .obj [("note", .obj [("", .obj [("by", .null)])]), ("label", .str "order1")]
      ∧ (numberedNote.setPath "note..by" .null).getPath? "note..by" = some .null
      ∧ (numberedNote.setPath "note..by" .null).getPath? "note.by"
          = numberedNote.getPath? "note.by" := by
  have beyond : ¬ segments "note..by" <+: segments "note.by" := by decide
  have before : ¬ segments "note.by" <+: segments "note..by" := by decide
  obtain ⟨read, -, -, frame⟩ := setPath_laws numberedNote .null .null "note..by" "note.by"
  exact ⟨beyond, before, rfl, read, frame beyond before⟩

end PagedTable.Json
