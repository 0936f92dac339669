/-
  PagedTable.Proofs.Json.Path — reading and writing along dotted paths.

  Everything that a path does starts at its base field, the part before the first dot:

    • `segments_injective`  — a path is determined by its segments,
    • `segments_append_dot` — the segments of two paths with a dot between them,
    • `segments_eq_cons`    — the first segment of a path is its base field,
    • `getPath?_congr`      — reading depends on the member under the base field only,
    • `get?_setPath`        — writing a name without dots changes this one member.
-/
import Mathlib.Data.List.Basic
import Mathlib.Data.List.TakeWhile
import PagedTable.Json.Path

namespace PagedTable

/-! ## §1. Segments -/

/-- A name that is a path of one segment. -/
def Dotless (name : String) : Prop := '.' ∉ name.toList

instance (name : String) : Decidable (Dotless name) := inferInstanceAs (Decidable (_ ∉ _))

theorem splitDots_of_not_mem {cs : List Char} (h : '.' ∉ cs) : splitDots cs = [cs] := by
  induction cs with
  | nil => rfl
  | cons c rest ih =>
      have hc : c ≠ '.' := fun e => h (e ▸ List.mem_cons_self)
      rw [splitDots, if_neg hc, ih fun mem => h (List.mem_cons_of_mem c mem)]

theorem splitDots_eq_cons (cs : List Char) :
    ∃ rest, splitDots cs = cs.takeWhile (· != '.') :: rest := by
  induction cs with
  | nil => exact ⟨[], rfl⟩
  | cons c cs ih =>
      obtain ⟨rest, split⟩ := ih
      by_cases hc : c = '.'
      · subst hc
        exact ⟨splitDots cs, rfl⟩
      · refine ⟨rest, ?_⟩
        have kept : (c != '.') = true := by simpa using hc
        rw [splitDots, if_neg hc, split, List.takeWhile_cons, if_pos kept]

/-- A text is split at a dot whatever other dots it has. -/
theorem splitDots_append_dot (cs ds : List Char) :
    splitDots (cs ++ '.' :: ds) = splitDots cs ++ splitDots ds := by
  induction cs with
  | nil => rfl
  | cons c rest ih =>
      by_cases hc : c = '.'
      · rw [List.cons_append, splitDots, splitDots, if_pos hc, if_pos hc, ih, List.cons_append]
      · obtain ⟨pieces, split⟩ := splitDots_eq_cons rest
        rw [List.cons_append, splitDots, splitDots, if_neg hc, if_neg hc, ih, split]
        rfl

/-- Different texts are split differently. -/
theorem splitDots_injective {cs ds : List Char} (h : splitDots cs = splitDots ds) : cs = ds := by
  induction cs generalizing ds with
  | nil =>
      cases ds with
      | nil => rfl
      | cons d ds =>
          obtain ⟨rest, split⟩ := splitDots_eq_cons ds
          by_cases hd : d = '.' <;> simp [splitDots, hd, split] at h
  | cons c cs ih =>
      obtain ⟨rest, split⟩ := splitDots_eq_cons cs
      cases ds with
      | nil => by_cases hc : c = '.' <;> simp [splitDots, hc, split] at h
      | cons d ds =>
          obtain ⟨others, split'⟩ := splitDots_eq_cons ds
          have tails : c = d ∧ splitDots cs = splitDots ds := by
            by_cases hc : c = '.' <;> by_cases hd : d = '.' <;>
              simp_all [splitDots]
          rw [tails.1, ih tails.2]

/-- **A path is determined by its segments.** -/
theorem segments_injective {path other : String} (h : segments path = segments other) :
    path = other := by
  have pieces := List.map_injective_iff.2 (fun _ _ => String.ofList_injective) h
  exact String.toList_injective (splitDots_injective pieces)

theorem segments_of_dotless {name : String} (h : Dotless name) : segments name = [name] := by
  rw [segments, splitDots_of_not_mem h]
  simp

/-- The segments of two paths with a dot between them. -/
theorem segments_append_dot (front path : String) :
    segments (front ++ "." ++ path) = segments front ++ segments path := by
  have chars : (front ++ "." ++ path).toList = front.toList ++ '.' :: path.toList := by simp
  rw [segments, chars, splitDots_append_dot, List.map_append]
  rfl

/-- A name in front of a path. -/
theorem segments_append {name : String} (h : Dotless name) (path : String) :
    segments (name ++ "." ++ path) = name :: segments path := by
  rw [segments_append_dot, segments_of_dotless h]
  rfl

/-- The first segment of a path is its base field. -/
theorem segments_eq_cons (path : String) : ∃ rest, segments path = baseField path :: rest := by
  obtain ⟨rest, split⟩ := splitDots_eq_cons path.toList
  exact ⟨rest.map String.ofList, by rw [segments, split]; rfl⟩

theorem segments_ne_nil (path : String) : segments path ≠ [] := by
  obtain ⟨rest, split⟩ := segments_eq_cons path
  exact split ▸ List.cons_ne_nil _ rest

/-- The base field of a path below a name is the name. -/
theorem baseField_append {name : String} (h : Dotless name) (path : String) :
    baseField (name ++ "." ++ path) = name := by
  obtain ⟨rest, split⟩ := segments_eq_cons (name ++ "." ++ path)
  rw [segments_append h] at split
  injection split with same
  exact same.symm

theorem dotless_baseField (path : String) : Dotless (baseField path) := by
  intro mem
  rw [baseField, String.toList_ofList] at mem
  exact absurd (List.mem_takeWhile_imp mem) (by decide)

theorem baseField_of_dotless {name : String} (h : Dotless name) : baseField name = name := by
  have all : name.toList.takeWhile (· != '.') = name.toList := by
    refine List.takeWhile_eq_self_iff.2 fun c mem => ?_
    have : c ≠ '.' := fun e => h (e ▸ mem)
    simpa using this
  rw [baseField, all, String.ofList_toList]

namespace Json

/-! ## §2. Reading -/

theorem getPath?_of_dotless {name : String} (h : Dotless name) (d : Json) :
    d.getPath? name = d.get? name := by
  rw [getPath?, segments_of_dotless h, getAt]
  cases d.get? name <;> rfl

/-- Reading below a member is reading in its value. -/
theorem getPath?_append {name : String} (h : Dotless name) (path : String) (d : Json) :
    d.getPath? (name ++ "." ++ path) = (d.get? name).bind (·.getPath? path) := by
  rw [getPath?, segments_append h, getAt]
  rfl

/-- **Reading depends on the member under the base field only.** -/
theorem getPath?_congr {path : String} {d e : Json}
    (h : d.get? (baseField path) = e.get? (baseField path)) :
    d.getPath? path = e.getPath? path := by
  obtain ⟨rest, split⟩ := segments_eq_cons path
  rw [getPath?, getPath?, split, getAt, getAt, h]

/-! ## §3. Writing -/

/-- **Writing a name without dots changes this one member.** -/
theorem get?_setPath {name : String} (h : Dotless name) (d value : Json) (other : String) :
    (d.setPath name value).get? other = if other = name then some value else d.get? other := by
  rw [setPath, segments_of_dotless h, setAt, setAt]
  show lookup other (insert name value d.members) = _
  by_cases same : other = name
  · rw [if_pos same, same, lookup_insert_self]
  · rw [if_neg same, lookup_insert_of_ne same]
    rfl

/-- Is the value an object? -/
def isObject : Json → Bool
  | .obj _ => true
  | _ => false

/-- A written document is an object, whatever it was before. -/
theorem isObject_setPath (d value : Json) (path : String) :
    (d.setPath path value).isObject = true := by
  obtain ⟨rest, split⟩ := segments_eq_cons path
  rw [setPath, split, setAt]
  rfl

end Json
end PagedTable
