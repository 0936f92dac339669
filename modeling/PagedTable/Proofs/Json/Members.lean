/-
  PagedTable.Proofs.Json.Members — objects whose member names are distinct.

  An object is made by inserting its members one after the other, and a name that comes again
  replaces the value in place.  When no name comes again nothing is replaced:

      insert_of_notMem    — a new name goes behind all others
      ofMembers_of_nodup  — distinct names: the object has the members as they are given
-/
import PagedTable.Json.Basic

namespace PagedTable.Json

/-- A name that is not there yet goes behind all others. -/
theorem insert_of_notMem {name : String} {members : List (String × Json)}
    (h : name ∉ members.map Prod.fst) (value : Json) :
    insert name value members = members ++ [(name, value)] := by
  induction members with
  | nil => rfl
  | cons head rest ih =>
      obtain ⟨key, old⟩ := head
      rw [List.map_cons, List.mem_cons, not_or] at h
      have other : key ≠ name := Ne.symm h.1
      rw [insert, if_neg other, ih h.2]
      rfl

/-- Inserting members whose names are new and distinct appends them. -/
theorem foldl_insert_of_nodup {members before : List (String × Json)}
    (h : ((before ++ members).map Prod.fst).Nodup) :
    members.foldl (fun acc m => insert m.1 m.2 acc) before = before ++ members := by
  induction members generalizing before with
  | nil => rw [List.foldl_nil, List.append_nil]
  | cons head rest ih =>
      obtain ⟨name, value⟩ := head
      have split : before ++ (name, value) :: rest = (before ++ [(name, value)]) ++ rest := by simp
      have fresh : name ∉ before.map Prod.fst := by
        intro mem
        rw [List.map_append] at h
        exact (List.nodup_append.1 h).2.2 name mem name (by simp) rfl
      rw [List.foldl_cons, insert_of_notMem fresh, ih (split ▸ h), ← split]

/-- **An object of members with distinct names has these members, in this order.** -/
theorem ofMembers_of_nodup {members : List (String × Json)}
    (h : (members.map Prod.fst).Nodup) : ofMembers members = .obj members := by
  have fresh : (([] ++ members).map Prod.fst).Nodup := by simpa using h
  have inserted := foldl_insert_of_nodup fresh
  exact congrArg obj inserted

end PagedTable.Json
