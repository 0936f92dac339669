/-
  PagedTable.Text.NameSet — finite sets of names, kept in ascending order.

  Main interface: `NameSet.ofList`; `NameSet.names` lists the members, each once, by code point.
-/

namespace PagedTable

/-- A set of names. -/
structure NameSet where
  names : List String
  ascending : names.Pairwise (· < ·) := by decide
  deriving DecidableEq, Repr

namespace NameSet

/-- Puts a name in its place in an ascending list, unless it is there. -/
def place (name : String) : List String → List String
  | [] => [name]
  | head :: rest =>
    if name < head then name :: head :: rest
    else if name = head then head :: rest
    else head :: place name rest

/-- Placing a name adds this name and no other. -/
theorem mem_place {name other : String} {names : List String} :
    other ∈ place name names ↔ other = name ∨ other ∈ names := by
  induction names with
  | nil => simp [place]
  | cons head rest ih =>
    unfold place
    split
    · simp
    · split
      · next h => subst h; simp
      · simp [ih]; grind

/-- Placing a name keeps a list ascending. -/
theorem pairwise_place (name : String) {names : List String} (h : names.Pairwise (· < ·)) :
    (place name names).Pairwise (· < ·) := by
  induction names with
  | nil => simp [place]
  | cons head rest ih =>
    have ⟨below, rest_ascending⟩ := List.pairwise_cons.1 h
    unfold place
    split
    · next lt =>
      refine List.pairwise_cons.2 ⟨fun other mem => ?_, h⟩
      rcases List.mem_cons.1 mem with rfl | mem
      · exact lt
      · exact String.lt_trans lt (below other mem)
    · split
      · exact h
      · next not_lt ne =>
        refine List.pairwise_cons.2 ⟨fun other mem => ?_, ih rest_ascending⟩
        rcases mem_place.1 mem with rfl | mem
        · exact Std.lt_of_le_of_ne (String.not_lt.1 not_lt) (Ne.symm ne)
        · exact below other mem

/-- The empty set. -/
def empty : NameSet := ⟨[], .nil⟩

instance : Inhabited NameSet := ⟨empty⟩

/-- The set with one more name. -/
def insert (set : NameSet) (name : String) : NameSet :=
  ⟨place name set.names, pairwise_place name set.ascending⟩

/-- The set of the names in a list. -/
def ofList (names : List String) : NameSet := names.foldl insert empty

end NameSet
end PagedTable
