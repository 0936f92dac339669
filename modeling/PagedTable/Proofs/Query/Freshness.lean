/-
  PagedTable.Proofs.Query.Freshness — the names that joins generate.

  The target of a join is a name without dots that no name in use starts with, so none of the
  names that the join makes from it, each of which starts with the target, is in use.  The names
  of one join are in use for all later ones: `Join.Chain` says this of a list of joins, together
  with what every join keeps.

      notMem_of_isFree  — a name that starts with a free one is not in use
      chain_of_joins    — the joins of a list of columns form a chain
      joinedBy_of_joins — each of them takes path, collection and position from its column
-/
import Mathlib.Data.List.Forall2
import PagedTable.Proofs.Json.Path
import PagedTable.Query.Plan

namespace PagedTable

/-! ## §1. Names without dots -/

theorem Dotless.append {first second : String} (h : Dotless first) (g : Dotless second) :
    Dotless (first ++ second) := by
  intro mem
  rw [String.toList_append] at mem
  exact (List.mem_append.1 mem).elim h g

theorem dotless_padded {field padding : String} (h : Dotless field) (g : Dotless padding)
    (n : Nat) : Dotless (padded field padding n) := by
  induction n with
  | zero => exact h
  | succ n ih => exact ih.append g

theorem dotless_intercalate {padding : String} (g : Dotless padding) {pieces : List String}
    (h : ∀ piece ∈ pieces, Dotless piece) : Dotless (padding.intercalate pieces) := by
  induction pieces with
  | nil => exact List.not_mem_nil
  | cons piece rest ih =>
      have first := h piece List.mem_cons_self
      cases rest with
      | nil => simpa using first
      | cons next rest =>
          rw [String.intercalate_cons_cons]
          exact (first.append g).append (ih fun other mem => h other (List.mem_cons_of_mem _ mem))

theorem notMem_splitDots {cs piece : List Char} (h : piece ∈ splitDots cs) : '.' ∉ piece := by
  induction cs generalizing piece with
  | nil =>
      rw [splitDots, List.mem_singleton] at h
      rw [h]
      exact List.not_mem_nil
  | cons c cs ih =>
      obtain ⟨rest, split⟩ := splitDots_eq_cons cs
      rw [splitDots] at h
      by_cases dot : c = '.'
      · rw [if_pos dot] at h
        rcases List.mem_cons.1 h with rfl | h
        · exact List.not_mem_nil
        · exact ih h
      · rw [if_neg dot, split] at h
        rcases List.mem_cons.1 h with rfl | h
        · intro mem
          rcases List.mem_cons.1 mem with same | mem
          · exact dot same.symm
          · exact ih (split ▸ List.mem_cons_self) mem
        · exact ih (split ▸ List.mem_cons_of_mem _ h)

/-- The segments of a path have no dots in them. -/
theorem dotless_of_mem_segments {path segment : String} (h : segment ∈ segments path) :
    Dotless segment := by
  obtain ⟨piece, mem, rfl⟩ := List.mem_map.1 h
  rw [Dotless, String.toList_ofList]
  exact notMem_splitDots mem

/-- A padding that can be part of a name at the top of a document has no dots. -/
theorem dotless_of_usable {padding : String} (h : paddingFault? padding = none) :
    Dotless padding := by
  intro mem
  rw [paddingFault?] at h
  split at h
  · exact absurd h (by simp)
  · rw [if_pos (List.contains_iff_mem.2 mem)] at h
    exact absurd h (by simp)

/-! ## §2. Free names -/

theorem startsWith_iff (name beginning : String) :
    startsWith name beginning = true ↔ beginning.toList <+: name.toList :=
  List.isPrefixOf_iff_prefix

/-- **No name in use starts with a free one.** -/
theorem notMem_of_isFree {inUse : List String} {candidate : String}
    (free : isFree inUse candidate = true) (suffix : String) : candidate ++ suffix ∉ inUse := by
  intro mem
  have starts : startsWith (candidate ++ suffix) candidate = true := by
    rw [startsWith_iff, String.toList_append]
    exact List.prefix_append _ _
  have := List.all_eq_true.1 free _ mem
  rw [starts] at this
  exact absurd this (by decide)

/-- The name that is found is free and a padded form of the field. -/
theorem freeName?_eq_some {inUse : List String} {field padding name : String}
    (h : freeName? inUse field padding = some name) :
    isFree inUse name = true ∧ ∃ n, name = padded field padding n := by
  obtain ⟨n, found, rfl⟩ := Option.map_eq_some_iff.1 h
  exact ⟨List.find?_some (p := fun n => isFree inUse (padded field padding n)) found, n, rfl⟩

/-! ## §3. Chains of joins -/

namespace Join

/-- The joins run one after the other: each has a target of its own that no name in use starts
with, generates names that are in use from then on, and keeps what was kept before and the
targets of the joins before it. -/
inductive Chain : List String → List String → List Join → Prop where
  | nil {inUse kept} : Chain inUse kept []
  | cons {inUse kept join rest} (free : isFree inUse join.target = true)
      (flat : Dotless join.target) (keeps : join.kept = kept)
      (later : Chain (join.generated ++ inUse) (kept ++ [join.target]) rest) :
      Chain inUse kept (join :: rest)

/-- The targets of a chain have no dots. -/
theorem Chain.flat_of_mem {inUse kept : List String} {joins : List Join}
    (chain : Chain inUse kept joins) {j : Join} (mem : j ∈ joins) : Dotless j.target := by
  induction chain with
  | nil => exact absurd mem List.not_mem_nil
  | cons _ flat _ _ ih =>
      rcases List.mem_cons.1 mem with rfl | mem
      · exact flat
      · exact ih mem

/-- What a join takes from its column. -/
structure JoinedBy (settings : Settings) (c : Column) (j : Join) : Prop where
  path : j.path = c.path
  collection : c.boundCollection? = some j.collection
  idPosition : j.idPosition = settings.idPosition.toInt

end Join

namespace Column

/-- Only columns of the list are left when replaced ones are taken out. -/
theorem mem_of_mem_unreplaced {c : Column} {columns : List Column}
    (h : c ∈ unreplaced columns) : c ∈ columns := by
  induction columns with
  | nil => exact h
  | cons first rest ih =>
      rw [unreplaced] at h
      split at h
      · exact List.mem_cons_of_mem _ (ih h)
      · rcases List.mem_cons.1 h with rfl | h
        · exact List.mem_cons_self
        · exact List.mem_cons_of_mem _ (ih h)

/-- No two columns that are left have the same path. -/
theorem pairwise_unreplaced (columns : List Column) :
    (unreplaced columns).Pairwise fun c other => c.path ≠ other.path := by
  induction columns with
  | nil => exact .nil
  | cons c rest ih =>
      rw [unreplaced]
      split
      · exact ih
      · next last =>
          refine List.pairwise_cons.2 ⟨fun other mem same => last ?_, ih⟩
          exact List.any_eq_true.2 ⟨other, mem_of_mem_unreplaced mem, by simp [same]⟩

/-- The join of the first of several columns. -/
theorem exists_of_joins_cons {settings : Settings} {inUse kept : List String} {c : Column}
    {rest : List Column} {result : List Join}
    (h : joins settings inUse kept (c :: rest) = .ok result) :
    ∃ join others, join.JoinedBy settings c ∧ join.kept = kept
      ∧ freeName? inUse (c.flatName settings.padding) settings.padding = some join.target
      ∧ joins settings (join.generated ++ inUse) (keep kept (baseField join.target)) rest
          = .ok others
      ∧ result = join :: others := by
  rw [joins] at h
  cases bound : c.boundCollection? with
  | none =>
      rw [bound] at h
      exact absurd h (by simp)
  | some collection =>
      rw [bound] at h
      cases named : freeName? inUse (c.flatName settings.padding) settings.padding with
      | none =>
          rw [named] at h
          exact absurd h (by simp)
      | some target =>
          rw [named] at h
          dsimp only at h
          split at h
          · exact absurd h (by simp)
          · next others more =>
              injection h with h
              exact ⟨_, others, ⟨rfl, bound, rfl⟩, rfl, rfl, more, h.symm⟩

/-- **Every join takes path, collection and position from its column.** -/
theorem joinedBy_of_joins {settings : Settings} {inUse kept : List String}
    {columns : List Column} {result : List Join}
    (h : joins settings inUse kept columns = .ok result) :
    List.Forall₂ (fun c j => Join.JoinedBy settings c j) columns result := by
  induction columns generalizing inUse kept result with
  | nil =>
      injection h with h
      rw [← h]
      exact .nil
  | cons c rest ih =>
      obtain ⟨join, others, joined, -, -, more, rfl⟩ := exists_of_joins_cons h
      exact .cons joined (ih more)

/-- **The joins of a list of columns form a chain.** -/
theorem chain_of_joins {settings : Settings} (flat : Dotless settings.padding)
    {inUse kept : List String} {columns : List Column} {result : List Join}
    (identifier : "_id" ∈ inUse) (used : ∀ name ∈ kept, name ∈ inUse)
    (h : joins settings inUse kept columns = .ok result) : Join.Chain inUse kept result := by
  induction columns generalizing inUse kept result with
  | nil =>
      injection h with h
      rw [← h]
      exact .nil
  | cons c rest ih =>
      obtain ⟨join, others, -, keeps, named, more, rfl⟩ := exists_of_joins_cons h
      obtain ⟨free, n, padded⟩ := freeName?_eq_some named
      have flatTarget : Dotless join.target := by
        rw [padded]
        exact dotless_padded
          (dotless_intercalate flat fun _ mem => dotless_of_mem_segments mem) flat n
      have unused : join.target ∉ inUse := by
        have := notMem_of_isFree free ""
        rwa [String.append_empty] at this
      -- The target is a name of its own, so it goes behind the fields kept so far.
      have kept_eq : keep kept (baseField join.target) = kept ++ [join.target] := by
        rw [baseField_of_dotless flatTarget, keep, if_neg]
        rintro (same | mem)
        · exact unused (same ▸ identifier)
        · exact unused (used _ (List.contains_iff_mem.1 mem))
      rw [kept_eq] at more
      refine .cons free flatTarget keeps (ih ?_ ?_ more)
      · exact List.mem_append_right _ identifier
      · intro name mem
        rcases List.mem_append.1 mem with mem | mem
        · exact List.mem_append_right _ (used name mem)
        · rw [List.mem_singleton.1 mem]
          exact List.mem_append_left _ List.mem_cons_self

end Column
end PagedTable
