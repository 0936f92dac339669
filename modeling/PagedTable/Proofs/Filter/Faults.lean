/-
  PagedTable.Proofs.Filter.Faults — why the patterns of a filter cannot be read.

  The texts of a filter that stand for patterns are read from left to right, and the first one that
  is no pattern is reported, whatever the documents are:

      failureOf?_prepare  — the failure of a filter is that of its first text that is no pattern
      select_eq_error_iff — selecting rows fails as reading the patterns does
-/
import PagedTable.Proofs.Filter.Meaning

namespace PagedTable

/-! ## §1. Failures -/

/-- The failure that a result is, if it is one. -/
def failureOf? : Except ε α → Option ε
  | .ok _ => none
  | .error e => some e

@[simp] theorem failureOf?_ok (a : α) : failureOf? (.ok a : Except ε α) = none := rfl

@[simp] theorem failureOf?_error (e : ε) : failureOf? (.error e : Except ε α) = some e := rfl

@[simp] theorem failureOf?_map (f : α → β) (result : Except ε α) :
    failureOf? (result.map f) = failureOf? result := by
  cases result <;> rfl

/-- A mapped result fails as the result does. -/
theorem map_eq_error_iff {f : α → β} {result : Except ε α} {e : ε} :
    result.map f = .error e ↔ result = .error e := by
  cases result <;> simp [Except.map]

theorem failureOf?_eq_some_iff {result : Except ε α} {e : ε} :
    failureOf? result = some e ↔ result = .error e := by
  cases result <;> simp

/-! ## §2. Reading patterns -/

namespace Filter

/-- The failure to read a text that stands for a pattern. -/
def patternFailure? (p : String × Bool) : Option StoreError :=
  (failureOf? (Pattern.ofText p.1 p.2)).map fun fault => .invalidPattern p.1 fault.message

mutual

/-- **The failure of a filter is that of its first text that is no pattern.** -/
theorem failureOf?_prepare : ∀ f : Filter,
    failureOf? f.prepare = f.patterns.findSome? patternFailure?
  | .field _ (.compare _) => rfl
  | .field _ (.regex pattern ignoreCase) => by
      rw [prepare, patterns, List.findSome?_cons, List.findSome?_nil, patternFailure?]
      cases Pattern.ofText pattern ignoreCase <;> rfl
  | .and clauses => by rw [prepare, failureOf?_map, patterns, failureOf?_prepareAll clauses]
  | .or clauses => by rw [prepare, failureOf?_map, patterns, failureOf?_prepareAll clauses]

theorem failureOf?_prepareAll : ∀ clauses : List Filter,
    failureOf? (prepareAll clauses) = (clausePatterns clauses).findSome? patternFailure?
  | [] => rfl
  | clause :: rest => by
      have first := failureOf?_prepare clause
      have later := failureOf?_prepareAll rest
      rw [prepareAll, clausePatterns, List.findSome?_append, ← first, ← later]
      cases prepare clause with
      | error e => rfl
      | ok matcher => exact failureOf?_map _ _

end

/-- The failure of a filter is that of a pattern in it. -/
theorem exists_pattern_of_prepare {f : Filter} {e : StoreError} (h : f.prepare = .error e) :
    ∃ pattern reason, e = .invalidPattern pattern reason := by
  rw [← failureOf?_eq_some_iff, failureOf?_prepare] at h
  obtain ⟨p, -, fails⟩ := List.exists_of_findSome?_eq_some h
  obtain ⟨fault, -, rfl⟩ := Option.map_eq_some_iff.1 fails
  exact ⟨p.1, fault.message, rfl⟩

/-- Selecting rows fails as reading the patterns does. -/
theorem select_eq_error_iff {f : Filter} {rows : List Json} {e : StoreError} :
    f.select rows = .error e ↔ f.prepare = .error e := map_eq_error_iff

end Filter
end PagedTable
