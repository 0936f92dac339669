/-
  PagedTable.Proofs.Filter.Meaning — what a filter says about a document.

  `Filter.holds` is the truth value of the tree over its leaves: no pattern is read ahead of time
  and nothing can fail.  Reading the patterns (`Filter.prepare`) succeeds exactly when every text
  in the tree that stands for a pattern is one, and the matcher that it gives then accepts exactly
  the documents on which the filter holds:

      prepare_isOk       — reading succeeds iff `validPatterns`
      accepts_of_prepare — the matcher decides `holds`
      select_of_valid    — selecting rows is then `List.filter` by `holds`
-/
import PagedTable.Filter.Matcher

namespace PagedTable

/-! ## §1. The truth value of a filter -/

/-- The test of a condition on the values that a path offers.  A text that is no pattern is found
in no string. -/
def Condition.test (values : List Json) : Condition → Bool
  | .compare comparison => comparison.accepts values
  | .regex pattern ignoreCase =>
    (Pattern.ofText pattern ignoreCase).toOption.any (Matcher.foundInAny values)

namespace Filter

mutual

/-- Is the filter true of a document? -/
def holds (document : Json) : Filter → Bool
  | .field path condition => condition.test (document.candidates path)
  | .and clauses => holdsAll document clauses
  | .or clauses => holdsAny document clauses

/-- Are all of the filters true of a document? -/
def holdsAll (document : Json) : List Filter → Bool
  | [] => true
  | clause :: rest => holds document clause && holdsAll document rest

/-- Is one of the filters true of a document? -/
def holdsAny (document : Json) : List Filter → Bool
  | [] => false
  | clause :: rest => holds document clause || holdsAny document rest

end

theorem holdsAll_eq (document : Json) (clauses : List Filter) :
    holdsAll document clauses = clauses.all (holds document) := by
  induction clauses with
  | nil => rfl
  | cons clause rest ih => rw [holdsAll, ih, List.all_cons]

theorem holdsAny_eq (document : Json) (clauses : List Filter) :
    holdsAny document clauses = clauses.any (holds document) := by
  induction clauses with
  | nil => rfl
  | cons clause rest ih => rw [holdsAny, ih, List.any_cons]

/-- A condition that may be absent, as a list of clauses. -/
theorem holds_toList (document : Json) (f? : Option Filter) :
    f?.toList.all (holds document) = f?.all (holds document) := by
  cases f? with
  | none => rfl
  | some f => exact Bool.and_true _

/-- The collapsing conjunction holds when every clause does. -/
theorem holds_all? (document : Json) (clauses : List Filter) :
    (all? clauses).all (holds document) = clauses.all (holds document) := by
  match clauses with
  | [] => rfl
  | [clause] => simp [all?]
  | first :: second :: rest =>
      show holdsAll document (first :: second :: rest) = _
      rw [holdsAll_eq]

/-- The collapsing disjunction holds when it is empty or some clause does. -/
theorem holds_any? (document : Json) (clauses : List Filter) :
    (any? clauses).all (holds document) = (clauses.isEmpty || clauses.any (holds document)) := by
  match clauses with
  | [] => rfl
  | [clause] => simp [any?]
  | first :: second :: rest =>
      show holdsAny document (first :: second :: rest) = _
      rw [holdsAny_eq, List.isEmpty_cons, Bool.false_or]

/-! ## §2. The patterns of a filter -/

mutual

/-- The texts that stand for patterns, from left to right, each with its case flag. -/
def patterns : Filter → List (String × Bool)
  | .field _ (.compare _) => []
  | .field _ (.regex pattern ignoreCase) => [(pattern, ignoreCase)]
  | .and clauses => clausePatterns clauses
  | .or clauses => clausePatterns clauses

/-- The texts that stand for patterns in several filters, from left to right. -/
def clausePatterns : List Filter → List (String × Bool)
  | [] => []
  | clause :: rest => patterns clause ++ clausePatterns rest

end

/-- Is every text that stands for a pattern one? -/
def validPatterns (f : Filter) : Bool := f.patterns.all fun p => (Pattern.ofText p.1 p.2).isOk

theorem clausePatterns_all (test : String × Bool → Bool) (clauses : List Filter) :
    (clausePatterns clauses).all test = clauses.all fun clause => clause.patterns.all test := by
  induction clauses with
  | nil => rfl
  | cons clause rest ih => rw [clausePatterns, List.all_append, ih, List.all_cons]

/-- The patterns of a collapsed conjunction are those of its clauses. -/
theorem validPatterns_all? (clauses : List Filter) :
    (all? clauses).all validPatterns = clauses.all validPatterns := by
  match clauses with
  | [] => rfl
  | [clause] => simp [all?]
  | first :: second :: rest => exact clausePatterns_all _ (first :: second :: rest)

/-! ## §3. Reading the patterns of a filter -/

/-- What a mapped result gives comes from what the result gives. -/
theorem exists_of_map_eq_ok {f : α → β} {result : Except ε α} {b : β}
    (h : result.map f = .ok b) : ∃ a, result = .ok a ∧ b = f a := by
  cases result with
  | error e => exact absurd h (by simp [Except.map])
  | ok a => exact ⟨a, rfl, (Except.ok.inj h).symm⟩

mutual

/-- Reading the patterns succeeds iff all of them are patterns. -/
theorem prepare_isOk : ∀ f : Filter, f.prepare.isOk = f.validPatterns
  | .field _ (.compare _) => rfl
  | .field _ (.regex pattern ignoreCase) => by
      rw [prepare, validPatterns, patterns]
      cases h : Pattern.ofText pattern ignoreCase <;> simp [h, Except.isOk, Except.toBool]
  | .and clauses => by
      have ih := prepareAll_isOk clauses
      rw [prepare, validPatterns, patterns, clausePatterns_all]
      cases h : prepareAll clauses <;> rw [h] at ih <;> exact ih
  | .or clauses => by
      have ih := prepareAll_isOk clauses
      rw [prepare, validPatterns, patterns, clausePatterns_all]
      cases h : prepareAll clauses <;> rw [h] at ih <;> exact ih

theorem prepareAll_isOk :
    ∀ clauses : List Filter, (prepareAll clauses).isOk = clauses.all validPatterns
  | [] => rfl
  | clause :: rest => by
      have head := prepare_isOk clause
      have tail := prepareAll_isOk rest
      rw [prepareAll, List.all_cons, ← head, ← tail]
      cases prepare clause with
      | error e => rfl
      | ok m => cases prepareAll rest <;> rfl

end

mutual

/-- **A filter made ready accepts exactly the documents of which the filter is true.** -/
theorem accepts_of_prepare (document : Json) :
    ∀ (f : Filter) (m : Matcher), f.prepare = .ok m → m.accepts document = f.holds document
  | .field _ (.compare _), m, h => by
      rw [prepare] at h
      injection h with h
      subst h
      rfl
  | .field path (.regex pattern ignoreCase), m, h => by
      rw [prepare] at h
      cases read : Pattern.ofText pattern ignoreCase with
      | error fault =>
          rw [read] at h
          exact absurd h (by simp)
      | ok p =>
          rw [read] at h
          injection h with h
          subst h
          rw [Matcher.accepts, holds, Condition.test, read]
          rfl
  | .and clauses, m, h => by
      rw [prepare] at h
      obtain ⟨ms, read, rfl⟩ := exists_of_map_eq_ok h
      exact (accepts_of_prepareAll document clauses ms read).1
  | .or clauses, m, h => by
      rw [prepare] at h
      obtain ⟨ms, read, rfl⟩ := exists_of_map_eq_ok h
      exact (accepts_of_prepareAll document clauses ms read).2

theorem accepts_of_prepareAll (document : Json) :
    ∀ (clauses : List Filter) (ms : List Matcher), prepareAll clauses = .ok ms →
      Matcher.acceptsAll document ms = holdsAll document clauses
        ∧ Matcher.acceptsAny document ms = holdsAny document clauses
  | [], ms, h => by
      rw [prepareAll] at h
      injection h with h
      subst h
      exact ⟨rfl, rfl⟩
  | clause :: rest, ms, h => by
      rw [prepareAll] at h
      cases head : prepare clause with
      | error e =>
          rw [head] at h
          exact absurd h (by simp)
      | ok m =>
          rw [head] at h
          obtain ⟨others, tail, rfl⟩ := exists_of_map_eq_ok h
          have first := accepts_of_prepare document clause m head
          have ⟨all, any⟩ := accepts_of_prepareAll document rest others tail
          rw [Matcher.acceptsAll, Matcher.acceptsAny, holdsAll, holdsAny, first, all, any]
          exact ⟨rfl, rfl⟩

end

/-! ## §4. Selecting rows -/

/-- The rows that a filter lets pass, or the fault of its first text that is no pattern. -/
def select (rows : List Json) (f : Filter) : Except StoreError (List Json) :=
  f.prepare.map fun matcher => rows.filter matcher.accepts

/-- Selecting rows by a filter whose patterns can be read. -/
theorem select_of_valid {f : Filter} (h : f.validPatterns = true) (rows : List Json) :
    f.select rows = .ok (rows.filter f.holds) := by
  rw [← prepare_isOk] at h
  cases read : f.prepare with
  | error e =>
      rw [read] at h
      exact absurd h (by simp [Except.isOk, Except.toBool])
  | ok m =>
      have same : m.accepts = (holds · f) := by
        funext d
        exact accepts_of_prepare d f m read
      rw [select, read, ← same]
      rfl

/-- Selecting rows by a filter with a text that is no pattern fails, whatever the rows are. -/
theorem select_of_invalid {f : Filter} (h : f.validPatterns = false) (rows : List Json) :
    ∃ e, f.select rows = .error e := by
  rw [← prepare_isOk] at h
  cases read : f.prepare with
  | error e => exact ⟨e, by rw [select, read]; rfl⟩
  | ok m =>
      rw [read] at h
      exact absurd h (by simp [Except.isOk, Except.toBool])

end Filter
end PagedTable
