/-
  PagedTable.Proofs.Filter.Reading — what reading the patterns of a filter gives.

  A filter is read leaf by leaf, from left to right.  It fails at the first text that is no pattern
  and with the fault of that text; otherwise it gives a matcher of the same shape, in which every
  text has become the pattern that it denotes, and whose test is the truth value of the tree.
  Counting and finding read the filter before they look at any document, so they fail with it:

      prepare_eq_ok_iff     — what a filter is read as
      prepare_eq_error_iff  — when reading fails, and at which text
      prepare_exact         — both, with the test of documents and the failures of a store
-/
import PagedTable.Proofs.Filter.Faults
import PagedTable.Store.Memory
import Mathlib.Data.List.Forall2

namespace PagedTable

namespace Filter

/-! ## §1. Success -/

/-- The matcher has the shape of the filter, each comparison as it is and each text replaced by
the pattern that it denotes. -/
inductive ReadAs : Filter → Matcher → Prop where
  | compare (path : String) (comparison : Comparison) :
    ReadAs (.field path (.compare comparison)) (.compare path comparison)
  | regex (path : String) {pattern : String} {ignoreCase : Bool} {p : Pattern}
    (denotes : Pattern.ofText pattern ignoreCase = .ok p) :
    ReadAs (.field path (.regex pattern ignoreCase)) (.pattern path p)
  | and {clauses : List Filter} {matchers : List Matcher}
    (each : List.Forall₂ ReadAs clauses matchers) : ReadAs (.and clauses) (.and matchers)
  | or {clauses : List Filter} {matchers : List Matcher}
    (each : List.Forall₂ ReadAs clauses matchers) : ReadAs (.or clauses) (.or matchers)

mutual

/-- **What a filter is read as.** -/
theorem prepare_eq_ok_iff : ∀ {f : Filter} {m : Matcher}, f.prepare = .ok m ↔ f.ReadAs m
  | .field path (.compare comparison), m => by
      rw [prepare, Except.ok.injEq]
      constructor
      · rintro rfl
        exact .compare path comparison
      · rintro ⟨⟩
        rfl
  | .field path (.regex pattern ignoreCase), m => by
      rw [prepare]
      cases read : Pattern.ofText pattern ignoreCase with
      | error fault =>
          refine ⟨fun h => (by cases h), fun h => ?_⟩
          cases h with
          | regex _ denotes => exact absurd denotes (by simp [read])
      | ok p =>
          rw [Except.ok.injEq]
          constructor
          · rintro rfl
            exact .regex path read
          · intro h
            cases h with
            | regex _ denotes =>
                rw [read] at denotes
                rw [Except.ok.inj denotes]
  | .and clauses, m => by
      rw [prepare]
      constructor
      · intro h
        obtain ⟨matchers, read, rfl⟩ := exists_of_map_eq_ok h
        exact .and (prepareAll_eq_ok_iff.1 read)
      · intro h
        cases h with
        | and each =>
            rw [prepareAll_eq_ok_iff.2 each]
            rfl
  | .or clauses, m => by
      rw [prepare]
      constructor
      · intro h
        obtain ⟨matchers, read, rfl⟩ := exists_of_map_eq_ok h
        exact .or (prepareAll_eq_ok_iff.1 read)
      · intro h
        cases h with
        | or each =>
            rw [prepareAll_eq_ok_iff.2 each]
            rfl

theorem prepareAll_eq_ok_iff : ∀ {clauses : List Filter} {matchers : List Matcher},
    prepareAll clauses = .ok matchers ↔ List.Forall₂ ReadAs clauses matchers
  | [], matchers => by
      rw [prepareAll, List.forall₂_nil_left_iff, Except.ok.injEq, eq_comm]
  | clause :: rest, matchers => by
      rw [prepareAll, List.forall₂_cons_left_iff]
      cases head : prepare clause with
      | error e =>
          -- A clause that fails has no matcher, so neither has the list.
          refine ⟨fun h => (by cases h), ?_⟩
          rintro ⟨m, others, first, -, -⟩
          exact absurd (prepare_eq_ok_iff.2 first) (by simp [head])
      | ok m =>
          constructor
          · intro h
            obtain ⟨others, tail, rfl⟩ := exists_of_map_eq_ok h
            exact ⟨m, others, prepare_eq_ok_iff.1 head, prepareAll_eq_ok_iff.1 tail, rfl⟩
          · rintro ⟨m', others, first, later, rfl⟩
            have same := prepare_eq_ok_iff.2 first
            rw [head] at same
            rw [prepareAll_eq_ok_iff.2 later, Except.ok.inj same]
            rfl

end

/-! ## §2. Failure -/

/-- A text does not fail exactly if it is a pattern. -/
theorem patternFailure?_eq_none_iff {p : String × Bool} :
    patternFailure? p = none ↔ (Pattern.ofText p.1 p.2).isOk = true := by
  rw [patternFailure?]
  cases Pattern.ofText p.1 p.2 <;> simp [Except.isOk, Except.toBool]

/-- The failure of a text names the text and its fault. -/
theorem patternFailure?_eq_some_iff {p : String × Bool} {e : StoreError} :
    patternFailure? p = some e ↔
      ∃ fault, Pattern.ofText p.1 p.2 = .error fault ∧ e = .invalidPattern p.1 fault.message := by
  rw [patternFailure?]
  cases Pattern.ofText p.1 p.2 <;> simp [eq_comm]

/-- **Reading fails at the first text that is no pattern.** -/
theorem prepare_eq_error_iff {f : Filter} {e : StoreError} :
    f.prepare = .error e ↔ ∃ before pattern ignoreCase after fault,
      f.patterns = before ++ (pattern, ignoreCase) :: after ∧
      (∀ p ∈ before, (Pattern.ofText p.1 p.2).isOk = true) ∧
      Pattern.ofText pattern ignoreCase = .error fault ∧
      e = .invalidPattern pattern fault.message := by
  rw [← failureOf?_eq_some_iff, failureOf?_prepare, List.findSome?_eq_some_iff]
  constructor
  · rintro ⟨before, ⟨pattern, ignoreCase⟩, after, split, fails, sound⟩
    obtain ⟨fault, read, named⟩ := patternFailure?_eq_some_iff.1 fails
    exact ⟨before, pattern, ignoreCase, after, fault, split,
      fun p mem => patternFailure?_eq_none_iff.1 (sound p mem), read, named⟩
  · rintro ⟨before, pattern, ignoreCase, after, fault, split, sound, read, named⟩
    exact ⟨before, (pattern, ignoreCase), after, split,
      patternFailure?_eq_some_iff.2 ⟨fault, read, named⟩,
      fun p mem => patternFailure?_eq_none_iff.2 (sound p mem)⟩

/-- Reading fails exactly if some text in the tree is no pattern. -/
theorem exists_prepare_eq_error_iff {f : Filter} :
    (∃ e, f.prepare = .error e) ↔ ∃ p ∈ f.patterns, (Pattern.ofText p.1 p.2).isOk = false := by
  have ok := prepare_isOk f
  rw [validPatterns] at ok
  have valid : f.prepare.isOk = false ↔
      ∃ p ∈ f.patterns, (Pattern.ofText p.1 p.2).isOk = false := by
    rw [ok, List.all_eq_false]
    simp only [Bool.not_eq_true]
  rw [← valid]
  cases f.prepare <;> simp [Except.isOk, Except.toBool]

end Filter

/-! ## §3. Counting and finding -/

namespace Store

variable (s : Store) (collection : String) {f : Filter} {e : StoreError}

/-- Counting fails as reading the filter does, whatever the documents are. -/
theorem count_eq_error_iff :
    s.count collection (some f) = .error e ↔ f.prepare = .error e := by
  rw [count, matching, map_eq_error_iff, map_eq_error_iff]

/-- Finding fails as reading the filter does, whatever the documents are. -/
theorem find_eq_error_iff (q : FindQuery) :
    s.find collection { q with filter := some f } = .error e ↔ f.prepare = .error e := by
  rw [find, matching, map_eq_error_iff, map_eq_error_iff]

end Store

/-- **Faults of patterns are exact.**  Reading a filter fails if and only if some text in the tree
that stands for a pattern is none under its case flag, and the error names the first such text from
left to right.  Otherwise it gives a matcher of the shape of the tree, with a pattern for each text,
which accepts a document exactly if the tree is true of it.  Counting and finding fail with the
error of the filter, whatever the documents are and whatever the other clauses say of them. -/
theorem Filter.prepare_exact (f : Filter) :
    ((∃ e, f.prepare = .error e) ↔
      ∃ p ∈ f.patterns, (Pattern.ofText p.1 p.2).isOk = false) ∧
    (∀ e, f.prepare = .error e ↔ ∃ before pattern ignoreCase after fault,
      f.patterns = before ++ (pattern, ignoreCase) :: after ∧
      (∀ p ∈ before, (Pattern.ofText p.1 p.2).isOk = true) ∧
      Pattern.ofText pattern ignoreCase = .error fault ∧
      e = .invalidPattern pattern fault.message) ∧
    (∀ m, f.prepare = .ok m ↔ f.ReadAs m) ∧
    (∀ m, f.prepare = .ok m → ∀ document, m.accepts document = f.holds document) ∧
    ∀ (s : Store) (collection : String) (e : StoreError),
      (s.count collection (some f) = .error e ↔ f.prepare = .error e) ∧
      ∀ q : FindQuery,
        (s.find collection { q with filter := some f } = .error e ↔ f.prepare = .error e) :=
  ⟨exists_prepare_eq_error_iff, fun _ => prepare_eq_error_iff, fun _ => prepare_eq_ok_iff,
    fun m read document => accepts_of_prepare document f m read,
    fun s collection _ => ⟨s.count_eq_error_iff collection, s.find_eq_error_iff collection⟩⟩

end PagedTable
