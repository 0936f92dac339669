/-
  PagedTable.Proofs.Query.PlainSearch — a plain search term means its own characters.

  A plain term is trimmed, escaped and read as a pattern that ignores case.  Whatever characters it
  has, this is a pattern, and none of them acts as an operator: it is found in the strings that
  contain the trimmed term, character by character up to case folding.  Reading it can fail for the
  size of the machine alone, which has nothing to do with what the term says:

      prepare_escape    — what an escaped text is read as
      accepts_literal   — which documents a row of characters accepts
      fragment_literal  — both, for the condition of a plain term
-/
import PagedTable.Filter.Matcher
import PagedTable.Proofs.Pattern.Literal
import PagedTable.Query.Search

namespace PagedTable

open Pattern (ContainsAlike)

/-! ## §1. Reading an escaped text -/

/-- **An escaped text is read as its characters, unless its machine is too large.** -/
theorem Filter.prepare_escape (path text : String) :
    (Filter.regex path (Pattern.escape text) true).prepare =
      if Pattern.sizeLimit < (Pattern.literal text.toList).size then
        .error (.invalidPattern (Pattern.escape text)
          (Pattern.Fault.tooLarge Pattern.sizeLimit).message)
      else .ok (.pattern path (Pattern.literal text.toList)) := by
  have read : Pattern.ofText (Pattern.escape text) true =
      if Pattern.sizeLimit < (Pattern.literal text.toList).size then
        .error (.tooLarge Pattern.sizeLimit)
      else .ok (Pattern.literal text.toList) := by
    rw [Pattern.ofText, Pattern.parse_escape]
    simp only [bind, Except.bind, pure, Except.pure]
  rw [regex, prepare, read]
  by_cases large : Pattern.sizeLimit < (Pattern.literal text.toList).size
  · simp only [large, if_true]
  · simp only [large, if_false]

/-! ## §2. Testing documents -/

/-- A document is accepted when a string that the path offers contains the characters. -/
theorem Matcher.accepts_literal (path : String) (cs : List Char) (document : Json) :
    (Matcher.pattern path (Pattern.literal cs)).accepts document = true ↔
      ∃ text, .str text ∈ document.candidates path ∧ ContainsAlike text.toList cs := by
  rw [accepts, foundInAny, List.any_eq_true]
  simp only [← Pattern.foundIn_literal]
  constructor
  · rintro ⟨value, offered, found⟩
    cases value with
    | str text => exact ⟨text, offered, found⟩
    | _ => exact absurd found Bool.false_ne_true
  · rintro ⟨text, offered, found⟩
    exact ⟨.str text, offered, found⟩

/-! ## §3. The condition of a plain term -/

/-- **A plain term is a literal test that ignores case.**  Its condition is read as a pattern,
whatever characters the term has; the one reason to refuse it is the size of the machine.  The
pattern accepts a document exactly if some string that the path offers contains the trimmed term,
character by character up to simple case folding. -/
theorem Search.fragment_literal (path : String) (s : Search) (plain : s.regex = false) :
    ∃ p, Pattern.parse (Pattern.escape (trim s.value)) true = .ok p ∧
      (∀ m, (s.fragment path).prepare = .ok m ↔
        p.size ≤ Pattern.sizeLimit ∧ m = .pattern path p) ∧
      (∀ e, (s.fragment path).prepare = .error e ↔
        Pattern.sizeLimit < p.size ∧
        e = .invalidPattern (Pattern.escape (trim s.value))
          (Pattern.Fault.tooLarge Pattern.sizeLimit).message) ∧
      ∀ document, (Matcher.pattern path p).accepts document = true ↔
        ∃ text, .str text ∈ document.candidates path ∧
          ContainsAlike text.toList (trim s.value).toList := by
  have written : s.fragment path = .regex path (Pattern.escape (trim s.value)) true := by
    rw [fragment, plain]
    rfl
  -- Reading gives the row of characters, or the fault of its size, and nothing else.
  refine ⟨Pattern.literal (trim s.value).toList, Pattern.parse_escape _, fun m => ?_, fun e => ?_,
    Matcher.accepts_literal path _⟩
  · rw [written, Filter.prepare_escape]
    split
    · next large => simp [Nat.not_le_of_lt large]
    · next small => simp [Nat.le_of_not_lt small, eq_comm]
  · rw [written, Filter.prepare_escape]
    split
    · next large => simp [large, eq_comm]
    · next small => simp [small]

/-- A term with a dot, and with blanks around it. -/
def dottedTerm : Search := { value := " a.b " }

/-- The dot of a term is a dot, and its blanks do not count. -/
theorem dottedTerm_literal :
    dottedTerm.regex = false ∧
    ∃ p, Pattern.parse (Pattern.escape (trim dottedTerm.value)) true = .ok p ∧
      (Matcher.pattern "label" p).accepts (.obj [("label", .str "xA.Bx")]) = true ∧
      (Matcher.pattern "label" p).accepts (.obj [("label", .str "aXb")]) = false := by
  obtain ⟨p, read, -, -, found⟩ := Search.fragment_literal "label" dottedTerm rfl
  refine ⟨rfl, p, read, (found _).2 ⟨"xA.Bx", ?_, ?_⟩, ?_⟩
  · decide +kernel
  · decide +kernel
  · refine Bool.eq_false_iff.2 fun accepted => ?_
    obtain ⟨text, offered, contains⟩ := (found _).1 accepted
    have only : text = "aXb" := by
      have offers : (Json.obj [("label", .str "aXb")]).candidates "label" = [.str "aXb"] := by
        decide +kernel
      simpa [offers] using offered
    subst only
    exact absurd contains (by decide +kernel)

end PagedTable
