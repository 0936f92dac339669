/-
  PagedTable.Proofs.Pattern.Literal — a text as a pattern for itself.

  An escaped text is read character by character: an operator behind its backslash, every other
  character as it is.  So it is always a pattern, namely that of its characters in a row, and it is
  found where these characters stand in a row, each up to case folding:

      readParts_escape   — reading an escaped text, from any state and under any flags but verbose
      parse_escape       — an escaped text is a pattern, that of its characters in a row
      mem_ends_literal   — where the matches of characters in a row end
      foundIn_literal    — such a pattern is found exactly in the texts that contain the characters
-/
import Mathlib.Data.List.Forall2
import PagedTable.Pattern.Size

namespace PagedTable.Pattern

/-! ## §1. Reading an escaped text -/

/-- A character as it is escaped. -/
def escaped (c : Char) : List Char := if isOperator c then ['\\', c] else [c]

/-- The escaped text, character by character. -/
theorem toList_escape (text : String) : (escape text).toList = text.toList.flatMap escaped := by
  rw [escape, String.toList_ofList]
  rfl

/-- The element that a character stands for. -/
def charElement (f : Flags) (c : Char) : Element := some ⟨.one (.like f.folding c), []⟩

/-- An operator behind a backslash stands for itself. -/
theorem ofEscape_operator (f : Flags) {c : Char} (h : isOperator c = true) (rest : List Char) :
    Atom.ofEscape f (c :: rest) = .ok (.char c, rest) := by
  have mem : c ∈ "\\.+*?()|[]\x7b\x7d^$#&-~".toList := by
    simpa [isOperator] using h
  have letters : "\\.+*?()|[]\x7b\x7d^$#&-~".toList.Forall fun d =>
      d.isDigit = false ∧ d ≠ 'x' ∧ d ≠ 'u' ∧ d ≠ 'U' ∧ d ≠ 'p' ∧ d ≠ 'P' ∧
      "dDsSwW".toList.contains d = false := by decide
  obtain ⟨digit, x, u, bigU, p, bigP, class_⟩ := List.forall_iff_forall_mem.1 letters c mem
  simp only [Atom.ofEscape, digit, x, u, bigU, p, bigP, class_, isEscapable, h]
  simp

/-- A part that is an escaped operator. -/
theorem readPart_operator (s : State) {c : Char} (h : isOperator c = true) (rest : List Char) :
    readPart s '\\' (c :: rest) =
      .ok (s.push (charElement s.flags c) ('\\' :: c :: rest), rest) := by
  simp only [readPart, ofEscape_operator s.flags h]
  rfl

/-- A part that is a character without a meaning of its own. -/
theorem readPart_plain (s : State) {c : Char} (h : isOperator c = false) (rest : List Char) :
    readPart s c rest = .ok (s.push (charElement s.flags c) (c :: rest), rest) := by
  have other {d : Char} (operator : isOperator d = true) : c ≠ d := by
    rintro rfl
    exact absurd operator (by simp [h])
  simp only [readPart, other (d := '(') rfl, other (d := ')') rfl, other (d := '|') rfl,
    other (d := '[') rfl, other (d := '?') rfl, other (d := '*') rfl, other (d := '+') rfl,
    other (d := '\x7b') rfl, other (d := '\\') rfl, other (d := '.') rfl, other (d := '^') rfl,
    other (d := '$') rfl, if_false]
  rfl

/-- **An escaped text is read as its characters**, whatever was read before. -/
theorem readParts_escape (cs : List Char) : ∀ (fuel : Nat) (s : State),
    (cs.flatMap escaped).length ≤ fuel → s.flags.verbose = false →
    ∃ last, readParts fuel s (cs.flatMap escaped) =
      .ok { s with level := { s.level with
        elements := (cs.map (charElement s.flags)).reverse ++ s.level.elements, last } } := by
  induction cs with
  | nil =>
      intro fuel s _ plain
      refine ⟨s.level.last, ?_⟩
      cases fuel with
      | zero => rfl
      | succ fuel => simp [readParts, Flags.skip, plain]
  | cons c cs ih =>
      intro fuel s enough plain
      -- One part is read whether the character is escaped or not.
      have part : ∃ d rest, (c :: cs).flatMap escaped = d :: rest ∧
          (cs.flatMap escaped).length ≤ rest.length ∧
          readPart s d rest =
            .ok (s.push (charElement s.flags c) (d :: rest), cs.flatMap escaped) := by
        rw [List.flatMap_cons, escaped]
        cases operator : isOperator c with
        | true => exact ⟨_, _, rfl, by simp, readPart_operator s operator _⟩
        | false => exact ⟨_, _, rfl, by simp, readPart_plain s operator _⟩
      obtain ⟨d, rest, split, shorter, read⟩ := part
      rw [split, List.length_cons] at enough
      obtain ⟨fuel, rfl⟩ : ∃ n, fuel = n + 1 := ⟨fuel - 1, by omega⟩
      obtain ⟨last, later⟩ :=
        ih fuel (s.push (charElement s.flags c) (d :: rest)) (by omega) plain
      refine ⟨last, ?_⟩
      rw [split, readParts, Flags.skip, plain]
      simp only [Bool.false_eq_true, if_false, read, bind, Except.bind, later]
      simp [State.push]

/-- An element that is a flat pattern. -/
def flatElement (p : Pattern) : Element := some ⟨p, []⟩

/-- Flat elements side by side are flat. -/
theorem ofParts_flat (ps : List Pattern) :
    Depths.ofParts ((ps.map flatElement).map fun e => e.elim [] (·.depths)) = [] := by
  induction ps with
  | nil => rfl
  | cons p ps ih => exact ih

/-- **Flat patterns in a row are a sequence**, in which nothing nests deeper than it does. -/
theorem ofElements_flat (ps : List Pattern) (span : Span) :
    (Node.ofElements span (ps.map flatElement).reverse).pattern = seqAll ps ∧
    (Node.ofElements span (ps.map flatElement).reverse).depths.length ≤ 1 := by
  match ps with
  | [] => exact ⟨rfl, Nat.zero_le 1⟩
  | [p] => exact ⟨rfl, Nat.zero_le 1⟩
  | p :: q :: rest =>
      have several : ∀ {es : List Element}, 2 ≤ es.length → Node.ofElements span es =
          .around (seqAll (es.reverse.map fun e => e.elim .empty (·.pattern))) span
            (.ofParts (es.reverse.map fun e => e.elim [] (·.depths)))
        | [], h => absurd h (by simp)
        | [_], h => absurd h (by simp)
        | _ :: _ :: _, _ => rfl
      rw [several (by simp), List.reverse_reverse, ofParts_flat, List.map_map]
      exact ⟨congrArg seqAll (List.map_id _), Nat.le_refl 1⟩

/-- The pattern of a character and those alike to it. -/
def letter (c : Char) : Pattern := .one (.like .simple c)

/-- The pattern of characters in a row. -/
def literal (cs : List Char) : Pattern := seqAll (cs.map letter)

/-- An escaped text is read in full, and as its characters in a row. -/
theorem read_escape (cs : List Char) {f : Flags} (plain : f.verbose = false)
    (folding : f.folding = .simple) : read f (cs.flatMap escaped) = .ok (literal cs) := by
  obtain ⟨last, parts⟩ := readParts_escape cs ((cs.flatMap escaped).length + 1)
    { flags := f, level := .openedAt (cs.flatMap escaped) } (Nat.le_succ _) plain
  have elements : cs.map (charElement f) = (cs.map letter).map flatElement := by
    rw [List.map_map]
    exact List.map_congr_left fun c _ => by simp [charElement, flatElement, letter, folding]
  obtain ⟨pattern, flat⟩ := ofElements_flat (cs.map letter) ⟨cs.flatMap escaped, []⟩
  -- A row of characters does not nest, so the limit on nesting is out of reach.
  have low : (Node.ofElements ⟨cs.flatMap escaped, []⟩
      ((cs.map letter).map flatElement).reverse).depths[maxHeight]? = none :=
    List.getElem?_eq_none (by rw [maxHeight]; omega)
  rw [read, parts]
  simp only [bind, Except.bind, State.finish, Level.node, Level.current, Level.openedAt, elements,
    List.append_nil, low, pattern]
  rfl

/-- **An escaped text is a pattern**, that of its characters in a row. -/
theorem parse_escape (text : String) : parse (escape text) true = .ok (literal text.toList) := by
  rw [parse, toList_escape, read_escape text.toList rfl rfl, read_escape text.toList rfl rfl]
  rfl

/-! ## §2. Where a text is found -/

/-- Characters that differ in case at most. -/
def Alike (x c : Char) : Prop := simpleFold x = simpleFold c

/-- The text holds the characters in a row somewhere, each up to case. -/
def ContainsAlike (text cs : List Char) : Prop :=
  ∃ before run after, text = before ++ run ++ after ∧ List.Forall₂ Alike run cs

variable {text : List Char}

/-- The match of a character ends behind it. -/
theorem mem_ends_letter {c : Char} {here : List Position} {j : Position} :
    j ∈ (letter c).ends text.toArray here ↔
      ∃ i ∈ here, j = i + 1 ∧ ∃ x, text[i]? = some x ∧ Alike x c := by
  simp only [letter, ends, List.mem_filterMap, List.getElem?_toArray, Option.bind_eq_some_iff,
    Option.ite_none_right_eq_some, Option.some.injEq, CharSet.contains, beq_iff_eq]
  constructor
  · rintro ⟨i, start, x, there, alike, rfl⟩
    exact ⟨i, start, rfl, x, there, alike⟩
  · rintro ⟨i, start, rfl, x, there, alike⟩
    exact ⟨i, start, x, there, alike, rfl⟩

/-- Matches of a sequence go on where those of its first part end. -/
theorem ends_seqAll_cons (p : Pattern) (ps : List Pattern) (text : Array Char)
    (here : List Position) :
    (seqAll (p :: ps)).ends text here = (seqAll ps).ends text (p.ends text here) := by
  cases ps <;> rfl

/-- A row of one character more begins with that character. -/
theorem forall₂_take_succ {c : Char} {cs : List Char} {i : Position} :
    List.Forall₂ Alike ((text.drop i).take (cs.length + 1)) (c :: cs) ↔
      (∃ x, text[i]? = some x ∧ Alike x c) ∧
      List.Forall₂ Alike ((text.drop (i + 1)).take cs.length) cs := by
  cases there : text[i]? with
  | none =>
      have short : text.length ≤ i := List.getElem?_eq_none_iff.1 there
      rw [List.drop_eq_nil_of_le short]
      simp
  | some x =>
      obtain ⟨within, eq⟩ := List.getElem?_eq_some_iff.1 there
      rw [List.drop_eq_getElem_cons within, eq, List.take_succ_cons, List.forall₂_cons]
      simp

/-- **Matches of characters in a row end behind the rows.** -/
theorem mem_ends_literal {cs : List Char} {here : List Position} {j : Position} :
    j ∈ (literal cs).ends text.toArray here ↔
      ∃ i ∈ here, j = i + cs.length ∧ List.Forall₂ Alike ((text.drop i).take cs.length) cs := by
  induction cs generalizing here with
  | nil => simp [literal, seqAll, ends]
  | cons c cs ih =>
      -- The rest matches from where the first character ends, one position further on.
      rw [literal, List.map_cons, ends_seqAll_cons, ← literal, ih]
      simp only [List.length_cons, forall₂_take_succ, mem_ends_letter]
      constructor
      · rintro ⟨_, ⟨i, start, rfl, first⟩, rfl, later⟩
        exact ⟨i, start, Nat.add_right_comm i 1 cs.length, first, later⟩
      · rintro ⟨i, start, rfl, first, later⟩
        exact ⟨i + 1, ⟨i, start, rfl, first⟩, (Nat.add_right_comm i 1 cs.length).symm, later⟩

/-- **Characters in a row are found in a text exactly if it contains them**, each up to case. -/
theorem foundIn_literal {cs : List Char} {text : String} :
    (literal cs).foundIn text = true ↔ ContainsAlike text.toList cs := by
  -- A search begins at every position, that behind the last character included.
  have found : (literal cs).foundIn text = true ↔
      ∃ j, j ∈ (literal cs).ends text.toList.toArray (List.range (text.toList.length + 1)) := by
    rw [foundIn, Bool.not_eq_true', List.isEmpty_eq_false_iff_exists_mem]
    rfl
  rw [found]
  constructor
  · rintro ⟨j, ended⟩
    obtain ⟨i, -, -, row⟩ := mem_ends_literal.1 ended
    refine ⟨text.toList.take i, _, (text.toList.drop i).drop cs.length, ?_, row⟩
    rw [List.append_assoc, List.take_append_drop, List.take_append_drop]
  · rintro ⟨before, run, after, split, row⟩
    have lengths := row.length_eq
    refine ⟨before.length + cs.length, mem_ends_literal.2 ⟨before.length, ?_, rfl, ?_⟩⟩
    · rw [List.mem_range, split, List.length_append, List.length_append]
      omega
    · rw [split, List.append_assoc, List.drop_left, ← lengths, List.take_left]
      exact row

instance (text cs : List Char) : Decidable (ContainsAlike text cs) :=
  decidable_of_iff ((literal cs).foundIn (String.ofList text) = true)
    (foundIn_literal.trans (by rw [String.toList_ofList]))

end PagedTable.Pattern
