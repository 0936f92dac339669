/-
  PagedTable.Proofs.Json.Printable — the text of a value has no control characters.

  Inside strings the printer escapes every character below U+0020, and an escape is written with
  characters that need none.  What it writes between strings are words, digits and punctuation.
  So no text of a value has a line feed in it, and a value is always written on one line:

      printable_writeChar  — a character is written without control characters
      printable_write      — so is every value, by recursion on the value
      lineFeed_notMem      — its text is one line
-/
import PagedTable.Proofs.Json.Integers

namespace PagedTable

/-- No character of the text is a control character: all are from U+0020 on. -/
def Printable (text : List Char) : Prop := ∀ c ∈ text, 0x20 ≤ c.toNat

/-! ## §1. Texts put together -/

theorem printable_nil : Printable [] := fun _ mem => absurd mem List.not_mem_nil

/-- A character from U+0020 on, before a printable text. -/
theorem Printable.cons {c : Char} {text : List Char} (h : Printable text)
    (plain : 0x20 ≤ c.toNat := by decide) : Printable (c :: text) :=
  List.forall_mem_cons.2 ⟨plain, h⟩

theorem Printable.append {front back : List Char} (h : Printable front) (g : Printable back) :
    Printable (front ++ back) := List.forall_mem_append.2 ⟨h, g⟩

/-- What is left of a printable text is printable. -/
theorem Printable.of_subset {text part : List Char} (h : Printable text) (sub : part ⊆ text) :
    Printable part := fun c mem => h c (sub mem)

/-! ## §2. Numbers -/

/-- Copies of the zero digit are printable. -/
theorem printable_zeros (n : Nat) : Printable (List.replicate n '0') := by
  intro c mem
  rw [List.eq_of_mem_replicate mem]
  decide

theorem printable_decimal (n : Nat) : Printable (decimal n) := by
  intro c mem
  have digit := Numeral.isDigit_of_mem_decimal mem
  rw [Char.isDigit, Bool.and_eq_true, decide_eq_true_eq, decide_eq_true_eq] at digit
  exact Nat.le_trans (by decide) (UInt32.le_iff_toNat_le.1 digit.1)

theorem printable_decimalInt (n : Int) : Printable (decimalInt n) := by
  cases n with
  | ofNat n => exact printable_decimal n
  | negSucc n => exact (printable_decimal (n + 1)).cons

namespace Binary64

/-- A point among printable digits is printable, and so are the zeros around them. -/
theorem printable_placePoint {digits : List Char} (h : Printable digits) (exponent : Int) :
    Printable (placePoint digits exponent) := by
  cases exponent with
  | negSucc e => exact ((printable_zeros e).append h).cons.cons
  | ofNat e =>
      have whole : Printable (digits.take (e + 1)) := h.of_subset (List.take_subset _ _)
      have fraction : Printable (digits.drop (e + 1)) := h.of_subset (List.drop_subset _ _)
      refine (whole.append (printable_zeros _)).append (Printable.cons ?_)
      split
      · exact printable_nil.cons
      · exact fraction

theorem printable_scientific {digits : List Char} (h : Printable digits) (exponent : Int) :
    Printable (scientific digits exponent) := by
  have first : Printable (digits.take 1) := h.of_subset (List.take_subset _ _)
  have fraction : Printable (digits.drop 1) := h.of_subset (List.drop_subset _ _)
  have size := printable_decimal exponent.natAbs
  refine (first.append ?_).append (Printable.cons ?_)
  · split
    · exact printable_nil
    · exact fraction.cons
  · split
    · exact size.cons
    · exact size.cons

/-- The text of a float is printable. -/
theorem printable_write (x : Binary64) : Printable x.write := by
  have sign : Printable (if x.negative then ['-'] else []) := by
    split
    · exact printable_nil.cons
    · exact printable_nil
  have digits := printable_decimal x.shortest.digits
  rw [write]
  split
  · exact sign.append printable_nil.cons.cons.cons
  · refine sign.append ?_
    split
    · exact printable_placePoint digits _
    · exact printable_scientific digits _

end Binary64

namespace Json

/-! ## §3. Strings -/

/-- The digits of numeric escapes are printable. -/
theorem printable_digitChar : ∀ d < 16, 0x20 ≤ (Nat.digitChar d).toNat := by decide

/-- **A character is written without control characters**, itself or its escape. -/
theorem printable_writeChar (c : Char) : Printable (writeChar c) := by
  have letter {e : Char} (plain : 0x20 ≤ e.toNat) : Printable ['\\', e] :=
    (printable_nil.cons plain).cons
  -- The cases are the printer's: seven short escapes, numeric escapes, and characters as they are.
  unfold writeChar
  split
  · exact letter (by decide)
  split
  · exact letter (by decide)
  split
  · exact letter (by decide)
  split
  · exact letter (by decide)
  split
  · exact letter (by decide)
  split
  · exact letter (by decide)
  split
  · exact letter (by decide)
  split
  · next control =>
    have high := printable_digitChar (c.toNat / 16) (by omega)
    have low := printable_digitChar (c.toNat % 16) (by omega)
    exact ((printable_nil.cons low).cons high).cons.cons.cons.cons
  · next plain => exact printable_nil.cons (Nat.le_of_not_lt plain)

theorem printable_writeText (s : String) : Printable (writeText s) := by
  have characters : Printable (s.toList.flatMap writeChar) := by
    intro c mem
    obtain ⟨source, -, written⟩ := List.mem_flatMap.1 mem
    exact printable_writeChar source c written
  exact (characters.append printable_nil.cons).cons

/-! ## §4. Values -/

mutual

/-- **The text of a value is printable.** -/
theorem printable_write : (v : Json) → Printable v.write
  | .null | .bool true => printable_nil.cons.cons.cons.cons
  | .bool false => printable_nil.cons.cons.cons.cons.cons
  | .num (.int n) => printable_decimalInt n
  | .num (.float x) => x.printable_write
  | .str s => printable_writeText s
  | .arr [] => printable_nil.cons.cons
  | .arr (item :: rest) => (printable_write item).cons.append (printable_writeItems rest)
  | .obj [] => printable_nil.cons.cons
  | .obj ((name, value) :: rest) =>
    ((printable_writeText name).cons.append (printable_write value).cons).append
      (printable_writeMembers rest)

/-- The text of the items after the first is printable. -/
theorem printable_writeItems : (items : List Json) → Printable (writeItems items)
  | [] => printable_nil.cons
  | item :: rest => (printable_write item).cons.append (printable_writeItems rest)

/-- The text of the members after the first is printable. -/
theorem printable_writeMembers : (members : List (String × Json)) →
    Printable (writeMembers members)
  | [] => printable_nil.cons
  | (name, value) :: rest =>
    ((printable_writeText name).cons.append (printable_write value).cons).append
      (printable_writeMembers rest)

end

/-- **A value is written on one line.** -/
theorem lineFeed_notMem (v : Json) : '\n' ∉ v.render.toList := by
  intro mem
  rw [render, String.toList_ofList] at mem
  exact absurd (printable_write v '\n' mem) (by decide)

end Json
end PagedTable
