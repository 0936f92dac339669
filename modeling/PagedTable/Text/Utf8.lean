/-
  PagedTable.Text.Utf8 — ranges of characters as ranges of bytes.

  In UTF-8 a character is a leading byte and up to three further bytes of six bits each.  The
  characters of a range are cut into boxes: sequences of byte ranges such that any choice of one
  byte from each range is a character of the box.

  Main interface: `Utf8.boxes` (the boxes of a range, ascending), `Utf8.encode`.
-/
import PagedTable.Power

namespace PagedTable.Utf8

/-- A sequence of ranges of digits or bytes. -/
abbrev Box := List (Nat × Nat)

/-! ## §1. Numbers by their digits -/

/-- The numbers between two bounds, cut into boxes of a leading digit and `n` digits of six bits.
Where the leading digits differ, the numbers of the first and of the last leading digit make boxes
of their own unless they are all there. -/
def digitBoxes : (n : Nat) → (low high : Nat) → List Box
  | 0, low, high => [[(low, high)]]
  | n + 1, low, high =>
    let unit := twoTo (6 * (n + 1))
    let a := low / unit
    let b := high / unit
    if a = b then (digitBoxes n (low % unit) (high % unit)).map ((a, a) :: ·)
    else
      let whole := List.replicate (n + 1) (0, 63)
      let below :=
        if low % unit = 0 then []
        else (digitBoxes n (low % unit) (unit - 1)).map ((a, a) :: ·)
      let above :=
        if high % unit = unit - 1 then []
        else (digitBoxes n 0 (high % unit)).map ((b, b) :: ·)
      let first := if below.isEmpty then a else a + 1
      let last := if above.isEmpty then b else b - 1
      below ++ (if first ≤ last then [(first, last) :: whole] else []) ++ above

/-! ## §2. Characters by their bytes -/

/-- Characters next to each other whose bytes have the same form. -/
structure Span where
  first : Nat
  last : Nat
  /-- How many bytes follow the leading one. -/
  further : Nat
  /-- What is added to the leading digit. -/
  lead : Nat
  deriving DecidableEq, Repr

/-- All characters.  The code points from U+D800 to U+DFFF are none. -/
def spans : List Span :=
  [ ⟨0, 0x7f, 0, 0⟩, ⟨0x80, 0x7ff, 1, 0xc0⟩, ⟨0x800, 0xd7ff, 2, 0xe0⟩, ⟨0xe000, 0xffff, 2, 0xe0⟩
  , ⟨0x10000, 0x10ffff, 3, 0xf0⟩ ]

/-- The bytes of a box of digits. -/
def Span.toBytes (s : Span) : Box → Box
  | [] => []
  | (low, high) :: rest =>
    (s.lead + low, s.lead + high) :: rest.map fun (low, high) => (0x80 + low, 0x80 + high)

/-- The characters between two code points, cut into boxes of bytes. -/
def boxes (low high : Nat) : List Box :=
  spans.flatMap fun s =>
    let low := max low s.first
    let high := min high s.last
    if low ≤ high then (digitBoxes s.further low high).map s.toBytes else []

/-- The bytes of one character. -/
def encode (code : Nat) : List Nat := ((boxes code code).headD []).map (·.1)

end PagedTable.Utf8
