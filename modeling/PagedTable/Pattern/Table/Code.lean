/-
  PagedTable.Pattern.Table.Code — how the tables of characters are written down.

  A table is a text of letters.  It is read as a sequence of numbers in base 26: capital letters
  are the digits before the last one, a small letter is the last digit.  For ranges the numbers
  come in pairs: how many characters lie between the end of the previous range and the start of
  this one, and how many follow the first character of this one.
-/

namespace PagedTable.Pattern.Table

/-- The numbers of a text, when `high` is the value of the digits of the current one so far. -/
def readNumbers (high : Nat) : List Char → List Nat
  | [] => []
  | c :: rest =>
    if c.isUpper then readNumbers (high * 26 + (c.toNat - 'A'.toNat)) rest
    else (high * 26 + (c.toNat - 'a'.toNat)) :: readNumbers 0 rest

/-- The ranges that pairs of numbers stand for, from a given code point on. -/
def readRanges (start : Nat) : List Nat → List (Nat × Nat)
  | gap :: extent :: rest =>
    (start + gap, start + gap + extent) :: readRanges (start + gap + extent + 1) rest
  | _ => []

/-- The distance that a number stands for: its half, downwards if it is odd. -/
def readDistance (n : Nat) : Int := if n % 2 = 0 then (n / 2 : Nat) else -((n / 2 + 1 : Nat) : Int)

/-- The characters and images that pairs of a gap and a distance stand for. -/
def readImages (start : Nat) : List Nat → List (Nat × Nat)
  | gap :: distance :: rest =>
    (start + gap, ((start + gap : Nat) + readDistance distance).toNat) ::
      readImages (start + gap + 1) rest
  | _ => []

/-- The numbers of a table. -/
def numbers (code : List String) : List Nat := readNumbers 0 (code.flatMap String.toList)

/-- The ranges of a table of characters. -/
def ranges (code : List String) : List (Nat × Nat) := readRanges 0 (numbers code)

/-- The pairs of a table of images. -/
def images (code : List String) : List (Nat × Nat) := readImages 0 (numbers code)

end PagedTable.Pattern.Table
