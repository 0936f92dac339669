/-
  PagedTable.Pattern.CharSet — sets of characters and case folding.

  Letters that differ only in case are brought together by simple case folding: every character
  has one character that it folds to, and two characters are alike when they fold to the same.
  Folding never makes two characters of one, so `ß` is not like `ss`.

  Main interface: `Folding.apply`, `CharSet`, `CharSet.contains`.
-/
import PagedTable.Pattern.Table.Code
import PagedTable.Pattern.Table.Category
import PagedTable.Pattern.Table.Trait
import PagedTable.Pattern.Table.CaseFold
import PagedTable.Pattern.Table.Name
import PagedTable.Text.Blank

namespace PagedTable.Pattern

/-! ## §1. Case folding -/

/-- Which characters count as alike. -/
inductive Folding where
  /-- Every character only itself. -/
  | exact
  /-- ASCII letters in both cases. -/
  | ascii
  /-- Characters with the same simple case folding. -/
  | simple
  deriving DecidableEq, Repr

/-- The characters beyond ASCII that fold to another one, with their images. -/
def caseImages : List (Nat × Nat) := Table.images Table.caseFoldings

/-- Simple case folding of one character. -/
def simpleFold (c : Char) : Char :=
  if c.toNat < 0x80 then c.toLower
  else
    match caseImages.find? (·.1 == c.toNat) with
    | some (_, image) => Char.ofNat image
    | none => c

/-- The characters that fold to a character which is its own folding. -/
def simplePreimages (image : Char) : List Char :=
  (if image.isLower then [image.toUpper] else []) ++
    (caseImages.filter (·.2 == image.toNat)).map (Char.ofNat ·.1)

namespace Folding

/-- The character that stands for all characters alike. -/
def apply : Folding → Char → Char
  | exact, c => c
  | ascii, c => c.toLower
  | simple, c => simpleFold c

/-- The characters alike, the given one included. -/
def alike : Folding → Char → List Char
  | exact, c => [c]
  | ascii, c => [c, c.toLower, c.toUpper]
  | simple, c => c :: simpleFold c :: simplePreimages (simpleFold c)

end Folding

/-! ## §2. Sets -/

/-- A set of characters. -/
inductive CharSet where
  | empty
  /-- The characters alike to one. -/
  | like (folding : Folding) (c : Char)
  /-- The characters between two, both included. -/
  | range (low high : Char)
  /-- The characters in any of several ascending ranges of code points. -/
  | ranges (table : List (Nat × Nat))
  /-- The characters alike to one in the set. -/
  | folded (folding : Folding) (set : CharSet)
  | union (a b : CharSet)
  | inter (a b : CharSet)
  | compl (a : CharSet)
  deriving DecidableEq, Repr

namespace CharSet

/-- Does a code point lie in one of the ranges? -/
def inRanges (table : List (Nat × Nat)) (n : Nat) : Bool :=
  table.any fun (low, high) => low ≤ n && n ≤ high

/-- Membership. -/
def contains : CharSet → Char → Bool
  | empty, _ => false
  | like folding c, x => folding.apply x == folding.apply c
  | range low high, x => low ≤ x && x ≤ high
  | ranges table, x => inRanges table x.toNat
  | folded folding set, x => (folding.alike x).any set.contains
  | union a b, x => a.contains x || b.contains x
  | inter a b, x => a.contains x && b.contains x
  | compl a, x => !a.contains x

/-- The set of one character. -/
def single (c : Char) : CharSet := like .exact c

/-- The characters in any of several sets. -/
def unionAll : List CharSet → CharSet
  | [] => empty
  | [s] => s
  | s :: rest => union s (unionAll rest)

/-- The characters of the one set that are not in the other. -/
def diff (a b : CharSet) : CharSet := inter a (compl b)

/-- The characters in exactly one of the sets. -/
def symmDiff (a b : CharSet) : CharSet := union (diff a b) (diff b a)

/-- The complement, if asked for. -/
def complIf (negated : Bool) (a : CharSet) : CharSet := if negated then compl a else a

/-- The set closed under a folding; nothing to do for the exact one. -/
def close (folding : Folding) (a : CharSet) : CharSet :=
  if folding = .exact then a else folded folding a

/-! ## §3. Digits, blanks and words -/

/-- The set of a table entry with the given name. -/
def named? (table : List (List String × List String)) (name : String) : Option CharSet :=
  (table.find? (·.1.contains name)).map fun entry => ranges (Table.ranges entry.2)

/-- The set of the category with the given name. -/
def category (name : String) : CharSet := (named? Table.categories name).getD empty

/-- The set of the characters with the given property. -/
def trait (name : String) : CharSet := (named? Table.traits name).getD empty

/-- The decimal digits of all scripts. -/
def digit : CharSet := category "nd"

/-- The characters with the property White_Space. -/
def blank : CharSet := trait "whitespace"

/-- The characters with the property Alphabetic. -/
def alphabetic : CharSet := trait "alphabetic"

/-- The characters that words are made of: letters, marks, digits, connecting punctuation and
the joiners. -/
def word : CharSet :=
  unionAll [alphabetic, category "mn", category "mc", category "me", digit, category "pc",
    trait "joincontrol"]

/-- The letters that a name can have. -/
def nameLetter : CharSet := union alphabetic (ranges (Table.ranges Table.addedLetters))

/-- The numbers that a name can have. -/
def nameNumber : CharSet :=
  unionAll [digit, category "nl", category "no", ranges (Table.ranges Table.addedNumbers)]

/-- The digits `0` to `9`. -/
def asciiDigit : CharSet := range '0' '9'

/-- The space and the control characters from the tab to the carriage return. -/
def asciiBlank : CharSet := union (range '\t' '\r') (single ' ')

/-- The letters `A` to `Z` and `a` to `z`. -/
def asciiLetter : CharSet := union (range 'A' 'Z') (range 'a' 'z')

/-- The ASCII characters that words are made of. -/
def asciiWord : CharSet := unionAll [asciiDigit, asciiLetter, single '_']

end CharSet
end PagedTable.Pattern
