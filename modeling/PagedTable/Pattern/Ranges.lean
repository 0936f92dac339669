/-
  PagedTable.Pattern.Ranges — sets of characters as ranges of code points.

  Every set of characters is listed as ranges that ascend and neither overlap nor touch, so that
  equal sets have equal lists.  The operations on sets are passes over such lists.

  Main interface: `Ranges`, `CharSet.toRanges`.
-/
import PagedTable.Pattern.CharSet

namespace PagedTable.Pattern

/-- A set of code points: ranges that ascend and do not touch. -/
abbrev Ranges := List (Nat × Nat)

namespace Ranges

/-! ## §1. Operations -/

/-- The greatest code point. -/
def lastCode : Nat := 0x10ffff

/-- Joins ranges that overlap or touch; they ascend by their lower ends, and the range from `low`
to `high` comes before them. -/
def joinFrom (low high : Nat) : List (Nat × Nat) → Ranges
  | [] => [(low, high)]
  | (a, b) :: rest =>
    if a ≤ high + 1 then joinFrom low (max high b) rest else (low, high) :: joinFrom a b rest

/-- Joins ranges that overlap or touch; they ascend by their lower ends. -/
def join : List (Nat × Nat) → Ranges
  | [] => []
  | (low, high) :: rest => joinFrom low high rest

/-- Two lists of ranges as one that ascends by lower ends; `fuel` is at least their joint
length. -/
def mergeWithin : (fuel : Nat) → List (Nat × Nat) → List (Nat × Nat) → List (Nat × Nat)
  | 0, _, _ => []
  | _, [], ys => ys
  | _, xs, [] => xs
  | fuel + 1, x :: xs, y :: ys =>
    if x.1 ≤ y.1 then x :: mergeWithin fuel xs (y :: ys) else y :: mergeWithin fuel (x :: xs) ys

/-- The code points in either set. -/
def union (a b : Ranges) : Ranges := join (mergeWithin (a.length + b.length) a b)

/-- The code points of ranges in any order. -/
def ofList (ranges : List (Nat × Nat)) : Ranges := ranges.foldr (fun r set => union [r] set) []

/-- The code points of a list. -/
def ofCodes (codes : List Nat) : Ranges := ofList (codes.map fun c => (c, c))

/-- The code points from `start` on that are not in the set. -/
def complFrom (start : Nat) : Ranges → Ranges
  | [] => if start ≤ lastCode then [(start, lastCode)] else []
  | (low, high) :: rest =>
    if start < low then (start, low - 1) :: complFrom (high + 1) rest
    else complFrom (high + 1) rest

/-- The code points that are not in the set. -/
def compl (a : Ranges) : Ranges := complFrom 0 a

/-- The code points in both sets. -/
def inter (a b : Ranges) : Ranges := compl (union (compl a) (compl b))

/-- The code points that are no characters. -/
def surrogates : Ranges := [(0xd800, 0xdfff)]

end Ranges

/-! ## §2. Sets of characters -/

/-- The code points that fold to another one, with their images. -/
def Folding.images : Folding → List (Nat × Nat)
  | exact => []
  | ascii => (List.range 26).map fun i => (0x41 + i, 0x61 + i)
  | simple => (List.range 26).map (fun i => (0x41 + i, 0x61 + i)) ++ caseImages

/-- Adds the code points alike to one in the set. -/
def Ranges.close (folding : Folding) (a : Ranges) : Ranges :=
  let images := folding.images
  let met := images.filter fun (c, image) => CharSet.inRanges a c || CharSet.inRanges a image
  let alike := met.flatMap fun (_, image) => image :: (images.filter (·.2 == image)).map (·.1)
  .union a (.ofCodes (alike.filter (!CharSet.inRanges a ·)))

namespace CharSet

/-- The code points of a set. -/
def codes : CharSet → Ranges
  | empty => []
  | like folding c => .close folding [(c.toNat, c.toNat)]
  | range low high => if low ≤ high then [(low.toNat, high.toNat)] else []
  | ranges table => .join table
  | folded folding set => .close folding set.codes
  | union a b => .union a.codes b.codes
  | inter a b => .inter a.codes b.codes
  | compl a => .compl a.codes

/-- The characters of a set, as ranges. -/
def toRanges (set : CharSet) : Ranges := .inter set.codes (.compl .surrogates)

end CharSet
end PagedTable.Pattern
