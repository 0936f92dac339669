/-
  PagedTable.Pattern.Shape — what a pattern is made of once it is simplified.

  The shape of a pattern keeps what decides how large a machine for it is.  Parts that match
  nothing but the empty text are dropped from a sequence, neighbouring characters make one
  literal, alternatives that are single characters make one set, a start that alternatives have
  in common stands once before them, and a repetition of what never moves is done once.

  Main interface: `Shape`, `Pattern.shape`.
-/
import PagedTable.Pattern.Basic
import PagedTable.Pattern.Ranges

namespace PagedTable.Pattern

/-- A simplified pattern. -/
inductive Shape where
  | empty
  /-- Characters in a row, at least one. -/
  | literal (codes : List Nat)
  /-- One of no or of several characters. -/
  | set (ranges : Ranges)
  | anchor (condition : Anchor)
  | rep (low : Nat) (high : Option Nat) (body : Shape)
  | group (number : Nat) (body : Shape)
  /-- At least two parts, one after the other. -/
  | seq (parts : List Shape)
  /-- One of at least two. -/
  | alt (choices : List Shape)
  deriving BEq, Repr

namespace Shape

/-! ## §1. Lengths of matches -/

mutual

/-- Are all matches empty texts? -/
def neverMoves : Shape → Bool
  | empty | anchor _ => true
  | literal _ | set _ => false
  | rep _ high body => high.isSome && body.neverMoves
  | group _ body => body.neverMoves
  | seq parts => neverMovesAll parts
  | alt choices => neverMovesAll choices

/-- Are all matches of all of the shapes empty texts? -/
def neverMovesAll : List Shape → Bool
  | [] => true
  | s :: rest => s.neverMoves && neverMovesAll rest

end

mutual

/-- Is no match an empty text?  Where there is no match at all the answer is no. -/
def alwaysMoves : Shape → Bool
  | empty | anchor _ => false
  | literal _ => true
  | set ranges => !ranges.isEmpty
  | rep low _ body => 0 < low && body.alwaysMoves
  | group _ body => body.alwaysMoves
  | seq parts => alwaysMovesAny parts
  | alt choices => alwaysMovesAll choices

/-- Is there a shape without empty matches? -/
def alwaysMovesAny : List Shape → Bool
  | [] => false
  | s :: rest => s.alwaysMoves || alwaysMovesAny rest

/-- Are there no empty matches of any of the shapes? -/
def alwaysMovesAll : List Shape → Bool
  | [] => true
  | s :: rest => s.alwaysMoves && alwaysMovesAll rest

end

/-! ## §2. Sequences -/

/-- One of the characters in the ranges. -/
def ofRanges : Ranges → Shape
  | [(low, high)] => if low = high then literal [low] else set [(low, high)]
  | ranges => set ranges

/-- The parts in a row that a shape consists of. -/
def parts : Shape → List Shape
  | empty => []
  | seq parts => parts
  | s => [s]

/-- The parts in a row as one shape. -/
def ofParts : List Shape → Shape
  | [] => empty
  | [s] => s
  | parts => seq parts

/-- Puts a part before others. -/
def consPart : Shape → List Shape → List Shape
  | literal a, literal b :: rest => literal (a ++ b) :: rest
  | s, rest => s :: rest

/-- One after the other. -/
def append (a b : Shape) : Shape := ofParts (a.parts.foldr consPart b.parts)

/-! ## §3. Alternatives -/

/-- The alternatives that a shape consists of. -/
def choices : Shape → List Shape
  | alt choices => choices
  | s => [s]

/-- The characters, if every shape is a single one. -/
def characters? : List Shape → Option (List Nat)
  | [] => some []
  | literal [c] :: rest => (characters? rest).map (c :: ·)
  | _ => none

/-- The characters in any of the shapes, if every shape is a set. -/
def unionSets? : List Shape → Option Ranges
  | [] => some []
  | set ranges :: rest => (unionSets? rest).map ranges.union
  | _ => none

/-- The alternatives as one shape. -/
def ofChoices : List Shape → Shape
  | [s] => s
  | choices =>
    match characters? choices with
    | some codes => ofRanges (.ofCodes codes)
    | none =>
      match unionSets? choices with
      | some ranges => ofRanges ranges
      | none => alt choices

/-- The common start of two lists of parts. -/
def commonStart : List Shape → List Shape → List Shape
  | a :: as, b :: bs => if a == b then a :: commonStart as bs else []
  | _, _ => []

/-- The common start of several sequences; a shape that is no sequence has nothing in common with
others. -/
def commonStartAll : List Shape → List Shape
  | seq parts :: rest => rest.foldl (fun start s =>
      match s with
      | seq parts => commonStart start parts
      | _ => []) parts
  | _ => []

/-- One of several, with the common start taken out. -/
def oneOf (choices : List Shape) : Shape :=
  match choices.flatMap Shape.choices with
  | [s] => s
  | choices =>
    let start := commonStartAll choices
    if start.isEmpty then ofChoices choices
    else
      let rests := choices.map fun s => ofParts (s.parts.drop start.length)
      append (ofParts start) (ofChoices (rests.flatMap Shape.choices))

/-! ## §4. Repetitions -/

/-- So many times the same.  What never moves is as good done once as often. -/
def repeated (low : Nat) (high : Option Nat) (body : Shape) : Shape :=
  let (low, high) : Nat × Option Nat :=
    if body.neverMoves then (min low 1, some (min (high.getD 1) 1)) else (low, high)
  if low = 0 ∧ high = some 0 then empty
  else if low = 1 ∧ high = some 1 then body
  else rep low high body

end Shape

/-! ## §5. Patterns -/

/-- The shapes of the alternatives of a pattern. -/
def choices : Pattern → List Shape
  | empty => [.empty]
  | one set => [.ofRanges set.toRanges]
  | anchor condition => [.anchor condition]
  | seq p q => [.append (.oneOf p.choices) (.oneOf q.choices)]
  | alt p q => .oneOf p.choices :: q.choices
  | rep low high p => [.repeated low high (.oneOf p.choices)]
  | group none p => [.oneOf p.choices]
  | group (some number) p => [.group number (.oneOf p.choices)]

/-- The shape of a pattern. -/
def shape (p : Pattern) : Shape := .oneOf p.choices

end PagedTable.Pattern
