/-
  PagedTable.Pattern.Size — how large a machine a pattern is compiled to.

  Texts are searched by a machine that reads them byte by byte, and by a second one that reads
  them backward.  A machine is made of states of 32 bytes.  A state that branches takes another 4
  bytes for each branch, and one that tells ranges of bytes apart another 8 for each range.  A
  counted repetition is as many copies of its body.  A pattern is admitted only if each of its
  machines takes at most ten mebibytes.

  Sets of characters are compiled to few states: forward, states with the same continuation are
  one state; backward, sequences of ranges that start with the same ranges share their states.

  Main interface: `Pattern.size`, `Pattern.ofText`.
-/
import PagedTable.Pattern.Parser
import PagedTable.Pattern.Shape
import PagedTable.Text.Utf8

namespace PagedTable.Pattern

/-! ## §1. Units -/

/-- Which way a machine reads. -/
inductive Reading where
  | forward
  | backward
  deriving DecidableEq, Repr

/-- The bytes of a state. -/
def stateSize : Nat := 32

/-- The bytes of a state with a number of branches. -/
def branchSize (branches : Nat) : Nat := stateSize + 4 * branches

/-- The bytes of a state that tells a number of byte ranges apart. -/
def rangeSize (ranges : Nat) : Nat := stateSize + 8 * ranges

/-- The sum of several numbers of bytes. -/
def total : List Nat → Nat
  | [] => 0
  | n :: rest => n + total rest

/-! ## §2. Sets -/

/-- The number of runs of sequences that start with the same range. -/
def countHeads : List Utf8.Box → Nat
  | [] => 0
  | [_] => 1
  | a :: b :: rest => (if a.head? = b.head? then 0 else 1) + countHeads (b :: rest)

/-- What may follow each first range, in order. -/
def tailRuns : List Utf8.Box → List (List Utf8.Box)
  | [] => []
  | [] :: rest => tailRuns rest
  | [_ :: tail] => [[tail]]
  | (a :: tail) :: rest =>
    match tailRuns rest with
    | [] => [[tail]]
    | run :: runs =>
      if (rest.head?.bind List.head?) = some a then (tail :: run) :: runs
      else [tail] :: run :: runs

/-- The states for sequences of up to `depth` ranges, each as the sequences it waits for. -/
def waiting : (depth : Nat) → List Utf8.Box → List (List Utf8.Box)
  | 0, _ => []
  | depth + 1, boxes =>
    if boxes.all (·.isEmpty) then [] else boxes :: (tailRuns boxes).flatMap (waiting depth)

/-- How many ranges two sequences share at their start. -/
def sharedLength : Utf8.Box → Utf8.Box → Nat
  | a :: as, b :: bs => if a = b then 1 + sharedLength as bs else 0
  | _, _ => 0

/-- The states of sequences that share their starts with the sequence before. -/
def chainStates (before : Utf8.Box) : List Utf8.Box → Nat
  | [] => 0
  | box :: rest => (box.length - sharedLength before box) + chainStates box rest

/-- The bytes for a set of characters. -/
def setSize (reading : Reading) (ranges : Ranges) : Nat :=
  let boxes := ranges.flatMap fun (low, high) => Utf8.boxes low high
  if boxes.all (·.length ≤ 1) then stateSize + rangeSize boxes.length
  else
    match reading with
    | .forward =>
      let states := (waiting 4 boxes).eraseDups
      stateSize + total (states.map fun boxes => rangeSize (countHeads boxes))
    | .backward => branchSize boxes.length + stateSize + stateSize * chainStates [] boxes

/-! ## §3. Literals -/

/-- The bytes of a literal, in the order in which they are read. -/
def literalBytes (reading : Reading) (codes : List Nat) : List Nat :=
  let bytes := codes.flatMap Utf8.encode
  match reading with
  | .forward => bytes
  | .backward => bytes.reverse

/-- Cuts a list of texts where one is empty. -/
def cutAtEmpty : List (List Nat) → List (List (List Nat))
  | [] => [[]]
  | [] :: rest => [] :: cutAtEmpty rest
  | text :: rest =>
    match cutAtEmpty rest with
    | [] => [[text]]
    | run :: runs => (text :: run) :: runs

/-- The first bytes of texts, each once. -/
def firstBytes (texts : List (List Nat)) : List Nat := (texts.filterMap List.head?).eraseDups

/-- The bytes of a state for the first bytes of texts. -/
def firstSize (texts : List (List Nat)) : Nat :=
  match (firstBytes texts).length with
  | 0 => 0
  | 1 => stateSize
  | n => rangeSize n

/-- The bytes of the tree that several texts of at most `depth` bytes make: what is in front of
the end of a text is tried before that end, what is behind it after. -/
def treeSize : (depth : Nat) → List (List Nat) → Nat
  | 0, _ => 0
  | depth + 1, texts =>
    if texts.all (·.isEmpty) then 0
    else
      -- an end that comes first counts once
      let ended := texts.takeWhile (·.isEmpty)
      let runs := cutAtEmpty (ended.take 1 ++ texts.drop ended.length)
      branchSize ((runs.length - 1) + (runs.filter (!·.isEmpty)).length) +
        total (runs.map fun run => firstSize run +
          total ((firstBytes run).map fun first =>
            treeSize depth (run.filterMap fun text =>
              if text.head? = some first then some text.tail else none)))

/-- The texts, if every shape is a literal. -/
def literals? : List Shape → Option (List (List Nat))
  | [] => some []
  | .literal codes :: rest => (literals? rest).map (codes :: ·)
  | _ => none

/-! ## §4. Shapes -/

/-- The bytes for a repetition of a body of the given size. -/
def repSize (low : Nat) (high : Option Nat) (alwaysMoves : Bool) (body : Nat) : Nat :=
  let required := if low = 0 then stateSize else low * body
  match high with
  | none =>
    if low = 0 ∧ !alwaysMoves then 2 * branchSize 2 + stateSize + body
    else branchSize 2 + max low 1 * body
  | some high =>
    if low = high then required
    else if low = 0 ∧ high = 1 then branchSize 2 + stateSize + body
    else required + stateSize + (high - low) * (branchSize 2 + body)

mutual

/-- The bytes for a shape. -/
def Shape.size (reading : Reading) : Shape → Nat
  | .empty | .anchor _ => stateSize
  | .literal codes => stateSize * (literalBytes reading codes).length
  | .set ranges => setSize reading ranges
  | .rep low high body => repSize low high body.alwaysMoves (body.size reading)
  | .group _ body =>
    -- forward, the two borders of the match are kept
    (if reading = .forward then 2 * stateSize else 0) + body.size reading
  | .seq parts => Shape.sizeAll reading parts
  | .alt choices =>
    match literals? choices with
    | some texts =>
      let texts := texts.map (literalBytes reading)
      stateSize + treeSize ((texts.map List.length).foldl max 0) texts
    | none => branchSize choices.length + stateSize + Shape.sizeAll reading choices

/-- The bytes for several shapes. -/
def Shape.sizeAll (reading : Reading) : List Shape → Nat
  | [] => 0
  | s :: rest => s.size reading + Shape.sizeAll reading rest

end

/-! ## §5. Machines -/

/-- The condition on a position that nothing lies behind in the given direction. -/
def Reading.border : Reading → Anchor
  | forward => .textStart
  | backward => .textEnd

mutual

/-- Must every match begin, in the order of reading, at the border of the text? -/
def Shape.isAnchored (reading : Reading) : Shape → Bool
  | .anchor condition => condition = reading.border
  | .rep low _ body => 0 < low && body.isAnchored reading
  | .group _ body => body.isAnchored reading
  | .seq parts => Shape.isAnchoredSeq reading parts
  | .alt choices => Shape.isAnchoredAll reading choices
  | .empty | .literal _ | .set _ => false

/-- The same of a sequence: the border is asked for before anything moves. -/
def Shape.isAnchoredSeq (reading : Reading) : List Shape → Bool
  | [] => false
  | s :: rest =>
    match reading with
    | .forward => s.isAnchored reading || (s.neverMoves && Shape.isAnchoredSeq reading rest)
    | .backward =>
      Shape.isAnchoredSeq reading rest || (Shape.neverMovesAll rest && s.isAnchored reading)

/-- The same of all of several shapes. -/
def Shape.isAnchoredAll (reading : Reading) : List Shape → Bool
  | [] => true
  | s :: rest => s.isAnchored reading && Shape.isAnchoredAll reading rest

end

/-- The bytes of a whole machine.  Unless matches begin at the border of the text, it starts with
a loop that passes over bytes; it ends with a state that accepts. -/
def Shape.machineSize (reading : Reading) (s : Shape) : Nat :=
  let loop := branchSize 2 + stateSize + rangeSize 1
  let start := if s.isAnchored reading then stateSize else loop
  let borders := if reading = .forward then 2 * stateSize else 0
  start + borders + s.size reading + stateSize

/-- The bytes of the larger one of the machines for a pattern. -/
def size (p : Pattern) : Nat :=
  let s := p.shape
  max (s.machineSize .forward) (s.machineSize .backward)

/-- How many bytes a machine may take. -/
def sizeLimit : Nat := 10 * twoTo 20

/-- Reads a pattern, which must not be too large; `ignoreCase` says whether letters match in both
cases from the start. -/
def ofText (text : String) (ignoreCase : Bool) : Except Fault Pattern := do
  let p ← parse text ignoreCase
  if sizeLimit < p.size then .error (.tooLarge sizeLimit) else return p

end PagedTable.Pattern
