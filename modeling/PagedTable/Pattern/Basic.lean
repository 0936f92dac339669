/-
  PagedTable.Pattern.Basic — patterns and which texts contain a match.

  A pattern is run on a set of positions of a text and yields the set of positions where a match
  that starts in one of them can end.  Whether a text contains a match does not depend on which
  match is preferred, so greed and order of alternatives leave no trace.  A repetition looks at
  each position once: rounds that reach nothing new are the last.

  Main interface: `Pattern`, `Pattern.ends`, `Pattern.foundIn`.
-/
import PagedTable.Pattern.CharSet

namespace PagedTable

/-! ## §1. Patterns -/

/-- A condition on a position in a text. -/
inductive Pattern.Anchor where
  | textStart
  | textEnd
  /-- At the start of the text or after a line feed. -/
  | lineStart
  /-- At the end of the text or before a line feed. -/
  | lineEnd
  /-- As `lineStart`, but lines end with a carriage return, a line feed or both. -/
  | lineStartCrlf
  /-- As `lineEnd`, but lines end with a carriage return, a line feed or both. -/
  | lineEndCrlf
  /-- Between a word character and another one; `ascii` restricts the words. -/
  | wordBorder (ascii : Bool)
  | notWordBorder (ascii : Bool)
  | wordStart (ascii : Bool)
  | wordEnd (ascii : Bool)
  /-- Not behind a word character. -/
  | wordStartHalf (ascii : Bool)
  /-- Not before a word character. -/
  | wordEndHalf (ascii : Bool)
  deriving DecidableEq, Repr

/-- A regular expression over characters and positions. -/
inductive Pattern where
  | empty
  | one (set : Pattern.CharSet)
  | anchor (condition : Pattern.Anchor)
  | seq (p q : Pattern)
  | alt (p q : Pattern)
  /-- At least `low` times `p`, and at most `high` times if that is given. -/
  | rep (low : Nat) (high : Option Nat) (p : Pattern)
  /-- Parentheses around `p`, and the number under which their match is kept if it is.  They do
  not change what is found. -/
  | group (number : Option Nat) (p : Pattern)
  deriving DecidableEq, Repr

namespace Pattern

/-- One after the other. -/
def seqAll : List Pattern → Pattern
  | [] => empty
  | [p] => p
  | p :: rest => seq p (seqAll rest)

/-- One of several; of none, nothing matches. -/
def altAll : List Pattern → Pattern
  | [] => one .empty
  | [p] => p
  | p :: rest => alt p (altAll rest)

/-! ## §2. Positions -/

/-- A position is the number of characters before it.  Sets of positions are ascending. -/
abbrev Position := Nat

/-- The union of two ascending lists; `fuel` is at least their joint length. -/
def mergeWithin : (fuel : Nat) → List Position → List Position → List Position
  | 0, _, _ => []
  | _, [], ys => ys
  | _, xs, [] => xs
  | fuel + 1, x :: xs, y :: ys =>
    if x < y then x :: mergeWithin fuel xs (y :: ys)
    else if y < x then y :: mergeWithin fuel (x :: xs) ys
    else x :: mergeWithin fuel xs ys

/-- The union of two sets of positions. -/
def merge (xs ys : List Position) : List Position := mergeWithin (xs.length + ys.length) xs ys

/-- The first of two ascending lists without the second; `fuel` is at least their joint length. -/
def minusWithin : (fuel : Nat) → List Position → List Position → List Position
  | 0, _, _ => []
  | _, [], _ => []
  | _, xs, [] => xs
  | fuel + 1, x :: xs, y :: ys =>
    if x < y then x :: minusWithin fuel xs (y :: ys)
    else if y < x then minusWithin fuel (x :: xs) ys
    else minusWithin fuel xs (y :: ys)

/-- The positions of the one set that are not in the other. -/
def minus (xs ys : List Position) : List Position := minusWithin (xs.length + ys.length) xs ys

/-- Does the character exist and belong to the words? -/
def isWordChar (ascii : Bool) : Option Char → Bool
  | none => false
  | some c => (if ascii then CharSet.asciiWord else CharSet.word).contains c

/-- The character before a position. -/
def before? (text : Array Char) : Position → Option Char
  | 0 => none
  | i + 1 => text[i]?

/-- Does a position of a text meet the condition? -/
def Anchor.holds (text : Array Char) (i : Position) : Anchor → Bool
  | textStart => i == 0
  | textEnd => i == text.size
  | lineStart => i == 0 || before? text i == some '\n'
  | lineEnd => i == text.size || text[i]? == some '\n'
  | lineStartCrlf =>
    i == 0 || before? text i == some '\n' ||
      (before? text i == some '\r' && text[i]? != some '\n')
  | lineEndCrlf =>
    i == text.size || text[i]? == some '\r' ||
      (text[i]? == some '\n' && before? text i != some '\r')
  | wordBorder ascii => isWordChar ascii (before? text i) != isWordChar ascii text[i]?
  | notWordBorder ascii => isWordChar ascii (before? text i) == isWordChar ascii text[i]?
  | wordStart ascii => !isWordChar ascii (before? text i) && isWordChar ascii text[i]?
  | wordEnd ascii => isWordChar ascii (before? text i) && !isWordChar ascii text[i]?
  | wordStartHalf ascii => !isWordChar ascii (before? text i)
  | wordEndHalf ascii => !isWordChar ascii text[i]?

/-! ## §3. Matching -/

/-- Runs a step a number of times, or until it changes nothing any more. -/
def iterate (step : List Position → List Position) : Nat → List Position → List Position
  | 0, here => here
  | n + 1, here =>
    let next := step here
    if next = here then here else iterate step n next

/-- Adds what up to a number of further steps reach from the newest positions. -/
def spread (step : List Position → List Position) : Nat → List Position → List Position →
    List Position
  | 0, found, _ => found
  | n + 1, found, newest =>
    let fresh := minus (step newest) found
    if fresh.isEmpty then found else spread step n (merge found fresh) fresh

/-- The ends of the matches that start in the given positions.  A round of a repetition that does
not move can be left out or done again, so `text.size + 1` rounds say all. -/
def ends (text : Array Char) : Pattern → List Position → List Position
  | empty, here => here
  | one set, here => here.filterMap fun i =>
      (text[i]?).bind fun c => if set.contains c then some (i + 1) else none
  | anchor condition, here => here.filter fun i => condition.holds text i
  | seq p q, here => q.ends text (p.ends text here)
  | alt p q, here => merge (p.ends text here) (q.ends text here)
  | rep low high p, here =>
    let rounds := text.size + 1
    let least := iterate (p.ends text) (min low rounds) here
    let more := match high with
      | none => rounds
      | some high => min (high - low) rounds
    spread (p.ends text) more least least
  | group _ p, here => p.ends text here

/-- Does the text contain a match? -/
def foundIn (p : Pattern) (text : String) : Bool :=
  let cs := text.toList.toArray
  !(p.ends cs (List.range (cs.size + 1))).isEmpty

end Pattern
end PagedTable
