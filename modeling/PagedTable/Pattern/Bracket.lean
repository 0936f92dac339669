/-
  PagedTable.Pattern.Bracket — character classes in brackets.

  A class holds characters, ranges, escapes, named ASCII classes and further classes, and may
  combine what stands left and right of `&&` (both), `--` (only left) or `~~` (one of the two);
  these group from the left.  A hyphen at either end and a closing bracket at the start stand for
  themselves.

  Main interface: `Bracket.parse`.
-/
import PagedTable.Pattern.Escape

namespace PagedTable.Pattern

/-- A part of a class, where it stands, and how brackets and operations nest in it. -/
structure Bracket.Part where
  set : CharSet
  span : Span
  depths : Depths := []
  deriving DecidableEq, Repr

namespace Bracket

/-! ## §1. Parts -/

/-- The operations between parts of a class. -/
inductive Operation where
  | both
  | onlyLeft
  | oneOf
  deriving DecidableEq, Repr

/-- The set that an operation makes of its two sides. -/
def Operation.apply : Operation → CharSet → CharSet → CharSet
  | both, a, b => .inter a b
  | onlyLeft, a, b => .diff a b
  | oneOf, a, b => .symmDiff a b

/-- A part that other parts nest in. -/
def Part.around (set : CharSet) (span : Span) (depths : Depths) : Part :=
  ⟨set, span, span :: depths⟩

/-- The parts side by side; the last one comes first.  No parts are at the given place. -/
def Part.join (start : Place) : List Part → Part
  | [] => ⟨.empty, ⟨start, start⟩, []⟩
  | [part] => part
  | last :: before =>
    let parts := (last :: before).reverse
    let first := parts.headD last
    .around (.unionAll (parts.map (·.set))) ⟨first.span.start, last.span.stop⟩
      (.ofParts (parts.map (·.depths)))

/-- What is still open around the current parts. -/
inductive Frame where
  /-- A bracket that was opened with a stretch of the text, with the parts before it. -/
  | bracket (opened : Span) (before : List Part) (negated : Bool)
  /-- The left side of an operation. -/
  | operation (op : Operation) (left : Part)
  deriving DecidableEq, Repr

/-- Completes the operation that waits for a right side, if there is one. -/
def applyPending (right : Part) : List Frame → Part × List Frame
  | .operation op left :: rest =>
    (.around (op.apply left.set right.set) ⟨left.span.start, right.span.stop⟩
      (.beside left.depths right.depths), rest)
  | frames => (right, frames)

/-- The complaint that the innermost bracket is not closed. -/
def unclosed : List Frame → Except Complaint α
  | .bracket opened _ _ :: _ => fail .bracketUnclosed opened.start opened.stop
  | .operation _ _ :: rest => unclosed rest
  | [] => fail .bracketUnclosed [] []

/-! ## §2. Items -/

/-- The ASCII class with a name. -/
def asciiClass? (name : String) : Option CharSet :=
  let letterOrDigit := CharSet.union .asciiDigit .asciiLetter
  if name = "alnum" then some letterOrDigit
  else if name = "alpha" then some .asciiLetter
  else if name = "ascii" then some .ascii
  else if name = "blank" then some (.union (.single '\t') (.single ' '))
  else if name = "cntrl" then some (.union (.range '\x00' '\x1f') (.single '\x7f'))
  else if name = "digit" then some .asciiDigit
  else if name = "graph" then some (.range '!' '~')
  else if name = "lower" then some (.range 'a' 'z')
  else if name = "print" then some (.range ' ' '~')
  else if name = "punct" then some (.diff (.range '!' '~') letterOrDigit)
  else if name = "space" then some .asciiBlank
  else if name = "upper" then some (.range 'A' 'Z')
  else if name = "word" then some .asciiWord
  else if name = "xdigit" then
    some (.unionAll [.asciiDigit, .range 'A' 'F', .range 'a' 'f'])
  else none

/-- A named ASCII class behind an opening bracket: whether it is negated, the class, and what
follows it.  Anything else is no fault, but a bracket of its own. -/
def asciiNamed? (cs : List Char) : Option (Bool × CharSet × List Char) :=
  match cs with
  | ':' :: rest =>
    let (negated, rest) : Bool × List Char :=
      match rest with
      | '^' :: rest => (true, rest)
      | rest => (false, rest)
    match rest.span (· != ':') with
    | (name, ':' :: ']' :: rest) =>
      (asciiClass? (String.ofList name)).map fun named => (negated, named, rest)
    | _ => none
  | _ => none

/-- The complement of a part, if asked for.  Without Unicode a complement would match parts of
characters. -/
def Part.complIf (f : Flags) (negated : Bool) (part : Part) : Except Complaint Part :=
  if negated ∧ f.strictlyAscii then fail .notText part.span.start part.span.stop
  else .ok { part with set := part.set.complIf negated }

/-- Checks an atom that is to be a character of a class. -/
def checkChar (f : Flags) (atom : Atom) (span : Span) : Except Complaint Unit :=
  match atom with
  | .byte _ => if f.strictlyAscii then fail .notText span.start span.stop else .ok ()
  | .char c =>
    if f.strictlyAscii ∧ 0x80 ≤ c.toNat then fail .unicodeNotAllowed span.start span.stop
    else .ok ()
  | _ => .ok ()

/-- The set of a single atom. -/
def ofSingle (f : Flags) (atom : Atom) (span : Span) : Except Complaint CharSet := do
  checkChar f atom span
  match atom with
  | .char c | .byte c => return .like f.folding c
  | .set s => return s
  | .anchor _ => fail .bracketEscape span.start span.stop

/-- The set of a range between two atoms. -/
def ofRange (f : Flags) (low high : Atom) (lowSpan highSpan : Span) :
    Except Complaint CharSet := do
  let some a := low.char? | fail .bracketRangeLiteral lowSpan.start lowSpan.stop
  let some b := high.char? | fail .bracketRangeLiteral highSpan.start highSpan.stop
  if b < a then fail .bracketRangeOrder lowSpan.start highSpan.stop
  checkChar f low lowSpan
  checkChar f high highSpan
  return (CharSet.range a b).close f.folding

/-- The character or escape at the start. -/
def readAtom (f : Flags) (frames : List Frame) : List Char → Except Complaint (Atom × List Char)
  | [] => unclosed frames
  | '\\' :: rest => Atom.ofEscape f rest
  | c :: rest => .ok (.char c, rest)

/-- The character that is next after a hyphen: blanks and the sign of a comment are passed over
in verbose patterns, unless nothing comes behind them. -/
def afterHyphen? (f : Flags) (cs : List Char) : Option Char :=
  if !f.verbose then cs.head?
  else
    let passed :=
      match cs.dropWhile isBlankChar with
      | '#' :: rest => rest.dropWhile isBlankChar
      | rest => rest
    (passed.head?).orElse fun _ => cs.head?

/-- Does a hyphen follow that makes a range?  One before another hyphen or a closing bracket does
not. -/
def beginsRange (f : Flags) : List Char → Bool
  | '-' :: behind =>
    afterHyphen? f behind != some ']' && afterHyphen? f behind != some '-'
  | _ => false

/-- A character, an escape or a range, inside of frames. -/
def readItem (f : Flags) (frames : List Frame) (cs : List Char) :
    Except Complaint (Part × List Char) := do
  let (atom, rest) ← readAtom f frames cs
  match f.skip rest with
  | [] => unclosed frames
  | here =>
    if beginsRange f here then
      let behind := f.skip here.tail
      let (high, stop) ← readAtom f frames behind
      let set ← ofRange f atom high ⟨cs, rest⟩ ⟨behind, stop⟩
      return (⟨set, ⟨cs, stop⟩, []⟩, stop)
    else
      let set ← ofSingle f atom ⟨cs, rest⟩
      return (⟨set, ⟨cs, rest⟩, []⟩, here)

/-! ## §3. Whole classes -/

/-- The state between two items: the frames around the current parts, innermost first, and where
the parts begin. -/
structure State where
  frames : List Frame
  start : Place
  parts : List Part
  deriving DecidableEq, Repr

/-- Opens a bracket, given what follows it: a caret says that the class is negated, and hyphens or
a closing bracket stand for themselves. -/
def openBracket (f : Flags) (frames : List Frame) (before : List Part) (inner : List Char) :
    Except Complaint (State × List Char) := do
  let bracket := '[' :: inner
  let (negated, start) : Bool × List Char :=
    match f.skip inner with
    | '^' :: rest => (true, f.skip rest)
    | rest => (false, rest)
  let part (place : Place) (c : Char) : Part := ⟨.like f.folding c, .ofChar place, []⟩
  let (parts, rest) : List Part × List Char ←
    match f.placesWhile (· == '-') false start with
    | ([], ']' :: rest) => .ok ([part start ']'], f.skip rest)
    | ([], rest) => .ok ([], rest)
    | (_, []) => fail .bracketUnclosed bracket bracket
    | (hyphens, rest) => .ok ((hyphens.map (part · '-')).reverse, rest)
  if rest.isEmpty then fail .bracketUnclosed bracket []
  return (⟨.bracket ⟨bracket, rest⟩ before negated :: frames, start, parts⟩, rest)

/-- Puts the parts so far to the left of an operation, which ends at a place. -/
def State.operate (s : State) (op : Operation) (stop : Place) : State :=
  let (left, frames) := applyPending (.join s.start s.parts) s.frames
  ⟨.operation op left :: frames, stop, []⟩

/-- Closes the innermost bracket up to a place: the class, or the state around it if it is not
the last. -/
def State.close (f : Flags) (s : State) (stop : Place) : Except Complaint (Part ⊕ State) :=
  match applyPending (.join s.start s.parts) s.frames with
  | (inner, .bracket opened before negated :: frames) => do
    let part ← (Part.around inner.set ⟨opened.start, stop⟩ inner.depths).complIf f negated
    return if frames.isEmpty then .inl part else .inr ⟨frames, opened.start, part :: before⟩
  | (inner, _) => .ok (.inl inner)

/-- Reads items up to the end of the class; `fuel` is at least the length of the text. -/
def readItems (f : Flags) :
    (fuel : Nat) → State → List Char → Except Complaint (Part × List Char)
  | 0, s, _ => unclosed s.frames
  | fuel + 1, s, cs =>
    match f.skip cs with
    | [] => unclosed s.frames
    | '[' :: rest =>
      match asciiNamed? rest with
      | some (negated, named, stop) => do
        let part ← Part.complIf f negated ⟨named.close f.folding, ⟨'[' :: rest, stop⟩, []⟩
        readItems f fuel { s with parts := part :: s.parts } stop
      | none => do
        let (s, rest) ← openBracket f s.frames s.parts rest
        readItems f fuel s rest
    | ']' :: rest => do
      match ← s.close f rest with
      | .inl part => return (part, rest)
      | .inr s => readItems f fuel s rest
    | '&' :: '&' :: rest => readItems f fuel (s.operate .both rest) rest
    | '-' :: '-' :: rest => readItems f fuel (s.operate .onlyLeft rest) rest
    | '~' :: '~' :: rest => readItems f fuel (s.operate .oneOf rest) rest
    | cs => do
      let (item, rest) ← readItem f s.frames cs
      readItems f fuel { s with parts := item :: s.parts } rest

/-- Reads a class, given what follows its opening bracket. -/
def parse (f : Flags) (cs : List Char) : Except Complaint (Part × List Char) := do
  let (s, rest) ← openBracket f [] [] cs
  readItems f (cs.length + 1) s rest

end Bracket
end PagedTable.Pattern
