/-
  PagedTable.Pattern.Parser — reading patterns.

  The text is read part by part.  What a directive such as `(?i)` sets holds up to the end of the
  innermost group, also across alternatives.  Names of groups only have to be well formed and
  different; look-around and references to groups are not part of the language.  Parts may nest
  250 deep.

  A text is read twice, first for its form and then for the meaning of its classes, so a class
  without meaning is no fault before the whole text has a form.

  Main interface: `Pattern.read`, `Pattern.parse`.
-/
import PagedTable.Pattern.Bracket
import PagedTable.Power

namespace PagedTable.Pattern

/-! ## §1. The state of the reader -/

/-- A pattern and how its parts nest. -/
structure Node where
  pattern : Pattern
  depths : Depths := []
  deriving DecidableEq, Repr

/-- A node that other nodes nest in, over a stretch of the text. -/
def Node.around (pattern : Pattern) (span : Span) (depths : Depths) : Node :=
  ⟨pattern, span :: depths⟩

/-- How deeply parts may nest. -/
def maxHeight : Nat := 250

/-- An element of a concatenation; `none` is a directive, which matches nothing by itself. -/
abbrev Element := Option Node

/-- The elements one after the other, over a stretch of the text; the last comes first. -/
def Node.ofElements (span : Span) : List Element → Node
  | [] => ⟨.empty, []⟩
  | [element] => element.getD ⟨.empty, []⟩
  | elements =>
    .around (seqAll (elements.reverse.map fun e => e.elim .empty (·.pattern))) span
      (.ofParts (elements.reverse.map fun e => e.elim [] (·.depths)))

/-- The alternatives of a group before the current one, and the elements of the current one.  The
last comes first. -/
structure Level where
  /-- Where the first alternative begins. -/
  opened : Place
  /-- Where the current alternative begins. -/
  start : Place
  /-- Where the last element begins. -/
  last : Place
  alternatives : List Node := []
  elements : List Element := []
  deriving DecidableEq, Repr

namespace Level

/-- The level that begins at a place. -/
def openedAt (place : Place) : Level := { opened := place, start := place, last := place }

/-- The current alternative, which ends at a place. -/
def current (level : Level) (stop : Place) : Node := .ofElements ⟨level.start, stop⟩ level.elements

/-- The pattern of a level that ends at a place. -/
def node (level : Level) (stop : Place) : Node :=
  match level.alternatives with
  | [] => level.current stop
  | alternatives =>
    let nodes := (level.current stop :: alternatives).reverse
    .around (altAll (nodes.map (·.pattern))) ⟨level.opened, stop⟩
      (.ofParts (nodes.map (·.depths)))

end Level

/-- What is around an open group, where its parenthesis is, and the number of the group if it has
one. -/
structure Around where
  level : Level
  flags : Flags
  opened : Place
  number : Option Nat
  deriving DecidableEq, Repr

/-- The name of a group and where it stands. -/
structure GroupName where
  name : List Char
  span : Span
  deriving DecidableEq, Repr

/-- What the reader knows between two parts. -/
structure State where
  flags : Flags
  level : Level
  /-- The groups that are open, innermost first. -/
  outer : List Around := []
  /-- The names of groups so far. -/
  names : List GroupName := []
  /-- How many groups have been numbered. -/
  numbered : Nat := 0
  deriving DecidableEq, Repr

namespace State

/-- Appends an element that begins at a place to the current alternative. -/
def push (s : State) (element : Element) (start : Place) : State :=
  { s with level := { s.level with elements := element :: s.level.elements, last := start } }

/-- Ends the current alternative at a place and starts another one. -/
def alternate (s : State) (stop rest : Place) : State :=
  { s with level := { s.level with
    alternatives := s.level.current stop :: s.level.alternatives, elements := [],
    start := rest, last := rest } }

/-- Opens a group at a parenthesis: its contents, what the flags are there, and its number. -/
def openWith (s : State) (opened contents : Place) (inside : Flags) (number : Option Nat) : State :=
  { s with flags := inside, level := .openedAt contents,
           outer := ⟨s.level, s.flags, opened, number⟩ :: s.outer }

/-- Opens the group with the next number. -/
def openNumbered (s : State) (opened contents : Place) : State :=
  { s.openWith opened contents s.flags (some (s.numbered + 1)) with numbered := s.numbered + 1 }

/-- Closes the innermost group with the parenthesis at a place. -/
def closeGroup (s : State) (place : Place) : Except Complaint State :=
  match s.outer with
  | [] => .error ⟨.groupUnopened, .ofChar place, none⟩
  | ⟨level, flags, opened, number⟩ :: outer =>
    let inner := s.level.node place
    let group := Node.around (.group number inner.pattern) ⟨opened, place.tail⟩ inner.depths
    .ok ({ s with flags, level, outer }.push (some group) opened)

/-- The last element, which the repetition at a place is about, and those before it. -/
def popLast (s : State) (place : Place) : Except Complaint (Node × List Element) :=
  match s.level.elements with
  | some node :: before => .ok (node, before)
  | _ => fail .repetitionMissing place place

/-- Replaces the last element by a repetition of it that ends at a place. -/
def repeatLast (s : State) (last : Node × List Element) (low : Nat) (high : Option Nat)
    (stop : Place) : State :=
  let node := Node.around (.rep low high last.1.pattern) ⟨s.level.last, stop⟩ last.1.depths
  { s with level := { s.level with elements := some node :: last.2 } }

end State

/-! ## §2. Repetitions -/

/-- Drops the question mark that makes a repetition reluctant; it does not change what is
found. -/
def dropReluctant : List Char → List Char
  | '?' :: rest => rest
  | cs => cs

/-- Reads a repetition by a sign at a place. -/
def readSign (s : State) (low : Nat) (high : Option Nat) (place : Place) :
    Except Complaint (State × List Char) := do
  let last ← s.popLast place
  let rest := dropReluctant place.tail
  return (s.repeatLast last low high rest, rest)

/-- A count, with blanks around it, and what follows it.  The count is checked later than what
follows. -/
def readCount (f : Flags) (cs : List Char) : Except Complaint Nat × List Char :=
  let start := cs.dropWhile isBlankChar
  let (digits, stop) := f.spanWhile Char.isDigit start
  let n := digits.foldl (fun n c => n * 10 + (c.toNat - '0'.toNat)) 0
  let count :=
    if digits.isEmpty then fail .repetitionCountEmpty start stop
    else if n < twoTo 32 then .ok n
    else fail .repetitionCountTooLarge start stop
  (count, stop.dropWhile isBlankChar)

/-- The counts between braces: one count, a count and a comma, or two counts.  The opening brace
is at the given place; the result starts with the closing one, or with what stands there. -/
def readCounts (f : Flags) (brace : Place) :
    Except Complaint ((Nat × Option Nat) × List Char) := do
  match f.skip brace.tail with
  | [] => fail .repetitionUnclosed brace []
  | here =>
    match readCount f here with
    | (_, []) => fail .repetitionUnclosed brace []
    | (low, ',' :: behind) =>
      match f.skip behind with
      | [] => fail .repetitionUnclosed brace []
      | '\x7d' :: rest => return ((← low, none), '\x7d' :: rest)
      | here =>
        let low ← low
        let (high, rest) := readCount f here
        return ((low, some (← high)), rest)
    | (low, rest) =>
      let low ← low
      return ((low, some low), rest)

/-- Reads a repetition by counts between braces, the opening one at a place. -/
def readCounted (s : State) (brace : Place) : Except Complaint (State × List Char) := do
  let last ← s.popLast brace
  let ((low, high), here) ← readCounts s.flags brace
  if here.head? ≠ some '\x7d' then fail .repetitionUnclosed brace here
  let rest := dropReluctant (s.flags.skip here.tail)
  if high.any (· < low) then fail .repetitionCountInvalid brace rest
  return (s.repeatLast last low high rest, rest)

/-! ## §3. Groups and directives -/

/-- The letters of flags; greed has no effect on what is found. -/
inductive FlagName where
  | ignoreCase
  | multiLine
  | dotAll
  | swapGreed
  | unicode
  | crlf
  | verbose
  deriving DecidableEq, Repr

/-- The flag that a letter names. -/
def FlagName.ofChar? (c : Char) : Option FlagName :=
  if c = 'i' then some ignoreCase
  else if c = 'm' then some multiLine
  else if c = 's' then some dotAll
  else if c = 'U' then some swapGreed
  else if c = 'u' then some unicode
  else if c = 'R' then some crlf
  else if c = 'x' then some verbose
  else none

/-- Sets or clears a flag. -/
def Flags.set (f : Flags) (value : Bool) : FlagName → Flags
  | .ignoreCase => { f with ignoreCase := value }
  | .multiLine => { f with multiLine := value }
  | .dotAll => { f with dotAll := value }
  | .swapGreed => f
  | .unicode => { f with unicode := value }
  | .crlf => { f with crlf := value }
  | .verbose => { f with verbose := value }

/-- The flags read so far in a directive, with where each was read. -/
structure Directive where
  flags : Flags
  seen : List (FlagName × Place) := []
  /-- Where the minus sign is, once it has been read. -/
  negation : Option Place := none
  /-- Nothing has come after the minus sign. -/
  dangling : Bool := false
  deriving DecidableEq, Repr

namespace Directive

/-- Adds the minus sign at a place. -/
def negate (d : Directive) (place : Place) : Except Complaint Directive :=
  match d.negation with
  | some first => .error ⟨.flagRepeatedNegation, .ofChar place, some (.ofChar first)⟩
  | none => .ok { d with negation := some place, dangling := true }

/-- Adds the flag at a place. -/
def add (d : Directive) (flag : FlagName) (place : Place) : Except Complaint Directive :=
  match d.seen.lookup flag with
  | some first => .error ⟨.flagDuplicate, .ofChar place, some (.ofChar first)⟩
  | none =>
    .ok { d with flags := d.flags.set d.negation.isNone flag, seen := (flag, place) :: d.seen,
                 dangling := false }

/-- Checks that something comes after the minus sign. -/
def finish (d : Directive) : Except Complaint Unit :=
  match d.negation with
  | some place =>
    if d.dangling then .error ⟨.flagDanglingNegation, .ofChar place, none⟩ else .ok ()
  | none => .ok ()

end Directive

/-- Reads flags up to the colon or the parenthesis behind them. -/
def readFlags (d : Directive) : List Char → Except Complaint (Directive × Char × List Char)
  | [] => fail .flagUnclosed [] []
  | c :: rest =>
    if c = ':' ∨ c = ')' then do
      d.finish
      return (d, c, rest)
    else if c = '-' then do
      readFlags (← d.negate (c :: rest)) rest
    else do
      let some flag := FlagName.ofChar? c | fail .flagUnrecognized (c :: rest) rest
      readFlags (← d.add flag (c :: rest)) rest

/-- Can the character stand in the name of a group, or at its start? -/
def isNameChar (first : Bool) (c : Char) : Bool :=
  c == '_' || CharSet.nameLetter.contains c ||
    (!first && (".[]".toList.contains c || CharSet.nameNumber.contains c))

/-- Reads the name of a group up to the angle bracket behind it. -/
def readName (first : Bool) : List Char → Except Complaint (List Char × List Char)
  | [] => fail .groupNameUnclosed [] []
  | '>' :: rest => .ok ([], '>' :: rest)
  | c :: rest => do
    if !isNameChar first c then fail .groupNameInvalid (c :: rest) rest
    let (name, rest) ← readName false rest
    return (c :: name, rest)

/-- Reads the name of a group and opens the group at a parenthesis. -/
def openNamed (s : State) (opened cs : Place) : Except Complaint (State × List Char) := do
  let (name, stop) ← readName true cs
  if name.isEmpty then fail .groupNameEmpty cs cs
  match s.names.find? (·.name == name) with
  | some first => .error ⟨.groupNameDuplicate, ⟨cs, stop⟩, some first.span⟩
  | none =>
    let s := { s with names := ⟨name, ⟨cs, stop⟩⟩ :: s.names }
    return (s.openNumbered opened stop.tail, stop.tail)

/-- Reads the group or directive whose parenthesis is at a place. -/
def readGroup (s : State) (opened : Place) : Except Complaint (State × List Char) :=
  match s.flags.skip opened.tail with
  | '?' :: '=' :: rest | '?' :: '!' :: rest | '?' :: '<' :: '=' :: rest
  | '?' :: '<' :: '!' :: rest => fail .lookAround opened rest
  | '?' :: 'P' :: '<' :: rest | '?' :: '<' :: rest => openNamed s opened rest
  | ['?'] => .error ⟨.groupUnclosed, .ofChar opened, none⟩
  | '?' :: rest => do
    let (d, stop, behind) ← readFlags { flags := s.flags } rest
    if stop = ':' then return (s.openWith opened behind d.flags none, behind)
    if d.seen.isEmpty then fail .repetitionMissing ('?' :: rest) ('?' :: rest)
    return ({ s with flags := d.flags }.push none opened, behind)
  | rest => .ok (s.openNumbered opened rest, rest)

/-! ## §4. Patterns -/

/-- The characters that a dot stands for. -/
def dotSet (f : Flags) : CharSet :=
  if f.dotAll then .all
  else if f.crlf then .compl (.union (.single '\r') (.single '\n'))
  else .compl (.single '\n')

/-- The condition that `^` stands for. -/
def startAnchor (f : Flags) : Anchor :=
  if !f.multiLine then .textStart else if f.crlf then .lineStartCrlf else .lineStart

/-- The condition that `$` stands for. -/
def endAnchor (f : Flags) : Anchor :=
  if !f.multiLine then .textEnd else if f.crlf then .lineEndCrlf else .lineEnd

/-- The pattern of an atom over a stretch of the text. -/
def ofAtom (f : Flags) (span : Span) : Atom → Except Complaint Pattern
  | .char c => .ok (.one (.like f.folding c))
  | .byte c =>
    if f.strict then fail .notText span.start span.stop else .ok (.one (.like f.folding c))
  | .set s => .ok (.one s)
  | .anchor a => .ok (.anchor a)

/-- Reads one part, given its first character. -/
def readPart (s : State) (c : Char) (rest : List Char) : Except Complaint (State × List Char) :=
  let f := s.flags
  let place := c :: rest
  let single (p : Pattern) : State := s.push (some ⟨p, []⟩) place
  if c = '(' then readGroup s place
  else if c = ')' then (s.closeGroup place).map (·, rest)
  else if c = '|' then .ok (s.alternate place rest, rest)
  else if c = '[' then do
    let (part, rest) ← Bracket.parse f rest
    return (s.push (some ⟨.one part.set, part.depths⟩) place, rest)
  else if c = '?' then readSign s 0 (some 1) place
  else if c = '*' then readSign s 0 none place
  else if c = '+' then readSign s 1 none place
  else if c = '\x7b' then readCounted s place
  else if c = '\\' then do
    let (atom, behind) ← Atom.ofEscape f rest
    return (single (← ofAtom f ⟨place, behind⟩ atom), behind)
  else if c = '.' then
    if f.strictlyAscii then fail .notText place rest else .ok (single (.one (dotSet f)), rest)
  else if c = '^' then .ok (single (.anchor (startAnchor f)), rest)
  else if c = '$' then .ok (single (.anchor (endAnchor f)), rest)
  else .ok (single (.one (.like f.folding c)), rest)

/-- Reads all parts; `fuel` is at least the length of the text. -/
def readParts : (fuel : Nat) → State → List Char → Except Complaint State
  | 0, s, _ => .ok s
  | fuel + 1, s, cs =>
    match s.flags.skip cs with
    | [] => .ok s
    | c :: rest => do
      let (s, rest) ← readPart s c rest
      readParts fuel s rest

/-- The pattern that has been read at the end of the text. -/
def State.finish (s : State) : Except Complaint Pattern :=
  match s.outer with
  | around :: _ => .error ⟨.groupUnclosed, .ofChar around.opened, none⟩
  | [] =>
    let node := s.level.node []
    match node.depths[maxHeight]? with
    | some span => .error ⟨.nestedTooDeep maxHeight, span, none⟩
    | none => .ok node.pattern

/-- Reads a text under flags. -/
def read (f : Flags) (cs : List Char) : Except Complaint Pattern := do
  let s ← readParts (cs.length + 1) { flags := f, level := .openedAt cs } cs
  s.finish

/-- Reads a pattern; `ignoreCase` says whether letters match in both cases from the start. -/
def parse (text : String) (ignoreCase : Bool) : Except Fault Pattern :=
  let reading : Except Complaint Pattern := do
    let _ ← read { ignoreCase, strict := false } text.toList
    read { ignoreCase } text.toList
  reading.mapError (·.inText text)

end PagedTable.Pattern
