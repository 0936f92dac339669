/-
  PagedTable.Pattern.Fault — why a text is not a pattern, and how that is explained.

  While a text is read, a place in it is what follows that place, so nothing has to be counted.
  A complaint says what is wrong with which stretch of the text, and with which earlier stretch it
  clashes if there is one.  A fault adds the text itself: its explanation shows the text line by
  line, marks the stretches underneath, and says what is wrong with them.  A stretch that goes on
  over the end of its line is not marked but described.

  Main interface: `Cause`, `Complaint`, `Complaint.inText`, `Fault`, `Fault.message`.
-/

namespace PagedTable.Pattern

/-! ## §1. Causes -/

/-- What can be wrong with a text that is meant as a pattern. -/
inductive Cause where
  | groupUnopened
  | groupUnclosed
  | groupNameUnclosed
  | groupNameEmpty
  | groupNameInvalid
  | groupNameDuplicate
  | flagUnclosed
  | flagUnrecognized
  | flagDuplicate
  | flagRepeatedNegation
  | flagDanglingNegation
  | lookAround
  | repetitionMissing
  | repetitionUnclosed
  | repetitionCountEmpty
  | repetitionCountTooLarge
  | repetitionCountInvalid
  | escapeUnclosed
  | escapeUnrecognized
  | backreference
  | hexEmpty
  | hexDigit
  | hexCodePoint
  /-- What a brace behind a word border begins cannot be told, for nothing follows it. -/
  | borderOrRepetitionUnclosed
  | borderUnclosed
  | borderUnrecognized
  | propertyInvalid
  | bracketUnclosed
  | bracketEscape
  | bracketRangeLiteral
  | bracketRangeOrder
  | nestedTooDeep (limit : Nat)
  /-- There is no property of that name. -/
  | propertyNotFound
  /-- The property has no value of that name. -/
  | propertyValueNotFound
  /-- A class beyond ASCII while only ASCII is admitted. -/
  | unicodeNotAllowed
  /-- The class would match parts of characters. -/
  | notText
  deriving DecidableEq, Repr

/-- What is wrong, in words. -/
def Cause.words : Cause → String
  | groupUnopened => "unopened group"
  | groupUnclosed => "unclosed group"
  | groupNameUnclosed => "unclosed capture group name"
  | groupNameEmpty => "empty capture group name"
  | groupNameInvalid => "invalid capture group character"
  | groupNameDuplicate => "duplicate capture group name"
  | flagUnclosed => "expected flag but got end of regex"
  | flagUnrecognized => "unrecognized flag"
  | flagDuplicate => "duplicate flag"
  | flagRepeatedNegation => "flag negation operator repeated"
  | flagDanglingNegation => "dangling flag negation operator"
  | lookAround => "look-around, including look-ahead and look-behind, is not supported"
  | repetitionMissing => "repetition operator missing expression"
  | repetitionUnclosed => "unclosed counted repetition"
  | repetitionCountEmpty => "repetition quantifier expects a valid decimal"
  | repetitionCountTooLarge => "decimal literal invalid"
  | repetitionCountInvalid =>
    "invalid repetition count range, the start must be <= the end"
  | escapeUnclosed => "incomplete escape sequence, reached end of pattern prematurely"
  | escapeUnrecognized => "unrecognized escape sequence"
  | backreference => "backreferences are not supported"
  | hexEmpty => "hexadecimal literal empty"
  | hexDigit => "invalid hexadecimal digit"
  | hexCodePoint => "hexadecimal literal is not a Unicode scalar value"
  | borderOrRepetitionUnclosed =>
    "found either the beginning of a special word boundary or a bounded repetition on a \\b " ++
      "with an opening brace, but no closing brace"
  | borderUnclosed =>
    "special word boundary assertion is either unclosed or contains an invalid character"
  | borderUnrecognized =>
    "unrecognized special word boundary assertion, valid choices are: " ++
      "start, end, start-half or end-half"
  | propertyInvalid => "invalid Unicode character class"
  | bracketUnclosed => "unclosed character class"
  | bracketEscape => "invalid escape sequence found in character class"
  | bracketRangeLiteral => "invalid range boundary, must be a literal"
  | bracketRangeOrder => "invalid character class range, the start must be <= the end"
  | nestedTooDeep limit =>
    s!"exceed the maximum number of nested parentheses/brackets ({limit})"
  | propertyNotFound => "Unicode property not found"
  | propertyValueNotFound => "Unicode property value not found"
  | unicodeNotAllowed => "Unicode not allowed here"
  | notText => "pattern can match invalid UTF-8"

/-! ## §2. Places -/

/-- A place in a text is what follows it. -/
abbrev Place := List Char

/-- A stretch of a text, from one place to another. -/
structure Span where
  start : Place
  stop : Place
  deriving DecidableEq, Repr

/-- The stretch of one character at a place. -/
def Span.ofChar (place : Place) : Span := ⟨place, place.tail⟩

/-- What is wrong with a stretch of a text. -/
structure Complaint where
  cause : Cause
  span : Span
  /-- The stretch further ahead that does not go together with this one. -/
  earlier : Option Span := none
  deriving DecidableEq, Repr

/-- Complains of the stretch between two places. -/
def fail (cause : Cause) (start stop : Place) : Except Complaint α :=
  .error ⟨cause, ⟨start, stop⟩, none⟩

/-- For each depth, beginning with the outermost, the first of the parts that lie so deep. -/
abbrev Depths := List Span

/-- The depths of two parts side by side. -/
def Depths.beside (first second : Depths) : Depths := first ++ second.drop first.length

/-- The depths of several parts side by side. -/
def Depths.ofParts (parts : List Depths) : Depths := parts.foldr Depths.beside []

/-! ## §3. Faults -/

/-- A line of a text and a column in it, both counted from zero. -/
structure Spot where
  line : Nat := 0
  column : Nat := 0
  deriving DecidableEq, Repr

/-- The spot behind a character. -/
def Spot.next (s : Spot) (c : Char) : Spot :=
  if c = '\n' then ⟨s.line + 1, 0⟩ else ⟨s.line, s.column + 1⟩

/-- The spot of a place in a text. -/
def Spot.ofPlace (text : List Char) (place : Place) : Spot :=
  (text.take (text.length - place.length)).foldl Spot.next {}

/-- A stretch of a text by the spots where it starts and ends. -/
structure Mark where
  start : Spot
  stop : Spot
  deriving DecidableEq, Repr

/-- The spots of a stretch. -/
def Mark.ofSpan (text : List Char) (span : Span) : Mark :=
  ⟨.ofPlace text span.start, .ofPlace text span.stop⟩

/-- Why a text is not admitted as a pattern. -/
inductive Fault where
  /-- The text does not denote a pattern; the stretches at fault are in order. -/
  | unreadable (text : String) (cause : Cause) (marks : List Mark)
  /-- The machine for the pattern takes more than so many bytes. -/
  | tooLarge (limit : Nat)
  deriving DecidableEq, Repr

/-- The fault of a text that a complaint is about. -/
def Complaint.inText (text : String) (complaint : Complaint) : Fault :=
  .unreadable text complaint.cause
    ((complaint.earlier.toList ++ [complaint.span]).map (Mark.ofSpan text.toList))

/-! ## §4. Explanations -/

/-- The lines of a text, without their ends. -/
def linesOf : List Char → List (List Char)
  | [] => []
  | '\n' :: rest => [] :: linesOf rest
  | '\r' :: '\n' :: rest => [] :: linesOf rest
  | c :: rest =>
    match linesOf rest with
    | [] => [[c]]
    | line :: lines => (c :: line) :: lines

/-- The marks of one line, from a column on; a stretch without characters gets a mark, too. -/
def underline (column : Nat) : List Mark → List Char
  | [] => []
  | mark :: rest =>
    let gap := mark.start.column - column
    let extent := max 1 (mark.stop.column - mark.start.column)
    List.replicate gap ' ' ++ List.replicate extent '^' ++ underline (column + gap + extent) rest

/-- The lines with their numbers, if these have a width, and with the marks underneath. -/
def notate (width : Nat) (marks : List Mark) (lines : List (List Char)) : List String :=
  lines.zipIdx.flatMap fun (line, i) =>
    let number := toString (i + 1)
    let margin :=
      if width = 0 then "    "
      else String.ofList (List.replicate (width - number.length) ' ') ++ number ++ ": "
    let here := marks.filter fun mark => mark.start.line = i ∧ mark.stop.line = i
    (margin ++ String.ofList line) ::
      if here.isEmpty then []
      else [String.ofList (List.replicate margin.length ' ' ++ underline 0 here)]

/-- The description of a stretch over several lines. -/
def Mark.describe (mark : Mark) : String :=
  s!"on line {mark.start.line + 1} (column {mark.start.column + 1}) " ++
    s!"through line {mark.stop.line + 1} (column {mark.stop.column})"

/-- The explanation of what is wrong with a text.  A text of several lines is shown with their
numbers, between two rules. -/
def explain (text : String) (cause : Cause) (marks : List Mark) : String :=
  let cs := text.toList
  let lines := linesOf cs
  let body :=
    if cs.contains '\n' then
      -- The end of the text is on a line of its own behind a last line feed.
      let count := lines.length + (if cs.getLast? = some '\n' then 1 else 0)
      let rule := String.ofList (List.replicate 79 '~')
      let across := marks.filter fun mark => mark.start.line ≠ mark.stop.line
      [rule] ++ notate (toString count).length marks lines ++ [rule] ++ across.map Mark.describe
    else notate 0 marks lines
  "\n".intercalate (["regex parse error:"] ++ body ++ ["error: " ++ cause.words])

/-- The text of a fault. -/
def Fault.message : Fault → String
  | unreadable text cause marks => explain text cause marks
  | tooLarge limit => s!"Compiled regex exceeds size limit of {limit} bytes."

end PagedTable.Pattern
