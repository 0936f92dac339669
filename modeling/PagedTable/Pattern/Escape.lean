/-
  PagedTable.Pattern.Escape — what a backslash introduces.

  An escape stands for a character, a set of characters or a condition on the position.  Every
  ASCII character that is not a letter, a digit or an angle bracket can be escaped and then
  stands for itself.

  Main interface: `Atom`, `Atom.ofEscape`, `escape` (a text as a pattern for itself).
-/
import PagedTable.Pattern.Basic
import PagedTable.Pattern.Fault
import PagedTable.Pattern.Flags
import PagedTable.Pattern.Property
import PagedTable.Text.Hex

namespace PagedTable.Pattern

/-! ## §1. Characters with a meaning -/

/-- The characters that can have a meaning of their own in a pattern. -/
def isOperator (c : Char) : Bool := "\\.+*?()|[]\x7b\x7d^$#&-~".toList.contains c

/-- The text as a pattern that means the text itself. -/
def escape (text : String) : String :=
  String.ofList (text.toList.flatMap fun c => if isOperator c then ['\\', c] else [c])

/-- Can a backslash before the character be written, without giving it a meaning? -/
def isEscapable (c : Char) : Bool :=
  isOperator c || (c.toNat < 0x80 && !c.isAlphanum && c != '<' && c != '>')

/-! ## §2. Atoms -/

/-- The smallest parts of a pattern. -/
inductive Atom where
  | char (c : Char)
  /-- A byte beyond ASCII, written where the pattern is not in Unicode.  It is no text on its
  own, but has the number of the character. -/
  | byte (c : Char)
  | set (s : CharSet)
  | anchor (a : Anchor)
  deriving DecidableEq, Repr

/-- The character that an atom is or has the number of. -/
def Atom.char? : Atom → Option Char
  | char c | byte c => some c
  | set _ | anchor _ => none

namespace Atom

/-- Is the character a hexadecimal digit? -/
def isHexDigit (c : Char) : Bool := (hexDigit? c).isSome

/-- The character with the code point that hexadecimal digits denote; the digits span a stretch
of the text. -/
def ofDigits (digits : List Char) (span : Span) : Except Complaint Char :=
  let n := digits.foldl (fun n c => n * 16 + (hexDigit? c).getD 0) 0
  if n.isValidChar then .ok (Char.ofNat n) else fail .hexCodePoint span.start span.stop

/-- Any count of hexadecimal digits and a closing brace, given what follows the opening one. -/
def ofHexBraces (f : Flags) (inner : List Char) : Except Complaint (Atom × List Char) :=
  let brace := '\x7b' :: inner
  match f.spanWhile isHexDigit inner with
  | (_, []) => fail .escapeUnclosed brace []
  | (digits, '\x7d' :: behind) => do
    let rest := f.skip behind
    if digits.isEmpty then fail .hexEmpty brace rest
    let c ← ofDigits digits ⟨inner, '\x7d' :: behind⟩
    return (.char c, rest)
  | (_, here) => .error ⟨.hexDigit, .ofChar here, none⟩

/-- So many hexadecimal digits, with what may be skipped left out. -/
def takeDigits (f : Flags) : Nat → List Char → Except Complaint (List Char × List Char)
  | 0, cs => .ok ([], cs)
  | _ + 1, [] => fail .escapeUnclosed [] []
  | n + 1, c :: rest => do
    if !isHexDigit c then fail .hexDigit (c :: rest) rest
    let (digits, rest) ← takeDigits f n (f.skip rest)
    return (c :: digits, rest)

/-- A hexadecimal escape with the given count of digits, or any count in braces. -/
def ofHex (f : Flags) (count : Nat) (cs : List Char) : Except Complaint (Atom × List Char) :=
  match f.skip cs with
  | [] => fail .escapeUnclosed [] []
  | '\x7b' :: inner => ofHexBraces f inner
  | here => do
    let (digits, rest) ← takeDigits f count here
    let c ← ofDigits digits ⟨here, rest⟩
    -- Two digits can mean a byte.
    return (if count = 2 ∧ !f.unicode ∧ 0x80 ≤ c.toNat then .byte c else .char c, rest)

/-- A property between braces: a name, or a property and its value.  The flag says whether the
characters without the property are meant, which is what `!=` says: `\p{gc!=Lu}` matches `a`
and not `A`, `\P{gc!=Lu}` the other way. -/
def propertySet (name : List Char) : Except Cause (CharSet × Bool) :=
  match splitAt? "!=".toList name with
  | some (property, value) => (CharSet.propertyValue property value).map (·, true)
  | none =>
    match (splitAt? [':'] name).orElse fun _ => splitAt? ['='] name with
    | some (property, value) => (CharSet.propertyValue property value).map (·, false)
    | none => (CharSet.property (String.ofList name)).map (·, false)
where
  /-- The parts before and behind the first occurrence of a separator. -/
  splitAt? (separator : List Char) : List Char → Option (String × String)
    | [] => none
    | c :: rest =>
      if separator.isPrefixOf (c :: rest) then
        some ("", String.ofList ((c :: rest).drop separator.length))
      else (splitAt? separator rest).map fun (a, b) => (String.ofList (c :: a.toList), b)

/-- The name of a property, and what follows it: what braces hold, or one character. -/
def propertyName (f : Flags) (cs : List Char) : Except Complaint (List Char × List Char) :=
  match f.skip cs with
  | [] => fail .escapeUnclosed [] []
  | '\x7b' :: inner =>
    match f.untilBrace? inner with
    | none => fail .escapeUnclosed [] []
    | some found => .ok found
  | '\\' :: rest => fail .propertyInvalid ('\\' :: rest) rest
  | c :: rest => .ok ([c], f.skip rest)

/-- A property escape that starts at a place. -/
def ofProperty (f : Flags) (negated : Bool) (start : Place) (cs : List Char) :
    Except Complaint (Atom × List Char) := do
  let (name, rest) ← propertyName f cs
  if !f.strict then return (.set .empty, rest)
  if !f.unicode then fail .unicodeNotAllowed start rest
  match propertySet name with
  | .error cause => fail cause start rest
  | .ok (found, without) =>
    return (.set ((found.close f.folding).complIf (negated != without)), rest)

/-- The classes of digits, blanks and words, and their complements.  Beyond ASCII a complement
would match parts of characters. -/
def ofClassLetter (f : Flags) (c : Char) (start rest : Place) : Except Complaint Atom :=
  let plain :=
    if c = 'd' ∨ c = 'D' then if f.unicode then CharSet.digit else CharSet.asciiDigit
    else if c = 's' ∨ c = 'S' then if f.unicode then CharSet.blank else CharSet.asciiBlank
    else if f.unicode then CharSet.word else CharSet.asciiWord
  if c.isUpper ∧ f.strictlyAscii then fail .notText start rest
  else .ok (.set (plain.complIf c.isUpper))

/-- The side of a word border that a name in braces means. -/
def borderSide? (ascii : Bool) (name : String) : Option Anchor :=
  if name = "start" then some (.wordStart ascii)
  else if name = "end" then some (.wordEnd ascii)
  else if name = "start-half" then some (.wordStartHalf ascii)
  else if name = "end-half" then some (.wordEndHalf ascii)
  else none

/-- A word border that starts at a place, or one side of it when a name in braces follows.  Other
braces do not belong to the border. -/
def ofBorder (f : Flags) (start : Place) (cs : List Char) : Except Complaint (Atom × List Char) :=
  let isNameChar (c : Char) : Bool := c.isAlpha || c == '-'
  let plain : Atom := .anchor (.wordBorder (!f.unicode))
  match cs with
  | '\x7b' :: behind =>
    match f.skip behind with
    | [] => fail .borderOrRepetitionUnclosed start []
    | c :: inner =>
      if !isNameChar c then .ok (plain, cs)
      else
        match f.spanWhile isNameChar (c :: inner) with
        | (name, '\x7d' :: rest) =>
          match borderSide? (!f.unicode) (String.ofList name) with
          | some side => .ok (.anchor side, rest)
          | none => fail .borderUnrecognized (c :: inner) ('\x7d' :: rest)
        | (_, rest) => fail .borderUnclosed cs rest
  | _ => .ok (plain, cs)

/-- The atom of an escape, given what follows the backslash. -/
def ofEscape (f : Flags) (cs : List Char) : Except Complaint (Atom × List Char) :=
  let start := '\\' :: cs
  match cs with
  | [] => fail .escapeUnclosed start []
  | c :: rest =>
    if c.isDigit then fail .backreference start rest
    else if c = 'x' then ofHex f 2 rest
    else if c = 'u' then ofHex f 4 rest
    else if c = 'U' then ofHex f 8 rest
    else if c = 'p' then ofProperty f false start rest
    else if c = 'P' then ofProperty f true start rest
    else if "dDsSwW".toList.contains c then (ofClassLetter f c start rest).map (·, rest)
    else if isEscapable c then .ok (.char c, rest)
    else if c = 'a' then .ok (.char '\x07', rest)
    else if c = 'f' then .ok (.char '\x0c', rest)
    else if c = 't' then .ok (.char '\t', rest)
    else if c = 'n' then .ok (.char '\n', rest)
    else if c = 'r' then .ok (.char '\r', rest)
    else if c = 'v' then .ok (.char '\x0b', rest)
    else if c = 'A' then .ok (.anchor .textStart, rest)
    else if c = 'z' then .ok (.anchor .textEnd, rest)
    else if c = 'b' then ofBorder f start rest
    else if c = 'B' then .ok (.anchor (.notWordBorder (!f.unicode)), rest)
    else if c = '<' then .ok (.anchor (.wordStart (!f.unicode)), rest)
    else if c = '>' then .ok (.anchor (.wordEnd (!f.unicode)), rest)
    else fail .escapeUnrecognized start rest

end Atom
end PagedTable.Pattern
