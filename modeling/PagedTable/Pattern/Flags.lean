/-
  PagedTable.Pattern.Flags — the flags a pattern is read under, and what they let be skipped.

  In verbose patterns blanks, and comments from `#` to the end of the line, can stand between
  the parts of the pattern.

  Main interface: `Flags`, `Flags.skip`, `Flags.spanWhile`, `Flags.untilBrace?`.
-/
import PagedTable.Pattern.CharSet
import PagedTable.Pattern.Fault

namespace PagedTable.Pattern

/-- The flags at a place of a pattern. -/
structure Flags where
  ignoreCase : Bool := false
  multiLine : Bool := false
  dotAll : Bool := false
  crlf : Bool := false
  verbose : Bool := false
  unicode : Bool := true
  /-- Classes must have a meaning.  Without this flag only the form of a text counts. -/
  strict : Bool := true
  deriving DecidableEq, Repr

namespace Flags

/-- Which characters count as alike under the flags. -/
def folding (f : Flags) : Folding :=
  if !f.ignoreCase then .exact else if f.unicode then .simple else .ascii

/-- Are classes held to ASCII? -/
def strictlyAscii (f : Flags) : Bool := f.strict && !f.unicode

/-- Drops blanks and comments. -/
def skipBlanks (inComment : Bool) : List Char → List Char
  | [] => []
  | c :: rest =>
    if inComment then skipBlanks (c != '\n') rest
    else if isBlankChar c then skipBlanks false rest
    else if c = '#' then skipBlanks true rest
    else c :: rest

/-- Drops what may stand between the parts of a pattern. -/
def skip (f : Flags) (cs : List Char) : List Char := if f.verbose then skipBlanks false cs else cs

/-- The places of the leading characters with a property, and what follows them; in between is
skipped. -/
def placesWhile (f : Flags) (p : Char → Bool) (inComment : Bool) :
    List Char → List Place × List Char
  | [] => ([], [])
  | c :: rest =>
    if inComment then f.placesWhile p (c != '\n') rest
    else if f.verbose && isBlankChar c then f.placesWhile p false rest
    else if f.verbose && c == '#' then f.placesWhile p true rest
    else if p c then
      let (taken, behind) := f.placesWhile p false rest
      ((c :: rest) :: taken, behind)
    else ([], c :: rest)

/-- The leading characters with a property, and what follows them; in between is skipped. -/
def spanWhile (f : Flags) (p : Char → Bool) (cs : List Char) : List Char × List Char :=
  let (taken, rest) := f.placesWhile p false cs
  (taken.filterMap List.head?, rest)

/-- The characters before a closing brace, and what follows it. -/
def untilBrace? (f : Flags) (cs : List Char) : Option (List Char × List Char) :=
  match f.spanWhile (· != '\x7d') cs with
  | (_, []) => none
  | (content, _ :: rest) => some (content, rest)

end Flags
end PagedTable.Pattern
