/-
  PagedTable.Json.Token — the tokens of JSON text.

  The scanner reads one character at a time and is always in one of a few modes, so scanning is
  a left fold and the scan of a concatenation continues the scan of its first part.  A string or
  number token that is well formed by the grammar but denotes nothing (an escape that leaves half
  of a surrogate pair, a number beyond the floats) carries no value; whether that matters is
  decided by whoever uses the token.

  Main interface: `Token.scan?`.
-/
import PagedTable.Json.Numeral
import PagedTable.Text.Hex

namespace PagedTable

/-- A token; blanks between tokens leave no trace. -/
inductive Token where
  | openBrace
  | closeBrace
  | openBracket
  | closeBracket
  | colon
  | comma
  | null
  | bool (value : Bool)
  | num (value : Option Number)
  | str (value : Option String)
  deriving DecidableEq, Repr

namespace Token

/-! ## §1. The contents of strings -/

/-- One element of a string literal: a character, or a UTF-16 code unit given by its number. -/
inductive Piece where
  | char (c : Char)
  | unit (n : Nat)
  deriving DecidableEq, Repr

/-- Is the code unit the first half of a surrogate pair? -/
def isLeading (n : Nat) : Bool := 0xD800 ≤ n && n < 0xDC00

/-- Is the code unit the second half of a surrogate pair? -/
def isTrailing (n : Nat) : Bool := 0xDC00 ≤ n && n < 0xE000

/-- The character of a surrogate pair. -/
def pairChar (leading trailing : Nat) : Char :=
  Char.ofNat (0x10000 + (leading - 0xD800) * 0x400 + (trailing - 0xDC00))

/-- The characters of a string literal; `none` when half of a surrogate pair stands alone. -/
def joinPieces : List Piece → Option (List Char)
  | [] => some []
  | .char c :: rest => (joinPieces rest).map (c :: ·)
  | .unit m :: rest =>
    if isLeading m then
      match rest with
      | .unit n :: rest => if isTrailing n then (joinPieces rest).map (pairChar m n :: ·) else none
      | _ => none
    else if isTrailing m then none
    else (joinPieces rest).map (Char.ofNat m :: ·)

/-- The character that a one-letter escape stands for. -/
def escaped? (c : Char) : Option Char :=
  if c = '"' ∨ c = '\\' ∨ c = '/' then some c
  else if c = 'b' then some '\x08'
  else if c = 'f' then some '\x0c'
  else if c = 'n' then some '\n'
  else if c = 'r' then some '\r'
  else if c = 't' then some '\t'
  else none

/-! ## §2. The scanner -/

/-- What the scanner is in the middle of.  Collected characters and pieces are in reverse. -/
inductive Mode where
  /-- Between tokens. -/
  | idle
  /-- Inside a word: the letters still to come, and the token it stands for. -/
  | word (expected : List Char) (token : Token)
  /-- Inside a number literal. -/
  | number (seen : List Char)
  /-- Inside a string. -/
  | text (seen : List Piece)
  /-- After a backslash in a string. -/
  | escape (seen : List Piece)
  /-- Among the four digits of a numeric escape: the value so far and the digits to come. -/
  | unit (seen : List Piece) (value : Nat) (missing : Nat)
  deriving DecidableEq, Repr

/-- The tokens so far, in reverse, and the mode. -/
structure Scanner where
  tokens : List Token
  mode : Mode
  deriving DecidableEq, Repr

/-- The characters between tokens: space, tab, line feed, carriage return. -/
def isSpace (c : Char) : Bool := c == ' ' || c == '\t' || c == '\n' || c == '\r'

/-- Can the character be part of a number literal? -/
def inNumber (c : Char) : Bool :=
  c.isDigit || c == '-' || c == '+' || c == '.' || c == 'e' || c == 'E'

/-- Reads a character between tokens. -/
def start? (tokens : List Token) (c : Char) : Option Scanner :=
  if isSpace c then some ⟨tokens, .idle⟩
  else if c = '\x7b' then some ⟨openBrace :: tokens, .idle⟩
  else if c = '\x7d' then some ⟨closeBrace :: tokens, .idle⟩
  else if c = '[' then some ⟨openBracket :: tokens, .idle⟩
  else if c = ']' then some ⟨closeBracket :: tokens, .idle⟩
  else if c = ':' then some ⟨colon :: tokens, .idle⟩
  else if c = ',' then some ⟨comma :: tokens, .idle⟩
  else if c = '"' then some ⟨tokens, .text []⟩
  else if c = 'n' then some ⟨tokens, .word ['u', 'l', 'l'] null⟩
  else if c = 't' then some ⟨tokens, .word ['r', 'u', 'e'] (bool true)⟩
  else if c = 'f' then some ⟨tokens, .word ['a', 'l', 's', 'e'] (bool false)⟩
  else if c.isDigit || c == '-' then some ⟨tokens, .number [c]⟩
  else none

/-- The token of a finished number literal. -/
def ofNumber? (seen : List Char) : Option Token :=
  (Numeral.ofChars? seen.reverse).map fun n => num n.value?

/-- The token of a finished string. -/
def ofText (seen : List Piece) : Token := str ((joinPieces seen.reverse).map String.ofList)

/-- Reads one character. -/
def Scanner.feed? (s : Scanner) (c : Char) : Option Scanner :=
  match s.mode with
  | .idle => start? s.tokens c
  | .word [] _ => none
  | .word [last] token => if c = last then some ⟨token :: s.tokens, .idle⟩ else none
  | .word (next :: rest) token => if c = next then some ⟨s.tokens, .word rest token⟩ else none
  | .number seen =>
    if inNumber c then some ⟨s.tokens, .number (c :: seen)⟩
    else (ofNumber? seen).bind fun token => start? (token :: s.tokens) c
  | .text seen =>
    if c = '"' then some ⟨ofText seen :: s.tokens, .idle⟩
    else if c = '\\' then some ⟨s.tokens, .escape seen⟩
    else if c.toNat < 0x20 then none
    else some ⟨s.tokens, .text (.char c :: seen)⟩
  | .escape seen =>
    if c = 'u' then some ⟨s.tokens, .unit seen 0 4⟩
    else (escaped? c).map fun e => ⟨s.tokens, .text (.char e :: seen)⟩
  | .unit seen value missing =>
    (hexDigit? c).map fun digit =>
      let value := value * 16 + digit
      if missing ≤ 1 then ⟨s.tokens, .text (.unit value :: seen)⟩
      else ⟨s.tokens, .unit seen value (missing - 1)⟩

/-- The tokens when the text ends here. -/
def Scanner.finish? (s : Scanner) : Option (List Token) :=
  match s.mode with
  | .idle => some s.tokens.reverse
  | .number seen => (ofNumber? seen).map fun token => (token :: s.tokens).reverse
  | _ => none

/-- Reads further characters. -/
def Scanner.feedAll? (s : Scanner) : List Char → Option Scanner
  | [] => some s
  | c :: rest => (s.feed? c).bind (·.feedAll? rest)

/-- The tokens of a text. -/
def scan? (text : List Char) : Option (List Token) :=
  (Scanner.feedAll? ⟨[], .idle⟩ text).bind Scanner.finish?

end Token
end PagedTable
