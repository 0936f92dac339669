/-
  PagedTable.Json.Printer — compact JSON text.

  No blanks are written.  Strings escape the quote, the backslash and the control characters
  below U+0020; every other character stands for itself.  Integers are written with their
  digits.  Floats are written with the fewest digits that read back, always with a point when
  positional, and in scientific notation outside of 10⁻⁵ … 10¹⁵.

  Main interface: `Json.write` (as characters) and `Json.render` (as a string).
-/
import PagedTable.Json.Basic
import PagedTable.Binary64.Shortest

namespace PagedTable

/-! ## §1. Numbers -/

/-- The decimal digits of a natural number. -/
def decimal (n : Nat) : List Char := Nat.toDigits 10 n

/-- The decimal digits of an integer, with a minus sign if it is negative. -/
def decimalInt : Int → List Char
  | .ofNat n => decimal n
  | .negSucc n => '-' :: decimal (n + 1)

/-- Decimal text of an integer as a string. -/
def decimalText (n : Int) : String := String.ofList (decimalInt n)

namespace Binary64

/-- Which decimal exponents of the leading digit are written without an exponent part. -/
def positional (exponent : Int) : Bool := -5 ≤ exponent && exponent ≤ 15

/-- Digits with a point after the leading `exponent + 1` of them, padded with zeros on the side
where digits are missing; there is a digit on both sides of the point. -/
def placePoint (digits : List Char) : (exponent : Int) → List Char
  | .ofNat e =>
    let whole := digits.take (e + 1)
    let fraction := digits.drop (e + 1)
    whole ++ List.replicate (e + 1 - whole.length) '0' ++
      '.' :: (if fraction.isEmpty then ['0'] else fraction)
  | .negSucc e => '0' :: '.' :: List.replicate e '0' ++ digits

/-- One leading digit, the others after a point, and a signed exponent. -/
def scientific (digits : List Char) (exponent : Int) : List Char :=
  let fraction := digits.drop 1
  digits.take 1 ++ (if fraction.isEmpty then [] else '.' :: fraction) ++
    'e' :: (if exponent < 0 then '-' else '+') :: decimal exponent.natAbs

/-- The text of a float. -/
def write (x : Binary64) : List Char :=
  let sign := if x.negative then ['-'] else []
  if x.isZero then sign ++ ['0', '.', '0']
  else
    let short := x.shortest
    let digits := decimal short.digits
    let exponent := short.exponent + (digits.length : Int) - 1
    sign ++ if positional exponent then placePoint digits exponent else scientific digits exponent

end Binary64

/-- The text of a number. -/
def Number.write : Number → List Char
  | .int n => decimalInt n
  | .float x => x.write

namespace Json

/-! ## §2. Strings -/

/-- How a character is written inside a string. -/
def writeChar (c : Char) : List Char :=
  if c = '"' then ['\\', '"']
  else if c = '\\' then ['\\', '\\']
  else if c = '\x08' then ['\\', 'b']
  else if c = '\x0c' then ['\\', 'f']
  else if c = '\n' then ['\\', 'n']
  else if c = '\r' then ['\\', 'r']
  else if c = '\t' then ['\\', 't']
  else if c.toNat < 0x20 then
    ['\\', 'u', '0', '0', Nat.digitChar (c.toNat / 16), Nat.digitChar (c.toNat % 16)]
  else [c]

/-- A string between quotes. -/
def writeText (s : String) : List Char := '"' :: s.toList.flatMap writeChar ++ ['"']

/-! ## §3. Values -/

mutual

/-- The compact text of a value. -/
def write : Json → List Char
  | .null => ['n', 'u', 'l', 'l']
  | .bool true => ['t', 'r', 'u', 'e']
  | .bool false => ['f', 'a', 'l', 's', 'e']
  | .num n => n.write
  | .str s => writeText s
  | .arr [] => ['[', ']']
  | .arr (item :: rest) => '[' :: write item ++ writeItems rest
  | .obj [] => ['\x7b', '\x7d']
  | .obj ((name, value) :: rest) =>
    '\x7b' :: writeText name ++ ':' :: write value ++ writeMembers rest

/-- The items after the first, each behind a comma, and the closing bracket. -/
def writeItems : List Json → List Char
  | [] => [']']
  | item :: rest => ',' :: write item ++ writeItems rest

/-- The members after the first, each behind a comma, and the closing brace. -/
def writeMembers : List (String × Json) → List Char
  | [] => ['\x7d']
  | (name, value) :: rest => ',' :: writeText name ++ ':' :: write value ++ writeMembers rest

end

/-- The compact text of a value as a string. -/
def render (value : Json) : String := String.ofList value.write

end Json
end PagedTable
