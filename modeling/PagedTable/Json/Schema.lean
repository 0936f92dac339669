/-
  PagedTable.Json.Schema — decoding literals into records.

  A record is written as an object.  Each field takes the one member whose name it accepts; two
  such members, under one name or two, are an error; members that no field accepts are ignored,
  whatever they hold.  A record may also be written as an array of its field values in order; the
  fields behind its end are then absent, and surplus items are an error.  An absent field takes
  its default, or is an error when it has none.  Nothing is converted between types.

  Main interface: `Literal.fieldValues?`, `Literal.required`, `Literal.withDefault`, and the
  readers of single values.
-/
import PagedTable.Json.Literal

namespace PagedTable.Literal

/-! ## §1. Single values -/

/-- A string that denotes a text. -/
def text? : Literal → Option String
  | .str s => s
  | _ => none

/-- A boolean. -/
def flag? : Literal → Option Bool
  | .bool b => some b
  | _ => none

/-- An integer, written without point and exponent. -/
def int? : Literal → Option Int
  | .num (some (.int n)) => some n
  | _ => none

/-- A 32-bit integer without sign. -/
def word32? (l : Literal) : Option UInt32 :=
  l.int?.bind fun n => if 0 ≤ n ∧ n < twoTo 32 then some (.ofNat n.toNat) else none

/-- A 64-bit integer without sign. -/
def word64? (l : Literal) : Option UInt64 :=
  l.int?.bind fun n => if 0 ≤ n ∧ n < twoTo 64 then some (.ofNat n.toNat) else none

/-- A 64-bit integer with a sign. -/
def signed64? (l : Literal) : Option Int64 :=
  l.int?.bind fun n => if -(twoTo 63 : Int) ≤ n ∧ n < twoTo 63 then some (.ofInt n) else none

/-- `null`, or what the reader accepts. -/
def nullOr? (read : Literal → Option α) : Literal → Option (Option α)
  | .null => some none
  | l => (read l).map some

/-- Applies a reader to every literal of a list. -/
def readAll? (read : Literal → Option α) : List Literal → Option (List α)
  | [] => some []
  | l :: rest => (read l).bind fun v => (readAll? read rest).map (v :: ·)

/-- An array of what the reader accepts. -/
def listOf? (read : Literal → Option α) : Literal → Option (List α)
  | .arr items => readAll? read items
  | _ => none

/-- One of several named alternatives: the name, or an object of the name and `null`. -/
def oneOf? (alternative : String → Option α) : Literal → Option α
  | .str name => name.bind alternative
  | .obj [(name, .null)] => name.bind alternative
  | _ => none

/-! ## §2. Records -/

/-- The values of the members whose name is accepted. -/
def valuesNamed (accepted : List String) (members : List (Option String × Literal)) :
    List Literal :=
  members.filterMap fun (name, value) =>
    if name.any (accepted.contains ·) then some value else none

/-- At most one value; two are an error. -/
def atMostOne? : List Literal → Option (Option Literal)
  | [] => some none
  | [value] => some (some value)
  | _ => none

/-- The values of the fields of a record, given the names that each field accepts. -/
def fieldValues? (fields : List (List String)) : Literal → Option (List (Option Literal))
  | .arr items =>
    if items.length ≤ fields.length then
      some (items.map some ++ List.replicate (fields.length - items.length) none)
    else none
  | .obj members =>
    if members.all (·.1.isSome) then
      fields.mapM fun accepted => atMostOne? (valuesNamed accepted members)
    else none
  | _ => none

/-- A field that has to be given. -/
def required (read : Literal → Option α) (value : Option Literal) : Option α := value.bind read

/-- A field that has a default. -/
def withDefault (default : α) (read : Literal → Option α) : Option Literal → Option α
  | none => some default
  | some l => read l

end PagedTable.Literal
