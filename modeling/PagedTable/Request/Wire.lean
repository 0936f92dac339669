/-
  PagedTable.Request.Wire — requests as JSON.

  Reading follows the rules for records (`PagedTable.Json.Schema`): only a column's path, the two
  parts of a sort directive and the list of columns have to be given.  Writing gives every field,
  in a fixed order, with `null` for what is not there.

  Main interface: `Request.toJson`, `Request.ofLiteral?`, `Request.parse`.
-/
import PagedTable.Request.Basic
import PagedTable.Json.Schema
import PagedTable.Json.Printer

namespace PagedTable

open Literal (required withDefault)

/-! ## §1. Directions, searches, sort directives -/

namespace Direction

/-- The name of a direction. -/
def name : Direction → String
  | ascending => "asc"
  | descending => "desc"

/-- The direction with a name. -/
def ofName? (name : String) : Option Direction :=
  if name = "asc" then some ascending else if name = "desc" then some descending else none

/-- A direction is written as its name. -/
def toJson (d : Direction) : Json := .str d.name

/-- A direction is read as one of the names. -/
def ofLiteral? : Literal → Option Direction := Literal.oneOf? ofName?

end Direction

namespace Search

/-- The search as a record. -/
def toJson (s : Search) : Json := .obj [("value", .str s.value), ("regex", .bool s.regex)]

/-- A search term; it is blank text unless given otherwise. -/
def ofLiteral? (l : Literal) : Option Search :=
  match l.fieldValues? [["value"], ["regex"]] with
  | some [value, regex] => do
    return { value := ← withDefault "" Literal.text? value
             regex := ← withDefault false Literal.flag? regex }
  | _ => none

end Search

namespace Order

/-- The sort directive as a record. -/
def toJson (o : Order) : Json :=
  .obj [("column", .int o.column.toNat), ("dir", o.direction.toJson)]

/-- A sort directive; both parts have to be given. -/
def ofLiteral? (l : Literal) : Option Order :=
  match l.fieldValues? [["column"], ["dir"]] with
  | some [column, direction] => do
    return { column := ← required Literal.word64? column
             direction := ← required Direction.ofLiteral? direction }
  | _ => none

end Order

/-! ## §2. Columns -/

namespace Column

/-- The column as a record. -/
def toJson (c : Column) : Json :=
  .obj
    [ ("data", .str c.path)
    , ("name", .textOrNull c.name)
    , ("searchable", .bool c.searchable)
    , ("orderable", .bool c.orderable)
    , ("search", c.search.toJson)
    , ("reference", .bool c.reference)
    , ("referenceCollection", .textOrNull c.collection)
    , ("referenceFields", .texts c.searchFields.names)
    , ("referenceOrderField", .textOrNull c.orderField) ]

/-- The names that the fields of a column go by. -/
def fieldNames : List (List String) :=
  [ ["data"], ["name"], ["searchable"], ["orderable"], ["search"], ["reference"]
  , ["referenceCollection"], ["referenceFields", "referenceColumns"]
  , ["referenceOrderField", "referenceOrderColumn"] ]

/-- A column; only its path has to be given. -/
def ofLiteral? (l : Literal) : Option Column :=
  match l.fieldValues? fieldNames with
  | some [path, name, searchable, orderable, search, reference, collection, searchFields,
      orderField] => do
    return { path := ← required Literal.text? path
             name := ← withDefault none (Literal.nullOr? Literal.text?) name
             searchable := ← withDefault false Literal.flag? searchable
             orderable := ← withDefault false Literal.flag? orderable
             search := ← withDefault {} Search.ofLiteral? search
             reference := ← withDefault false Literal.flag? reference
             collection := ← withDefault none (Literal.nullOr? Literal.text?) collection
             searchFields := NameSet.ofList
               (← withDefault [] (Literal.listOf? Literal.text?) searchFields)
             orderField := ← withDefault none (Literal.nullOr? Literal.text?) orderField }
  | _ => none

end Column

/-! ## §3. Requests -/

namespace Request

/-- The request as a record. -/
def toJson (r : Request) : Json :=
  .obj
    [ ("draw", .int r.draw.toNat)
    , ("start", .int r.start.toNat)
    , ("length", .int r.length.toInt)
    , ("search", r.search.toJson)
    , ("order", .arr (r.order.map Order.toJson))
    , ("columns", .arr (r.columns.map Column.toJson)) ]

/-- A request; only its columns have to be given. -/
def ofLiteral? (l : Literal) : Option Request :=
  match l.fieldValues? [["draw"], ["start"], ["length"], ["search"], ["order"], ["columns"]] with
  | some [draw, start, length, search, order, columns] => do
    return { draw := ← withDefault 1 Literal.word32? draw
             start := ← withDefault 0 Literal.word64? start
             length := ← withDefault 10 Literal.signed64? length
             search := ← withDefault {} Search.ofLiteral? search
             order := ← withDefault [] (Literal.listOf? Order.ofLiteral?) order
             columns := ← required (Literal.listOf? Column.ofLiteral?) columns }
  | _ => none

/-- The request as JSON text. -/
def render (r : Request) : String := r.toJson.render

/-- Why a text is not accepted as a request. -/
inductive Refusal where
  /-- The text is not JSON, or not of a request. -/
  | malformed
  /-- The request has a fault. -/
  | invalid (fault : Fault)
  deriving DecidableEq, Repr

/-- Reads and validates a request. -/
def parse (text : String) : Except Refusal Request :=
  match (Literal.parse? text).bind ofLiteral? with
  | none => .error .malformed
  | some r =>
    match r.validate with
    | .ok () => .ok r
    | .error fault => .error (.invalid fault)

end Request
end PagedTable
