/-
  PagedTable.Query.Sort — ordering documents by several keys.

  A document sorts on the first value that a key's path offers, or on null.  Earlier keys take
  priority, a descending key reverses its comparison, and documents that tie on every key keep
  their order.

  Main interface: `SortKey`, `SortKey.sort`, `SortKey.toDocument`.
-/
import PagedTable.Json.Order
import PagedTable.Json.Path
import PagedTable.Request.Basic

namespace PagedTable

/-- A path to sort on, and in which direction. -/
structure SortKey where
  field : String
  direction : Direction
  deriving DecidableEq, Repr

/-- The number that stands for a direction in documents. -/
def Direction.sign : Direction → Int
  | ascending => 1
  | descending => -1

/-- A comparison seen in a direction. -/
def Direction.orient : Direction → Ordering → Ordering
  | ascending, o => o
  | descending, o => o.swap

namespace SortKey

/-- The value that a document sorts on. -/
def value (document : Json) (path : String) : Json := (document.candidates path).headD .null

/-- The comparison of two documents under one key. -/
def compare (key : SortKey) (a b : Json) : Ordering :=
  key.direction.orient ((value a key.field).compare (value b key.field))

/-- The comparison of two documents: the first key that tells them apart decides. -/
def compareAll (keys : List SortKey) (a b : Json) : Ordering :=
  match keys with
  | [] => .eq
  | key :: rest => (key.compare a b).then (compareAll rest a b)

/-- Puts a document, which comes after all of a sorted list, in front of those at the end of the
list that it precedes.  The list is given from its end. -/
def place (keys : List SortKey) (document : Json) : List Json → List Json
  | [] => [document]
  | last :: before =>
    if (compareAll keys document last).isLT then last :: place keys document before
    else document :: last :: before

/-- The documents in order. -/
def sort (keys : List SortKey) (documents : List Json) : List Json :=
  if keys.isEmpty then documents
  else (documents.foldl (fun sorted document => place keys document sorted) []).reverse

/-- The keys as a document, in which a field that comes again keeps its first place. -/
def toDocument (keys : List SortKey) : Json :=
  Json.ofMembers (keys.map fun key => (key.field, .int key.direction.sign))

end SortKey
end PagedTable
