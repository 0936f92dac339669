/-
  PagedTable.Query.Names — names for generated fields that collide with nothing.

  A name is free when no name in use starts with it; then every name that extends it is free as
  well.  A free name is found by appending a padding again and again: once the candidate is longer
  than every name in use, no name can start with it.

  Main interface: `isFree`, `freeName?`.
-/
import PagedTable.Request.Basic

namespace PagedTable

/-- Does the name start with the given beginning? -/
def startsWith (name beginning : String) : Bool := beginning.toList.isPrefixOf name.toList

/-- No name in use starts with the candidate. -/
def isFree (inUse : List String) (candidate : String) : Bool :=
  inUse.all fun name => !startsWith name candidate

/-- The field name with so many copies of the padding behind it. -/
def padded (field padding : String) : Nat → String
  | 0 => field
  | n + 1 => padded field padding n ++ padding

/-- The size of the longest of the names. -/
def longest (names : List String) : Nat := (names.map String.utf8ByteSize).foldl max 0

/-- The first free candidate, with as few copies of the padding as possible. -/
def freeName? (inUse : List String) (field padding : String) : Option String :=
  ((List.range (longest inUse + 2)).find? fun n => isFree inUse (padded field padding n)).map
    (padded field padding)

/-- The names that the columns of a request use: their paths, the parts before the first dot, and
the name of the identifier. -/
def Column.namesInUse (columns : List Column) : List String :=
  "_id" :: columns.flatMap fun c => [c.path, baseField c.path]

end PagedTable
