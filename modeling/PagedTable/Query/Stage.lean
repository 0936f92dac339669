/-
  PagedTable.Query.Stage — the stages that documents pass through, and single finds.

  A find filters, sorts and cuts out a page in one go.  A pipeline is a list of stages, each of
  which turns a list of documents into another; stages are data, and a store decides how to run
  them.  Both have a form as documents.

  Main interface: `FindQuery`, `Stage`, `Stage.toDocument`.
-/
import PagedTable.Filter.Basic
import PagedTable.Query.Sort

namespace PagedTable

/-! ## §1. Finds -/

/-- A filter, an order and a page in one. -/
structure FindQuery where
  /-- The condition on documents; none lets all pass. -/
  filter : Option Filter
  sort : List SortKey
  skip : Nat
  /-- The number of rows; none means all. -/
  limit : Option Nat
  deriving Repr

/-! ## §2. Stages -/

/-- How a projected field is computed. -/
inductive Expression where
  /-- The object at a path as an array of pairs of `k` and `v`. -/
  | objectToArray (path : String)
  /-- An element of the array at a path; negative positions count from the end. -/
  | elementAt (path : String) (position : Int)
  /-- The value at a path. -/
  | field (path : String)
  deriving DecidableEq, Repr

/-- Keeps the `_id`, the given paths and one computed field. -/
structure Projection where
  kept : List String
  field : String
  expression : Expression
  deriving DecidableEq, Repr

/-- Joins the documents of another collection whose foreign field equals the local one. -/
structure Lookup where
  collection : String
  localField : String
  foreignField : String
  /-- The field that receives the joined documents. -/
  target : String
  deriving DecidableEq, Repr

/-- One step of a pipeline. -/
inductive Stage where
  | filter (filter : Filter)
  | project (projection : Projection)
  | lookup (lookup : Lookup)
  | sort (keys : List SortKey)
  | skip (count : Nat)
  | limit (count : Nat)
  /-- One document with the number of rows, or none if there are no rows. -/
  | count (field : String)
  deriving Repr

/-! ## §3. Stages as documents -/

/-- The expression as a document; paths are marked by a dollar sign. -/
def Expression.toDocument : Expression → Json
  | objectToArray path => .obj [("$objectToArray", .str ("$" ++ path))]
  | elementAt path position =>
    .obj [("$arrayElemAt", .arr [.str ("$" ++ path), .int position])]
  | field path => .str ("$" ++ path)

/-- The kept fields, each with `1`, and then the computed one. -/
def Projection.toDocument (p : Projection) : Json :=
  Json.ofMembers (p.kept.map (·, .int 1) ++ [(p.field, p.expression.toDocument)])

/-- The lookup as a document. -/
def Lookup.toDocument (l : Lookup) : Json :=
  .obj
    [ ("from", .str l.collection)
    , ("localField", .str l.localField)
    , ("foreignField", .str l.foreignField)
    , ("as", .str l.target) ]

namespace Stage

/-- The name of a stage in documents. -/
def name : Stage → String
  | filter _ => "$match"
  | project _ => "$project"
  | lookup _ => "$lookup"
  | sort _ => "$sort"
  | skip _ => "$skip"
  | limit _ => "$limit"
  | count _ => "$count"

/-- What a stage's document holds under its name. -/
def body : Stage → Json
  | filter f => f.toDocument
  | project p => p.toDocument
  | lookup l => l.toDocument
  | sort keys => SortKey.toDocument keys
  | skip n | limit n => .int n
  | count field => .str field

/-- The stage as a document of one member. -/
def toDocument (stage : Stage) : Json := .obj [(stage.name, stage.body)]

/-- A pipeline as a document. -/
def pipelineDocument (stages : List Stage) : Json := .arr (stages.map toDocument)

end Stage
end PagedTable
