/-
  PagedTable.Filter.Basic — boolean conditions on documents.

  A leaf tests what a path reaches in a document; inner nodes ask for all or for any of their
  clauses.  The same type serves conditions given by the caller and conditions made from a
  request.  `toDocument` writes a filter the way document stores spell queries.

  Main interface: `Filter`, `Filter.all?`, `Filter.any?`, `Filter.paths`, `Filter.toDocument`.
-/
import PagedTable.Json.Basic

namespace PagedTable

/-! ## §1. Filters -/

/-- Comparisons of a value with operands. -/
inductive Comparison where
  | eq (operand : Json)
  | ne (operand : Json)
  | gt (operand : Json)
  | gte (operand : Json)
  | lt (operand : Json)
  | lte (operand : Json)
  | oneOf (operands : List Json)
  deriving DecidableEq, Repr

/-- What a leaf asks of a path. -/
inductive Condition where
  | compare (comparison : Comparison)
  /-- A string contains a match of the pattern. -/
  | regex (pattern : String) (ignoreCase : Bool)
  deriving DecidableEq, Repr

/-- A tree of conditions on paths. -/
inductive Filter where
  | field (path : String) (condition : Condition)
  /-- All clauses hold. -/
  | and (clauses : List Filter)
  /-- At least one clause holds. -/
  | or (clauses : List Filter)
  deriving Repr, Inhabited

namespace Filter

/-- The path has a value equal to the operand. -/
def eq (path : String) (operand : Json) : Filter := .field path (.compare (.eq operand))

/-- The path has a value equal to one of the operands. -/
def oneOf (path : String) (operands : List Json) : Filter :=
  .field path (.compare (.oneOf operands))

/-- The path has a string with a match of the pattern. -/
def regex (path : String) (pattern : String) (ignoreCase : Bool) : Filter :=
  .field path (.regex pattern ignoreCase)

/-- All of the clauses: nothing for none, a single one as it is. -/
def all? : List Filter → Option Filter
  | [] => none
  | [clause] => some clause
  | clauses => some (.and clauses)

/-- Any of the clauses: nothing for none, a single one as it is. -/
def any? : List Filter → Option Filter
  | [] => none
  | [clause] => some clause
  | clauses => some (.or clauses)

/-! ## §2. The paths of a filter -/

mutual

/-- The paths of all leaves, from left to right. -/
def paths : Filter → List String
  | .field path _ => [path]
  | .and clauses => clausePaths clauses
  | .or clauses => clausePaths clauses

/-- The paths of all leaves of several filters, from left to right. -/
def clausePaths : List Filter → List String
  | [] => []
  | clause :: rest => paths clause ++ clausePaths rest

end

/-- The path of a filter that is a single leaf. -/
def topPaths : Filter → List String
  | .field path _ => [path]
  | .and _ | .or _ => []

end Filter

/-! ## §3. Filters as documents -/

namespace Comparison

/-- The name of a comparison in documents. -/
def name : Comparison → String
  | eq _ => "$eq"
  | ne _ => "$ne"
  | gt _ => "$gt"
  | gte _ => "$gte"
  | lt _ => "$lt"
  | lte _ => "$lte"
  | oneOf _ => "$in"

/-- Equality is written as the bare operand, every other comparison under its name. -/
def toDocument : Comparison → Json
  | eq operand => operand
  | oneOf operands => .obj [("$in", .arr operands)]
  | c@(ne operand) | c@(gt operand) | c@(gte operand) | c@(lt operand) | c@(lte operand) =>
    .obj [(c.name, operand)]

end Comparison

namespace Condition

/-- The name of a condition in documents. -/
def name : Condition → String
  | compare comparison => comparison.name
  | regex _ _ => "$regex"

/-- What a leaf's document holds under its path; ignoring case is an option of its own. -/
def toDocument : Condition → Json
  | compare comparison => comparison.toDocument
  | regex pattern false => .obj [("$regex", .str pattern)]
  | regex pattern true => .obj [("$regex", .str pattern), ("$options", .str "i")]

end Condition

namespace Filter

mutual

/-- The filter as a document. -/
def toDocument : Filter → Json
  | .field path condition => .obj [(path, condition.toDocument)]
  | .and clauses => .obj [("$and", .arr (clauseDocuments clauses))]
  | .or clauses => .obj [("$or", .arr (clauseDocuments clauses))]

/-- Several filters as documents. -/
def clauseDocuments : List Filter → List Json
  | [] => []
  | clause :: rest => toDocument clause :: clauseDocuments rest

end

end Filter
end PagedTable
