/-
  PagedTable.Table.Envelope — the answer to a table request.

  Main interface: `Envelope`, `TableError.message`.
-/
import PagedTable.Query.Plan
import PagedTable.Store.Error

namespace PagedTable

/-- Why a table request fails. -/
inductive TableError where
  /-- The caller's criteria look into a reference column. -/
  | referencePredicate (path : String)
  | compile (error : CompileError)
  | store (error : StoreError)
  /-- A row could not be converted. -/
  | conversion (reason : String)
  /-- The count pipeline gave a document without a count. -/
  | invalidCount (field : String)
  deriving DecidableEq, Repr

/-- The text of an error. -/
def TableError.message : TableError → String
  | referencePredicate path =>
    s!"Reference column '{path}' cannot be used in additional or pre-filtering criteria"
  | compile error => error.display
  | store error => error.display
  | conversion reason => s!"Row conversion failed: {reason}"
  | invalidCount field => s!"Count pipeline returned no numeric '{field}' field"

/-- A page of rows with the counts around it.  A failure is part of the answer: it keeps the counts
known by then and has no rows. -/
structure Envelope (Row : Type) where
  draw : UInt32
  /-- The number of documents that satisfy the pre-filter. -/
  total : Nat := 0
  /-- The number of documents that satisfy every condition. -/
  filtered : Nat := 0
  rows : List Row := []
  error : Option TableError := none
  deriving Repr

namespace Envelope

/-- Did the request fail? -/
def isError (e : Envelope Row) : Bool := e.error.isSome

/-- The envelope as JSON; the error is left out when there is none. -/
def toJson (row : Row → Json) (e : Envelope Row) : Json :=
  .obj <|
    [ ("draw", .int e.draw.toNat)
    , ("recordsTotal", .int e.total)
    , ("recordsFiltered", .int e.filtered)
    , ("data", .arr (e.rows.map row)) ] ++
    (e.error.map fun error => ("error", Json.str error.message)).toList

end Envelope
end PagedTable
