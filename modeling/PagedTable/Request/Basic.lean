/-
  PagedTable.Request.Basic — what a table widget asks for.

  A request is a draw counter, a page window, a global search, sort directives and the columns.
  A reference column holds a pointer to a document of another collection; it is searched and
  sorted through fields of that document.  Positions and paths are not trusted: looking up a
  column that is not there finds none.

  Main interface: `Column`, `Request`, `Request.validate`.
-/
import PagedTable.Json.Path
import PagedTable.Text.Blank
import PagedTable.Text.NameSet

namespace PagedTable

/-! ## §1. Searches and sort directives -/

/-- Upward or downward. -/
inductive Direction where
  | ascending
  | descending
  deriving DecidableEq, Repr, Inhabited

/-- A search term: plain text, or a pattern. -/
structure Search where
  value : String := ""
  regex : Bool := false
  deriving DecidableEq, Repr, Inhabited

/-- Is there something to search for? -/
def Search.hasText (s : Search) : Bool := !isBlank s.value

/-- A sort directive; the position of its column is not checked. -/
structure Order where
  column : UInt64
  direction : Direction
  deriving DecidableEq, Repr

/-! ## §2. Columns -/

/-- A column of the table, and how it takes part in searching and sorting. -/
structure Column where
  /-- The dotted path of the column in a document. -/
  path : String := ""
  name : Option String := none
  searchable : Bool := false
  orderable : Bool := false
  search : Search := {}
  reference : Bool := false
  /-- The collection of the documents that a reference column points to. -/
  collection : Option String := none
  /-- The fields of those documents that a search looks at. -/
  searchFields : NameSet := .empty
  /-- The field of those documents that the column sorts on. -/
  orderField : Option String := none
  deriving DecidableEq, Repr, Inhabited

namespace Column

/-- Are sort directives on the column honoured?  A reference column needs an order field. -/
def sortable (c : Column) : Bool := c.orderable && (!c.reference || c.orderField.isSome)

/-- Does the column have a search of its own? -/
def hasOwnSearch (c : Column) : Bool := c.searchable && c.search.hasText

/-- Do the documents that the column points to have to be joined? -/
def needsJoin (c : Column) : Bool := c.reference && (c.searchable || c.sortable)

/-- The trimmed name of the referenced collection, unless it is blank. -/
def boundCollection? (c : Column) : Option String := (c.collection.map trim).filter (· ≠ "")

end Column

/-! ## §3. Requests -/

/-- One page of a table, with its searches and its order. -/
structure Request where
  /-- Sent back with the answer. -/
  draw : UInt32 := 1
  /-- The position of the first row of the page. -/
  start : UInt64 := 0
  /-- The number of rows of the page; a negative number means all. -/
  length : Int64 := 10
  search : Search := {}
  order : List Order := []
  columns : List Column
  deriving DecidableEq, Repr, Inhabited

namespace Request

/-- The position of the column that a path names; of several with that path, the last. -/
def position? (r : Request) (path : String) : Option Nat :=
  (r.columns.zipIdx.reverse.find? (·.1.path = path)).map (·.2)

/-- Gives the column that a path names another search. -/
def setSearch? (r : Request) (path : String) (search : Search) : Option Request :=
  (r.position? path).map fun i =>
    { r with columns := r.columns.modify i fun c => { c with search } }

/-- The reference columns, in order. -/
def references (r : Request) : List Column := r.columns.filter (·.reference)

/-- Does the request have a reference column? -/
def hasReferences (r : Request) : Bool := r.columns.any (·.reference)

/-- The page size, if the page is bounded. -/
def limit (r : Request) : Option Nat :=
  if 0 ≤ r.length then some r.length.toInt.toNat else none

/-- Why a request is refused. -/
inductive Fault where
  | noColumns
  | blankPath (position : Nat)
  | invalidLength (length : Int64)
  | missingCollection (path : String)
  deriving DecidableEq, Repr

/-- The text of a fault. -/
def Fault.message : Fault → String
  | noColumns => "Request must declare at least one column"
  | blankPath position => s!"Column {position} has a blank data field"
  | invalidLength length => s!"Length {length.toInt} is invalid (must be >= -1)"
  | missingCollection path => s!"Reference column '{path}' does not name a collection"

/-- The first fault of a list of columns, the first of which has the given position. -/
def columnFault? (position : Nat) : List Column → Option Fault
  | [] => none
  | c :: rest =>
    if isBlank c.path then some (.blankPath position)
    else if c.reference && c.boundCollection?.isNone then some (.missingCollection c.path)
    else columnFault? (position + 1) rest

/-- Accepts a request whose page, columns and references can be worked with. -/
def validate (r : Request) : Except Fault Unit :=
  if r.length < -1 then .error (.invalidLength r.length)
  else if r.columns.isEmpty then .error .noColumns
  else
    match columnFault? 0 r.columns with
    | some fault => .error fault
    | none => .ok ()

end Request
end PagedTable
