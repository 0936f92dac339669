/-
  PagedTable.Query.Plan — what a request compiles to.

  A request without reference columns becomes one find.  A request with reference columns becomes
  a plan: two pipelines that share their filtering stages, one to count rows and one to fetch a
  page of them.  The filtering stages match the caller's criteria on the stored documents, then
  join the documents that columns point to, then match the searches on the joined rows.

  Main interface: `Request.findQuery`, `Request.plan`, `Plan.count`, `Plan.page`,
  `Request.compile`, `Request.compileEvents`.
-/
import PagedTable.Query.Criteria
import PagedTable.Query.Names
import PagedTable.Query.Search
import PagedTable.Query.Stage
import PagedTable.Settings

namespace PagedTable

/-! ## §1. One find -/

namespace Request

/-- The condition of the global search on the stored documents. -/
def plainSearch? (r : Request) : Option Filter :=
  if r.search.hasText then
    Filter.any? ((r.columns.filter (·.searchable)).map fun c => r.search.fragment c.path)
  else none

/-- The conditions of the columns' own searches on the stored documents. -/
def plainColumnSearches (r : Request) : List Filter :=
  (r.columns.filter (·.hasOwnSearch)).map fun c => c.search.columnFragment c.path

/-- The find that answers a request without reference columns. -/
def findQuery (r : Request) (criteria : Criteria) : FindQuery where
  filter := Filter.all? (r.plainSearch?.toList ++ r.plainColumnSearches ++ criteria.fragments)
  sort := r.sortKeys fun c => some c.path
  skip := r.start.toNat
  limit := r.limit

end Request

/-! ## §2. Joins -/

/-- Why a request cannot be compiled. -/
inductive CompileError where
  /-- A reference column that has to be joined names no collection. -/
  | referenceUnbound (path : String)
  /-- No name for the joined documents is free; they begin with a path without dots. -/
  | aliasUnresolved (base : String)
  /-- The padding cannot be part of a name. -/
  | invalidPadding (padding reason : String)
  deriving DecidableEq, Repr

namespace CompileError

/-- The code of an error. -/
def code : CompileError → String
  | referenceUnbound _ => "TABLE_REFERENCE_UNBOUND"
  | aliasUnresolved _ => "TABLE_ALIAS_UNRESOLVED"
  | invalidPadding _ _ => "TABLE_INVALID_PADDING"

/-- The text of an error. -/
def message : CompileError → String
  | referenceUnbound path => s!"Reference column '{path}' does not name a collection"
  | aliasUnresolved base => s!"No free alias for reference column '{base}'"
  | invalidPadding padding reason => s!"Alias padding '{padding}' {reason}"

/-- The path, the beginning of names or the padding at fault. -/
def field : CompileError → String
  | referenceUnbound path => path
  | aliasUnresolved base => base
  | invalidPadding padding _ => padding

/-- The code and the message. -/
def display (e : CompileError) : String := e.code ++ ": " ++ e.message

end CompileError

/-- The join of the documents that one column points to. -/
structure Join where
  /-- The path of the column. -/
  path : String
  collection : String
  /-- The field that receives the joined documents. -/
  target : String
  /-- The fields that are kept while the identifier is taken out of the pointer. -/
  kept : List String
  /-- Which pair of the pointer holds the identifier. -/
  idPosition : Int
  deriving DecidableEq, Repr

namespace Join

/-- The field with the pairs of the pointer. -/
def pairsField (j : Join) : String := j.target ++ "fk_arr"

/-- The field with the pair that holds the identifier. -/
def pairField (j : Join) : String := j.target ++ "fk_obj"

/-- The field with the identifier. -/
def idField (j : Join) : String := j.target ++ "id"

/-- All fields that the join generates. -/
def generated (j : Join) : List String := [j.target, j.pairsField, j.pairField, j.idField]

/-- The stages of a join: the pairs of the pointer, the pair with the identifier, the identifier,
and the documents that have it. -/
def stages (j : Join) : List Stage :=
  [ .project ⟨j.kept, j.pairsField, .objectToArray j.path⟩
  , .project ⟨j.kept, j.pairField, .elementAt j.pairsField j.idPosition⟩
  , .project ⟨j.kept, j.idField, .field (j.pairField ++ ".v")⟩
  , .lookup ⟨j.collection, j.idField, "_id", j.target⟩ ]

end Join

/-- Appends a field to those that are kept, unless it is kept anyway. -/
def keep (kept : List String) (field : String) : List String :=
  if field = "_id" ∨ kept.contains field then kept else kept ++ [field]

namespace Column

/-- The columns that no later column of the same path replaces. -/
def unreplaced : List Column → List Column
  | [] => []
  | c :: rest => if rest.any (·.path = c.path) then unreplaced rest else c :: unreplaced rest

/-- The path without dots, as the beginning of a name at the top of a document. -/
def flatName (c : Column) (padding : String) : String := padding.intercalate (segments c.path)

/-- The joins for a list of columns, given the names in use and the fields to keep. -/
def joins (settings : Settings) (inUse kept : List String) :
    List Column → Except CompileError (List Join)
  | [] => .ok []
  | c :: rest =>
    match c.boundCollection? with
    | none => .error (.referenceUnbound c.path)
    | some collection =>
      match freeName? inUse (c.flatName settings.padding) settings.padding with
      | none => .error (.aliasUnresolved (c.flatName settings.padding))
      | some target =>
        let join : Join := ⟨c.path, collection, target, kept, settings.idPosition.toInt⟩
        match joins settings (join.generated ++ inUse) (keep kept (baseField target)) rest with
        | .error e => .error e
        | .ok others => .ok (join :: others)

end Column

/-! ## §3. Plans -/

/-- The compiled form of a request with reference columns. -/
structure Plan where
  /-- The caller's criteria, matched on the stored documents. -/
  criteria : List Filter
  joins : List Join
  /-- The searches, matched on the joined rows. -/
  searches : List Filter
  /-- The field of the document that carries the count. -/
  countField : String
  sort : List SortKey
  skip : Nat
  limit : Option Nat
  deriving Repr

namespace Plan

/-- The stages that count and page have in common. -/
def filtering (p : Plan) : List Stage :=
  p.criteria.map .filter ++ p.joins.flatMap Join.stages ++ p.searches.map .filter

/-- The pipeline that counts the rows. -/
def count (p : Plan) : List Stage := p.filtering ++ [.count p.countField]

/-- The stages that cut the page out of the rows. -/
def window (p : Plan) : List Stage :=
  (if p.sort.isEmpty then [] else [.sort p.sort]) ++ .skip p.skip :: (p.limit.map .limit).toList

/-- The pipeline that fetches the page. -/
def page (p : Plan) : List Stage := p.filtering ++ p.window

end Plan

/-- The field with the documents joined for a column. -/
def Join.targetIn? (joins : List Join) (path : String) : Option String :=
  (joins.find? (·.path = path)).map (·.target)

namespace Column

/-- The fields of the joined documents that a search in the column looks at. -/
def joinedFields (c : Column) (target : String) : List String :=
  c.searchFields.names.map fun field => target ++ "." ++ field

/-- The fields that the global search looks at for a column. -/
def searchedFields (joins : List Join) (c : Column) : List String :=
  if c.reference then (Join.targetIn? joins c.path).elim [] c.joinedFields else [c.path]

/-- The condition of a column's own search on the joined rows.  A reference column without fields
to look at matches nothing. -/
def joinedSearch? (joins : List Join) (c : Column) : Option Filter :=
  if c.reference then
    (Join.targetIn? joins c.path).bind fun target =>
      if c.searchFields.names.isEmpty then some (.oneOf "_id" [])
      else Filter.any? ((c.joinedFields target).map fun field => c.search.columnFragment field)
  else some (c.search.columnFragment c.path)

/-- The field of the joined rows that a column sorts on. -/
def sortTarget? (joins : List Join) (c : Column) : Option String :=
  if c.reference then
    (Join.targetIn? joins c.path).bind fun target =>
      c.orderField.map fun field => target ++ "." ++ field
  else some c.path

end Column

namespace Request

/-- The columns to be joined, in order. -/
def joinedColumns (r : Request) : List Column := (Column.unreplaced r.columns).filter (·.needsJoin)

/-- The fields of the stored documents that joining keeps. -/
def keptFields (r : Request) : List String :=
  (r.columns.map fun c => baseField c.path).foldl keep []

/-- The condition of the global search on the joined rows. -/
def joinedSearch? (r : Request) (joins : List Join) : Option Filter :=
  if r.search.hasText then
    Filter.any? <| ((r.columns.filter (·.searchable)).flatMap (Column.searchedFields joins)).map
      fun field => r.search.fragment field
  else none

/-- The plan that answers a request with reference columns. -/
def plan (r : Request) (criteria : Criteria) (settings : Settings) : Except CompileError Plan :=
  match Column.joins settings (Column.namesInUse r.columns) r.keptFields r.joinedColumns with
  | .error e => .error e
  | .ok joins => .ok
    { criteria := criteria.fragments
      joins
      searches := (r.joinedSearch? joins).toList ++
        (r.columns.filter (·.hasOwnSearch)).filterMap (Column.joinedSearch? joins)
      countField := settings.countField
      sort := r.sortKeys (Column.sortTarget? joins)
      skip := r.start.toNat
      limit := r.limit }

end Request

/-! ## §4. Choosing the form -/

/-- The two ways to compile a request. -/
inductive Route where
  | simple
  | reference
  deriving DecidableEq, Repr

/-- The name of a route in events. -/
def Route.name : Route → String
  | simple => "simple"
  | reference => "reference"

/-- A compiled request. -/
inductive Compiled where
  | find (query : FindQuery)
  | aggregate (plan : Plan)
  deriving Repr

namespace Request

/-- The route of a request: by reference if any column is one. -/
def route (r : Request) : Route := if r.hasReferences then .reference else .simple

/-- Compiles a request along a route.  The route by reference needs a padding that can be part of
a name. -/
def compileAlong (r : Request) (criteria : Criteria) (settings : Settings) :
    Route → Except CompileError Compiled
  | .simple => .ok (.find (r.findQuery criteria))
  | .reference =>
    match paddingFault? settings.padding with
    | some fault => .error (.invalidPadding settings.padding fault.reason)
    | none => (r.plan criteria settings).map .aggregate

/-- Compiles a request. -/
def compile (r : Request) (criteria : Criteria) (settings : Settings) :
    Except CompileError Compiled :=
  r.compileAlong criteria settings r.route

/-! ## §5. Events of compilation -/

/-- A warning about each sort directive that has no effect. -/
def skippedEvents (r : Request) : List Event :=
  r.skippedOrders.map fun o =>
    ⟨.warn, "TABLE_SORT_SKIPPED", [("column", decimalText o.column.toNat)]⟩

/-- A warning about each searched reference column that has no fields to look at. -/
def unmatchableEvents (r : Request) (joins : List Join) : List Event :=
  (r.columns.filter fun c => c.hasOwnSearch && c.reference &&
      (Join.targetIn? joins c.path).isSome && c.searchFields.names.isEmpty).map fun c =>
    ⟨.warn, "TABLE_SEARCH_UNMATCHABLE", [("column", c.path)]⟩

/-- The events that go with the compiled form of a request. -/
def compileEvents (r : Request) : Compiled → List Event
  | .find query => r.skippedEvents ++
    [⟨.trace, "TABLE_COMPILE_SIMPLE",
      [ ("filtered", if query.filter.isSome then "true" else "false")
      , ("sort_keys", decimalText query.sort.length) ]⟩]
  | .aggregate plan => r.unmatchableEvents plan.joins ++ r.skippedEvents ++
    [⟨.trace, "TABLE_COMPILE_REFERENCE",
      [ ("references", decimalText plan.joins.length)
      , ("stages", decimalText plan.page.length) ]⟩]

end Request
end PagedTable
