/-
  PagedTable.Table.Run — answering a table request through a store.

  A run is a line of steps, each of which may end it: an empty page is answered at once; criteria
  that look into reference columns are refused; the total is counted, then the request compiled
  and its rows counted, and a count of zero ends the run; then the page is fetched and its rows
  are converted.  A failure ends the run as well.  Every step leaves an event behind.

  Main interface: `Request.run`, `Request.answer`.
-/
import PagedTable.Store.Executor
import PagedTable.Table.Envelope

namespace PagedTable

/-! ## §1. Criteria and reference columns -/

/-- Does a path lead to a column or into it? -/
def leadsInto (path column : String) : Bool :=
  path == column || (column.toList ++ ['.']).isPrefixOf path.toList

/-- The paths of a condition that are looked at. -/
def inspectedPaths (nested : Bool) (fragment : Filter) : List String :=
  if nested then fragment.paths else fragment.topPaths

/-- The first reference column that the first offending condition looks into. -/
def offendedReference? (r : Request) (criteria : Criteria) (nested : Bool) : Option Column :=
  criteria.fragments.findSome? fun fragment =>
    r.references.find? fun column =>
      (inspectedPaths nested fragment).any (leadsInto · column.path)

/-! ## §2. Events -/

/-- An event of a run; every one carries the identifier of the run. -/
def queryEvent (severity : Severity) (name queryId : String) (fields : List (String × String)) :
    Event :=
  ⟨severity, "TABLE_QUERY_" ++ name, fields ++ [("query_id", queryId)]⟩

/-! ## §3. The steps of a run -/

/-- What a run has learned and left behind so far. -/
structure Progress (World : Type) where
  world : World
  total : Nat := 0
  filtered : Nat := 0
  events : List Event := []

/-- A step of a run: it may fail, and what was learned before stays known. -/
abbrev Step (World : Type) := ExceptT TableError (StateM (Progress World))

namespace Step

variable {World : Type}

/-- Leaves events behind. -/
def note (events : List Event) : Step World Unit :=
  modify fun p => { p with events := p.events ++ events }

/-- Asks the store. -/
def ask (query : World → Except StoreError α × World) : Step World α := do
  let (answer, world) := query (← get).world
  modify fun p => { p with world }
  match answer with
  | .ok a => return a
  | .error e => throw (.store e)

/-- The count in the result of a count pipeline; no document means zero. -/
def countIn (field : String) : List Json → Step World Nat
  | [] => return 0
  | row :: _ =>
    match (row.get? field).bind Json.nat? with
    | some n => return n
    | none => throw (.invalidCount field)

/-- Counts the rows of a compiled request. -/
def countRows (store : Executor World) (settings : Settings) : Compiled → Step World Nat
  | .find query => ask (store.count query.filter)
  | .aggregate plan => do countIn settings.countField (← ask (store.aggregate plan.count))

/-- Fetches the page of a compiled request. -/
def fetchRows (store : Executor World) : Compiled → Step World (List Json)
  | .find query => ask (store.find query)
  | .aggregate plan => ask (store.aggregate plan.page)

/-- Converts rows one after the other; the first failure counts. -/
def convertAll (convert : Json → World → Except String Row × World) :
    List Json → Step World (List Row)
  | [] => return []
  | row :: rest => do
    let (result, world) := convert row (← get).world
    modify fun p => { p with world }
    match result with
    | .ok converted => return converted :: (← convertAll convert rest)
    | .error reason => throw (.conversion reason)

end Step

/-- The rows of the answer to a request. -/
def Request.steps (r : Request) (criteria : Criteria) (settings : Settings) (queryId : String)
    (store : Executor World) (convert : Json → World → Except String Row × World) :
    Step World (List Row) := do
  if r.length = 0 then
    Step.note [queryEvent .info "EMPTY" queryId []]
    return []
  if r.hasReferences then
    if let some column := offendedReference? r criteria settings.checkNested then
      throw (.referencePredicate column.path)
  let total ← Step.ask (store.count criteria.preFilter)
  modify fun p => { p with total }
  Step.note [queryEvent .info "TOTAL" queryId [("total", decimalText total)]]
  if total = 0 then return []
  match r.compile criteria settings with
  | .error e => throw (.compile e)
  | .ok compiled =>
    Step.note (r.compileEvents compiled)
    let filtered ← Step.countRows store settings compiled
    modify fun p => { p with filtered }
    Step.note [queryEvent .info "FILTERED" queryId
      [("filtered", decimalText filtered), ("path", r.route.name)]]
    if filtered = 0 then return []
    let rows ← Step.convertAll convert (← Step.fetchRows store compiled)
    Step.note [queryEvent .info "COMPLETE" queryId [("rows", decimalText rows.length)]]
    return rows

/-! ## §4. Whole runs -/

/-- What a run leaves behind. -/
structure Outcome (World Row : Type) where
  envelope : Envelope Row
  events : List Event
  world : World

/-- Answers a request: the events of the run come first to last. -/
def Request.run (r : Request) (criteria : Criteria) (settings : Settings) (queryId : String)
    (store : Executor World) (convert : Json → World → Except String Row × World)
    (world : World) : Outcome World Row :=
  let start : Progress World :=
    { world, events := [queryEvent .info "BEGIN" queryId [("draw", decimalText r.draw.toNat)]] }
  let (result, p) := (r.steps criteria settings queryId store convert).run start
  match result with
  | .ok rows =>
    { envelope := { draw := r.draw, total := p.total, filtered := p.filtered, rows }
      events := p.events
      world := p.world }
  | .error e =>
    { envelope :=
        { draw := r.draw, total := p.total, filtered := p.filtered, error := some e }
      events := p.events ++ [queryEvent .error "FAILED" queryId [("error", e.message)]]
      world := p.world }

/-- The answer to a request with its rows as they are. -/
def Request.answer (r : Request) (criteria : Criteria) (settings : Settings)
    (store : Executor World) (world : World) : Envelope Json :=
  (r.run criteria settings "" store (fun row world => (.ok row, world)) world).envelope

end PagedTable
