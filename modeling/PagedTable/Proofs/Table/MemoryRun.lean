/-
  PagedTable.Proofs.Table.MemoryRun — the answer of a run over a collection in memory.

  A run is written as steps over a world that any store may change.  A collection in memory leaves
  the world alone, so a run over it is a plain case distinction: `Store.answer` says which
  envelope comes out, step by step, and `answer_executor` that the run gives this envelope in
  every world.

  The lemmas of §1 say what each primitive step does to the progress of a run, for any executor.
-/
import PagedTable.Store.Memory
import PagedTable.Table.Run

namespace PagedTable

/-! ## §1. Primitive steps -/

namespace Step

variable {World : Type}

/-- Two steps in turn: the second goes on where the first has ended, unless it has failed. -/
theorem run_bind (first : Step World α) (second : α → Step World β) (p : Progress World) :
    (first >>= second).run p = match first.run p with
      | (.ok a, p') => (second a).run p'
      | (.error e, p') => (.error e, p') := by
  show (match first.run p with | (a, p') => ExceptT.bindCont second a p') = _
  rcases first.run p with ⟨_ | a, p'⟩ <;> rfl

theorem run_pure (a : α) (p : Progress World) : (pure a : Step World α).run p = (.ok a, p) := rfl

theorem run_throw (e : TableError) (p : Progress World) :
    (throw e : Step World α).run p = (.error e, p) := rfl

theorem run_get (p : Progress World) :
    (get : Step World (Progress World)).run p = (.ok p, p) := rfl

theorem run_modify (change : Progress World → Progress World) (p : Progress World) :
    (modify change : Step World Unit).run p = (.ok (), change p) := rfl

theorem run_note (events : List Event) (p : Progress World) :
    (note events).run p = (.ok (), { p with events := p.events ++ events }) := rfl

/-- What the store gives is passed on as it is. -/
theorem mapError_ok (a : α) :
    (Except.ok a : Except StoreError α).mapError TableError.store = .ok a := rfl

/-- Asking the store changes the world and nothing else. -/
theorem run_ask (query : World → Except StoreError α × World) (p : Progress World) :
    (ask query).run p
      = ((query p.world).1.mapError .store, { p with world := (query p.world).2 }) := by
  simp only [ask, run_bind, run_get, run_modify]
  rcases query p.world with ⟨_ | a, world⟩ <;> rfl

/-- Converting every row to itself changes nothing. -/
theorem run_convertAll_self (rows : List Json) (p : Progress World) :
    (convertAll (fun row world => ((.ok row : Except String Json), world)) rows).run p
      = (.ok rows, p) := by
  induction rows with
  | nil => rfl
  | cons row rest ih =>
      simp only [convertAll, run_bind, run_get, run_modify]
      rw [ih]
      rfl

end Step

/-! ## §2. The parts of a run -/

namespace Request

variable {World Row : Type}

/-- The reference column for which a request is refused. -/
def refusal? (r : Request) (criteria : Criteria) (settings : Settings) : Option Column :=
  if r.hasReferences then offendedReference? r criteria settings.checkNested else none

/-- The steps of a compiled request. -/
def pageSteps (r : Request) (settings : Settings) (queryId : String) (store : Executor World)
    (convert : Json → World → Except String Row × World) (compiled : Compiled) :
    Step World (List Row) := do
  Step.note (r.compileEvents compiled)
  let filtered ← Step.countRows store settings compiled
  modify fun p => { p with filtered }
  Step.note [queryEvent .info "FILTERED" queryId
    [("filtered", decimalText filtered), ("path", r.route.name)]]
  if filtered = 0 then return []
  let rows ← Step.convertAll convert (← Step.fetchRows store compiled)
  Step.note [queryEvent .info "COMPLETE" queryId [("rows", decimalText rows.length)]]
  return rows

/-- The steps of a request that is not refused. -/
def countedSteps (r : Request) (criteria : Criteria) (settings : Settings) (queryId : String)
    (store : Executor World) (convert : Json → World → Except String Row × World) :
    Step World (List Row) := do
  let total ← Step.ask (store.count criteria.preFilter)
  modify fun p => { p with total }
  Step.note [queryEvent .info "TOTAL" queryId [("total", decimalText total)]]
  if total = 0 then return []
  match r.compile criteria settings with
  | .error e => throw (.compile e)
  | .ok compiled => r.pageSteps settings queryId store convert compiled

/-- A run is one of three: an empty page, a refusal, or the counted steps. -/
theorem steps_eq (r : Request) (criteria : Criteria) (settings : Settings) (queryId : String)
    (store : Executor World) (convert : Json → World → Except String Row × World) :
    r.steps criteria settings queryId store convert
      = if r.length = 0 then do
          Step.note [queryEvent .info "EMPTY" queryId []]
          return []
        else match r.refusal? criteria settings with
          | some column => throw (.referencePredicate column.path)
          | none => r.countedSteps criteria settings queryId store convert := by
  unfold steps refusal?
  by_cases empty : r.length = 0
  · rw [if_pos empty, if_pos empty]
  · rw [if_neg empty, if_neg empty]
    by_cases refs : r.hasReferences = true
    · rw [if_pos refs]
      simp only [if_pos refs]
      cases offendedReference? r criteria settings.checkNested <;> rfl
    · rw [if_neg refs]
      simp only [if_neg refs]
      rfl

end Request

/-! ## §3. The answer as a case distinction -/

namespace Store

/-- The count that a compiled request gives. -/
def countRows (s : Store) (collection : String) (settings : Settings) :
    Compiled → Except TableError Nat
  | .find query => (s.count collection query.filter).mapError .store
  | .aggregate plan =>
    match s.aggregate collection plan.count with
    | .error e => .error (.store e)
    | .ok [] => .ok 0
    | .ok (row :: _) =>
      match (row.get? settings.countField).bind Json.nat? with
      | some n => .ok n
      | none => .error (.invalidCount settings.countField)

/-- The page that a compiled request gives. -/
def fetchRows (s : Store) (collection : String) : Compiled → Except StoreError (List Json)
  | .find query => s.find collection query
  | .aggregate plan => s.aggregate collection plan.page

/-- The answer to a request over a collection. -/
def answer (s : Store) (collection : String) (r : Request) (criteria : Criteria)
    (settings : Settings) : Envelope Json :=
  if r.length = 0 then { draw := r.draw }
  else
    match r.refusal? criteria settings with
    | some column => { draw := r.draw, error := some (.referencePredicate column.path) }
    | none =>
      match s.count collection criteria.preFilter with
      | .error e => { draw := r.draw, error := some (.store e) }
      | .ok 0 => { draw := r.draw }
      | .ok total =>
        match r.compile criteria settings with
        | .error e => { draw := r.draw, total, error := some (.compile e) }
        | .ok compiled =>
          match s.countRows collection settings compiled with
          | .error e => { draw := r.draw, total, error := some e }
          | .ok 0 => { draw := r.draw, total }
          | .ok filtered =>
            match s.fetchRows collection compiled with
            | .error e => { draw := r.draw, total, filtered, error := some (.store e) }
            | .ok rows => { draw := r.draw, total, filtered, rows }

end Store

/-! ## §4. Runs over a collection -/

namespace Step

variable {World : Type} (s : Store) (collection : String)

/-- Counting documents leaves the progress alone. -/
theorem run_count (filter : Option Filter) (p : Progress World) :
    (ask ((s.executor collection World).count filter)).run p
      = ((s.count collection filter).mapError .store, p) := by
  rw [run_ask]
  rfl

/-- Counting the rows of a compiled request leaves the progress alone. -/
theorem run_countRows (settings : Settings) (compiled : Compiled) (p : Progress World) :
    (countRows (s.executor collection World) settings compiled).run p
      = (s.countRows collection settings compiled, p) := by
  cases compiled with
  | find query =>
      rw [countRows, run_ask]
      rfl
  | aggregate plan =>
      simp only [countRows, run_bind, run_ask, Store.executor, Store.countRows]
      cases s.aggregate collection plan.count with
      | error e => rfl
      | ok rows =>
          cases rows with
          | nil => rfl
          | cons row rest =>
              simp only [mapError_ok, countIn]
              cases (row.get? settings.countField).bind Json.nat? <;> rfl

/-- Fetching the page of a compiled request leaves the progress alone. -/
theorem run_fetchRows (compiled : Compiled) (p : Progress World) :
    (fetchRows (s.executor collection World) compiled).run p
      = ((s.fetchRows collection compiled).mapError .store, p) := by
  cases compiled <;> rw [fetchRows, run_ask] <;> rfl

end Step

/-- **A run over a collection answers as the case distinction says, in every world.** -/
theorem answer_executor (s : Store) (collection : String) (r : Request) (criteria : Criteria)
    (settings : Settings) (world : World) :
    r.answer criteria settings (s.executor collection World) world
      = s.answer collection r criteria settings := by
  unfold Request.answer Request.run Store.answer
  rw [Request.steps_eq]
  -- Both sides ask the same questions in the same order; every case ends both of them or neither.
  by_cases empty : r.length = 0
  · simp only [if_pos empty, Step.run_bind, Step.run_note, Step.run_pure]
  · simp only [if_neg empty]
    cases r.refusal? criteria settings with
    | some column => simp only [Step.run_throw]
    | none =>
        simp only [Request.countedSteps, Step.run_bind, Step.run_count]
        cases s.count collection criteria.preFilter with
        | error e => rfl
        | ok total =>
            cases total with
            | zero => rfl
            | succ total =>
                simp only [Step.mapError_ok, Step.run_modify, Step.run_note,
                  Nat.succ_ne_zero, if_false]
                cases r.compile criteria settings with
                | error e => rfl
                | ok compiled =>
                    simp only [Request.pageSteps, Step.run_bind, Step.run_note, Step.run_modify,
                      Step.run_countRows]
                    cases s.countRows collection settings compiled with
                    | error e => rfl
                    | ok filtered =>
                        cases filtered with
                        | zero => rfl
                        | succ filtered =>
                            simp only [Nat.succ_ne_zero, if_false, Step.run_bind,
                              Step.run_fetchRows]
                            cases s.fetchRows collection compiled with
                            | error e => rfl
                            | ok rows =>
                                simp only [Step.mapError_ok, Step.run_convertAll_self,
                                  Step.run_note, Step.run_pure]

end PagedTable
