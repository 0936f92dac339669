/-
  PagedTable.Proofs.Table.Recording — runs that keep a record of what they ask and convert.

  A run over an arbitrary store shows in its outcome neither the calls it has made nor the rows it
  has converted.  `Executor.recording` is the same store, in a world that keeps every call with its
  answer, and `recordConversion` the same conversion, with every row and its result kept.

  The record changes nothing: by one simulation lemma per primitive step (`Step.Records`),

      run_recording — a run with a record has the envelope, the events and the world of the run
-/
import PagedTable.Proofs.Table.MemoryRun

namespace PagedTable

/-! ## §1. Calls and answers -/

/-- A call to a store. -/
inductive Call where
  | count (filter : Option Filter)
  | find (query : FindQuery)
  | aggregate (stages : List Stage)

/-- A call with the answer to it. -/
inductive Exchange where
  | count (filter : Option Filter) (answer : Except StoreError Nat)
  | find (query : FindQuery) (answer : Except StoreError (List Json))
  | aggregate (stages : List Stage) (answer : Except StoreError (List Json))

/-- The call of an exchange. -/
def Exchange.call : Exchange → Call
  | count filter _ => .count filter
  | find query _ => .find query
  | aggregate stages _ => .aggregate stages

/-- The count in the result of a count pipeline; no document means zero, and a first document
without a count is an error. -/
def countOf (field : String) : List Json → Except TableError Nat
  | [] => .ok 0
  | row :: _ =>
    match (row.get? field).bind Json.nat? with
    | some n => .ok n
    | none => .error (.invalidCount field)

/-- A row that was converted, with the result. -/
abbrev Conversion (Row : Type) := Json × Except String Row

/-- A world with a record of the calls and conversions so far, the first ones first. -/
structure Recorded (World Row : Type) where
  world : World
  exchanges : List Exchange := []
  conversions : List (Conversion Row) := []

variable {World Row : Type}

/-- The store that keeps a record of its calls. -/
def Executor.recording (store : Executor World) : Executor (Recorded World Row) where
  count filter w :=
    let (answer, world) := store.count filter w.world
    (answer, { w with world, exchanges := w.exchanges ++ [.count filter answer] })
  find query w :=
    let (answer, world) := store.find query w.world
    (answer, { w with world, exchanges := w.exchanges ++ [.find query answer] })
  aggregate stages w :=
    let (answer, world) := store.aggregate stages w.world
    (answer, { w with world, exchanges := w.exchanges ++ [.aggregate stages answer] })

/-- The conversion that keeps a record of its rows. -/
def recordConversion (convert : Json → World → Except String Row × World) :
    Json → Recorded World Row → Except String Row × Recorded World Row :=
  fun row w =>
    let (result, world) := convert row w.world
    (result, { w with world, conversions := w.conversions ++ [(row, result)] })

/-! ## §2. Steps with a record -/

/-- Progress without the record. -/
def Progress.forget (p : Progress (Recorded World Row)) : Progress World :=
  { world := p.world.world, total := p.total, filtered := p.filtered, events := p.events }

namespace Step

/-- Reading the count leaves the progress alone. -/
theorem run_countIn (field : String) (rows : List Json) (p : Progress World) :
    (countIn field rows).run p = (countOf field rows, p) := by
  cases rows with
  | nil => rfl
  | cons row rest =>
      simp only [countIn, countOf]
      cases (row.get? field).bind Json.nat? <;> rfl

/-- The conversion of one more row. -/
theorem run_convertAll_cons (convert : Json → World → Except String Row × World) (row : Json)
    (rest : List Json) (p : Progress World) :
    (convertAll convert (row :: rest)).run p = match convert row p.world with
      | (.error reason, world) => (.error (.conversion reason), { p with world })
      | (.ok x, world) =>
        match (convertAll convert rest).run { p with world } with
        | (.error e, p') => (.error e, p')
        | (.ok rows, p') => (.ok (x :: rows), p') := by
  simp only [convertAll, run_bind, run_get, run_modify]
  rcases convert row p.world with ⟨reason | x, world⟩
  · rfl
  · simp only [run_bind]
    rcases (convertAll convert rest).run { p with world } with ⟨_ | rows, p'⟩ <;> rfl

/-- The first step does with a record what the second does without. -/
def Records (recorded : Step (Recorded World Row) α) (step : Step World α) : Prop :=
  ∀ p, step.run p.forget = ((recorded.run p).1, (recorded.run p).2.forget)

namespace Records

theorem pure (a : α) : Records (Pure.pure a : Step (Recorded World Row) α) (Pure.pure a) :=
  fun _ => rfl

theorem throw (e : TableError) :
    Records (MonadExcept.throw e : Step (Recorded World Row) α) (MonadExcept.throw e) :=
  fun _ => rfl

theorem note (events : List Event) :
    Records (Step.note events : Step (Recorded World Row) Unit) (Step.note events) := fun _ => rfl

theorem setTotal (total : Nat) :
    Records (modify fun p => { p with total } : Step (Recorded World Row) Unit)
      (modify fun p => { p with total }) := fun _ => rfl

theorem setFiltered (filtered : Nat) :
    Records (modify fun p => { p with filtered } : Step (Recorded World Row) Unit)
      (modify fun p => { p with filtered }) := fun _ => rfl

theorem bind {first : Step (Recorded World Row) α} {first' : Step World α}
    {second : α → Step (Recorded World Row) β} {second' : α → Step World β}
    (same : Records first first') (later : ∀ a, Records (second a) (second' a)) :
    Records (first >>= second) (first' >>= second') := by
  intro p
  rw [run_bind, run_bind, same p]
  rcases first.run p with ⟨_ | a, p'⟩
  · rfl
  · exact later a p'

/-- Asking for an answer that is recorded. -/
theorem ask {query : Recorded World Row → Except StoreError α × Recorded World Row}
    {query' : World → Except StoreError α × World}
    (same : ∀ w, query' w.world = ((query w).1, (query w).2.world)) :
    Records (Step.ask query) (Step.ask query') := by
  intro p
  rw [run_ask, run_ask, show p.forget.world = p.world.world from rfl, same p.world]
  rfl

theorem countIn (field : String) (rows : List Json) :
    Records (Step.countIn field rows : Step (Recorded World Row) Nat)
      (Step.countIn field rows) := by
  intro p
  rw [run_countIn, run_countIn]

theorem countRows (store : Executor World) (settings : Settings) (compiled : Compiled) :
    Records (Step.countRows store.recording settings compiled : Step (Recorded World Row) Nat)
      (Step.countRows store settings compiled) := by
  cases compiled with
  | find query => exact ask fun _ => rfl
  | aggregate plan => exact (ask fun _ => rfl).bind fun rows => countIn settings.countField rows

theorem fetchRows (store : Executor World) (compiled : Compiled) :
    Records (Step.fetchRows store.recording compiled : Step (Recorded World Row) (List Json))
      (Step.fetchRows store compiled) := by
  cases compiled <;> exact ask fun _ => rfl

theorem convertAll (convert : Json → World → Except String Row × World) (rows : List Json) :
    Records (Step.convertAll (recordConversion convert) rows) (Step.convertAll convert rows) := by
  induction rows with
  | nil => exact pure []
  | cons row rest ih =>
      intro p
      rw [run_convertAll_cons, run_convertAll_cons, recordConversion,
          show p.forget.world = p.world.world from rfl]
      rcases convert row p.world.world with ⟨reason | x, world⟩
      · rfl
      · -- Both go on with the rest, in worlds that differ by the record only.
        have later := ih { p with
          world := { p.world with world, conversions := p.world.conversions ++ [(row, .ok x)] } }
        dsimp only [Progress.forget] at later ⊢
        rw [later]
        rcases (Step.convertAll (recordConversion convert) rest).run _ with ⟨_ | rows, p'⟩ <;> rfl

/-- The steps of a compiled request. -/
theorem pageSteps (r : Request) (settings : Settings) (queryId : String) (store : Executor World)
    (convert : Json → World → Except String Row × World) (compiled : Compiled) :
    Records (r.pageSteps settings queryId store.recording (recordConversion convert) compiled)
      (r.pageSteps settings queryId store convert compiled) := by
  refine (note _).bind fun _ => (countRows store settings compiled).bind fun filtered => ?_
  refine (setFiltered filtered).bind fun _ => (note _).bind fun _ => ?_
  by_cases none : filtered = 0
  · rw [if_pos none, if_pos none]
    exact pure []
  · rw [if_neg none, if_neg none]
    refine (fetchRows store compiled).bind fun rows => (convertAll convert rows).bind fun out => ?_
    exact (note _).bind fun _ => pure out

/-- The steps of a request that is not refused. -/
theorem countedSteps (r : Request) (criteria : Criteria) (settings : Settings) (queryId : String)
    (store : Executor World) (convert : Json → World → Except String Row × World) :
    Records (r.countedSteps criteria settings queryId store.recording (recordConversion convert))
      (r.countedSteps criteria settings queryId store convert) := by
  refine (ask fun _ => rfl).bind fun total => (setTotal total).bind fun _ => ?_
  refine (note _).bind fun _ => ?_
  by_cases none : total = 0
  · rw [if_pos none, if_pos none]
    exact pure []
  · rw [if_neg none, if_neg none]
    cases r.compile criteria settings with
    | error e => exact throw (.compile e)
    | ok compiled => exact pageSteps r settings queryId store convert compiled

/-- All steps of a run. -/
theorem steps (r : Request) (criteria : Criteria) (settings : Settings) (queryId : String)
    (store : Executor World) (convert : Json → World → Except String Row × World) :
    Records (r.steps criteria settings queryId store.recording (recordConversion convert))
      (r.steps criteria settings queryId store convert) := by
  rw [Request.steps_eq, Request.steps_eq]
  by_cases empty : r.length = 0
  · rw [if_pos empty, if_pos empty]
    exact (note _).bind fun _ => pure []
  · rw [if_neg empty, if_neg empty]
    cases r.refusal? criteria settings with
    | some column => exact throw (.referencePredicate column.path)
    | none => exact countedSteps r criteria settings queryId store convert

end Records

end Step

/-! ## §3. Runs with a record -/

/-- The run of a request that keeps a record, which is empty at the beginning. -/
def Request.recordedRun (r : Request) (criteria : Criteria) (settings : Settings)
    (queryId : String) (store : Executor World)
    (convert : Json → World → Except String Row × World) (world : World) :
    Outcome (Recorded World Row) Row :=
  r.run criteria settings queryId store.recording (recordConversion convert) { world }

/-- **Keeping a record changes nothing.** -/
theorem Request.run_recording (r : Request) (criteria : Criteria) (settings : Settings)
    (queryId : String) (store : Executor World)
    (convert : Json → World → Except String Row × World) (world : World) :
    let recorded := r.recordedRun criteria settings queryId store convert world
    r.run criteria settings queryId store convert world
      = { envelope := recorded.envelope
          events := recorded.events
          world := recorded.world.world } := by
  have same := Step.Records.steps r criteria settings queryId store convert
    { world := ({ world } : Recorded World Row)
      events := [queryEvent .info "BEGIN" queryId [("draw", decimalText r.draw.toNat)]] }
  unfold Progress.forget at same
  unfold Request.recordedRun Request.run
  dsimp only at same ⊢
  rw [same]
  rcases (r.steps criteria settings queryId store.recording (recordConversion convert)).run _
    with ⟨_ | rows, p⟩ <;> rfl

end PagedTable
