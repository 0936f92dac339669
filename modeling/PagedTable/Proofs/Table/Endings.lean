/-
  PagedTable.Proofs.Table.Endings — all the ways in which a run can end.

  A run asks a store for up to three answers: the total, the count of the compiled request, and
  its page.  Each answer can be a failure or a count of zero, the request can be refused or not
  compile, and a row can fail to convert.  `Request.Ending` lists what a run may have asked and
  converted by the time it ends, together with the envelope and the events that it then leaves:

      ending_of_run — every run over every store, however it answers, ends in one of these ways

  What holds of all runs is then a case distinction over the endings, without a step of the run
  being looked at again.
-/
import PagedTable.Proofs.Table.Recording

namespace PagedTable

variable {World Row : Type}

/-! ## §1. What is asked and what is delivered -/

/-- The call for the count of a compiled request. -/
def Compiled.countCall : Compiled → Call
  | find query => .count query.filter
  | aggregate plan => .aggregate plan.count

/-- The call for the page of a compiled request. -/
def Compiled.pageCall : Compiled → Call
  | find query => .find query
  | aggregate plan => .aggregate plan.page

/-- Makes a call: the call with its answer, and the world afterwards. -/
def Executor.answered (store : Executor World) (world : World) : Call → Exchange × World
  | .count filter => (.count filter (store.count filter world).1, (store.count filter world).2)
  | .find query => (.find query (store.find query world).1, (store.find query world).2)
  | .aggregate stages =>
    (.aggregate stages (store.aggregate stages world).1, (store.aggregate stages world).2)

/-- The answer is to the call that was made. -/
theorem Executor.call_answered (store : Executor World) (world : World) (call : Call) :
    (store.answered world call).1.call = call := by
  cases call <;> rfl

namespace Exchange

/-- The count that an answer delivers; a pipeline puts it in the field. -/
def delivered (field : String) : Exchange → Except TableError Nat
  | count _ answer => answer.mapError .store
  | find _ answer => (answer.map List.length).mapError .store
  | aggregate _ answer => (answer.mapError .store).bind (countOf field)

/-- The rows that an answer delivers; a count delivers none. -/
def rows : Exchange → Except TableError (List Json)
  | count _ _ => .ok []
  | find _ answer => answer.mapError .store
  | aggregate _ answer => answer.mapError .store

end Exchange

/-- Rows converted one after the other, with the conversions made and the result: the converted
rows in order, or the first failure, behind which no row is converted. -/
inductive Converted : List Json → List (Conversion Row) → Except TableError (List Row) → Prop where
  | nil : Converted [] [] (.ok [])
  | cons {rest conversions result} (row : Json) (x : Row)
      (later : Converted rest conversions result) :
      Converted (row :: rest) ((row, .ok x) :: conversions) (result.map (x :: ·))
  | stop (row : Json) (rest : List Json) (reason : String) :
      Converted (row :: rest) [(row, .error reason)] (.error (.conversion reason))

/-! ## §2. Endings -/

/-- The events of a run, each under its name. -/
def beginEvent (queryId : String) (draw : UInt32) : Event :=
  queryEvent .info "BEGIN" queryId [("draw", decimalText draw.toNat)]

def emptyEvent (queryId : String) : Event := queryEvent .info "EMPTY" queryId []

def totalEvent (queryId : String) (total : Nat) : Event :=
  queryEvent .info "TOTAL" queryId [("total", decimalText total)]

def filteredEvent (queryId : String) (filtered : Nat) (route : Route) : Event :=
  queryEvent .info "FILTERED" queryId [("filtered", decimalText filtered), ("path", route.name)]

def completeEvent (queryId : String) (rows : Nat) : Event :=
  queryEvent .info "COMPLETE" queryId [("rows", decimalText rows)]

def failedEvent (queryId : String) (e : TableError) : Event :=
  queryEvent .error "FAILED" queryId [("error", e.message)]

namespace Request

/-- The request asks for rows and is not refused. -/
structure Passes (r : Request) (criteria : Criteria) (settings : Settings) : Prop where
  asked : r.length ≠ 0
  unrefused : r.refusal? criteria settings = none

/-- The run comes as far as the count of the compiled request: the total is not zero, the request
compiles, and its count is asked for. -/
structure Counts (r : Request) (criteria : Criteria) (settings : Settings) (total : Nat)
    (compiled : Compiled) (x : Exchange) : Prop extends r.Passes criteria settings where
  nonzero : total ≠ 0
  compiles : r.compile criteria settings = .ok compiled
  call : x.call = compiled.countCall

/-- The run comes as far as the page of the compiled request: there are rows left to fetch, and
they are asked for. -/
structure Fetches (r : Request) (criteria : Criteria) (settings : Settings) (total filtered : Nat)
    (compiled : Compiled) (x y : Exchange) : Prop
    extends r.Counts criteria settings total compiled x where
  counted : x.delivered settings.countField = .ok filtered
  left : filtered ≠ 0
  page : y.call = compiled.pageCall

/-- The ways in which a run can end: the calls and conversions that it has made, the envelope and
the events that it leaves. -/
inductive Ending (r : Request) (criteria : Criteria) (settings : Settings) (queryId : String) :
    List Exchange → List (Conversion Row) → Envelope Row → List Event → Prop where
  /-- An empty page. -/
  | empty (nothing : r.length = 0) :
      Ending r criteria settings queryId [] [] { draw := r.draw }
        [beginEvent queryId r.draw, emptyEvent queryId]
  /-- The criteria look into a reference column. -/
  | refused {column} (asked : r.length ≠ 0)
      (offended : r.refusal? criteria settings = some column) :
      Ending r criteria settings queryId [] []
        { draw := r.draw, error := some (.referencePredicate column.path) }
        [beginEvent queryId r.draw, failedEvent queryId (.referencePredicate column.path)]
  /-- The total cannot be counted. -/
  | uncounted {e} (passes : r.Passes criteria settings) :
      Ending r criteria settings queryId [.count criteria.preFilter (.error e)] []
        { draw := r.draw, error := some (.store e) }
        [beginEvent queryId r.draw, failedEvent queryId (.store e)]
  /-- The total is zero. -/
  | nothing (passes : r.Passes criteria settings) :
      Ending r criteria settings queryId [.count criteria.preFilter (.ok 0)] []
        { draw := r.draw } [beginEvent queryId r.draw, totalEvent queryId 0]
  /-- The request does not compile. -/
  | uncompiled {total e} (passes : r.Passes criteria settings) (nonzero : total ≠ 0)
      (fails : r.compile criteria settings = .error e) :
      Ending r criteria settings queryId [.count criteria.preFilter (.ok total)] []
        { draw := r.draw, total, error := some (.compile e) }
        [beginEvent queryId r.draw, totalEvent queryId total, failedEvent queryId (.compile e)]
  /-- The rows cannot be counted. -/
  | unfiltered {total compiled x e} (counts : r.Counts criteria settings total compiled x)
      (fails : x.delivered settings.countField = .error e) :
      Ending r criteria settings queryId [.count criteria.preFilter (.ok total), x] []
        { draw := r.draw, total, error := some e }
        ([beginEvent queryId r.draw, totalEvent queryId total] ++ r.compileEvents compiled
          ++ [failedEvent queryId e])
  /-- There are no rows. -/
  | noneLeft {total compiled x} (counts : r.Counts criteria settings total compiled x)
      (none : x.delivered settings.countField = .ok 0) :
      Ending r criteria settings queryId [.count criteria.preFilter (.ok total), x] []
        { draw := r.draw, total }
        ([beginEvent queryId r.draw, totalEvent queryId total] ++ r.compileEvents compiled
          ++ [filteredEvent queryId 0 r.route])
  /-- The page cannot be fetched. -/
  | unfetched {total filtered compiled x y e}
      (fetches : r.Fetches criteria settings total filtered compiled x y)
      (fails : y.rows = .error e) :
      Ending r criteria settings queryId [.count criteria.preFilter (.ok total), x, y] []
        { draw := r.draw, total, filtered, error := some e }
        ([beginEvent queryId r.draw, totalEvent queryId total] ++ r.compileEvents compiled
          ++ [filteredEvent queryId filtered r.route] ++ [failedEvent queryId e])
  /-- A row cannot be converted. -/
  | unconverted {total filtered compiled x y rows conversions e}
      (fetches : r.Fetches criteria settings total filtered compiled x y)
      (fetched : y.rows = .ok rows) (stops : Converted rows conversions (.error e)) :
      Ending r criteria settings queryId [.count criteria.preFilter (.ok total), x, y] conversions
        { draw := r.draw, total, filtered, error := some e }
        ([beginEvent queryId r.draw, totalEvent queryId total] ++ r.compileEvents compiled
          ++ [filteredEvent queryId filtered r.route] ++ [failedEvent queryId e])
  /-- The page is complete. -/
  | complete {total filtered compiled x y rows conversions result}
      (fetches : r.Fetches criteria settings total filtered compiled x y)
      (fetched : y.rows = .ok rows) (converted : Converted rows conversions (.ok result)) :
      Ending r criteria settings queryId [.count criteria.preFilter (.ok total), x, y] conversions
        { draw := r.draw, total, filtered, rows := result }
        ([beginEvent queryId r.draw, totalEvent queryId total] ++ r.compileEvents compiled
          ++ [filteredEvent queryId filtered r.route] ++ [completeEvent queryId result.length])

end Request

/-! ## §3. Steps with a record -/

/-- The world with one more call in its record. -/
def Recorded.after (w : Recorded World Row) (answered : Exchange × World) :
    Recorded World Row :=
  { w with world := answered.2, exchanges := w.exchanges ++ [answered.1] }

namespace Step

/-- Counting the total with a record. -/
theorem run_count_recording (store : Executor World) (filter : Option Filter)
    (p : Progress (Recorded World Row)) :
    (ask (store.recording.count filter)).run p
      = ((store.count filter p.world.world).1.mapError .store,
          { p with world := p.world.after (store.answered p.world.world (.count filter)) }) :=
  run_ask _ p

/-- Counting with a record: the count is what the recorded answer delivers. -/
theorem run_countRows_recording (store : Executor World) (settings : Settings)
    (compiled : Compiled) (p : Progress (Recorded World Row)) :
    (countRows store.recording settings compiled).run p
      = ((store.answered p.world.world compiled.countCall).1.delivered settings.countField,
          { p with world := p.world.after (store.answered p.world.world compiled.countCall) }) := by
  cases compiled with
  | find query =>
      rw [countRows, run_ask]
      rfl
  | aggregate plan =>
      simp only [countRows, run_bind, run_ask, Executor.recording, Compiled.countCall,
        Executor.answered, Exchange.delivered]
      cases (store.aggregate plan.count p.world.world).1 with
      | error e => rfl
      | ok rows =>
          simp only [mapError_ok, run_countIn]
          rfl

/-- Fetching with a record: the rows are what the recorded answer delivers. -/
theorem run_fetchRows_recording (store : Executor World) (compiled : Compiled)
    (p : Progress (Recorded World Row)) :
    (fetchRows store.recording compiled).run p
      = ((store.answered p.world.world compiled.pageCall).1.rows,
          { p with world := p.world.after (store.answered p.world.world compiled.pageCall) }) := by
  cases compiled <;> rw [fetchRows, run_ask] <;> rfl

/-- Converting with a record: rows are converted in turn, up to the first failure. -/
theorem run_convertAll_recording (convert : Json → World → Except String Row × World)
    (rows : List Json) (p : Progress (Recorded World Row)) :
    ∃ conversions result world, Converted rows conversions result
      ∧ (convertAll (recordConversion convert) rows).run p
          = (result, { p with world :=
              { p.world with world, conversions := p.world.conversions ++ conversions } }) := by
  induction rows generalizing p with
  | nil => exact ⟨[], .ok [], p.world.world, .nil, by rw [List.append_nil]; rfl⟩
  | cons row rest ih =>
      rw [run_convertAll_cons, recordConversion]
      rcases convert row p.world.world with ⟨reason | x, world⟩
      · exact ⟨[(row, .error reason)], _, world, .stop row rest reason, rfl⟩
      · obtain ⟨conversions, result, world', converted, ran⟩ := ih { p with
          world := { p.world with world, conversions := p.world.conversions ++ [(row, .ok x)] } }
        refine ⟨(row, .ok x) :: conversions, _, world', .cons row x converted, ?_⟩
        dsimp only
        rw [ran, ← List.append_cons]
        cases result <;> rfl

end Step

/-! ## §4. Runs with a record -/

namespace Request

/-- What the steps of a run come to: the envelope, with the events and the world left behind. -/
def outcome (r : Request) (queryId : String) :
    Except TableError (List Row) × Progress World → Outcome World Row
  | (.ok rows, p) =>
    { envelope := { draw := r.draw, total := p.total, filtered := p.filtered, rows }
      events := p.events
      world := p.world }
  | (.error e, p) =>
    { envelope := { draw := r.draw, total := p.total, filtered := p.filtered, error := some e }
      events := p.events ++ [failedEvent queryId e]
      world := p.world }

theorem run_eq_outcome (r : Request) (criteria : Criteria) (settings : Settings)
    (queryId : String) (store : Executor World)
    (convert : Json → World → Except String Row × World) (world : World) :
    r.run criteria settings queryId store convert world
      = r.outcome queryId ((r.steps criteria settings queryId store convert).run
          { world, events := [beginEvent queryId r.draw] }) := by
  have start : ({ world, events := [queryEvent .info "BEGIN" queryId
      [("draw", decimalText r.draw.toNat)]] } : Progress World)
      = { world, events := [beginEvent queryId r.draw] } := rfl
  rw [run, start]
  rcases (r.steps criteria settings queryId store convert).run
    { world, events := [beginEvent queryId r.draw] } with ⟨_ | rows, p⟩ <;> rfl

variable {r : Request} {criteria : Criteria} {settings : Settings} {total : Nat}
variable {compiled : Compiled}

/-- The ending of a run that has counted a total and compiled its request. -/
theorem ending_of_pageSteps (queryId : String) (store : Executor World)
    (convert : Json → World → Except String Row × World) (world : World)
    (passes : r.Passes criteria settings) (nonzero : total ≠ 0)
    (compiles : r.compile criteria settings = .ok compiled) :
    let o := r.outcome queryId
      ((r.pageSteps settings queryId store.recording (recordConversion convert) compiled).run
        { world := { world, exchanges := [.count criteria.preFilter (.ok total)] }
          total
          events := [beginEvent queryId r.draw, totalEvent queryId total] })
    r.Ending criteria settings queryId o.world.exchanges o.world.conversions o.envelope
      o.events := by
  simp only [pageSteps, Step.run_bind, Step.run_note, Step.run_countRows_recording]
  -- From here on the store matters through the answers that it gives.
  have call := store.call_answered world compiled.countCall
  obtain ⟨x, world, answered⟩ : ∃ x w, store.answered world compiled.countCall = (x, w) :=
    ⟨_, _, rfl⟩
  rw [answered] at call ⊢
  have counts : r.Counts criteria settings total compiled x := ⟨passes, nonzero, compiles, call⟩
  cases delivers : x.delivered settings.countField with
  | error e => exact .unfiltered counts delivers
  | ok filtered =>
      simp only [Step.run_modify]
      by_cases none : filtered = 0
      · subst none
        exact .noneLeft counts delivers
      · rw [if_neg none]
        simp only [Step.run_bind, Step.run_fetchRows_recording, Recorded.after]
        have page := store.call_answered world compiled.pageCall
        obtain ⟨y, world, answered⟩ : ∃ y w, store.answered world compiled.pageCall = (y, w) :=
          ⟨_, _, rfl⟩
        rw [answered] at page ⊢
        have fetches : r.Fetches criteria settings total filtered compiled x y :=
          ⟨counts, delivers, none, page⟩
        cases fetched : y.rows with
        | error e => exact .unfetched fetches fetched
        | ok rows =>
            dsimp only
            generalize reached : Progress.mk (Recorded.mk world _ _) total filtered _ = p
            obtain ⟨conversions, result, world, converted, ran⟩ :=
              Step.run_convertAll_recording convert rows p
            rw [ran]
            subst reached
            cases result with
            | error e => exact .unconverted fetches fetched converted
            | ok out => exact .complete fetches fetched converted

end Request

/-- **Every run ends in one of the ways listed**, whatever the store answers and however rows are
converted. -/
theorem Request.ending_of_run (r : Request) (criteria : Criteria) (settings : Settings)
    (queryId : String) (store : Executor World)
    (convert : Json → World → Except String Row × World) (world : World) :
    let o := r.recordedRun criteria settings queryId store convert world
    r.Ending criteria settings queryId o.world.exchanges o.world.conversions o.envelope
      o.events := by
  rw [recordedRun, run_eq_outcome, steps_eq]
  by_cases empty : r.length = 0
  · rw [if_pos empty]
    exact .empty empty
  · rw [if_neg empty]
    cases refusal : r.refusal? criteria settings with
    | some column => exact .refused empty refusal
    | none =>
        have passes : r.Passes criteria settings := ⟨empty, refusal⟩
        simp only [countedSteps, Step.run_bind, Step.run_count_recording, Executor.answered]
        obtain ⟨answer, world, answered⟩ : ∃ a w, store.count criteria.preFilter world = (a, w) :=
          ⟨_, _, rfl⟩
        rw [answered]
        cases answer with
        | error e => exact .uncounted passes
        | ok total =>
            simp only [Step.mapError_ok, Step.run_modify, Step.run_note]
            by_cases none : total = 0
            · subst none
              exact .nothing passes
            · rw [if_neg none]
              cases compiles : r.compile criteria settings with
              | error e => exact .uncompiled passes none compiles
              | ok compiled =>
                  exact ending_of_pageSteps queryId store convert world passes none compiles

end PagedTable
