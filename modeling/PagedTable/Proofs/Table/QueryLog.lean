/-
  PagedTable.Proofs.Table.QueryLog — what the log says about a run, and what the envelope says.

  The events of a run are those of the query itself and, between its total and its count, those of
  compilation.  Each event of the query has its counterpart in the envelope or in what the store
  has answered, so the events can be written down without the run:

      events_eq        — every ending leaves these events, with those of compilation between them
      Ending.order     — seven sequences of names are possible
      split_eq_atLeast — a threshold only leaves out lines, by the severity that is on them
      run_log          — so it is with every run, over every store and with every conversion
-/
import PagedTable.Proofs.Log.Lines
import PagedTable.Proofs.Query.Freshness
import PagedTable.Proofs.Table.Account

namespace PagedTable

variable {World Row : Type}

/-! ## §1. Streams -/

namespace Severity

/-- The highest threshold lets errors through and nothing else. -/
theorem error_admits (severity : Severity) :
    error.admits severity = decide (severity = error) := by cases severity <;> rfl

/-- Errors pass every threshold. -/
theorem admits_error (threshold : Severity) : threshold.admits error = true := by
  cases threshold <;> rfl

/-- Everything passes the lowest threshold. -/
theorem trace_admits (severity : Severity) : trace.admits severity = true := by
  cases severity <;> rfl

end Severity

namespace Log

/-- The lines of at least a severity, by the severity that is on them. -/
def atLeast (threshold : Severity) (log : Log) : Log where
  output := log.output.filter fun line => (Event.severityOf? line).any threshold.admits
  errors := log.errors.filter fun line => (Event.severityOf? line).any threshold.admits

/-- Every threshold lets errors through; nothing else goes to their stream. -/
theorem errors_split (threshold : Severity) (events : List Event) :
    (split threshold events).errors = (events.filter (·.severity = .error)).map Event.line := by
  rw [split, List.partition_eq_filter_filter]
  show (List.filter _ (List.filter _ events)).map Event.line = _
  rw [List.filter_filter]
  refine congrArg (List.map Event.line) (List.filter_congr fun e _ => ?_)
  rw [Severity.error_admits]
  by_cases failed : e.severity = .error
  · simp [failed, Severity.admits_error]
  · simp [failed]

/-- What a threshold lets through of the other events goes to the other stream. -/
theorem output_split (threshold : Severity) (events : List Event) :
    (split threshold events).output
      = ((events.filter (·.severity ≠ .error)).filter (threshold.admits ·.severity)).map
          Event.line := by
  rw [split, List.partition_eq_filter_filter]
  show (List.filter _ (List.filter _ events)).map Event.line = _
  rw [List.filter_filter, List.filter_filter]
  refine congrArg (List.map Event.line) (List.filter_congr fun e _ => ?_)
  rw [Function.comp_apply, Severity.error_admits, Bool.and_comm, decide_not]

/-- Lines are left out by their severity as events are. -/
theorem filter_map_line {events : List Event} (named : ∀ e ∈ events, e.WellNamed)
    (threshold : Severity) :
    (events.map Event.line).filter (fun line => (Event.severityOf? line).any threshold.admits)
      = (events.filter (threshold.admits ·.severity)).map Event.line := by
  rw [List.filter_map]
  refine congrArg (List.map Event.line) (List.filter_congr fun e mem => ?_)
  rw [Function.comp_apply, (named e mem).severityOf?_line]
  rfl

/-- **A threshold leaves out the lines below it and changes nothing else.** -/
theorem split_eq_atLeast {events : List Event} (named : ∀ e ∈ events, e.WellNamed)
    (threshold : Severity) :
    split threshold events = (split .trace events).atLeast threshold := by
  have named' (select : Event → Bool) : ∀ e ∈ events.filter select, e.WellNamed :=
    fun e mem => named e (List.mem_filter.1 mem).1
  have output : (split threshold events).output
      = ((split .trace events).atLeast threshold).output := by
    rw [atLeast, output_split, output_split]
    simp only [Severity.trace_admits, List.filter_true]
    exact (filter_map_line (named' _) threshold).symm
  have errors : (split threshold events).errors
      = ((split .trace events).atLeast threshold).errors := by
    -- On this stream nothing is left out: there are only errors on it.
    have all : (events.filter (·.severity = .error)).filter (threshold.admits ·.severity)
        = events.filter (·.severity = .error) := by
      refine List.filter_eq_self.2 fun e mem => ?_
      rw [of_decide_eq_true (List.mem_filter.1 mem).2]
      exact threshold.admits_error
    rw [atLeast, errors_split, errors_split]
    dsimp only
    rw [filter_map_line (named' _) threshold, all]
  exact congrArg₂ Log.mk output errors

end Log

/-! ## §2. Events of the query and of compilation -/

/-- The fields of an event are well named when the list of their names is. -/
theorem Event.wellNamed_of_names {e : Event} (names : List String)
    (named : e.fields.map Prod.fst = names)
    (fine : names.Nodup ∧ ∀ name ∈ ["event", "severity"], name ∉ names) : e.WellNamed := by
  subst named
  exact ⟨fine.1, fine.2⟩

/-- Is the event one of the query itself? -/
def Event.ofQuery (e : Event) : Bool := startsWith e.name "TABLE_QUERY_"

/-- The events of the query itself. -/
def queryEvents (events : List Event) : List Event := events.filter Event.ofQuery

/-- An event made for the query is one of the query. -/
theorem ofQuery_queryEvent (severity : Severity) (name queryId : String)
    (fields : List (String × String)) :
    (queryEvent severity name queryId fields).ofQuery = true := by
  rw [Event.ofQuery, startsWith_iff, queryEvent, String.toList_append]
  exact List.prefix_append _ _

/-- What the events of compilation have in common: they are not of the query, they are no errors,
and their fields are well named. -/
structure Event.IsNote (e : Event) : Prop where
  apart : e.ofQuery = false
  tolerated : e.severity ≠ .error
  named : e.WellNamed

/-- The texts of an event do not matter for being a note. -/
theorem Event.isNote_of_names {e : Event} (name : String) (severity : Severity)
    (names : List String) (called : e.name = name) (rated : e.severity = severity)
    (named : e.fields.map Prod.fst = names)
    (fine : startsWith name "TABLE_QUERY_" = false ∧ severity ≠ .error
      ∧ names.Nodup ∧ ∀ name ∈ ["event", "severity"], name ∉ names) : e.IsNote := by
  subst called rated
  exact ⟨fine.1, fine.2.1, wellNamed_of_names names named fine.2.2⟩

namespace Request

theorem isNote_skippedEvents (r : Request) : ∀ e ∈ r.skippedEvents, e.IsNote := by
  intro e mem
  obtain ⟨o, -, rfl⟩ := List.mem_map.1 mem
  exact Event.isNote_of_names "TABLE_SORT_SKIPPED" .warn ["column"] rfl rfl rfl (by decide)

theorem isNote_unmatchableEvents (r : Request) (joins : List Join) :
    ∀ e ∈ r.unmatchableEvents joins, e.IsNote := by
  intro e mem
  obtain ⟨c, -, rfl⟩ := List.mem_map.1 mem
  exact Event.isNote_of_names "TABLE_SEARCH_UNMATCHABLE" .warn ["column"] rfl rfl rfl (by decide)

/-- **The events of compilation are notes.** -/
theorem isNote_compileEvents (r : Request) (compiled : Compiled) :
    ∀ e ∈ r.compileEvents compiled, e.IsNote := by
  cases compiled with
  | find query =>
      refine List.forall_mem_append.2 ⟨r.isNote_skippedEvents, List.forall_mem_singleton.2 ?_⟩
      exact Event.isNote_of_names "TABLE_COMPILE_SIMPLE" .trace ["filtered", "sort_keys"] rfl rfl
        rfl (by decide)
  | aggregate plan =>
      have warnings := List.forall_mem_append.2
        ⟨r.isNote_unmatchableEvents plan.joins, r.isNote_skippedEvents⟩
      refine List.forall_mem_append.2 ⟨warnings, List.forall_mem_singleton.2 ?_⟩
      exact Event.isNote_of_names "TABLE_COMPILE_REFERENCE" .trace ["references", "stages"] rfl rfl
        rfl (by decide)

end Request

/-! ## §3. What there is to tell -/

/-- Has the call at a position delivered a count? -/
def delivers (settings : Settings) (exchanges : List Exchange) (i : Nat) : Bool :=
  (exchanges[i]?).any fun x => (x.delivered settings.countField).isOk

@[simp] theorem isOk_ok {ε α : Type} (a : α) : (Except.ok a : Except ε α).isOk = true := rfl

@[simp] theorem isOk_error {ε α : Type} (e : ε) : (Except.error e : Except ε α).isOk = false := rfl

@[simp] theorem delivers_nil (settings : Settings) (i : Nat) : delivers settings [] i = false := rfl

@[simp] theorem delivers_zero (settings : Settings) (x : Exchange) (later : List Exchange) :
    delivers settings (x :: later) 0 = (x.delivered settings.countField).isOk := rfl

@[simp] theorem delivers_succ (settings : Settings) (x : Exchange) (later : List Exchange)
    (i : Nat) :
    delivers settings (x :: later) (i + 1) = delivers settings later i := rfl

/-- The names of the events of a query, in all the orders in which they come. -/
def querySequences : List (List String) :=
  [ ["BEGIN", "EMPTY"]
  , ["BEGIN", "FAILED"]
  , ["BEGIN", "TOTAL"]
  , ["BEGIN", "TOTAL", "FAILED"]
  , ["BEGIN", "TOTAL", "FILTERED"]
  , ["BEGIN", "TOTAL", "FILTERED", "FAILED"]
  , ["BEGIN", "TOTAL", "FILTERED", "COMPLETE"] ].map fun names => names.map ("TABLE_QUERY_" ++ ·)

@[simp] theorem name_beginEvent (queryId : String) (draw : UInt32) :
    (beginEvent queryId draw).name = "TABLE_QUERY_BEGIN" := rfl

@[simp] theorem name_emptyEvent (queryId : String) :
    (emptyEvent queryId).name = "TABLE_QUERY_EMPTY" := rfl

@[simp] theorem name_totalEvent (queryId : String) (total : Nat) :
    (totalEvent queryId total).name = "TABLE_QUERY_TOTAL" := rfl

@[simp] theorem name_filteredEvent (queryId : String) (filtered : Nat) (route : Route) :
    (filteredEvent queryId filtered route).name = "TABLE_QUERY_FILTERED" := rfl

@[simp] theorem name_completeEvent (queryId : String) (rows : Nat) :
    (completeEvent queryId rows).name = "TABLE_QUERY_COMPLETE" := rfl

@[simp] theorem name_failedEvent (queryId : String) (x : TableError) :
    (failedEvent queryId x).name = "TABLE_QUERY_FAILED" := rfl

namespace Request

/-- The events of a query before those of compilation: that it begins, that its page is empty, and
the total if the store has delivered it. -/
def openingEvents (r : Request) (settings : Settings) (queryId : String)
    (exchanges : List Exchange) (e : Envelope Row) : List Event :=
  [beginEvent queryId r.draw]
    ++ (if r.length = 0 then [emptyEvent queryId] else [])
    ++ (if delivers settings exchanges 0 then [totalEvent queryId e.total] else [])

/-- The events of a query behind those of compilation: the count of the compiled request if the
store has delivered it, the failure of the envelope, and the number of rows if the page has been
fetched without one. -/
def closingEvents (r : Request) (settings : Settings) (queryId : String)
    (exchanges : List Exchange) (e : Envelope Row) : List Event :=
  (if delivers settings exchanges 1 then [filteredEvent queryId e.filtered r.route] else [])
    ++ (e.error.map (failedEvent queryId)).toList
    ++ (if exchanges[2]?.isSome && !e.isError then [completeEvent queryId e.rows.length] else [])

variable {r : Request} {criteria : Criteria} {settings : Settings} {queryId : String}
variable {exchanges : List Exchange} {conversions : List (Conversion Row)}
variable {e : Envelope Row} {events : List Event}

/-- **Every ending leaves the events that there are to tell**, and notes of compilation between
them. -/
theorem Ending.events_eq (h : r.Ending criteria settings queryId exchanges conversions e events) :
    ∃ noted, (∀ ev ∈ noted, ev.IsNote)
      ∧ events = r.openingEvents settings queryId exchanges e ++ noted
          ++ r.closingEvents settings queryId exchanges e := by
  have silent : ∀ ev ∈ ([] : List Event), ev.IsNote := fun _ mem => absurd mem List.not_mem_nil
  -- Only a run that has compiled its request has notes; the first five endings come before that.
  cases h with
  | empty nothing =>
      exact ⟨[], silent, by simp [openingEvents, closingEvents, nothing]⟩
  | refused asked offended =>
      exact ⟨[], silent, by simp [openingEvents, closingEvents, asked]⟩
  | uncounted passes =>
      exact ⟨[], silent, by simp [openingEvents, closingEvents, passes.asked]⟩
  | nothing passes =>
      exact ⟨[], silent, by simp [openingEvents, closingEvents, passes.asked]⟩
  | uncompiled passes nonzero fails =>
      exact ⟨[], silent, by simp [openingEvents, closingEvents, passes.asked]⟩
  | @unfiltered _ compiled _ _ counts fails =>
      exact ⟨_, r.isNote_compileEvents compiled,
        by simp [openingEvents, closingEvents, counts.asked, fails]⟩
  | @noneLeft _ compiled _ counts none =>
      exact ⟨_, r.isNote_compileEvents compiled,
        by simp [openingEvents, closingEvents, counts.asked, none]⟩
  | @unfetched _ _ compiled _ _ _ fetches fails =>
      exact ⟨_, r.isNote_compileEvents compiled,
        by simp [openingEvents, closingEvents, fetches.asked, fetches.counted, Envelope.isError]⟩
  | @unconverted _ _ compiled _ _ _ _ _ fetches fetched stops =>
      exact ⟨_, r.isNote_compileEvents compiled,
        by simp [openingEvents, closingEvents, fetches.asked, fetches.counted, Envelope.isError]⟩
  | @complete _ _ compiled _ _ _ _ _ fetches fetched converted =>
      exact ⟨_, r.isNote_compileEvents compiled,
        by simp [openingEvents, closingEvents, fetches.asked, fetches.counted, Envelope.isError]⟩

/-- **The events of a query come in one of seven orders.** -/
theorem Ending.order (h : r.Ending criteria settings queryId exchanges conversions e events) :
    (r.openingEvents settings queryId exchanges e
        ++ r.closingEvents settings queryId exchanges e).map (·.name) ∈ querySequences := by
  cases h with
  | empty nothing => simp [querySequences, openingEvents, closingEvents, nothing]
  | refused asked offended => simp [querySequences, openingEvents, closingEvents, asked]
  | uncounted passes | nothing passes | uncompiled passes _ _ =>
      simp [querySequences, openingEvents, closingEvents, passes.asked]
  | unfiltered counts fails =>
      simp [querySequences, openingEvents, closingEvents, counts.asked, fails]
  | noneLeft counts none =>
      simp [querySequences, openingEvents, closingEvents, counts.asked, none]
  | unfetched fetches _ | unconverted fetches _ _ | complete fetches _ _ =>
      simp [querySequences, openingEvents, closingEvents, fetches.asked, fetches.counted,
        Envelope.isError]

/-! ## §4. What the log says -/

/-- The events before those of compilation are of the query, they are no errors, and their fields
are well named. -/
theorem openingEvents_spec : ∀ ev ∈ r.openingEvents settings queryId exchanges e,
    ev.ofQuery = true ∧ ev.severity ≠ .error ∧ ev.WellNamed := by
  intro ev mem
  have cases : ev = beginEvent queryId r.draw ∨ ev = emptyEvent queryId
      ∨ ev = totalEvent queryId e.total := by
    simp only [openingEvents, List.mem_append, List.mem_ite_nil_right, List.mem_singleton] at mem
    tauto
  have calm : Severity.info ≠ .error := by decide
  rcases cases with rfl | rfl | rfl
  · exact ⟨ofQuery_queryEvent _ _ _ _, calm,
      Event.wellNamed_of_names ["draw", "query_id"] rfl (by decide)⟩
  · exact ⟨ofQuery_queryEvent _ _ _ _, calm,
      Event.wellNamed_of_names ["query_id"] rfl (by decide)⟩
  · exact ⟨ofQuery_queryEvent _ _ _ _, calm,
      Event.wellNamed_of_names ["total", "query_id"] rfl (by decide)⟩

/-- The events behind those of compilation are of the query, and their fields are well named. -/
theorem closingEvents_spec : ∀ ev ∈ r.closingEvents settings queryId exchanges e,
    ev.ofQuery = true ∧ ev.WellNamed := by
  intro ev mem
  have cases : ev = filteredEvent queryId e.filtered r.route ∨ (∃ x, ev = failedEvent queryId x)
      ∨ ev = completeEvent queryId e.rows.length := by
    simp only [closingEvents, List.mem_append, List.mem_ite_nil_right, List.mem_singleton,
      Option.mem_toList, Option.map_eq_some_iff] at mem
    obtain (⟨-, filtered⟩ | ⟨x, -, failed⟩) | ⟨-, complete⟩ := mem
    · exact .inl filtered
    · exact .inr (.inl ⟨x, failed.symm⟩)
    · exact .inr (.inr complete)
  rcases cases with rfl | ⟨x, rfl⟩ | rfl
  · exact ⟨ofQuery_queryEvent _ _ _ _,
      Event.wellNamed_of_names ["filtered", "path", "query_id"] rfl (by decide)⟩
  · exact ⟨ofQuery_queryEvent _ _ _ _,
      Event.wellNamed_of_names ["error", "query_id"] rfl (by decide)⟩
  · exact ⟨ofQuery_queryEvent _ _ _ _,
      Event.wellNamed_of_names ["rows", "query_id"] rfl (by decide)⟩

/-- The only error among the events behind those of compilation is the failure. -/
theorem filter_closingEvents :
    (r.closingEvents settings queryId exchanges e).filter (·.severity = .error)
      = (e.error.map (failedEvent queryId)).toList := by
  have filtered : (if delivers settings exchanges 1 then [filteredEvent queryId e.filtered r.route]
      else []).filter (·.severity = .error) = [] := by
    split <;> rfl
  have complete : (if exchanges[2]?.isSome && !e.isError
      then [completeEvent queryId e.rows.length] else []).filter (·.severity = .error) = [] := by
    split <;> rfl
  rw [closingEvents, List.filter_append, List.filter_append, filtered, complete]
  cases e.error <;> rfl

/-- The log of a run and its envelope agree. -/
structure Logs (r : Request) (settings : Settings) (queryId : String) (exchanges : List Exchange)
    (e : Envelope Row) (events : List Event) : Prop where
  /-- The events of the query are those that the envelope and the answers of the store give, in
  order: each one occurs exactly on its condition and carries what the envelope holds. -/
  told : queryEvents events = r.openingEvents settings queryId exchanges e
    ++ r.closingEvents settings queryId exchanges e
  /-- They come in one of seven orders. -/
  order : (queryEvents events).map (·.name) ∈ querySequences
  /-- Under the lowest threshold every event is written, -/
  written : (Log.split .trace events).output = (events.filter (·.severity ≠ .error)).map Event.line
  /-- and under every threshold the failure, and nothing else, goes to the stream of errors. -/
  errors : ∀ threshold, (Log.split threshold events).errors
    = (e.error.map fun x => (failedEvent queryId x).line).toList
  /-- A higher threshold leaves out the lines below it. -/
  thinned : ∀ threshold, Log.split threshold events = (Log.split .trace events).atLeast threshold

/-- The events of the query are those before and behind the notes of compilation. -/
theorem queryEvents_of_notes {opening noted closing : List Event}
    (before : ∀ ev ∈ opening, ev.ofQuery = true) (notes : ∀ ev ∈ noted, ev.IsNote)
    (behind : ∀ ev ∈ closing, ev.ofQuery = true) :
    queryEvents (opening ++ noted ++ closing) = opening ++ closing := by
  have none : noted.filter Event.ofQuery = [] :=
    List.filter_eq_nil_iff.2 fun ev mem => Bool.not_eq_true _ ▸ (notes ev mem).apart
  rw [queryEvents, List.filter_append, List.filter_append, List.filter_eq_self.2 before, none,
    List.filter_eq_self.2 behind, List.append_nil]

/-- **The log of every ending agrees with its envelope.** -/
theorem Ending.logs (h : r.Ending criteria settings queryId exchanges conversions e events) :
    r.Logs settings queryId exchanges e events := by
  obtain ⟨noted, notes, split⟩ := h.events_eq
  have opening (ev) (mem : ev ∈ r.openingEvents settings queryId exchanges e) :=
    openingEvents_spec ev mem
  have closing (ev) (mem : ev ∈ r.closingEvents settings queryId exchanges e) :=
    closingEvents_spec ev mem
  have told : queryEvents events = r.openingEvents settings queryId exchanges e
      ++ r.closingEvents settings queryId exchanges e := by
    rw [split]
    exact queryEvents_of_notes (fun ev mem => (opening ev mem).1) notes
      fun ev mem => (closing ev mem).1
  have named : ∀ ev ∈ events, ev.WellNamed := by
    rw [split]
    exact List.forall_mem_append.2 ⟨List.forall_mem_append.2
      ⟨fun ev mem => (opening ev mem).2.2, fun ev mem => (notes ev mem).named⟩,
      fun ev mem => (closing ev mem).2⟩
  have failure : events.filter (·.severity = .error)
      = (e.error.map (failedEvent queryId)).toList := by
    have calm {part : List Event} (others : ∀ ev ∈ part, ev.severity ≠ .error) :
        part.filter (·.severity = .error) = [] :=
      List.filter_eq_nil_iff.2 fun ev mem => by simpa using others ev mem
    rw [split, List.filter_append, List.filter_append, calm fun ev mem => (opening ev mem).2.1,
      calm fun ev mem => (notes ev mem).tolerated, filter_closingEvents]
    rfl
  exact
    { told
      order := told ▸ h.order
      written := by
        rw [Log.output_split]
        simp only [Severity.trace_admits, List.filter_true]
      errors := fun threshold => by
        rw [Log.errors_split, failure]
        cases e.error <;> rfl
      thinned := Log.split_eq_atLeast named }

/-- A run under a threshold: its envelope, and the lines that are written. -/
def loggedRun (r : Request) (criteria : Criteria) (settings : Settings) (queryId : String)
    (store : Executor World) (convert : Json → World → Except String Row × World) (world : World)
    (threshold : Severity) : Envelope Row × Log :=
  let o := r.run criteria settings queryId store convert world
  (o.envelope, Log.split threshold o.events)

/-- **The log of a run agrees with its envelope.**  Over every store, whatever it answers, and
with every conversion, the events of a run fit the envelope and the recorded answers, which are to
the first of the planned calls: the total, the count and the page.  A threshold changes nothing
about the envelope and only leaves out lines of the full log, by the severity that is on them. -/
theorem run_log (r : Request) (criteria : Criteria) (settings : Settings) (queryId : String)
    (store : Executor World) (convert : Json → World → Except String Row × World)
    (world : World) :
    let recorded := r.recordedRun criteria settings queryId store convert world
    r.run criteria settings queryId store convert world
        = { envelope := recorded.envelope
            events := recorded.events
            world := recorded.world.world }
      ∧ recorded.world.exchanges.map (·.call) <+: r.plannedCalls criteria settings
      ∧ r.Logs settings queryId recorded.world.exchanges recorded.envelope recorded.events
      ∧ ∀ threshold, r.loggedRun criteria settings queryId store convert world threshold
          = (recorded.envelope,
              (r.loggedRun criteria settings queryId store convert world .trace).2.atLeast
                threshold) := by
  intro recorded
  have same := r.run_recording criteria settings queryId store convert world
  have ending := r.ending_of_run criteria settings queryId store convert world
  have logs := ending.logs
  refine ⟨same, ending.account.planned, logs, fun threshold => ?_⟩
  rw [loggedRun, loggedRun, same]
  exact congrArg (Prod.mk recorded.envelope) (logs.thinned threshold)

end Request

end PagedTable
