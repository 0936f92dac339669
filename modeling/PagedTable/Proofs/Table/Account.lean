/-
  PagedTable.Proofs.Table.Account — what an envelope says about the run behind it.

  Nothing is known of the store: any of its answers may be a failure, and its counts and rows need
  not fit together.  `Request.Account` says what the envelope and the record of a run then have to
  do with each other: which calls were made and when, which counts the envelope carries, which
  rows were converted, and which failure is reported.

      Ending.account — every ending of a run accounts for it
      run_account    — so does every run, over every store and with every conversion
-/
import PagedTable.Proofs.Filter.Faults
import PagedTable.Proofs.Query.Compilation
import PagedTable.Proofs.Table.Endings

namespace PagedTable

variable {World Row : Type}

/-! ## §1. What a record says -/

@[simp] theorem Exchange.delivered_count_ok (field : String) (filter : Option Filter) (n : Nat) :
    (count filter (.ok n)).delivered field = .ok n := rfl

@[simp] theorem Exchange.delivered_count_error (field : String) (filter : Option Filter)
    (e : StoreError) : (count filter (.error e)).delivered field = .error (.store e) := rfl

/-- The calls of a run that nothing ends early, in order: the total, then the count and the page
of the compiled request, along the route of the request. -/
def Request.plannedCalls (r : Request) (criteria : Criteria) (settings : Settings) : List Call :=
  .count criteria.preFilter ::
    if r.hasReferences then
      match paddingFault? settings.padding, r.plan criteria settings with
      | none, .ok plan => [.aggregate plan.count, .aggregate plan.page]
      | _, _ => []
    else [.count (r.findQuery criteria).filter, .find (r.findQuery criteria)]

/-- The count that the call at a position delivered; zero if it delivered none. -/
def deliveredAt (settings : Settings) (exchanges : List Exchange) (i : Nat) : Nat :=
  (exchanges[i]?).elim 0 fun x => (x.delivered settings.countField).toOption.getD 0

/-- The rows that were fetched, by the third call. -/
def fetchedRows (exchanges : List Exchange) : List Json :=
  (exchanges[2]?).elim [] fun y => y.rows.toOption.getD []

namespace Request

/-- The failure of a run, by its record: a refusal, a count that was not delivered, a request that
did not compile, a page that was not fetched, or a row that was not converted. -/
def failure? (r : Request) (criteria : Criteria) (settings : Settings)
    (exchanges : List Exchange) (conversions : List (Conversion Row)) : Option TableError :=
  if r.length = 0 then none
  else
    [ (r.refusal? criteria settings).map fun column => .referencePredicate column.path
    , (exchanges[0]?).bind fun x => failureOf? (x.delivered settings.countField)
    , if deliveredAt settings exchanges 0 = 0 then none
      else (failureOf? (r.compile criteria settings)).map .compile
    , (exchanges[1]?).bind fun x => failureOf? (x.delivered settings.countField)
    , (exchanges[2]?).bind fun y => failureOf? y.rows
    , conversions.findSome? fun c => (failureOf? c.2).map .conversion ].findSome? id

/-- The envelope and the record of a run fit together. -/
structure Account (r : Request) (criteria : Criteria) (settings : Settings)
    (exchanges : List Exchange) (conversions : List (Conversion Row)) (e : Envelope Row) :
    Prop where
  /-- The calls are the first of those planned, with the arguments that compilation gives. -/
  planned : exchanges.map (·.call) <+: r.plannedCalls criteria settings
  /-- A first call is made unless the page is empty or the request refused. -/
  first : exchanges ≠ [] ↔ r.length ≠ 0 ∧ r.refusal? criteria settings = none
  /-- A second and a third call are made when the request compiles and the call before has
  delivered a count other than zero. -/
  later : ∀ i < 2, (exchanges[i + 1]?.isSome = true ↔
    (r.compile criteria settings).isOk = true ∧ deliveredAt settings exchanges i ≠ 0)
  /-- The envelope carries the counts that were delivered, and zero for the others. -/
  total : e.total = deliveredAt settings exchanges 0
  filtered : e.filtered = deliveredAt settings exchanges 1
  /-- Fetched rows are converted in order -/
  inOrder : conversions.map (·.1) <+: fetchedRows exchanges
  /-- up to the first failure. -/
  upToFailure : ∀ c ∈ conversions.dropLast, c.2.isOk = true
  toTheEnd : (∀ c ∈ conversions, c.2.isOk = true) → conversions.map (·.1) = fetchedRows exchanges
  /-- The first failure is reported, and nothing else. -/
  error : e.error = r.failure? criteria settings exchanges conversions
  /-- Without a failure the rows are those fetched, all of them converted. -/
  complete : e.error = none →
    conversions.map (·.1) = fetchedRows exchanges ∧ conversions.map (·.2) = e.rows.map .ok
  /-- With a failure there are no rows. -/
  noRows : e.error ≠ none → e.rows = []
  draw : e.draw = r.draw

end Request

/-! ## §2. Conversions -/

namespace Converted

variable {rows : List Json} {conversions : List (Conversion Row)}
variable {result : Except TableError (List Row)}

theorem inOrder (h : Converted rows conversions result) : conversions.map (·.1) <+: rows := by
  induction h with
  | nil => exact List.prefix_refl []
  | cons row x _ ih => exact List.cons_prefix_cons.2 ⟨rfl, ih⟩
  | stop row rest reason => exact ⟨rest, rfl⟩

/-- The failure of the result is that of the conversions. -/
theorem failure (h : Converted rows conversions result) :
    conversions.findSome? (fun c => (failureOf? c.2).map .conversion) = failureOf? result := by
  induction h with
  | nil => rfl
  | @cons rest conversions result row x _ ih =>
      rw [List.findSome?_cons]
      show conversions.findSome? _ = _
      rw [ih]
      cases result <;> rfl
  | stop row rest reason => rfl

/-- A result without failure has all rows converted. -/
theorem complete {out : List Row} (h : Converted rows conversions (.ok out)) :
    conversions.map (·.1) = rows ∧ conversions.map (·.2) = out.map .ok := by
  generalize ok : Except.ok out = result at h
  induction h generalizing out with
  | nil =>
      injection ok with ok
      subst ok
      exact ⟨rfl, rfl⟩
  | @cons rest conversions result row x _ ih =>
      cases result with
      | error e => exact absurd ok (by simp [Except.map])
      | ok tail =>
          injection ok with ok
          subst ok
          obtain ⟨same, converted⟩ := ih rfl
          exact ⟨by rw [List.map_cons, same], by rw [List.map_cons, converted, List.map_cons]⟩
  | stop row rest reason => exact absurd ok (by simp)

/-- All conversions but the last have succeeded. -/
theorem upToFailure (h : Converted rows conversions result) :
    ∀ c ∈ conversions.dropLast, c.2.isOk = true := by
  induction h with
  | nil | stop row rest reason => exact fun _ mem => absurd mem List.not_mem_nil
  | @cons rest conversions result row x _ ih =>
      intro c mem
      cases conversions with
      | nil => exact absurd mem List.not_mem_nil
      | cons next others =>
          rcases List.mem_cons.1 mem with rfl | mem
          · rfl
          · exact ih c mem

/-- If all conversions have succeeded, all rows are converted. -/
theorem toTheEnd (h : Converted rows conversions result)
    (fine : ∀ c ∈ conversions, c.2.isOk = true) : conversions.map (·.1) = rows := by
  induction h with
  | nil => rfl
  | @cons rest conversions result row x _ ih =>
      rw [List.map_cons, ih fun c mem => fine c (List.mem_cons_of_mem _ mem)]
  | stop row rest reason =>
      exact absurd (fine _ List.mem_cons_self) (by simp [Except.isOk, Except.toBool])

end Converted

/-! ## §3. Endings account for their runs -/

namespace Request

variable {r : Request} {criteria : Criteria} {settings : Settings} {compiled : Compiled}

/-- A request that compiles plans three calls. -/
theorem plannedCalls_of_compile (compiles : r.compile criteria settings = .ok compiled) :
    r.plannedCalls criteria settings
      = [.count criteria.preFilter, compiled.countCall, compiled.pageCall] := by
  rw [plannedCalls]
  rcases compile_eq_ok_iff.1 compiles with ⟨plain, rfl⟩ | ⟨refs, usable, plan, planned, rfl⟩
  · rw [plain]
    rfl
  · rw [refs, usable, planned]
    rfl

variable {queryId : String} {exchanges : List Exchange} {conversions : List (Conversion Row)}
variable {e : Envelope Row} {events : List Event}

namespace Ending

theorem planned (h : r.Ending criteria settings queryId exchanges conversions e events) :
    exchanges.map (·.call) <+: r.plannedCalls criteria settings := by
  cases h with
  | empty _ | refused _ _ => exact List.nil_prefix
  | uncounted _ | nothing _ | uncompiled _ _ _ => exact ⟨_, rfl⟩
  | unfiltered counts _ | noneLeft counts _ =>
      rw [plannedCalls_of_compile counts.compiles, ← counts.call]
      exact ⟨[_], rfl⟩
  | unfetched fetches _ | unconverted fetches _ _ | complete fetches _ _ =>
      rw [plannedCalls_of_compile fetches.compiles, ← fetches.call, ← fetches.page]
      exact List.prefix_refl _

theorem first (h : r.Ending criteria settings queryId exchanges conversions e events) :
    exchanges ≠ [] ↔ r.length ≠ 0 ∧ r.refusal? criteria settings = none := by
  cases h with
  | empty nothing => simp [nothing]
  | refused _ offended => simp [offended]
  | uncounted passes | nothing passes | uncompiled passes _ _ =>
      simp [passes.asked, passes.unrefused]
  | unfiltered counts _ | noneLeft counts _ => simp [counts.asked, counts.unrefused]
  | unfetched fetches _ | unconverted fetches _ _ | complete fetches _ _ =>
      simp [fetches.asked, fetches.unrefused]

theorem total (h : r.Ending criteria settings queryId exchanges conversions e events) :
    e.total = deliveredAt settings exchanges 0 := by
  cases h <;> rfl

theorem filtered (h : r.Ending criteria settings queryId exchanges conversions e events) :
    e.filtered = deliveredAt settings exchanges 1 := by
  cases h with
  | empty _ | refused _ _ | uncounted _ | nothing _ | uncompiled _ _ _ => rfl
  | unfiltered _ fails => simp [deliveredAt, fails, Except.toOption]
  | noneLeft _ none => simp [deliveredAt, none, Except.toOption]
  | unfetched fetches _ | unconverted fetches _ _ | complete fetches _ _ =>
      simp [deliveredAt, fetches.counted, Except.toOption]

/-- The second call is made after a total other than zero, if the request compiles. -/
theorem second (h : r.Ending criteria settings queryId exchanges conversions e events) :
    exchanges[1]?.isSome = true ↔ (r.compile criteria settings).isOk = true ∧ e.total ≠ 0 := by
  cases h with
  | empty _ | refused _ _ | uncounted _ | nothing _ => simp
  | uncompiled _ _ fails => simp [fails, Except.isOk, Except.toBool]
  | unfiltered counts _ | noneLeft counts _ =>
      simp [counts.compiles, counts.nonzero, Except.isOk, Except.toBool]
  | unfetched fetches _ | unconverted fetches _ _ | complete fetches _ _ =>
      simp [fetches.compiles, fetches.nonzero, Except.isOk, Except.toBool]

/-- The third call is made after a count other than zero. -/
theorem third (h : r.Ending criteria settings queryId exchanges conversions e events) :
    exchanges[2]?.isSome = true ↔ (r.compile criteria settings).isOk = true ∧ e.filtered ≠ 0 := by
  cases h with
  | empty _ | refused _ _ | uncounted _ | nothing _ | uncompiled _ _ _ | unfiltered _ _
  | noneLeft _ _ => simp
  | unfetched fetches _ | unconverted fetches _ _ | complete fetches _ _ =>
      simp [fetches.compiles, fetches.left, Except.isOk, Except.toBool]

theorem later (h : r.Ending criteria settings queryId exchanges conversions e events) :
    ∀ i < 2, (exchanges[i + 1]?.isSome = true ↔
      (r.compile criteria settings).isOk = true ∧ deliveredAt settings exchanges i ≠ 0) := by
  intro i small
  obtain rfl | rfl : i = 0 ∨ i = 1 := by omega
  · rw [h.second, h.total]
  · rw [h.third, h.filtered]

/-- The rows that were fetched, converted up to the first failure. -/
theorem converted (h : r.Ending criteria settings queryId exchanges conversions e events) :
    ∃ result, Converted (fetchedRows exchanges) conversions result := by
  have third : ∀ {total x y} {rows : List Json}, y.rows = .ok rows →
      fetchedRows [.count criteria.preFilter (.ok total), x, y] = rows := by
    intro total x y rows fetched
    show (y.rows.toOption).getD [] = rows
    rw [fetched]
    rfl
  cases h with
  | empty _ | refused _ _ | uncounted _ | nothing _ | uncompiled _ _ _ | unfiltered _ _
  | noneLeft _ _ => exact ⟨_, .nil⟩
  | unfetched _ fails =>
      refine ⟨.ok [], ?_⟩
      show Converted ((Exchange.rows _).toOption.getD []) [] _
      rw [fails]
      exact .nil
  | unconverted _ fetched stops => exact ⟨_, third fetched ▸ stops⟩
  | complete _ fetched converted => exact ⟨_, third fetched ▸ converted⟩

theorem error (h : r.Ending criteria settings queryId exchanges conversions e events) :
    e.error = r.failure? criteria settings exchanges conversions := by
  cases h with
  | empty nothing => simp [failure?, nothing]
  | refused asked offended => simp [failure?, asked, offended]
  | uncounted passes => simp [failure?, passes.asked, passes.unrefused]
  | nothing passes =>
      simp [failure?, passes.asked, passes.unrefused, deliveredAt, Except.toOption]
  | uncompiled passes nonzero fails =>
      simp [failure?, passes.asked, passes.unrefused, deliveredAt, Except.toOption, nonzero, fails]
  | unfiltered counts fails =>
      simp [failure?, counts.asked, counts.unrefused, counts.compiles, fails]
  | noneLeft counts none =>
      simp [failure?, counts.asked, counts.unrefused, counts.compiles, none]
  | unfetched fetches fails =>
      simp [failure?, fetches.asked, fetches.unrefused, fetches.compiles, fetches.counted, fails]
  | unconverted fetches fetched stops =>
      simp [failure?, fetches.asked, fetches.unrefused, fetches.compiles, fetches.counted, fetched,
        stops.failure]
  | complete fetches fetched converted =>
      simp [failure?, fetches.asked, fetches.unrefused, fetches.compiles, fetches.counted, fetched,
        converted.failure]

/-- A failure leaves no rows. -/
theorem noRows (h : r.Ending criteria settings queryId exchanges conversions e events)
    (failed : e.error ≠ none) : e.rows = [] := by
  cases h with
  | complete _ _ _ => exact absurd rfl failed
  | _ => rfl

/-- Without a failure the rows are all those fetched, converted in order. -/
theorem rows (h : r.Ending criteria settings queryId exchanges conversions e events)
    (fine : e.error = none) :
    conversions.map (·.1) = fetchedRows exchanges ∧ conversions.map (·.2) = e.rows.map .ok := by
  cases h with
  | empty _ | nothing _ | noneLeft _ _ => exact ⟨rfl, rfl⟩
  | refused _ _ | uncounted _ | uncompiled _ _ _ | unfiltered _ _ | unfetched _ _
  | unconverted _ _ _ => exact absurd fine (by simp)
  | complete _ fetched converted =>
      obtain ⟨same, all⟩ := converted.complete
      refine ⟨?_, all⟩
      rw [same]
      show _ = (Exchange.rows _).toOption.getD []
      rw [fetched]
      rfl

/-- **Every ending accounts for the run.** -/
theorem account (h : r.Ending criteria settings queryId exchanges conversions e events) :
    r.Account criteria settings exchanges conversions e := by
  obtain ⟨result, converted⟩ := h.converted
  exact
    { planned := h.planned
      first := h.first
      later := h.later
      total := h.total
      filtered := h.filtered
      inOrder := converted.inOrder
      upToFailure := converted.upToFailure
      toTheEnd := converted.toTheEnd
      error := h.error
      complete := h.rows
      noRows := h.noRows
      draw := by cases h <;> rfl }

end Ending

/-- **The account of a run.**  Over every store, whatever it answers, and with every conversion,
the calls and conversions of a run, recorded without changing it, account for its envelope. -/
theorem run_account (r : Request) (criteria : Criteria) (settings : Settings) (queryId : String)
    (store : Executor World) (convert : Json → World → Except String Row × World)
    (world : World) :
    let recorded := r.recordedRun criteria settings queryId store convert world
    r.run criteria settings queryId store convert world
        = { envelope := recorded.envelope
            events := recorded.events
            world := recorded.world.world }
      ∧ r.Account criteria settings recorded.world.exchanges recorded.world.conversions
          recorded.envelope :=
  ⟨r.run_recording criteria settings queryId store convert world,
    (r.ending_of_run criteria settings queryId store convert world).account⟩

end Request

end PagedTable
