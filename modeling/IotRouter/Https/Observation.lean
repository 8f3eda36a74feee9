import IotRouter.Https.Middleware

/-!
# What is observed of the requests

The requests tell the recorder of metrics about themselves one call at a time,
and a scrape reads one series at a time. In between come the calls of other
requests. So a scrape may miss the last calls, and may find a request counted
whose time is not recorded yet, but what it shows is made of the requests that
were answered.
-/

namespace IotRouter.Https.Middleware

open IotRouter.Runtime

/-! ## What the recorder shows of the requests -/

/-- The series that a response is reported to. -/
def reportedTo (request : Request) (response : Response) : List (Series Key) :=
  [.counter (httpRequestsTotal (methodName request.method) request.path
      response.code.repr),
    .histogram (httpRequestDurationSeconds (methodName request.method)
      request.path)]

/-- The answer of the inner service to a request is one for the series. -/
def Concerns (server : Server.State) (series : Series Key) (i : Nat) : Prop :=
  ∃ (request : Request) (body : Option Body) (response : Response),
    server.exchanges i = .answered request body response ∧
      series ∈ reportedTo request response

/-- The series shows how many requests are counted in it: none that it does not
concern, none twice, and all that it concerns once they have left the stack. -/
structure Counted (recorder : Recorder Key Float) (state : State)
    (series : Series Key) (counted : List Nat) : Prop where
  shown : recorder.shows (told state.calls) series =
    UInt64.ofNat counted.length
  once : counted.Nodup
  concerned : ∀ i ∈ counted, Concerns state.server series i
  left : ∀ i flight headers rendered,
    state.stage i = .answered flight headers rendered →
    Concerns state.server series i → i ∈ counted

section Report

variable {flight : Flight} {response : Response} {nanos : Nat}
  {series : Series Key}

/-- The calls about a response add one to its two series. -/
theorem adds_report {call : Call Key Float}
    (made : call ∈ flight.report response nanos) :
    call.adds series = 0 ∨
      call.adds series = 1 ∧ series ∈ reportedTo flight.request response := by
  simp only [Flight.report, recordMetrics, List.mem_cons, List.not_mem_nil,
    or_false] at made
  rcases made with rfl | rfl | rfl | rfl
  · exact Or.inl rfl
  · by_cases same : series = .counter (httpRequestsTotal
        (methodName flight.request.method) flight.request.path
        response.code.repr)
    · simp [Call.adds, same, reportedTo]
    · simp [Call.adds, same]
  · exact Or.inl rfl
  · by_cases same : series = .histogram (httpRequestDurationSeconds
        (methodName flight.request.method) flight.request.path)
    · simp [Call.adds, same, reportedTo]
    · simp [Call.adds, same]

/-- To none of them more than once. -/
theorem countP_report :
    ((flight.report response nanos).countP fun call => call.adds series ≠ 0) ≤
      1 := by
  cases series with
  | counter key =>
      simp [Flight.report, recordMetrics, List.countP_cons, Call.adds]
      split <;> simp
  | histogram key =>
      simp [Flight.report, recordMetrics, List.countP_cons, Call.adds]
      split <;> simp

theorem exists_adds_report (here : series ∈ reportedTo flight.request response) :
    ∃ call ∈ flight.report response nanos, call.adds series ≠ 0 := by
  simp only [reportedTo, List.mem_cons, List.not_mem_nil, or_false] at here
  rcases here with rfl | rfl
  · exact ⟨_, List.mem_cons_of_mem _ List.mem_cons_self, by simp [Call.adds]⟩
  · refine ⟨.record (httpRequestDurationSeconds
      (methodName flight.request.method) flight.request.path)
      (asSecsF64 nanos), ?_, by simp [Call.adds]⟩
    simp [Flight.report, recordMetrics]

end Report

section Counting

variable {state : State} {recorder : Recorder Key Float} {series : Series Key}

/-- A request has made no calls, or the first ones of its report. -/
theorem StageWF.made {server : Server.State} {i : Nat}
    {made : List (Call Key Float)} {stage : Stage}
    (wf : StageWF server i made stage) :
    made = [] ∨ ∃ flight ahead, Reported server i flight (made ++ ahead) := by
  cases stage with
  | unused => exact Or.inl wf.2
  | entered flight => exact Or.inl wf.2.2
  | rendering flight scrape => exact Or.inl wf.2.2.1
  | inside flight rendered => exact Or.inl wf.2.2.1
  | recording flight rendered ahead => exact Or.inr ⟨flight, ahead, wf.2.1⟩
  | answered flight headers rendered =>
      refine Or.inr ⟨flight, [], ?_⟩
      rw [List.append_nil]
      exact wf.2.1
  | dropped flight => exact Or.inl wf.2.2.2

/-- A call adds one at most, and only to a series that the answer concerns. -/
theorem RequestsWF.adds (wf : RequestsWF state) {i : Nat}
    {call : Call Key Float} (made : call ∈ callsOf state.calls i) :
    call.adds series = 0 ∨
      call.adds series = 1 ∧ Concerns state.server series i := by
  rcases StageWF.made (wf i) with none | ⟨flight, ahead, reported⟩
  · rw [none] at made
    cases made
  · rcases reported with ⟨body, response, nanos, answered, _, report⟩
    have listed : call ∈ flight.report response nanos := by
      rw [← report]
      exact List.mem_append_left _ made
    rcases adds_report listed with zero | ⟨one, here⟩
    · exact Or.inl zero
    · exact Or.inr ⟨one, _, _, _, answered, here⟩

theorem RequestsWF.countP_le (wf : RequestsWF state) (i : Nat) :
    ((callsOf state.calls i).countP fun call => call.adds series ≠ 0) ≤ 1 := by
  rcases StageWF.made (wf i) with none | ⟨flight, ahead, reported⟩
  · rw [none]
    exact Nat.zero_le _
  · rcases reported with ⟨body, response, nanos, _, _, report⟩
    have once := @countP_report flight response nanos series
    rw [← report, List.countP_append] at once
    exact Nat.le_trans (Nat.le_add_right _ _) once

/-- A lawful recorder counts the requests. -/
theorem RequestsWF.counted (wf : RequestsWF state) (lawful : recorder.Lawful)
    (series : Series Key) :
    Counted recorder state series (contributors series state.calls) where
  shown := by
    rw [lawful.shows, total_eq_length_contributors]
    intro entry member
    rcases wf.adds (mem_callsOf.mpr member) with zero | ⟨one, _⟩
    · exact Or.inl zero
    · exact Or.inr one
  once := contributors_nodup wf.countP_le
  concerned i member := by
    rcases mem_contributors.mp member with ⟨call, made, adds⟩
    rcases wf.adds made with zero | ⟨_, concerns⟩
    · exact absurd zero adds
    · exact concerns
  left i flight headers rendered at_ concerns := by
    have here := wf i
    rw [at_] at here
    rcases here.2.1 with ⟨body, response, nanos, answered, _, report⟩
    rcases concerns with ⟨request, body', response', answered', listed⟩
    rw [answered] at answered'
    cases answered'
    rw [mem_contributors, report]
    exact exists_adds_report listed

end Counting

/-! ## What a scrape shows -/

/-- What holds of request `i` if it came in after the calls `first`. -/
structure Scraping (recorder : Recorder Key Float) (i : Nat)
    (first : List (Nat × Call Key Float)) (state : State) : Prop where
  grows : first <+: state.calls
  rendering : ∀ flight scrape, state.stage i = .rendering flight scrape →
    ScrapeWF recorder i first state.calls scrape
  rendered : ∀ shown, (state.stage i).rendered = some shown →
    Scraped recorder i first state.calls shown

section Scrapes

variable {recorder : Recorder Key Float} {responseHeaders : Response → HeaderMap}
  {service : MakeService} {state next : State} {action : Action}
  {i : Nat} {first : List (Nat × Call Key Float)}

/-- A request at stage `stage` goes on, while the calls go on. -/
theorem Scraping.update (scraping : Scraping recorder i first state) (j : Nat)
    {server : Server.State} {calls : List (Nat × Call Key Float)} {stage : Stage}
    (later : state.calls <+: calls)
    (rendering : j = i → ∀ flight scrape, stage = .rendering flight scrape →
      ScrapeWF recorder i first calls scrape)
    (rendered : j = i → ∀ shown, stage.rendered = some shown →
      Scraped recorder i first calls shown) :
    Scraping recorder i first
      { server, calls, stage := Function.update state.stage j stage } := by
  constructor
  · exact scraping.grows.trans later
  · intro flight scrape at_
    by_cases own : j = i
    · subst own
      simp only [Function.update_self] at at_
      exact rendering rfl flight scrape at_
    · simp only [Function.update_of_ne (Ne.symm own)] at at_
      exact (scraping.rendering flight scrape at_).later later
  · intro shown at_
    by_cases own : j = i
    · subst own
      simp only [Function.update_self] at at_
      exact rendered rfl shown at_
    · simp only [Function.update_of_ne (Ne.symm own)] at at_
      exact (scraping.rendered shown at_).later later

/-- A stage that shows what the one before did, and renders nothing. -/
theorem Scraping.carry (scraping : Scraping recorder i first state) (j : Nat)
    {server : Server.State} {calls : List (Nat × Call Key Float)} {stage : Stage}
    (later : state.calls <+: calls)
    (idle : ∀ flight scrape, stage ≠ .rendering flight scrape)
    (same : stage.rendered = none ∨
      stage.rendered = (state.stage j).rendered) :
    Scraping recorder i first
      { server, calls, stage := Function.update state.stage j stage } := by
  apply scraping.update j later
  · intro _ flight scrape at_
    exact absurd at_ (idle flight scrape)
  · intro own shown at_
    subst own
    rcases same with none | same
    · cases none.symm.trans at_
    · exact (scraping.rendered shown (same ▸ at_)).later later

/-- What is passed on with the request has been rendered. -/
theorem Scraping.of_ready (scraping : Scraping recorder i first state)
    {flight : Flight} {rendered : Option Rendered}
    (ready : (state.stage i).ready = some (flight, rendered))
    {shown : Rendered} (has : rendered = some shown) :
    Scraped recorder i first state.calls shown := by
  subst has
  cases at_ : state.stage i with
  | entered other =>
      rw [at_] at ready
      simp [Stage.ready] at ready
  | rendering other scrape =>
      rw [at_] at ready
      simp only [Stage.ready, Option.ite_none_right_eq_some, Option.some.injEq,
        Prod.mk.injEq] at ready
      rcases ready with ⟨complete, rfl, rfl⟩
      exact (scraping.rendering other scrape at_).scraped complete
  | unused | inside | recording | answered | dropped =>
      rw [at_] at ready
      cases ready

/-- Whatever the requests do, a scrape shows what was there meanwhile. -/
theorem Scraping.step (scraping : Scraping recorder i first state)
    (wf : RequestsWF state)
    (stepped : Step recorder responseHeaders service state action next) :
    Scraping recorder i first next := by
  have same := List.prefix_refl state.calls
  cases stepped with
  | request j request headers id unused =>
      exact scraping.carry j same (fun _ _ => by simp) (Or.inl rfl)
  | render j flight entered routed =>
      apply scraping.update j same
      · intro own _ _ at_
        cases at_
        exact .begin scraping.grows
      · intro _ _ at_
        cases at_
  | read j series flight scrape after rendering reads =>
      apply scraping.update j same
      · intro own _ _ at_
        cases at_
        subst own
        have silent := wf j
        rw [rendering] at silent
        exact (scraping.rendering flight scrape rendering).read scraping.grows
          silent.2.2.1 reads
      · intro _ _ at_
        cases at_
  | serve j uuid took flight rendered server ready ran =>
      apply scraping.update j same
      · intro _ _ _ at_
        cases at_
      · intro own shown at_
        subst own
        exact scraping.of_ready ready at_
  | measure j flight rendered request body response inside answered =>
      exact scraping.carry j same (fun _ _ => by simp)
        (Or.inr (by rw [inside]; rfl))
  | tell j flight rendered call ahead recording =>
      exact scraping.carry j (List.prefix_append _ _) (fun _ _ => by simp)
        (Or.inr (by rw [recording]; rfl))
  | respond j flight rendered response recording =>
      exact scraping.carry j same (fun _ _ => by simp)
        (Or.inr (by rw [recording]; rfl))
  | disconnect j flight rendered inside pending =>
      exact scraping.carry j same (fun _ _ => by simp) (Or.inl rfl)
  | telemetry | elsewhere =>
      exact ⟨scraping.grows, scraping.rendering, scraping.rendered⟩

end Scrapes

/-! ## Every run -/

/-- What is observed of the requests by the end of a run. -/
structure Observed (recorder : Recorder Key Float) (state last : State) :
    Prop where
  /-- Every request has told the recorder what its stage says. -/
  requests : RequestsWF last
  counted : ∀ series, ∃ counted, Counted recorder last series counted
  /-- A scrape that came in during the run shows every series there was when the
  run began, with values from the run. -/
  scraped : ∀ i flight headers shown, state.stage i = .unused →
    last.stage i = .answered flight headers (some shown) →
    Scraped recorder i state.calls last.calls shown

/-- The requests are identified and counted whatever the order in which the
threads get at the recorder. -/
theorem observed {recorder : Recorder Key Float} (lawful : recorder.Lawful)
    {responseHeaders : Response → HeaderMap} {service : MakeService}
    {idleTimeout : Connections.Duration} {clock : Int} {schedule : List Action}
    {state last : State}
    (reachable : (system recorder responseHeaders service idleTimeout
      clock).Reachable state)
    (ran : (system recorder responseHeaders service idleTimeout clock).runFrom
      state schedule = some last) : Observed recorder state last := by
  have requests : ∀ {state : State}, (system recorder responseHeaders service
      idleTimeout clock).Reachable state → RequestsWF state := by
    intro state reachable
    apply System.invariant RequestsWF (.start idleTimeout clock) ?_ reachable
    intro state next action _ wf stepped
    exact wf.step (State.step_cases stepped)
  have wf := requests (reachable.run ran)
  constructor
  · exact wf
  · intro series
    exact ⟨_, wf.counted lawful series⟩
  · intro i flight headers shown unused answered
    have scraping : Scraping recorder i state.calls last := by
      apply System.run_preserves (Scraping recorder i state.calls) ?_ reachable
        ?_ ran
      · intro state next action reachable scraping stepped
        exact scraping.step (requests reachable) (State.step_cases stepped)
      · constructor
        · exact List.prefix_refl _
        · intro _ _ at_
          cases unused.symm.trans at_
        · intro _ at_
          rw [unused] at at_
          cases at_
    apply scraping.rendered
    rw [answered]
    rfl

/-- One request is answered and tells the recorder of the answer; the client of
another goes away; and a third, under an id of its own, asks for the metrics
between the counter and the histogram of the first. -/
def observedRun : List Action :=
  [.request 0 ⟨.get, "/status", ⟨.v4 ⟨10, 0, 0, 1⟩, 443⟩⟩ [] "id-0",
    .serve 0 "" 0, .measure 0, .tell 0, .tell 0,
    .request 1 ⟨.post, "/alerts", ⟨.v4 ⟨10, 0, 0, 1⟩, 443⟩⟩ [] "id-1",
    .serve 1 "" 0, .disconnect 1,
    .request 2 ⟨.get, "/metrics", ⟨.v4 ⟨10, 0, 0, 1⟩, 443⟩⟩
      [(xRequestId, "mine")] "id-2",
    .render 2, .tell 0, .tell 0, .respond 0,
    .read 2 (.counter (httpRequestsTotal "GET" "/status" "200")),
    .serve 2 "" 0, .measure 2, .tell 2, .tell 2, .tell 2, .tell 2, .respond 2]

theorem observed_observedRun :
    ∃ last flight headers,
      (system .adding (fun _ => []) .plain HttpsService.idleTimeout 0).runFrom
        (.start HttpsService.idleTimeout 0) observedRun = some last ∧
      last.stage 2 = .answered flight headers
        (some [(.counter (httpRequestsTotal "GET" "/status" "200"), 1)]) ∧
      Observed .adding (.start HttpsService.idleTimeout 0) last := by
  obtain ⟨last, flight, headers, ran, shown⟩ : ∃ last flight headers,
      (system .adding (fun _ => []) .plain HttpsService.idleTimeout 0).runFrom
        (.start HttpsService.idleTimeout 0) observedRun = some last ∧
      last.stage 2 = .answered flight headers
        (some [(.counter (httpRequestsTotal "GET" "/status" "200"), 1)]) :=
    ⟨_, _, _, rfl, rfl⟩
  exact ⟨last, flight, headers, ran, shown,
    observed Recorder.adding_lawful .start ran⟩

end IotRouter.Https.Middleware
