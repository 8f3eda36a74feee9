import IotRouter.Runtime.Recorder
import IotRouter.Https.Server

/-!
# The middlewares

What `request_id` and `record_metrics` do around the router of the server: the
one draws an id and puts it into the headers of the request and of the response,
the other tells the recorder of metrics about the response and how long it took.
Both have their second half run only once the inner service has answered. A
client that goes away while the inner service waits has the whole stack dropped,
and then nothing is counted.

The requests run on many threads. A step is at most one access to the recorder,
so other requests come between the counter and the histogram of one request and
between the series that a scrape reads.

`calls` records history; what the recorder shows is made of it.
-/

namespace IotRouter.Https.Middleware

open IotRouter.Runtime

/-! ## Headers -/

/-- `http::HeaderMap`, with the names in lower case. -/
abbrev HeaderMap := List (String × String)

namespace HeaderMap

/-- `insert` takes away what was there under the name. -/
def insert (headers : HeaderMap) (name value : String) : HeaderMap :=
  headers.filter (fun header => header.1 ≠ name) ++ [(name, value)]

def getAll (headers : HeaderMap) (name : String) : List String :=
  (headers.filter fun header => header.1 = name).map Prod.snd

/-- There is one value under the name, the one that was inserted. -/
theorem getAll_insert (headers : HeaderMap) (name value : String) :
    getAll (insert headers name value) name = [value] := by
  simp [getAll, insert, List.filter_filter]

end HeaderMap

/-- `X_REQUEST_ID` -/
def xRequestId : String := "x-request-id"

/-- What `request_id` does with the id it has drawn to the headers of the
request, before `next.run`, and to those of the response after it. -/
def requestId (headers : HeaderMap) (id : String) : HeaderMap :=
  headers.insert xRequestId id

/-! ## Metrics -/

/-- `metrics::Key`: the name of a metric and its labels. -/
structure Key where
  name : String
  labels : List (String × String)
  deriving DecidableEq, Repr

def httpRequestsTotal (method path status : String) : Key where
  name := "http_requests_total"
  labels := [("method", method), ("path", path), ("status", status)]

def httpRequestDurationSeconds (method path : String) : Key where
  name := "http_request_duration_seconds"
  labels := [("method", method), ("path", path)]

/-- `req.method().to_string()` -/
def methodName : Method → String
  | .get => "GET"
  | .head => "HEAD"
  | .post => "POST"
  | .other name => name

/-- `Duration::as_secs_f64` -/
def asSecsF64 (nanos : Nat) : Float :=
  (nanos / 1000000000).toFloat + (nanos % 1000000000).toFloat / 1000000000

/-- What `record_metrics` tells the recorder after `next.run`: `counter!` and
`increment`, `histogram!` and `record`. -/
def recordMetrics (method path : String) (status : Nat) (duration : Float) :
    List (Call Key Float) :=
  let total := httpRequestsTotal method path status.repr
  let seconds := httpRequestDurationSeconds method path
  [.registerCounter total, .increment total 1, .registerHistogram seconds,
    .record seconds duration]

/-! ## State -/

/-- A request inside the stack: the id that was drawn for it, the request as the
router gets it, with its headers, and the time `record_metrics` began. -/
structure Flight where
  id : String
  headers : HeaderMap
  request : Request
  start : Int

/-- The calls about a response. -/
def Flight.report (flight : Flight) (response : Response) (nanos : Nat) :
    List (Call Key Float) :=
  recordMetrics (methodName flight.request.method) flight.request.path
    response.code (asSecsF64 nanos)

/-- What a scrape has shown. -/
abbrev Rendered := List (Series Key × UInt64)

/-- How far a request has come in the stack. -/
inductive Stage where
  | unused
  /-- The inner service is about to run. -/
  | entered (flight : Flight)
  /-- `handle.render()` in `metrics_handler`. -/
  | rendering (flight : Flight) (scrape : Scrape Key)
  /-- The inner service has the request; if that was `metrics_handler`, it has
  rendered the metrics. -/
  | inside (flight : Flight) (rendered : Option Rendered)
  /-- `record_metrics` has the response, with the calls it has yet to make. -/
  | recording (flight : Flight) (rendered : Option Rendered)
      (ahead : List (Call Key Float))
  /-- Answered, with the headers of the response. -/
  | answered (flight : Flight) (headers : HeaderMap)
      (rendered : Option Rendered)
  /-- The client went away. -/
  | dropped (flight : Flight)

/-- What the response shows of the metrics. -/
def Stage.rendered : Stage → Option Rendered
  | .inside _ rendered | .recording _ rendered _ | .answered _ _ rendered =>
      rendered
  | .unused | .entered _ | .rendering _ _ | .dropped _ => none

/-- What the inner service can run with: at once, except that `metrics_handler`
renders all the series first. -/
def Stage.ready : Stage → Option (Flight × Option Rendered)
  | .entered flight =>
      if flight.request.routed = .handler .metrics then none
      else some (flight, none)
  | .rendering flight scrape =>
      if scrape.Complete then some (flight, some scrape.shown) else none
  | _ => none

/-- The server, what the recorder has been told and by which request, and how far
every request has come. -/
structure State where
  server : Server.State
  calls : List (Nat × Call Key Float)
  stage : Nat → Stage

/-- A request comes with the headers its client set and the id that
`Uuid::new_v4` yields. -/
inductive Action where
  | request (i : Nat) (request : Request) (headers : HeaderMap) (id : String)
  | render (i : Nat)
  | read (i : Nat) (series : Series Key)
  | serve (i : Nat) (uuid : String) (took : Nat)
  | measure (i : Nat)
  | tell (i : Nat)
  | respond (i : Nat)
  | disconnect (i : Nat)
  /-- Anything else that the server does. -/
  | inner (action : Server.Action)

namespace State

def start (idleTimeout : Connections.Duration) (clock : Int) : State where
  server := .start idleTimeout clock
  calls := []
  stage := fun _ => .unused

def setStage (state : State) (i : Nat) (stage : Stage) : State :=
  { state with stage := Function.update state.stage i stage }

/-- The first halves of `request_id` and `record_metrics`. -/
def enter (state : State) (request : Request) (headers : HeaderMap)
    (id : String) : Flight where
  id
  headers := requestId headers id
  request
  start := state.server.clock

section Steps

-- What the recorder shows, and the headers that axum gives a response before the
-- middlewares see it.
variable (recorder : Recorder Key Float) (responseHeaders : Response → HeaderMap)

def step (service : MakeService) (state : State) : Action → Option State
  | .request i request headers id =>
      match state.stage i with
      | .unused =>
          some (state.setStage i (.entered (state.enter request headers id)))
      | _ => none
  | .render i =>
      match state.stage i with
      | .entered flight =>
          if flight.request.routed = .handler .metrics then
            some (state.setStage i
              (.rendering flight (.begin (told state.calls))))
          else none
      | _ => none
  | .read i series =>
      match state.stage i with
      | .rendering flight scrape =>
          (scrape.read recorder (told state.calls) series).map fun scrape =>
            state.setStage i (.rendering flight scrape)
      | _ => none
  | .serve i uuid took =>
      match (state.stage i).ready with
      | some (flight, rendered) =>
          (state.server.step service
            (.request i flight.request uuid took)).map fun server =>
              ({ state with server }).setStage i (.inside flight rendered)
      | none => none
  -- The time is read before the recorder is told anything.
  | .measure i =>
      match state.stage i, state.server.exchanges i with
      | .inside flight rendered, .answered _ _ response =>
          some (state.setStage i (.recording flight rendered
            (flight.report response (state.server.clock - flight.start).toNat)))
      | _, _ => none
  | .tell i =>
      match state.stage i with
      | .recording flight rendered (call :: ahead) =>
          some (({ state with calls := state.calls ++ [(i, call)] }).setStage i
            (.recording flight rendered ahead))
      | _ => none
  | .respond i =>
      match state.stage i, state.server.exchanges i with
      | .recording flight rendered [], .answered _ _ response =>
          some (state.setStage i (.answered flight
            (requestId (responseHeaders response) flight.id) rendered))
      | _, _ => none
  -- From the answer of the inner service on there is no await.
  | .disconnect i =>
      match state.stage i with
      | .inside flight _ =>
          if (state.server.exchanges i).isAnswered then none
          else some (state.setStage i (.dropped flight))
      | _ => none
  | .inner (.request _ _ _ _) => none
  | .inner (.telemetry i action) =>
      match state.stage i with
      | .inside _ _ =>
          (state.server.step service (.telemetry i action)).map fun server =>
            { state with server }
      | _ => none
  | .inner action =>
      (state.server.step service action).map fun server =>
        { state with server }

end Steps

end State

/-- The server inside its middlewares as a transition system. -/
def system (recorder : Recorder Key Float)
    (responseHeaders : Response → HeaderMap) (service : MakeService)
    (idleTimeout : Connections.Duration) (clock : Int) : System State Action where
  start := .start idleTimeout clock
  step := State.step recorder responseHeaders service

/-! ## What a step does -/

section Cases

variable {recorder : Recorder Key Float} {responseHeaders : Response → HeaderMap}
  {service : MakeService}

/-- The steps, with what they check and what they change. -/
inductive Step (recorder : Recorder Key Float)
    (responseHeaders : Response → HeaderMap) (service : MakeService)
    (state : State) : Action → State → Prop where
  | request (i : Nat) (request : Request) (headers : HeaderMap) (id : String)
      (unused : state.stage i = .unused) :
      Step recorder responseHeaders service state
        (.request i request headers id)
        (state.setStage i (.entered (state.enter request headers id)))
  | render (i : Nat) (flight : Flight) (entered : state.stage i = .entered flight)
      (routed : flight.request.routed = .handler .metrics) :
      Step recorder responseHeaders service state (.render i)
        (state.setStage i (.rendering flight (.begin (told state.calls))))
  | read (i : Nat) (series : Series Key) (flight : Flight)
      (scrape after : Scrape Key)
      (rendering : state.stage i = .rendering flight scrape)
      (reads : scrape.read recorder (told state.calls) series = some after) :
      Step recorder responseHeaders service state (.read i series)
        (state.setStage i (.rendering flight after))
  | serve (i : Nat) (uuid : String) (took : Nat) (flight : Flight)
      (rendered : Option Rendered) (server : Server.State)
      (ready : (state.stage i).ready = some (flight, rendered))
      (ran : state.server.step service (.request i flight.request uuid took) =
        some server) :
      Step recorder responseHeaders service state (.serve i uuid took)
        (({ state with server }).setStage i (.inside flight rendered))
  | measure (i : Nat) (flight : Flight) (rendered : Option Rendered)
      (request : Request) (body : Option Body) (response : Response)
      (inside : state.stage i = .inside flight rendered)
      (answered : state.server.exchanges i = .answered request body response) :
      Step recorder responseHeaders service state (.measure i)
        (state.setStage i (.recording flight rendered
          (flight.report response (state.server.clock - flight.start).toNat)))
  | tell (i : Nat) (flight : Flight) (rendered : Option Rendered)
      (call : Call Key Float) (ahead : List (Call Key Float))
      (recording : state.stage i = .recording flight rendered (call :: ahead)) :
      Step recorder responseHeaders service state (.tell i)
        (({ state with calls := state.calls ++ [(i, call)] }).setStage i
          (.recording flight rendered ahead))
  | respond (i : Nat) (flight : Flight) (rendered : Option Rendered)
      (response : Response)
      (recording : state.stage i = .recording flight rendered []) :
      Step recorder responseHeaders service state (.respond i)
        (state.setStage i (.answered flight
          (requestId (responseHeaders response) flight.id) rendered))
  | disconnect (i : Nat) (flight : Flight) (rendered : Option Rendered)
      (inside : state.stage i = .inside flight rendered)
      (pending : (state.server.exchanges i).isAnswered = false) :
      Step recorder responseHeaders service state (.disconnect i)
        (state.setStage i (.dropped flight))
  | telemetry (i : Nat) (action : Server.TelemetryAction) (flight : Flight)
      (rendered : Option Rendered) (server : Server.State)
      (inside : state.stage i = .inside flight rendered)
      (ran : state.server.step service (.telemetry i action) = some server) :
      Step recorder responseHeaders service state (.inner (.telemetry i action))
        { state with server }
  | elsewhere (action : Server.Action) (server : Server.State)
      (other : ∀ i, ¬action.concerns i)
      (ran : state.server.step service action = some server) :
      Step recorder responseHeaders service state (.inner action)
        { state with server }

theorem State.step_cases {state next : State} {action : Action}
    (stepped : state.step recorder responseHeaders service action = some next) :
    Step recorder responseHeaders service state action next := by
  cases action with
  | request i request headers id =>
      simp only [step] at stepped
      split at stepped <;> cases stepped
      exact .request i request headers id ‹_›
  | render i =>
      simp only [step] at stepped
      split at stepped
      · split at stepped <;> cases stepped
        exact .render i _ ‹_› ‹_›
      · cases stepped
  | read i series =>
      simp only [step] at stepped
      split at stepped
      · rcases Option.map_eq_some_iff.mp stepped with ⟨after, reads, rfl⟩
        exact .read i series _ _ after ‹_› reads
      · cases stepped
  | serve i uuid took =>
      simp only [step] at stepped
      split at stepped
      · rcases Option.map_eq_some_iff.mp stepped with ⟨server, ran, rfl⟩
        exact .serve i uuid took _ _ server ‹_› ran
      · cases stepped
  | measure i =>
      simp only [step] at stepped
      split at stepped <;> cases stepped
      exact .measure i _ _ _ _ _ ‹_› ‹_›
  | tell i =>
      simp only [step] at stepped
      split at stepped <;> cases stepped
      exact .tell i _ _ _ _ ‹_›
  | respond i =>
      simp only [step] at stepped
      split at stepped <;> cases stepped
      exact .respond i _ _ _ ‹_›
  | disconnect i =>
      simp only [step] at stepped
      split at stepped
      · split at stepped <;> cases stepped
        exact .disconnect i _ _ ‹_› (Bool.not_eq_true _ ▸ ‹_›)
      · cases stepped
  | inner action =>
      cases action with
      | request => cases stepped
      | telemetry i action =>
          simp only [step] at stepped
          split at stepped
          · rcases Option.map_eq_some_iff.mp stepped with ⟨server, ran, rfl⟩
            exact .telemetry i action _ _ server ‹_› ran
          · cases stepped
      | elapse | reaper | central =>
          simp only [step] at stepped
          rcases Option.map_eq_some_iff.mp stepped with ⟨server, ran, rfl⟩
          exact .elsewhere _ server (fun _ => id) ran

end Cases

/-! ## Each request by itself -/

/-- The headers have one id, the one that was drawn. -/
def Identified (headers : HeaderMap) (id : String) : Prop :=
  headers.getAll xRequestId = [id]

theorem identified_requestId (headers : HeaderMap) (id : String) :
    Identified (requestId headers id) id :=
  HeaderMap.getAll_insert headers xRequestId id

/-- What is known of every request inside the stack. -/
structure FlightWF (server : Server.State) (flight : Flight) : Prop where
  identified : Identified flight.headers flight.id
  started : flight.start ≤ server.clock

/-- The calls are those about the answer of the inner service, with a time
between the beginning and now. -/
def Reported (server : Server.State) (i : Nat) (flight : Flight)
    (calls : List (Call Key Float)) : Prop :=
  ∃ (body : Option Body) (response : Response) (nanos : Nat),
    server.exchanges i = .answered flight.request body response ∧
      flight.start + nanos ≤ server.clock ∧
      calls = flight.report response nanos

/-- The metrics are rendered for the requests to `metrics_handler`. -/
def Renders (flight : Flight) (rendered : Option Rendered) : Prop :=
  rendered.isSome = true ↔ flight.request.routed = .handler .metrics

/-- How far the inner service has come with a request at this stage, and which
calls the request has made. -/
def StageWF (server : Server.State) (i : Nat) (made : List (Call Key Float)) :
    Stage → Prop
  | .unused => server.exchanges i = .unused ∧ made = []
  | .entered flight =>
      FlightWF server flight ∧ server.exchanges i = .unused ∧ made = []
  | .rendering flight _ =>
      FlightWF server flight ∧ server.exchanges i = .unused ∧ made = [] ∧
        flight.request.routed = .handler .metrics
  | .inside flight rendered =>
      FlightWF server flight ∧
        (server.exchanges i).request = some flight.request ∧ made = [] ∧
        Renders flight rendered
  | .recording flight rendered ahead =>
      FlightWF server flight ∧ Reported server i flight (made ++ ahead) ∧
        Renders flight rendered
  | .answered flight headers rendered =>
      FlightWF server flight ∧ Reported server i flight made ∧
        Identified headers flight.id ∧ Renders flight rendered
  | .dropped flight =>
      FlightWF server flight ∧
        (server.exchanges i).request = some flight.request ∧
        (server.exchanges i).isAnswered = false ∧ made = []

/-- Every request has made the calls of its stage. -/
def RequestsWF (state : State) : Prop :=
  ∀ i, StageWF state.server i (callsOf state.calls i) (state.stage i)

section Requests

variable {server after : Server.State} {flight : Flight} {i : Nat}

theorem FlightWF.later (wf : FlightWF server flight)
    (later : server.clock ≤ after.clock) : FlightWF after flight where
  identified := wf.identified
  started := Int.le_trans wf.started later

theorem Reported.later {calls : List (Call Key Float)}
    (reported : Reported server i flight calls)
    (later : server.clock ≤ after.clock)
    (same : after.exchanges i = server.exchanges i) :
    Reported after i flight calls := by
  rcases reported with ⟨body, response, nanos, answered, past, made⟩
  exact ⟨body, response, nanos, same.trans answered, Int.le_trans past later, made⟩

/-- Nothing changes for a request while the server does something else. -/
theorem StageWF.later {made : List (Call Key Float)} {stage : Stage}
    (wf : StageWF server i made stage) (later : server.clock ≤ after.clock)
    (same : after.exchanges i = server.exchanges i) :
    StageWF after i made stage := by
  cases stage with
  | unused => exact ⟨same.trans wf.1, wf.2⟩
  | entered flight => exact ⟨wf.1.later later, same.trans wf.2.1, wf.2.2⟩
  | rendering flight scrape =>
      exact ⟨wf.1.later later, same.trans wf.2.1, wf.2.2⟩
  | inside flight rendered => exact ⟨wf.1.later later, same ▸ wf.2⟩
  | recording flight rendered ahead =>
      exact ⟨wf.1.later later, wf.2.1.later later same, wf.2.2⟩
  | answered flight headers rendered =>
      exact ⟨wf.1.later later, wf.2.1.later later same, wf.2.2⟩
  | dropped flight => exact ⟨wf.1.later later, same ▸ wf.2⟩

variable {state : State}

/-- One request goes on, and the others stay as they are. -/
theorem RequestsWF.update (wf : RequestsWF state) (i : Nat)
    {calls : List (Nat × Call Key Float)} {stage : Stage}
    (later : state.server.clock ≤ server.clock)
    (others : ∀ j, j ≠ i → server.exchanges j = state.server.exchanges j ∧
      callsOf calls j = callsOf state.calls j)
    (here : StageWF server i (callsOf calls i) stage) :
    RequestsWF { server, calls, stage := Function.update state.stage i stage } := by
  intro j
  by_cases own : j = i
  · subst own
    simp only [Function.update_self]
    exact here
  · simp only [Function.update_of_ne own, (others j own).2]
    exact StageWF.later (wf j) later (others j own).1

theorem RequestsWF.setStage (wf : RequestsWF state) (i : Nat) {stage : Stage}
    (here : StageWF state.server i (callsOf state.calls i) stage) :
    RequestsWF (state.setStage i stage) :=
  wf.update i (Int.le_refl _) (fun _ _ => ⟨rfl, rfl⟩) here

/-- A request that the inner service can run with has not reached it yet. -/
theorem StageWF.of_ready {made : List (Call Key Float)} {stage : Stage}
    {rendered : Option Rendered} (wf : StageWF server i made stage)
    (ready : stage.ready = some (flight, rendered)) :
    FlightWF server flight ∧ made = [] ∧ Renders flight rendered := by
  cases stage with
  | entered other =>
      simp only [Stage.ready, Option.ite_none_left_eq_some, Option.some.injEq,
        Prod.mk.injEq] at ready
      rcases ready with ⟨elsewhere, rfl, rfl⟩
      exact ⟨wf.1, wf.2.2, by simp [Renders, elsewhere]⟩
  | rendering other scrape =>
      simp only [Stage.ready, Option.ite_none_right_eq_some, Option.some.injEq,
        Prod.mk.injEq] at ready
      rcases ready with ⟨_, rfl, rfl⟩
      exact ⟨wf.1, wf.2.2.1, by simp [Renders, wf.2.2.2]⟩
  | unused | inside | recording | answered | dropped => cases ready

theorem RequestsWF.start (idleTimeout : Connections.Duration) (clock : Int) :
    RequestsWF (.start idleTimeout clock) :=
  fun _ => ⟨rfl, rfl⟩

variable {recorder : Recorder Key Float} {responseHeaders : Response → HeaderMap}
  {service : MakeService} {next : State} {action : Action}

/-- Every step keeps to what the stages say. -/
theorem RequestsWF.step (wf : RequestsWF state)
    (stepped : Step recorder responseHeaders service state action next) :
    RequestsWF next := by
  cases stepped with
  | request i request headers id unused =>
      have before := wf i
      rw [unused] at before
      exact wf.setStage i
        ⟨⟨identified_requestId _ _, Int.le_refl _⟩, before⟩
  | render i flight entered routed =>
      have before := wf i
      rw [entered] at before
      exact wf.setStage i ⟨before.1, before.2.1, before.2.2, routed⟩
  | read i series flight scrape after rendering reads =>
      have before := wf i
      rw [rendering] at before
      exact wf.setStage i before
  | serve i uuid took flight rendered server ready ran =>
      rcases StageWF.of_ready (wf i) ready with ⟨before, made, renders⟩
      have inner := Server.State.step_cases ran
      have later := Server.clock_le ran
      apply wf.update i later
      · intro j other
        exact ⟨inner.exchanges_of_other (Ne.symm other), rfl⟩
      · exact ⟨before.later later, inner.exchange_opened.2, made, renders⟩
  | measure i flight rendered request body response inside answered =>
      have before := wf i
      rw [inside] at before
      rcases before with ⟨flightWF, request, made, renders⟩
      rw [answered] at request
      cases request
      have started := flightWF.started
      have reported : Reported state.server i flight (flight.report response
          (state.server.clock - flight.start).toNat) :=
        ⟨body, response, _, answered, by omega, rfl⟩
      refine wf.setStage i ⟨flightWF, ?_, renders⟩
      rw [made]
      exact reported
  | tell i flight rendered call ahead recording =>
      have before := wf i
      rw [recording] at before
      apply wf.update i (Int.le_refl _)
      · intro j other
        exact ⟨rfl, callsOf_concat_of_ne other call⟩
      · refine ⟨before.1, ?_, before.2.2⟩
        rw [callsOf_concat_self, List.append_assoc]
        exact before.2.1
  | respond i flight rendered response recording =>
      have before := wf i
      rw [recording, StageWF, List.append_nil] at before
      exact wf.setStage i
        ⟨before.1, before.2.1, identified_requestId _ _, before.2.2⟩
  | disconnect i flight rendered inside pending =>
      have before := wf i
      rw [inside] at before
      exact wf.setStage i ⟨before.1, before.2.1, pending, before.2.2.1⟩
  | telemetry i action flight rendered server inside ran =>
      have before := wf i
      rw [inside] at before
      have inner := Server.State.step_cases ran
      have later := Server.clock_le ran
      have updated : RequestsWF { server, calls := state.calls
                                  stage := Function.update state.stage i
                                    (state.stage i) } := by
        apply wf.update i later
        · intro j other
          exact ⟨inner.exchanges_of_other (Ne.symm other), rfl⟩
        · rw [inside]
          refine ⟨before.1.later later, ?_, before.2.2⟩
          rw [inner.exchange_request.2]
          exact before.2.1
      rw [Function.update_eq_self] at updated
      exact updated
  | elsewhere action server other ran =>
      intro i
      exact StageWF.later (wf i) (Server.clock_le ran)
        ((Server.State.step_cases ran).exchanges_of_other (other i))

end Requests

/-! ## Transparency -/

section Transparency

variable {recorder : Recorder Key Float} {responseHeaders : Response → HeaderMap}
  {service : MakeService} {idleTimeout : Connections.Duration} {clock : Int}
  {state next : State}

/-- The server inside goes on as it would by itself, or not at all. -/
theorem Step.server {action : Action}
    (stepped : Step recorder responseHeaders service state action next) :
    next.server = state.server ∨
      ∃ inner, state.server.step service inner = some next.server := by
  cases stepped with
  | serve _ _ _ _ _ _ _ ran => exact Or.inr ⟨_, ran⟩
  | telemetry _ _ _ _ _ _ ran => exact Or.inr ⟨_, ran⟩
  | elsewhere _ _ _ ran => exact Or.inr ⟨_, ran⟩
  | _ => exact Or.inl rfl

/-- No client has gone away, and no answer has been looked at yet. -/
structure Attended (state : State) : Prop where
  silent : state.calls = []
  stages : ∀ i, (state.server.exchanges i = .unused ∧ state.stage i = .unused) ∨
    ((state.server.exchanges i).request.isSome = true ∧
      ∃ flight rendered, state.stage i = .inside flight rendered)

theorem Attended.start (idleTimeout : Connections.Duration) (clock : Int) :
    Attended (.start idleTimeout clock) where
  silent := rfl
  stages _ := Or.inl ⟨rfl, rfl⟩

/-- A request is taken to where the inner service can run with it. -/
theorem Attended.ready (attended : Attended state) {i : Nat}
    (unused : state.server.exchanges i = .unused) (request : Request) :
    ∃ schedule stage flight rendered,
      (system recorder responseHeaders service idleTimeout clock).runFrom state
        schedule = some (state.setStage i stage) ∧
      stage.ready = some (flight, rendered) ∧ flight.request = request := by
  have outside : state.stage i = .unused := by
    rcases attended.stages i with outside | inside
    · exact outside.2
    · rw [unused] at inside
      cases inside.1
  let flight := state.enter request [] ""
  have entered : state.step recorder responseHeaders service
      (.request i request [] "") = some (state.setStage i (.entered flight)) := by
    simp only [State.step, outside]
    rfl
  by_cases routed : flight.request.routed = .handler .metrics
  · let scrape : Scrape Key := .begin (told state.calls)
    have began : (state.setStage i (.entered flight)).step recorder
        responseHeaders service (.render i) =
          some (state.setStage i (.rendering flight scrape)) := by
      simp only [State.step, State.setStage, Function.update_self, if_pos routed,
        Function.update_idem]
      rfl
    have ready : (Stage.rendering flight scrape).ready =
        some (flight, some []) := by
      rw [Stage.ready, if_pos]
      · rfl
      · intro series there
        simp only [scrape, attended.silent] at there
        cases there
    refine ⟨[.request i request [] "", .render i], _, _, _, ?_, ready, rfl⟩
    rw [System.runFrom_cons]
    simp only [system, entered, Option.bind_some, System.runFrom_singleton]
    exact began
  · have ready : (Stage.entered flight).ready = some (flight, none) := by
      rw [Stage.ready, if_neg routed]
    refine ⟨[.request i request [] ""], _, _, _, ?_, ready, rfl⟩
    rw [System.runFrom_singleton]
    exact entered

/-- What the server can do, it can do inside the middlewares. -/
theorem Attended.step (attended : Attended state) {inner : Server.Action}
    {server : Server.State}
    (ran : state.server.step service inner = some server) :
    ∃ schedule next,
      (system recorder responseHeaders service idleTimeout clock).runFrom state
        schedule = some next ∧ next.server = server ∧ Attended next := by
  have did := Server.State.step_cases ran
  have elsewhere : (∀ i, ¬inner.concerns i) →
      Attended { state with server } := by
    intro other
    refine ⟨attended.silent, fun i => ?_⟩
    simp only [did.exchanges_of_other (other i)]
    exact attended.stages i
  cases inner with
  | request i request uuid took =>
      rcases did.exchange_opened with ⟨unused, opened⟩
      obtain ⟨schedule, stage, flight, rendered, reached, ready, rfl⟩ :
          ∃ schedule stage flight rendered,
            (system recorder responseHeaders service idleTimeout clock).runFrom
              state schedule = some (state.setStage i stage) ∧
            stage.ready = some (flight, rendered) ∧ flight.request = request :=
        attended.ready unused request
      refine ⟨schedule ++ [.serve i uuid took],
        ({ state with server }).setStage i (.inside flight rendered), ?_, rfl,
        attended.silent, fun j => ?_⟩
      · rw [System.runFrom_append, reached, Option.bind_some,
          System.runFrom_singleton]
        simp only [system, State.step, State.setStage, Function.update_self,
          ready, ran, Option.map_some, Function.update_idem]
      · by_cases own : j = i
        · subst own
          simp only [State.setStage, Function.update_self, opened]
          exact Or.inr ⟨rfl, _, _, rfl⟩
        · simp only [State.setStage, Function.update_of_ne own,
            did.exchanges_of_other (Ne.symm own)]
          exact attended.stages j
  | telemetry i action =>
      rcases did.exchange_request with ⟨_, request⟩
      rcases attended.stages i with outside | inside
      · simp [Server.State.step, Server.State.telemetry, outside.1] at ran
      · rcases inside with ⟨open_, flight, rendered, at_⟩
        refine ⟨[.inner (.telemetry i action)], { state with server }, ?_, rfl,
          attended.silent, fun j => ?_⟩
        · rw [System.runFrom_singleton]
          simp only [system, State.step, at_, ran, Option.map_some]
        · by_cases own : j = i
          · subst own
            exact Or.inr ⟨request ▸ open_, flight, rendered, at_⟩
          · simp only [did.exchanges_of_other (Ne.symm own)]
            exact attended.stages j
  | elapse nanos =>
      refine ⟨[.inner (.elapse nanos)], _, ?_, rfl, elsewhere fun _ => id⟩
      rw [System.runFrom_singleton]
      simp only [system, State.step, ran, Option.map_some]
  | reaper action =>
      refine ⟨[.inner (.reaper action)], _, ?_, rfl, elsewhere fun _ => id⟩
      rw [System.runFrom_singleton]
      simp only [system, State.step, ran, Option.map_some]
  | central action =>
      refine ⟨[.inner (.central action)], _, ?_, rfl, elsewhere fun _ => id⟩
      rw [System.runFrom_singleton]
      simp only [system, State.step, ran, Option.map_some]

end Transparency

/-- The middlewares neither add to what the server does nor take away from it,
with clients going away or not. -/
theorem reachable_server_iff (recorder : Recorder Key Float)
    (responseHeaders : Response → HeaderMap) (service : MakeService)
    (idleTimeout : Connections.Duration) (clock : Int) (server : Server.State) :
    (Server.system service idleTimeout clock).Reachable server ↔
      ∃ state, (system recorder responseHeaders service idleTimeout
        clock).Reachable state ∧ state.server = server := by
  constructor
  · intro reachable
    suffices realized : ∃ state, (system recorder responseHeaders service
        idleTimeout clock).Reachable state ∧ state.server = server ∧
          Attended state by
      rcases realized with ⟨state, reached, same, _⟩
      exact ⟨state, reached, same⟩
    apply System.invariant (fun server => ∃ state, (system recorder
      responseHeaders service idleTimeout clock).Reachable state ∧
        state.server = server ∧ Attended state) ?_ ?_ reachable
    · exact ⟨_, .start, rfl, .start idleTimeout clock⟩
    · intro server next inner _ ⟨state, reached, same, attended⟩ ran
      subst same
      rcases attended.step ran with ⟨schedule, after, led, same, still⟩
      exact ⟨after, reached.run led, same, still⟩
  · rintro ⟨state, reachable, rfl⟩
    apply System.invariant
      (fun state => (Server.system service idleTimeout clock).Reachable
        state.server) .start ?_ reachable
    intro state next action _ reached stepped
    rcases (State.step_cases stepped).server with same | ⟨inner, ran⟩
    · rw [same]
      exact reached
    · exact reached.step ran

end IotRouter.Https.Middleware
