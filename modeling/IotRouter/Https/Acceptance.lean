import IotRouter.Https.Bridge
import IotRouter.Https.Server

/-!
# Alerts are accepted once or not at all

Of every alert the central channel takes one message if the request is answered
with 200, and none otherwise, whatever the channel does meanwhile and whenever
the timeout layer cancels the handler.
-/

namespace IotRouter.Https.Server

open IotRouter.Grpc (RouterMessage)
open IotRouter.Runtime IotRouter.Connections
open IotRouter.Router (Central Tagged Source HttpRequest)

/-- The messages of request `i` that the central channel took. -/
def appended (central : Central) (i : Nat) : List (Tagged RouterMessage) :=
  central.accepted.filter fun message => message.source = .http i

/-- What the channel took of request `i`, by how far the request has come. -/
inductive AlertWF (appended : List (Tagged RouterMessage)) (i : Nat) :
    Exchange → Prop where
  | unused (nothing : appended = []) : AlertWF appended i .unused
  | reading (request : Request) (routed : request.routed = .handler .telemetry)
      (nothing : appended = []) : AlertWF appended i (.reading request)
  | handling (request : Request) (body : Body) (message : RouterMessage)
      (routed : request.routed = .handler .telemetry)
      (handled : handleTelemetry body = .ok message) (nothing : appended = []) :
      AlertWF appended i (.handling request body
        { task := .sending message, posted := [message] })
  | accepted (request : Request) (body : Body) (message : RouterMessage)
      (routed : request.routed = .handler .telemetry)
      (handled : handleTelemetry body = .ok message)
      (one : appended =
        [{ source := .http i, index := 0, value := message }]) :
      AlertWF appended i
        (.answered request (some body) (.alert "recibido y enrutado"))
  | failed (request : Request) (body : Option Body) (response : Response)
      (code : response.code ≠ 200) (nothing : appended = []) :
      AlertWF appended i (.answered request body response)
  | elsewhere (request : Request) (response : Response)
      (routed : request.routed ≠ .handler .telemetry) (nothing : appended = []) :
      AlertWF appended i (.answered request none response)

def AlertsWF (state : State) : Prop :=
  ∀ i, AlertWF (appended state.central i) i (state.exchanges i)

section Channel

variable {central central' : Central}

/-- The other tasks append no message of a request. -/
theorem appended_others {action : CentralAction}
    (stepped : State.others central action = some central') (i : Nat) :
    appended central' i = appended central i := by
  cases action with
  | send message =>
      simp only [State.others] at stepped
      split at stepped
      · cases stepped
      · rename_i sent notHttp
        cases stepped
        rcases Channel.send_eq_sent.mp sent with ⟨_, _, rfl⟩
        have foreign : message.source ≠ .http i := fun same => notHttp i same
        simp [appended, foreign]
      · cases stepped
  | receive =>
      rcases Option.map_eq_some_iff.mp stepped with ⟨⟨value, rest⟩, received, rfl⟩
      rw [appended, appended, (Channel.receive_eq_some.mp received).2.1]
  | close =>
      cases stepped
      rfl

/-- A request appends its message for itself only. -/
theorem appended_send {i j : Nat} {message : RouterMessage}
    (sent : central.send { source := .http i, index := 0, value := message } =
      .sent central') :
    appended central' j = appended central j ++
      if i = j then [{ source := .http i, index := 0, value := message }]
      else [] := by
  rcases Channel.send_eq_sent.mp sent with ⟨_, _, rfl⟩
  rw [appended, Channel.push_accepted, List.filter_append]
  by_cases same : i = j <;> simp [appended, same]

end Channel

section Steps

variable {service : MakeService} {state next : State} {action : Action}

/-- A step of request `i` that leaves what the channel took of the others. -/
theorem AlertsWF.setExchange (wf : AlertsWF state) (base : State) {i : Nat}
    {exchange : Exchange} (same : base.exchanges = state.exchanges)
    (others : ∀ j, j ≠ i → appended base.central j = appended state.central j)
    (own : AlertWF (appended base.central i) i exchange) :
    AlertsWF (base.setExchange i exchange) := by
  intro j
  simp only [State.setExchange, same]
  by_cases here : j = i
  · subst here
    rw [Function.update_self]
    exact own
  · rw [Function.update_of_ne here, others j here]
    exact wf j

/-- What the channel took of a request that was not answered yet. -/
theorem AlertWF.nothing {list : List (Tagged RouterMessage)} {i : Nat}
    {exchange : Exchange} (wf : AlertWF list i exchange)
    (pending : ∀ request body response, exchange ≠ .answered request body response) :
    list = [] := by
  cases wf with
  | unused nothing => exact nothing
  | reading _ _ nothing => exact nothing
  | handling _ _ _ _ _ nothing => exact nothing
  | accepted => exact absurd rfl (pending _ _ _)
  | failed => exact absurd rfl (pending _ _ _)
  | elsewhere => exact absurd rfl (pending _ _ _)

/-- A pending request is answered with another code than 200. -/
theorem AlertsWF.fail (wf : AlertsWF state) {i : Nat} {request : Request}
    {body : Option Body} {response : Response}
    (pending : ∀ request body response,
      state.exchanges i ≠ .answered request body response)
    (code : response.code ≠ 200) :
    AlertsWF (state.setExchange i (.answered request body response)) := by
  refine wf.setExchange _ rfl (fun _ _ => rfl) ?_
  exact .failed _ _ _ code ((wf i).nothing pending)

theorem AlertsWF.step (wf : AlertsWF state)
    (stepped : Step service state action next) : AlertsWF next := by
  cases stepped with
  | elapse nanos => exact wf
  | reaper action connections own ran => exact wf
  | connect i request uuid took unused routed info fresh =>
      refine wf.setExchange _ rfl (fun _ _ => rfl) ?_
      apply AlertWF.elsewhere
      · simp [routed]
      · exact (wf i).nothing (by simp [unused])
  | deny i request uuid took unused routed info =>
      exact wf.fail (by simp [unused]) (by decide)
  | reply i request uuid took response unused elsewhere immediate =>
      refine wf.setExchange _ rfl (fun _ _ => rfl) ?_
      apply AlertWF.elsewhere _ _ immediate
      exact (wf i).nothing (by simp [unused])
  | read i request uuid took unused routed =>
      refine wf.setExchange _ rfl (fun _ _ => rfl) ?_
      apply AlertWF.reading _ routed
      exact (wf i).nothing (by simp [unused])
  | refuse i request action code reading failed =>
      exact wf.fail (by simp [reading]) failed
  | decode i request body message reading handled =>
      refine wf.setExchange _ rfl (fun _ _ => rfl) ?_
      have before := wf i
      rw [reading] at before
      cases before with
      | reading _ routed nothing =>
          exact .handling _ _ _ routed handled nothing
  | invalid i request body error reading handled =>
      exact wf.fail (by simp [reading]) (AppError.intoResponse_code error)
  | send i request body alert message central handling task sent =>
      have before := wf i
      rw [handling] at before
      refine wf.setExchange _ rfl ?_ ?_
      · intro j different
        simp only [State.accept]
        rw [appended_send sent, if_neg (Ne.symm different), List.append_nil]
      · cases before with
        | handling _ _ other routed handled nothing =>
            cases task
            apply AlertWF.accepted _ _ _ routed handled
            simp only [State.accept]
            rw [appended_send sent, nothing, if_pos rfl, List.nil_append]
  | abandon i request body alert action response handling failed =>
      exact wf.fail (by simp [handling]) failed
  | others action central ran =>
      intro i
      simp only [appended_others ran i]
      exact wf i

theorem start_alertsWF (idleTimeout : Duration) (clock : Int) :
    AlertsWF (.start idleTimeout clock) :=
  fun _ => .unused rfl

theorem reachable_alertsWF {idleTimeout : Duration} {clock : Int}
    (reachable : (system service idleTimeout clock).Reachable state) :
    AlertsWF state := by
  apply System.invariant AlertsWF (start_alertsWF _ _) ?_ reachable
  intro state next action _ wf stepped
  exact wf.step (State.step_cases stepped)

end Steps

/-! ## Once or not at all -/

/-- Request `i` posted an alert and was answered with 200. -/
def Accepted (state : State) (i : Nat) : Prop :=
  ∃ request body response,
    state.exchanges i = .answered request body response ∧
    request.routed = .handler .telemetry ∧ response.code = 200

/-- The central channel took one message for Data of request `i` or none. -/
structure AcceptedOnce (state : State) (i : Nat) : Prop where
  once : Accepted state i ↔ ∃ alert, appended state.central i =
    [{ source := .http i, index := 0, value := .toData alert }]
  orNot : ¬Accepted state i → appended state.central i = []
  /-- What the air-quality decoder accepts is sent as nothing else. -/
  air : ∀ request body response air,
    state.exchanges i = .answered request (some body) response →
    body.asAlertAir = some air → ∀ message ∈ appended state.central i,
      message.value = .toData { payload := some (.alertAir air.toGrpc) }

/-- A step of a request other than the send it is accepted by leaves the central
channel as it is. -/
def LeavesCentral (service : MakeService) (state : State) (action : Action) :
    Prop :=
  ∀ next, state.step service action = some next →
    (∀ inner, action ≠ .central inner) →
    next.central = state.central ∨
      ∃ i message, action = .telemetry i (.handler .task) ∧
        Accepted next i ∧ ¬Accepted state i ∧
        state.central.send { source := .http i, index := 0, value := message } =
          .sent next.central

theorem AcceptedOnce.of_nothing {state : State} {i : Nat}
    (nothing : appended state.central i = []) (not : ¬Accepted state i) :
    AcceptedOnce state i where
  once := by
    rw [nothing]
    constructor
    · intro accepted
      exact absurd accepted not
    · intro one
      rcases one with ⟨_, one⟩
      cases one
  orNot _ := nothing
  air _ _ _ _ _ _ message member := by
    rw [nothing] at member
    cases member

theorem AlertWF.acceptedOnce {state : State} {i : Nat} {exchange : Exchange}
    (wf : AlertWF (appended state.central i) i exchange)
    (here : state.exchanges i = exchange) : AcceptedOnce state i := by
  cases wf with
  | unused nothing =>
      apply AcceptedOnce.of_nothing nothing
      simp [Accepted, here]
  | reading _ _ nothing =>
      apply AcceptedOnce.of_nothing nothing
      simp [Accepted, here]
  | handling _ _ _ _ _ nothing =>
      apply AcceptedOnce.of_nothing nothing
      simp [Accepted, here]
  | failed _ _ _ code nothing =>
      apply AcceptedOnce.of_nothing nothing
      simp [Accepted, here, code]
  | elsewhere _ _ routed nothing =>
      apply AcceptedOnce.of_nothing nothing
      simp [Accepted, here, routed]
  | accepted request body message routed handled one =>
      have accepted : Accepted state i :=
        ⟨request, some body, _, here, routed, rfl⟩
      constructor
      · rcases handleTelemetry_toData handled with ⟨alert, rfl⟩
        exact ⟨fun _ => ⟨alert, one⟩, fun _ => accepted⟩
      · intro not
        exact absurd accepted not
      · intro request' body' response air same decoded member listed
        rw [here] at same
        cases same
        rw [one, List.mem_singleton] at listed
        subst listed
        simp only [handleTelemetry, decoded] at handled
        cases handled
        rfl

theorem leavesCentral {service : MakeService} {state : State} {action : Action}
    (wf : AlertsWF state) : LeavesCentral service state action := by
  intro next stepped own
  cases State.step_cases stepped with
  | send i request body alert message central handling task sent =>
      apply Or.inr
      refine ⟨i, message, rfl, ?_, ?_, sent⟩
      · have before := wf i
        rw [handling] at before
        cases before with
        | handling _ _ _ routed _ _ =>
            exact ⟨request, some body, _, Function.update_self i _ _, routed, rfl⟩
      · simp [Accepted, handling]
  | others inner central ran => exact absurd rfl (own inner)
  | _ => exact Or.inl rfl

/-- Every request is answered with 200 exactly if the central channel took one
message of it, and takes none otherwise; no other step of a request changes the
channel. -/
theorem accepted_once_or_not {service : MakeService} {idleTimeout : Duration}
    {clock : Int} {schedule : List Action} {last : State}
    (ran : (system service idleTimeout clock).runFrom
      (.start idleTimeout clock) schedule = some last) :
    (∀ i, AcceptedOnce last i) ∧
      (system service idleTimeout clock).StepsMeet (LeavesCentral service)
        (.start idleTimeout clock) schedule := by
  constructor
  · intro i
    exact (reachable_alertsWF ⟨schedule, ran⟩ i).acceptedOnce rfl
  · apply System.stepsMeet_of_reachable ?_ .start ran
    intro state next action reachable _
    exact leavesCentral (reachable_alertsWF reachable)

def alertRequest : Request where
  method := .post
  path := "/alerts"
  peer := { ip := .v4 ⟨10, 0, 0, 1⟩, port := 443 }

/-- An alert that is read, decoded and sent. -/
def acceptedRun : List Action :=
  [.request 0 alertRequest "" 0,
    .telemetry 0 (.handler (.post (thBody 5))),
    .telemetry 0 (.handler .task)]

theorem accepted_once_or_not_acceptedRun :
    ∃ last, (system initServer HttpsService.idleTimeout 0).runFrom
        (.start HttpsService.idleTimeout 0) acceptedRun = some last ∧
      (∀ i, AcceptedOnce last i) ∧
      (system initServer HttpsService.idleTimeout 0).StepsMeet
        (LeavesCentral initServer) (.start HttpsService.idleTimeout 0)
        acceptedRun :=
  ⟨_, rfl, accepted_once_or_not rfl⟩

end IotRouter.Https.Server
