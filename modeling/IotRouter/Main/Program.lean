import IotRouter.Router.Order
import IotRouter.Https.Acceptance

/-!
# The whole program

What `main` puts together and `init_server` serves: the gRPC services with the
routing table and the dispatcher on one side, the HTTP server with its registry
and its reaper on the other, and one central channel that both send to. The
request of an alert is one task: the HTTP server sees how far it has come, the
router sees what it does to the channel.

Every run of the program is a run of the router and a run of the HTTP server, so
what was proved of either holds of the program. The channel has no other senders,
and nobody closes it.
-/

namespace IotRouter.Main

open IotRouter.Grpc (RouterMessage FromEdge FromManager ToManager FromDataSaver
  ToDataSaver)
open IotRouter.Runtime IotRouter.Https
open IotRouter.Router (Central Tagged Source EdgeSide SlotSide Dispatcher Dispatch
  HttpRequest HttpAction StreamId Client)

/-! ## State -/

/-- The request of an alert as the router sees it. What its handler had decoded
is still what its body decodes to when it has been answered. -/
def alertOf : Exchange → HttpRequest
  | .unused | .reading _ | .answered _ none _ => { task := .idle, posted := [] }
  | .handling _ _ alert => alert
  | .answered _ (some body) response =>
      { task :=
          match response with
          | .alert status => .replied (.ok status)
          | .error _ message => .replied (.error (.alertError message))
          | _ => .timedOut
        posted := (handleTelemetry body).toOption.toList }

/-- The state of the program: the parts of the router and those of the HTTP
server, with the central channel they share. -/
structure State where
  central : Central
  edges : EdgeSide
  manager : SlotSide FromManager ToManager
  data : SlotSide FromDataSaver ToDataSaver
  dispatcher : Dispatcher
  dispatched : List Dispatch
  connections : Connections.State
  exchanges : Nat → Exchange
  accepted : List (String × Int)
  served : List String
  reaped : List String

inductive Action where
  | router (action : Router.Action)
  | https (action : Server.Action)
  deriving DecidableEq, Repr

namespace State

/-- The router in it. -/
def router (state : State) : Router.State where
  central := state.central
  edges := state.edges
  manager := state.manager
  data := state.data
  http i := alertOf (state.exchanges i)
  dispatcher := state.dispatcher
  dispatched := state.dispatched

/-- The HTTP server in it. -/
def server (state : State) : Server.State where
  connections := state.connections
  central := state.central
  exchanges := state.exchanges
  accepted := state.accepted
  served := state.served
  reaped := state.reaped

/-- The program at its start, with the clock at `clock`. -/
def start (clock : Int) : State where
  central := .empty
  edges := Router.State.start.edges
  manager := Router.State.start.manager
  data := Router.State.start.data
  dispatcher := .receiving
  dispatched := []
  connections := .start HttpsService.idleTimeout clock
  exchanges := fun _ => .unused
  accepted := []
  served := []
  reaped := []

/-- The steps of the gRPC services and of the dispatcher, as opposed to those of
the requests the HTTP server handles. -/
def ofServices : Router.Action → Bool
  | .http _ _ => false
  | _ => true

/-- The steps of the HTTP server, as opposed to those of the other users of the
central channel. -/
def ofServer : Server.Action → Bool
  | .central _ => false
  | _ => true

/-- One step of the services or of the HTTP server `init_server` makes. -/
def step (state : State) : Action → Option State
  | .router action =>
      if ofServices action then
        (state.router.step action).map fun router =>
          { state with
            central := router.central
            edges := router.edges
            manager := router.manager
            data := router.data
            dispatcher := router.dispatcher
            dispatched := router.dispatched }
      else none
  | .https action =>
      if ofServer action then
        (state.server.step initServer action).map fun server =>
          { state with
            central := server.central
            connections := server.connections
            exchanges := server.exchanges
            accepted := server.accepted
            served := server.served
            reaped := server.reaped }
      else none

end State

/-- The program as a transition system. -/
def system (clock : Int) : System State Action where
  start := .start clock
  step := State.step

/-- The HTTP server of the program. -/
abbrev serverSystem (clock : Int) : System Server.State Server.Action :=
  Server.system initServer HttpsService.idleTimeout clock

namespace State

variable {state next last : State}

/-! ## What a step is to the other side -/

/-- The services change nothing of the HTTP server but the central channel, and
the HTTP server nothing of the services but the channel and its requests. -/
theorem step_router {action : Router.Action}
    (stepped : state.step (.router action) = some next) :
    ofServices action = true ∧
      Router.system.step state.router action = some next.router ∧
      next.server = { state.server with central := next.central } := by
  simp only [step, Option.ite_none_right_eq_some] at stepped
  rcases stepped with ⟨own, stepped⟩
  rcases Option.map_eq_some_iff.mp stepped with ⟨router, ran, rfl⟩
  refine ⟨own, ?_, rfl⟩
  have http : router.http = state.router.http := by
    cases Router.State.step_cases ran with
    | edge | manager | data => rfl
    | http => cases own
    | dispatcher order next inner => exact inner.served.2.2.2
  change state.router.step action = some _
  rw [ran]
  have same : router = { router with http := state.router.http } := by
    rw [← http]
  exact congrArg some same

theorem step_https {action : Server.Action}
    (stepped : state.step (.https action) = some next) :
    ofServer action = true ∧
      state.server.step initServer action = some next.server ∧
      next.router = { state.router with
        central := next.central
        http := fun i => alertOf (next.exchanges i) } := by
  simp only [step, Option.ite_none_right_eq_some] at stepped
  rcases stepped with ⟨own, stepped⟩
  rcases Option.map_eq_some_iff.mp stepped with ⟨server, ran, rfl⟩
  exact ⟨own, ran, rfl⟩

/-- What a step of the services does to the central channel: nothing, one send
that is not of a request, or one receive. -/
theorem central_of_services {router router' : Router.State}
    {action : Router.Action} (reachable : Router.system.Reachable router)
    (own : ofServices action = true)
    (stepped : Router.system.step router action = some router') :
    router'.central = router.central ∨
      (∃ message, (∀ i, message.source ≠ .http i) ∧
        router.central.send message = .sent router'.central) ∨
      ∃ message, router.central.receive = some (message, router'.central) := by
  cases Router.State.step_cases stepped with
  | edge i act central edges inner =>
      cases inner with
      | forward message central pc sent =>
          have from_ := (((Router.State.edgeSideWF reachable).streams
            i).forwarding message pc).1
          exact Or.inr (Or.inl ⟨message, by simp [from_], sent⟩)
      | _ => exact Or.inl rfl
  | manager i act central manager inner =>
      cases inner with
      | forward message central task sent =>
          have from_ := (((Router.State.slotSidesWF reachable).1.streams
            i).forwarding message task).1
          refine Or.inr (Or.inl ⟨message, fun j => ?_, sent⟩)
          rw [from_]
          exact Source.noConfusion
      | _ => exact Or.inl rfl
  | data i act central data inner =>
      cases inner with
      | forward message central task sent =>
          have from_ := (((Router.State.slotSidesWF reachable).2.streams
            i).forwarding message task).1
          refine Or.inr (Or.inl ⟨message, fun j => ?_, sent⟩)
          rw [from_]
          exact Source.noConfusion
      | _ => exact Or.inl rfl
  | http => cases own
  | dispatcher order next inner =>
      cases inner with
      | receive message central idle received =>
          right
          right
          refine ⟨message, ?_⟩
          rw [received, (Router.State.route_fields _ _).2.2.1]
      | lookUpEdge _ _ _ _ found => cases found <;> exact Or.inl rfl
      | lookUpManager _ _ _ found => cases found <;> exact Or.inl rfl
      | lookUpData _ _ _ found => cases found <;> exact Or.inl rfl
      | _ => exact Or.inl rfl

/-- The HTTP server sees a step of the services as one step of the other users of
the channel at most. -/
theorem server_run {clock : Int} {action : Router.Action}
    (reachable : Router.system.Reachable state.router)
    (stepped : state.step (.router action) = some next) :
    ∃ actions, (serverSystem clock).runFrom state.server actions =
      some next.server := by
  rcases step_router stepped with ⟨own, ran, same⟩
  rcases central_of_services reachable own ran with
    idle | ⟨message, notHttp, sent⟩ | ⟨message, received⟩
  · refine ⟨[], ?_⟩
    have central : next.central = state.central := idle
    rw [same, central]
    rfl
  · refine ⟨[.central (.send message)], ?_⟩
    rw [System.runFrom_singleton, same]
    have sent : state.central.send message = .sent next.central := sent
    have taken : Server.State.others state.central (.send message) =
        some next.central := by
      simp only [Server.State.others, sent]
    change (Server.State.others state.central (.send message)).map _ = _
    rw [taken]
    rfl
  · refine ⟨[.central .receive], ?_⟩
    rw [System.runFrom_singleton, same]
    have received : state.central.receive = some (message, next.central) :=
      received
    change (Server.State.others state.central .receive).map _ = _
    simp only [Server.State.others, received]
    rfl

/-- The router does not see a step that leaves the channel and what the requests
do to it. -/
theorem router_eq {action : Server.Action}
    (stepped : state.step (.https action) = some next)
    (central : next.central = state.central)
    (alerts : ∀ j, alertOf (next.exchanges j) = alertOf (state.exchanges j)) :
    next.router = state.router := by
  rw [(step_https stepped).2.2, central]
  simp only [alerts]
  rfl

/-- One request moves on, and the router sees the same of it. -/
theorem alertOf_update {exchanges : Nat → Exchange} {i : Nat}
    {exchange : Exchange} (same : alertOf exchange = alertOf (exchanges i))
    (j : Nat) :
    alertOf (Function.update exchanges i exchange j) = alertOf (exchanges j) := by
  by_cases here : j = i
  · subst here
    rw [Function.update_self, same]
  · rw [Function.update_of_ne here]

/-- The handler of a request makes a step. -/
theorem router_run_handler {i : Nat} {act : HttpAction}
    {central : Central} {alert : HttpRequest} {action : Server.Action}
    (stepped : state.step (.https action) = some next)
    (ran : (alertOf (state.exchanges i)).step state.central i act =
      some (central, alert))
    (channel : next.central = central)
    (own : alertOf (next.exchanges i) = alert)
    (others : ∀ j, j ≠ i → next.exchanges j = state.exchanges j) :
    Router.system.runFrom state.router [.http i act] = some next.router := by
  rw [System.runFrom_singleton]
  change ((alertOf (state.exchanges i)).step state.central i act).map _ = _
  rw [ran, (step_https stepped).2.2, channel]
  have http : (fun j => alertOf (next.exchanges j)) =
      Function.update state.router.http i alert := by
    funext j
    by_cases here : j = i
    · subst here
      rw [Function.update_self, own]
    · rw [Function.update_of_ne here, others j here]
      rfl
  rw [http]
  rfl

/-- The error of a body that is no alert has the form the response keeps. -/
theorem handleTelemetry_error {body : Body} {error : AppError}
    (handled : handleTelemetry body = .error error) :
    ∃ message, error = .alertError message := by
  simp only [handleTelemetry] at handled
  split at handled
  · cases handled
  · split at handled
    · cases handled
    · cases handled
      exact ⟨_, rfl⟩

/-- What the server makes of a handler's step is what the router sees of it, if
the handler has posted what its body decodes to. -/
theorem alertOf_settle (server : Server.State) (i : Nat) (request : Request)
    {body : Body} (central : Central) {alert : HttpRequest}
    (posted : alert.posted = (handleTelemetry body).toOption.toList)
    (form : ∀ error, alert.task = .replied (.error error) →
      ∃ message, error = .alertError message) :
    (server.settle i request body central alert).central = central ∧
      alertOf ((server.settle i request body central alert).exchanges i) =
        alert ∧
      ∀ j, j ≠ i → (server.settle i request body central alert).exchanges j =
        server.exchanges j := by
  rcases alert with ⟨task, list⟩
  have same : list = (handleTelemetry body).toOption.toList := posted
  subst same
  simp only [Server.State.settle]
  split
  · rename_i reply
    cases reply with
    | ok status =>
        refine ⟨rfl, ?_, fun j other => Function.update_of_ne other _ _⟩
        simp [Server.State.setExchange, telemetryResponse, alertOf]
    | error error =>
        rcases form error rfl with ⟨message, rfl⟩
        refine ⟨rfl, ?_, fun j other => Function.update_of_ne other _ _⟩
        simp [Server.State.setExchange, telemetryResponse, alertOf,
          AppError.intoResponse]
  · refine ⟨rfl, ?_, fun j other => Function.update_of_ne other _ _⟩
    simp [Server.State.setExchange, alertOf]
  · refine ⟨rfl, ?_, fun j other => Function.update_of_ne other _ _⟩
    simp [Server.State.setExchange, alertOf]

/-- A run of the router from one state of the program to the other in which only
requests move. -/
def RequestsRun (state next : State) : Prop :=
  ∃ actions, Router.system.runFrom state.router actions = some next.router ∧
    ∀ action ∈ actions, ∃ i act, action = .http i act

theorem RequestsRun.quiet (same : next.router = state.router) :
    RequestsRun state next :=
  ⟨[], congrArg some same.symm, by simp⟩

theorem RequestsRun.single {i : Nat} {act : HttpAction}
    (ran : Router.system.runFrom state.router [.http i act] =
      some next.router) : RequestsRun state next :=
  ⟨_, ran, by simp⟩

/-- A request whose body cannot be read is nothing to the router. -/
theorem requestsRun_refused {i : Nat} {request : Request} {code : Nat}
    {action : Server.Action}
    (stepped : state.step (.https action) = some next)
    (reading : state.exchanges i = .reading request)
    (refused : next.server = state.server.setExchange i
      (.answered request none (.rejected code))) : RequestsRun state next := by
  refine .quiet (router_eq stepped (congrArg Server.State.central refused) ?_)
  have exchanges : next.exchanges = Function.update state.exchanges i
      (.answered request none (.rejected code)) :=
    congrArg Server.State.exchanges refused
  rw [exchanges]
  exact alertOf_update (congrArg alertOf reading).symm

/-- Beyond the reading of its body, the handler of an alert does to the router
what the request does there. -/
theorem handler_run {i : Nat} {act : HttpAction}
    (alerts : Server.AlertsWF state.server)
    (stepped : state.step (.https (.telemetry i (.handler act))) = some next)
    (busy : act = .timeout → ∀ request, state.exchanges i ≠ .reading request) :
    Router.system.runFrom state.router [.http i act] = some next.router ∧
      ∀ j, j ≠ i → next.exchanges j = state.exchanges j := by
  have ran : state.server.telemetry i (.handler act) = some next.server :=
    (step_https stepped).2.1
  simp only [Server.State.telemetry] at ran
  split at ran
  · rename_i none
    cases none
  · rename_i request reading same
    cases same
    exact absurd reading (busy rfl request)
  · rename_i request body reading same
    cases same
    have reading : state.exchanges i = .reading request := reading
    rcases Option.map_eq_some_iff.mp ran with
      ⟨⟨channel, alert⟩, posts, settled⟩
    have kept : alert.posted = (handleTelemetry body).toOption.toList ∧
        ∀ error, alert.task = .replied (.error error) →
          ∃ message, error = .alertError message := by
      cases Router.HttpRequest.step_cases posts with
      | accept _ message _ handled => simp [handled, Except.toOption]
      | reject _ error _ handled =>
          refine ⟨by simp [handled, Except.toOption], ?_⟩
          intro other same
          cases same
          exact handleTelemetry_error handled
    have effect := alertOf_settle state.server i request channel kept.1 kept.2
    rw [settled] at effect
    have decodes : (alertOf (state.exchanges i)).step state.central i
        (.post body) = some (channel, alert) := by
      rw [reading]
      exact posts
    exact ⟨router_run_handler stepped decodes effect.1 effect.2.1 effect.2.2,
      effect.2.2⟩
  · cases ran
  · rename_i request body alert act again handling same
    cases same
    have handling : state.exchanges i = .handling request body alert := handling
    rcases Option.map_eq_some_iff.mp ran with
      ⟨⟨channel, alert'⟩, goesOn, settled⟩
    have before := alerts i
    rw [show state.server.exchanges i = _ from handling] at before
    cases before with
    | handling _ _ message routed handled nothing =>
        have kept : alert'.posted = (handleTelemetry body).toOption.toList ∧
            ∀ error, alert'.task = .replied (.error error) →
              ∃ message, error = .alertError message := by
          cases Router.HttpRequest.step_cases goesOn with
          | accept body _ _ _ => exact absurd rfl (again body)
          | reject body _ _ _ => exact absurd rfl (again body)
          | send => simp [handled, Except.toOption, routedReply]
          | timeout => simp [handled, Except.toOption]
          | discard =>
              refine ⟨by simp [handled, Except.toOption], ?_⟩
              intro error same
              cases same
              exact ⟨_, rfl⟩
        have effect := alertOf_settle state.server i request channel kept.1 kept.2
        rw [settled] at effect
        have moves : (alertOf (state.exchanges i)).step state.central i act =
            some (channel, alert') := by
          rw [handling]
          exact goesOn
        exact ⟨router_run_handler stepped moves effect.1 effect.2.1 effect.2.2,
          effect.2.2⟩
  · cases ran

theorem requestsRun_telemetry {i : Nat} {action : Server.TelemetryAction}
    (alerts : Server.AlertsWF state.server)
    (stepped : state.step (.https (.telemetry i action)) = some next) :
    RequestsRun state next := by
  have ran : state.server.telemetry i action = some next.server :=
    (step_https stepped).2.1
  cases action with
  | refuse rejection =>
      cases reading : state.server.exchanges i with
      | reading request =>
          simp only [Server.State.telemetry, reading] at ran
          exact requestsRun_refused stepped reading (Option.some.inj ran).symm
      | unused | handling | answered =>
          simp [Server.State.telemetry, reading] at ran
  | handler act =>
      by_cases late : act = .timeout ∧
          ∃ request, state.exchanges i = .reading request
      · rcases late with ⟨rfl, request, reading⟩
        have reads : state.server.exchanges i = .reading request := reading
        simp only [Server.State.telemetry, reads] at ran
        exact requestsRun_refused stepped reading (Option.some.inj ran).symm
      · apply RequestsRun.single
        apply (handler_run alerts stepped ?_).1
        intro timeout request reading
        exact late ⟨timeout, request, reading⟩

/-- The router sees a step of the HTTP server as one step of a request at
most. -/
theorem requestsRun {action : Server.Action}
    (alerts : Server.AlertsWF state.server)
    (stepped : state.step (.https action) = some next) :
    RequestsRun state next := by
  have ran := (step_https stepped).2.1
  have quiet : next.server.central = state.central →
      (∀ j, alertOf (next.server.exchanges j) = alertOf (state.exchanges j)) →
      RequestsRun state next :=
    fun central same => .quiet (router_eq stepped central same)
  cases action with
  | telemetry i action => exact requestsRun_telemetry alerts stepped
  | central => cases (step_https stepped).1
  | elapse | reaper =>
      generalize next.server = server at ran quiet
      cases Server.State.step_cases ran
      exact quiet rfl fun _ => rfl
  | request i request uuid took =>
      generalize next.server = server at ran quiet
      cases Server.State.step_cases ran with
      | connect _ _ _ _ _ _ info => cases info
      | deny _ _ _ _ unused | reply _ _ _ _ _ unused | read _ _ _ _ unused =>
          exact quiet rfl (alertOf_update (congrArg alertOf unused).symm)

/-! ## Runs -/

/-- Every state of the program is a state of the router and one of the HTTP
server. -/
theorem reachable_parts {clock : Int} (reachable : (system clock).Reachable state) :
    Router.system.Reachable state.router ∧
      (serverSystem clock).Reachable state.server := by
  apply System.invariant (fun state : State =>
    Router.system.Reachable state.router ∧
      (serverSystem clock).Reachable state.server) ?_ ?_ reachable
  · exact ⟨.start, .start⟩
  · intro state next action _ before stepped
    cases action with
    | router action =>
        rcases server_run before.1 stepped with ⟨actions, ran⟩
        exact ⟨before.1.step (step_router stepped).2.1, before.2.run ran⟩
    | https action =>
        rcases requestsRun (Server.reachable_alertsWF before.2) stepped with
          ⟨actions, ran, _⟩
        exact ⟨before.1.run ran, before.2.step (step_https stepped).2.1⟩

/-- A run of the program in which the services keep to a condition is a run of
the router that keeps to it, if the condition lets requests do what they
like. -/
theorem leads_router {clock : Int} {condition : Router.Action → Prop}
    (requests : ∀ i act, condition (.http i act)) {schedule : List Action}
    (reachable : (system clock).Reachable state)
    (ran : (system clock).runFrom state schedule = some last)
    (met : ∀ action, Action.router action ∈ schedule → condition action) :
    Router.system.Leads (fun _ => condition) state.router last.router := by
  have keeps : (system clock).StepsMeet (fun _ action =>
      ∀ inner, action = .router inner → condition inner) state schedule :=
    System.StepsMeet.of_forall
      (fun action member _ inner same =>
        met inner (by rw [← same]; exact member)) state
  apply System.run_preserves_while
    (fun last => Router.system.Leads (fun _ => condition) state.router
      last.router) _ ?_ reachable (.refl _ _) keeps ran
  intro before after action reached leads permitted stepped
  apply leads.trans
  cases action with
  | router action =>
      exact .single (step_router stepped).2.1 (permitted action rfl)
  | https action =>
      rcases requestsRun (Server.reachable_alertsWF (reachable_parts reached).2)
        stepped with ⟨actions, ran, all⟩
      refine ⟨actions, ran, System.StepsMeet.of_forall ?_ _⟩
      intro inner member _
      rcases all inner member with ⟨i, act, rfl⟩
      exact requests i act

/-! ## Every state of the router is one of the program -/

/-- A request the router has not seen is one the server has not either. -/
def Unseen (state : State) : Prop :=
  ∀ i, (alertOf (state.exchanges i)).task = .idle → state.exchanges i = .unused

/-- What a handler that has not returned leaves to be done. -/
theorem handling_of_sending {exchange : Exchange} {message : RouterMessage}
    (sending : (alertOf exchange).task = .sending message) :
    ∃ request body alert, exchange = .handling request body alert ∧
      alertOf exchange = alert := by
  cases exchange with
  | handling request body alert => exact ⟨request, body, alert, rfl, rfl⟩
  | unused | reading => cases sending
  | answered request body response =>
      cases body with
      | none => cases sending
      | some body =>
          simp only [alertOf] at sending
          split at sending <;> cases sending

/-- The services can do in the program what they can do in the router. -/
theorem realizes_services {clock : Int} {action : Router.Action}
    {router : Router.State} (reachable : (system clock).Reachable state)
    (unseen : Unseen state) (own : ofServices action = true)
    (stepped : Router.system.step state.router action = some router) :
    ∃ next, (system clock).Reachable next ∧ next.router = router ∧
      Unseen next := by
  have ran : state.router.step action = some router := stepped
  obtain ⟨next, step⟩ : ∃ next, state.step (.router action) = some next := by
    simp only [step, own, ran, if_true, Option.map_some]
    exact ⟨_, rfl⟩
  have shown := (step_router step).2.1
  rw [stepped] at shown
  have same : next.exchanges = state.exchanges :=
    congrArg Server.State.exchanges (step_router step).2.2
  have stepped : (system clock).step state (.router action) = some next := step
  refine ⟨next, reachable.step stepped, (Option.some.inj shown).symm, ?_⟩
  intro i idle
  rw [same] at idle ⊢
  exact unseen i idle

/-- The handler of a request can do in the program what the request can do in the
router. -/
theorem realizes_handler {clock : Int} {i : Nat} {act : HttpAction}
    {router : Router.State} (reachable : (system clock).Reachable state)
    (enabled : ∃ server, state.server.telemetry i (.handler act) = some server)
    (busy : act = .timeout → ∀ request, state.exchanges i ≠ .reading request)
    (unseen : ∀ j, j ≠ i → (alertOf (state.exchanges j)).task = .idle →
      state.exchanges j = .unused)
    (moved : (router.http i).task ≠ .idle)
    (stepped : Router.system.step state.router (.http i act) = some router) :
    ∃ next, (system clock).Reachable next ∧ next.router = router ∧
      Unseen next := by
  rcases enabled with ⟨server, ran⟩
  obtain ⟨next, step⟩ : ∃ next,
      state.step (.https (.telemetry i (.handler act))) = some next := by
    have serves : state.server.step initServer (.telemetry i (.handler act)) =
      some server := ran
    simp only [step, ofServer, serves, if_true, Option.map_some]
    exact ⟨_, rfl⟩
  have alerts := Server.reachable_alertsWF (reachable_parts reachable).2
  rcases handler_run alerts step busy with ⟨shown, others⟩
  rw [System.runFrom_singleton, stepped] at shown
  have same := Option.some.inj shown
  subst same
  have stepped : (system clock).step state
      (.https (.telemetry i (.handler act))) = some next := step
  refine ⟨next, reachable.step stepped, rfl, ?_⟩
  intro j idle
  by_cases here : j = i
  · subst here
    exact absurd idle moved
  · rw [others j here] at idle ⊢
    exact unseen j here idle

/-- A request for `/alerts` arrives; the router sees nothing of it yet. -/
theorem arrives {i : Nat} (unused : state.exchanges i = .unused) :
    ∃ next, state.step (.https (.request i Server.alertRequest "" 0)) =
        some next ∧ next.router = state.router ∧
      next.exchanges =
        Function.update state.exchanges i (.reading Server.alertRequest) := by
  have serves : state.server.step initServer
      (.request i Server.alertRequest "" 0) =
        some (state.server.setExchange i (.reading Server.alertRequest)) := by
    have unused : state.server.exchanges i = .unused := unused
    simp only [Server.State.step, unused]
    rfl
  obtain ⟨next, step, exchanges, central⟩ : ∃ next,
      state.step (.https (.request i Server.alertRequest "" 0)) = some next ∧
      next.exchanges =
        Function.update state.exchanges i (.reading Server.alertRequest) ∧
      next.central = state.central := by
    simp only [State.step, ofServer, serves, if_true, Option.map_some]
    exact ⟨_, rfl, rfl, rfl⟩
  refine ⟨next, step, router_eq step central ?_, exchanges⟩
  rw [exchanges]
  exact alertOf_update (congrArg alertOf unused).symm

/-- What the router can do next the program can do next. -/
theorem realizes_step {clock : Int} {action : Router.Action}
    {router : Router.State} (reachable : (system clock).Reachable state)
    (unseen : Unseen state)
    (stepped : Router.system.step state.router action = some router) :
    ∃ next, (system clock).Reachable next ∧ next.router = router ∧
      Unseen next := by
  by_cases own : ofServices action = true
  · exact realizes_services reachable unseen own stepped
  · obtain ⟨i, act, rfl⟩ : ∃ i act, action = .http i act := by
      cases action with
      | http i act => exact ⟨i, act, rfl⟩
      | edge | manager | data | dispatcher => exact absurd rfl own
    have shown : ((alertOf (state.exchanges i)).step state.central i act).map
        (fun moved => { state.router with
          central := moved.1
          http := Function.update state.router.http i moved.2 }) =
        some router := stepped
    rcases Option.map_eq_some_iff.mp shown with ⟨⟨central, request⟩, ran, same⟩
    have moved : (router.http i).task ≠ .idle := by
      have now : router.http i = request := by
        simp [← same]
      rw [now]
      cases Router.HttpRequest.step_cases ran <;> exact Router.HttpTask.noConfusion
    by_cases idle : (alertOf (state.exchanges i)).task = .idle
    · obtain ⟨body, rfl⟩ : ∃ body, act = .post body := by
        cases Router.HttpRequest.step_cases ran with
        | accept body | reject body => exact ⟨body, rfl⟩
        | send _ _ task | discard _ task | timeout _ task =>
            rw [idle] at task
            cases task
      rcases arrives (unseen i idle) with ⟨middle, step, same, exchanges⟩
      have arrived : (system clock).step state
          (.https (.request i Server.alertRequest "" 0)) = some middle := step
      have reached := reachable.step arrived
      have reading : middle.server.exchanges i =
          .reading Server.alertRequest := by
        change middle.exchanges i = _
        rw [exchanges, Function.update_self]
      have enabled : ∃ server, middle.server.telemetry i
          (.handler (.post body)) = some server := by
        simp only [Server.State.telemetry, reading]
        cases handled : handleTelemetry body <;>
          simp [HttpRequest.step, handled]
      have others : ∀ j, j ≠ i → (alertOf (middle.exchanges j)).task = .idle →
          middle.exchanges j = .unused := by
        intro j different idle
        rw [exchanges, Function.update_of_ne different] at idle ⊢
        exact unseen j idle
      rw [← same] at stepped
      exact realizes_handler reached enabled (fun late => by cases late) others
        moved stepped
    · obtain ⟨message, task⟩ : ∃ message,
          (alertOf (state.exchanges i)).task = .sending message := by
        cases Router.HttpRequest.step_cases ran with
        | accept _ _ waits | reject _ _ waits => exact absurd waits idle
        | send message _ task | discard message task | timeout message task =>
            exact ⟨message, task⟩
      rcases handling_of_sending task with ⟨req, body, alert, handling, same⟩
      refine realizes_handler reachable ?_ (fun _ _ => by simp [handling])
        (fun j _ idle => unseen j idle) moved stepped
      have handles : state.server.exchanges i = .handling req body alert :=
        handling
      rw [same] at ran idle
      cases act with
      | post other =>
          cases Router.HttpRequest.step_cases ran with
          | accept _ _ waits | reject _ _ waits => exact absurd waits idle
      | task | timeout =>
          have ran : alert.step state.server.central i _ = _ := ran
          simp only [Server.State.telemetry, handles, ran]
          exact ⟨_, rfl⟩

/-- Every state of the router is the router's part of a state of the program. -/
theorem realizes (clock : Int) {router : Router.State}
    (reachable : Router.system.Reachable router) :
    ∃ state, (system clock).Reachable state ∧ state.router = router ∧
      Unseen state := by
  apply System.invariant (fun router => ∃ state,
    (system clock).Reachable state ∧ state.router = router ∧ Unseen state)
    ?_ ?_ reachable
  · exact ⟨.start clock, .start, rfl, fun _ _ => rfl⟩
  · intro router next action _ ⟨state, reached, same, unseen⟩ stepped
    subst same
    exact realizes_step reached unseen stepped

/-- The program's tasks and its HTTP server restrict the router in nothing: its
states are the router's parts of the program's states. -/
theorem reachable_router_iff (clock : Int) (router : Router.State) :
    Router.system.Reachable router ↔
      ∃ state, (system clock).Reachable state ∧ state.router = router := by
  constructor
  · intro reachable
    rcases realizes clock reachable with ⟨state, reached, same, _⟩
    exact ⟨state, reached, same⟩
  · intro ⟨state, reached, same⟩
    subst same
    exact (reachable_parts reached).1

end State

end IotRouter.Main
