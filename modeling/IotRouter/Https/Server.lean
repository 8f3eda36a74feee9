import IotRouter.Connections.Reaper
import IotRouter.Router.Inversion
import IotRouter.Runtime.SocketAddr

/-!
# The HTTP server

`build_router` and its handlers over the registry of connections and the central
channel, and the two ways to make a service of the router. A handler without an
await is one step. `handle_telemetry` takes several: its body is read first, and
its send waits for the central channel; the timeout layer may cancel it at both.
The reaper runs beside the handlers.

`accepted`, `served` and `reaped` record history; no step reads them.
-/

namespace IotRouter.Https

open IotRouter.Grpc (RouterMessage)
open IotRouter.Runtime IotRouter.Connections
open IotRouter.Router (Central Tagged Source HttpRequest HttpAction HttpTask)

/-! ## Requests and responses -/

inductive Method where
  | get
  | head
  | post
  | other (name : String)
  deriving DecidableEq, Repr

structure Request where
  method : Method
  path : String
  peer : SocketAddr
  deriving DecidableEq, Repr

/-- The bodies of the responses; `rejected` is a response of axum or of a layer,
of which only the code matters. -/
inductive Response where
  | connected (status connectionId clientCn message : String)
  | health (status : String) (activeConnections : Nat) (version : String)
  | connections (total : Nat) (connections : List ConnectionInfo)
  | metrics
  | alert (status : String)
  | error (code : Nat) (message : String)
  | rejected (code : Nat)
  deriving DecidableEq

def Response.code : Response → Nat
  | .error code _ | .rejected code => code
  | _ => 200

/-- The JSON object with the message and the code of the error. -/
def AppError.intoResponse : AppError → Response
  | .unauthorized message => .error 401 message
  | .invalidClientCert message => .error 403 message
  | .notFound message => .error 404 message
  | .internal error => .error 500 error
  | .rateLimited => .error 429 "Rate limit excedido"
  | .alertError message => .error 400 message

/-- No error is answered with 200. -/
theorem AppError.intoResponse_code (error : AppError) :
    error.intoResponse.code ≠ 200 := by
  cases error <;> simp [intoResponse, Response.code]

/-- The response to what `handle_telemetry` returns. -/
def telemetryResponse : Except AppError String → Response
  | .ok status => .alert status
  | .error error => error.intoResponse

/-! ## The router and the service made of it -/

inductive Handler where
  | connection
  | status
  | connectionsList
  | metrics
  | telemetry
  deriving DecidableEq, Repr

/-- The routes of `build_router`. -/
def routes : List (String × Method × Handler) :=
  [("/connect", .get, .connection), ("/status", .get, .status),
    ("/connections", .get, .connectionsList), ("/metrics", .get, .metrics),
    ("/alerts", .post, .telemetry)]

/-- A route for GET also serves HEAD. -/
def Method.serves (route method : Method) : Bool :=
  route = method || (route = .get && method = .head)

inductive Routed where
  | handler (handler : Handler)
  | methodNotAllowed
  | notFound
  deriving DecidableEq, Repr

def Request.routed (request : Request) : Routed :=
  match routes.find? (·.1 = request.path) with
  | some (_, method, handler) =>
      if method.serves request.method then .handler handler
      else .methodNotAllowed
  | none => .notFound

/-- `into_make_service` or `into_make_service_with_connect_info`. -/
inductive MakeService where
  | plain
  | withConnectInfo
  deriving DecidableEq, Repr

/-- The service `init_server` makes. -/
def initServer : MakeService := .plain

/-- The extractor `ConnectInfo<SocketAddr>`: without connect info the request is
answered with 500. -/
def MakeService.connectInfo (service : MakeService) (request : Request) :
    Except Response SocketAddr :=
  match service with
  | .plain => .error (.rejected 500)
  | .withConnectInfo => .ok request.peer

/-- `HttpsService::new` registers connections with a timeout of 60 seconds. -/
def HttpsService.idleTimeout : Duration := .fromSecs 60

/-- `handle_connection`, with the id that `Uuid::new_v4` yields and the time that
passes between its two reads of the clock. -/
def handleConnection (connections : Connections.State) (addr : SocketAddr)
    (uuid : String) (took : Nat) : Option (Connections.State × Response) := do
  let clientCn := "client@" ++ addr.ip.toString
  let registered ← connections.step
    (.register uuid clientCn addr.toString connections.clock)
  let later ← registered.step (.elapse took)
  let touched ← later.step (.touch uuid)
  return (touched, .connected "ok" uuid clientCn
    "Conexión mTLS establecida y registrada")

/-- `handle_status` -/
def handleStatus (registry : ConnectionRegistry) : Response :=
  .health "healthy" registry.count "0.6.0"

/-- `handle_connections_list` -/
def handleConnectionsList (registry : ConnectionRegistry) : Response :=
  let conns := registry.snapshot
  .connections conns.length conns

/-- `metrics_handler`, given whether `PROMETHEUS_HANDLE` is set. What the handle
renders is left to the middlewares. -/
def metricsHandler (initialized : Bool) : Response :=
  if initialized then .metrics else .error 503 "Métricas no inicializadas"

/-! ## State -/

/-- How far a request has come. -/
inductive Exchange where
  | unused
  /-- The body of an alert is being read. -/
  | reading (request : Request)
  | handling (request : Request) (body : Body) (alert : HttpRequest)
  | answered (request : Request) (body : Option Body) (response : Response)

/-- The request of an exchange. -/
def Exchange.request : Exchange → Option Request
  | .unused => none
  | .reading request | .handling request _ _ | .answered request _ _ =>
      some request

def Exchange.isAnswered : Exchange → Bool
  | .answered _ _ _ => true
  | _ => false

namespace Server

structure State where
  connections : Connections.State
  central : Central
  exchanges : Nat → Exchange
  /-- The addresses whose requests to `/connect` or `/alerts` were answered with
  200, and when. -/
  accepted : List (String × Int)
  /-- The ids that requests to `/connect` were answered with. -/
  served : List String
  /-- The ids whose sessions the reaper has removed. -/
  reaped : List String

/-- Why the body of a request cannot be read. -/
inductive BytesRejection where
  | lengthLimit
  | unknownBody
  deriving DecidableEq, Repr

def BytesRejection.code : BytesRejection → Nat
  | .lengthLimit => 413
  | .unknownBody => 400

/-- What happens to the request of an alert. -/
inductive TelemetryAction where
  | refuse (rejection : BytesRejection)
  | handler (action : HttpAction)
  deriving DecidableEq, Repr

/-- What other tasks do to the central channel. -/
inductive CentralAction where
  | send (message : Tagged RouterMessage)
  | receive
  | close
  deriving DecidableEq, Repr

/-- A request comes with the id it may be given and the time its handler takes
between two reads of the clock. -/
inductive Action where
  | elapse (nanos : Nat)
  | reaper (action : Connections.Action)
  | request (i : Nat) (request : Request) (uuid : String) (took : Nat)
  | telemetry (i : Nat) (action : TelemetryAction)
  | central (action : CentralAction)
  deriving DecidableEq, Repr

/-! ## Steps -/

/-- The steps of `start_reaper`, as opposed to those of its clients. -/
def ofReaper : Connections.Action → Bool
  | .elapse _ | .register _ _ _ _ | .touch _ => false
  | .wake | .inspect _ | .collect | .remove | .finish => true

/-- The session that a step of the reaper removes. -/
def reapedBy (connections : Connections.State) :
    Connections.Action → List String
  | .remove =>
      match connections.reaper with
      | .removing _ (id :: _) =>
          if id ∈ connections.registry.inner then [id] else []
      | _ => []
  | _ => []

namespace State

def start (idleTimeout : Duration) (clock : Int) : State where
  connections := .start idleTimeout clock
  central := .empty
  exchanges := fun _ => .unused
  accepted := []
  served := []
  reaped := []

def setExchange (state : State) (i : Nat) (exchange : Exchange) : State :=
  { state with exchanges := Function.update state.exchanges i exchange }

/-- A client has been answered with 200. -/
def accept (state : State) (addr : SocketAddr) : State :=
  { state with
    accepted := state.accepted ++ [(addr.toString, state.connections.clock)] }

/-- The handlers without an await, and the responses of the router itself. -/
def serve (service : MakeService) (state : State) (i : Nat) (request : Request)
    (uuid : String) (took : Nat) : Option State :=
  let answer (response : Response) : Option State :=
    some (state.setExchange i (.answered request none response))
  match request.routed with
  | .notFound => answer (.rejected 404)
  | .methodNotAllowed => answer (.rejected 405)
  | .handler .status => answer (handleStatus state.connections.registry)
  | .handler .connectionsList =>
      answer (handleConnectionsList state.connections.registry)
  -- `init_server` calls `init_global` before it serves.
  | .handler .metrics => answer (metricsHandler true)
  | .handler .telemetry => some (state.setExchange i (.reading request))
  | .handler .connection =>
      match service.connectInfo request with
      | .error response => answer response
      | .ok addr =>
          (handleConnection state.connections addr uuid took).map
            fun (connections, response) =>
              ({ state with
                  connections, served := state.served ++ [uuid] }.accept
                addr).setExchange i (.answered request none response)

/-- The request of an alert after a step of its handler. -/
def settle (state : State) (i : Nat) (request : Request) (body : Body)
    (central : Central) (alert : HttpRequest) : State :=
  let state := { state with central }
  match alert.task with
  | .replied reply =>
      let state := if reply.isOk then state.accept request.peer else state
      state.setExchange i
        (.answered request (some body) (telemetryResponse reply))
  | .timedOut =>
      state.setExchange i (.answered request (some body) (.rejected 408))
  | _ => state.setExchange i (.handling request body alert)

def telemetry (state : State) (i : Nat) (action : TelemetryAction) :
    Option State :=
  match state.exchanges i, action with
  | .reading request, .refuse rejection =>
      some (state.setExchange i
        (.answered request none (.rejected rejection.code)))
  | .reading request, .handler .timeout =>
      some (state.setExchange i (.answered request none (.rejected 408)))
  | .reading request, .handler (.post body) =>
      (HttpRequest.step state.central { task := .idle, posted := [] } i
        (.post body)).map fun (central, alert) =>
          state.settle i request body central alert
  | .handling _ _ _, .handler (.post _) => none
  | .handling request body alert, .handler action =>
      (alert.step state.central i action).map fun (central, alert) =>
        state.settle i request body central alert
  | _, _ => none

def others (central : Central) : CentralAction → Option Central
  | .send message =>
      match message.source, central.send message with
      | .http _, _ => none
      | _, .sent central => some central
      | _, _ => none
  | .receive => central.receive.map Prod.snd
  | .close => some central.close

def step (service : MakeService) (state : State) : Action → Option State
  | .elapse nanos =>
      (state.connections.step (.elapse nanos)).map fun connections =>
        { state with connections }
  | .reaper action =>
      if ofReaper action then
        (state.connections.step action).map fun connections =>
          { state with
            connections
            reaped := state.reaped ++ reapedBy state.connections action }
      else none
  | .request i request uuid took =>
      match state.exchanges i with
      | .unused => state.serve service i request uuid took
      | _ => none
  | .telemetry i action => state.telemetry i action
  | .central action =>
      (others state.central action).map fun central => { state with central }

end State

/-- The server as a transition system. -/
def system (service : MakeService) (idleTimeout : Duration) (clock : Int) :
    System State Action where
  start := .start idleTimeout clock
  step := State.step service

/-! ## What a step does -/

/-- The registry after a request to `/connect`. -/
def connected (connections : Connections.State) (addr : SocketAddr)
    (uuid : String) (took : Nat) : Connections.State :=
  { connections with
    clock := connections.clock + took
    registry := (connections.registry.register uuid ("client@" ++ addr.ip.toString)
      addr.toString connections.clock).touch uuid (connections.clock + took) }

theorem handleConnection_eq_some {connections after : Connections.State}
    {addr : SocketAddr} {uuid : String} {took : Nat} {response : Response}
    (handled : handleConnection connections addr uuid took =
      some (after, response)) :
    uuid ∉ connections.registry.inner ∧
      after = connected connections addr uuid took ∧
      response = .connected "ok" uuid ("client@" ++ addr.ip.toString)
        "Conexión mTLS establecida y registrada" := by
  by_cases fresh : uuid ∈ connections.registry.inner
  · simp [handleConnection, Connections.State.step, fresh] at handled
  · simp [handleConnection, Connections.State.step, fresh] at handled
    rcases handled with ⟨rfl, rfl⟩
    exact ⟨fresh, rfl, rfl⟩

/-- The steps of the server, with what they check and what they change. -/
inductive Step (service : MakeService) (state : State) :
    Action → State → Prop where
  | elapse (nanos : Nat) :
      Step service state (.elapse nanos) { state with
        connections :=
          { state.connections with clock := state.connections.clock + nanos } }
  | reaper (action : Connections.Action) (connections : Connections.State)
      (own : ofReaper action = true)
      (stepped : state.connections.step action = some connections) :
      Step service state (.reaper action) { state with
        connections, reaped := state.reaped ++ reapedBy state.connections action }
  /-- `handle_connection` runs. -/
  | connect (i : Nat) (request : Request) (uuid : String) (took : Nat)
      (unused : state.exchanges i = .unused)
      (routed : request.routed = .handler .connection)
      (info : service = .withConnectInfo)
      (fresh : uuid ∉ state.connections.registry.inner) :
      Step service state (.request i request uuid took)
        (({ state with
            connections := connected state.connections request.peer uuid took
            served := state.served ++ [uuid] }.accept request.peer).setExchange i
          (.answered request none (.connected "ok" uuid
            ("client@" ++ request.peer.ip.toString)
            "Conexión mTLS establecida y registrada")))
  /-- `ConnectInfo` is missing. -/
  | deny (i : Nat) (request : Request) (uuid : String) (took : Nat)
      (unused : state.exchanges i = .unused)
      (routed : request.routed = .handler .connection)
      (info : service = .plain) :
      Step service state (.request i request uuid took)
        (state.setExchange i (.answered request none (.rejected 500)))
  /-- Another request is answered at once. -/
  | reply (i : Nat) (request : Request) (uuid : String) (took : Nat)
      (response : Response) (unused : state.exchanges i = .unused)
      (elsewhere : request.routed ≠ .handler .connection)
      (immediate : request.routed ≠ .handler .telemetry) :
      Step service state (.request i request uuid took)
        (state.setExchange i (.answered request none response))
  | read (i : Nat) (request : Request) (uuid : String) (took : Nat)
      (unused : state.exchanges i = .unused)
      (routed : request.routed = .handler .telemetry) :
      Step service state (.request i request uuid took)
        (state.setExchange i (.reading request))
  /-- The body cannot be read, or takes too long. -/
  | refuse (i : Nat) (request : Request) (action : TelemetryAction) (code : Nat)
      (reading : state.exchanges i = .reading request) (failed : code ≠ 200) :
      Step service state (.telemetry i action)
        (state.setExchange i (.answered request none (.rejected code)))
  /-- The handler decodes the body and begins to send. -/
  | decode (i : Nat) (request : Request) (body : Body) (message : RouterMessage)
      (reading : state.exchanges i = .reading request)
      (handled : handleTelemetry body = .ok message) :
      Step service state (.telemetry i (.handler (.post body)))
        (state.setExchange i (.handling request body
          { task := .sending message, posted := [message] }))
  | invalid (i : Nat) (request : Request) (body : Body) (error : AppError)
      (reading : state.exchanges i = .reading request)
      (handled : handleTelemetry body = .error error) :
      Step service state (.telemetry i (.handler (.post body)))
        (state.setExchange i
          (.answered request (some body) error.intoResponse))
  | send (i : Nat) (request : Request) (body : Body) (alert : HttpRequest)
      (message : RouterMessage) (central : Central)
      (handling : state.exchanges i = .handling request body alert)
      (task : alert.task = .sending message)
      (sent : state.central.send { source := .http i, index := 0, value := message }
        = .sent central) :
      Step service state (.telemetry i (.handler .task))
        (({ state with central }.accept request.peer).setExchange i
          (.answered request (some body) (.alert "recibido y enrutado")))
  /-- The receiver is gone, or the timeout layer cancels the send. -/
  | abandon (i : Nat) (request : Request) (body : Body) (alert : HttpRequest)
      (action : HttpAction) (response : Response)
      (handling : state.exchanges i = .handling request body alert)
      (failed : response.code ≠ 200) :
      Step service state (.telemetry i (.handler action))
        (state.setExchange i (.answered request (some body) response))
  | others (action : CentralAction) (central : Central)
      (stepped : State.others state.central action = some central) :
      Step service state (.central action) { state with central }

theorem State.serve_cases {service : MakeService} {state next : State} {i : Nat}
    {request : Request} {uuid : String} {took : Nat}
    (unused : state.exchanges i = .unused)
    (served : state.serve service i request uuid took = some next) :
    Step service state (.request i request uuid took) next := by
  simp only [serve] at served
  split at served
  case h_7 routed =>
    cases service with
    | plain =>
        cases served
        exact .deny i request uuid took unused routed rfl
    | withConnectInfo =>
        rcases Option.map_eq_some_iff.mp served with
          ⟨⟨connections, response⟩, handled, rfl⟩
        rcases handleConnection_eq_some handled with ⟨fresh, rfl, rfl⟩
        exact .connect i request uuid took unused routed rfl fresh
  case h_6 routed =>
    cases served
    exact .read i request uuid took unused routed
  all_goals
    rename_i routed
    cases served
    exact .reply i request uuid took _ unused (by simp [routed])
      (by simp [routed])

theorem State.telemetry_cases {service : MakeService} {state next : State}
    {i : Nat} {action : TelemetryAction}
    (stepped : state.telemetry i action = some next) :
    Step service state (.telemetry i action) next := by
  simp only [telemetry] at stepped
  split at stepped
  · rename_i request rejection reading
    cases stepped
    exact .refuse i request _ _ reading (by cases rejection <;> decide)
  · rename_i request reading
    cases stepped
    exact .refuse i request _ _ reading (by decide)
  · rename_i request body reading
    rcases Option.map_eq_some_iff.mp stepped with
      ⟨⟨central, alert⟩, ran, rfl⟩
    cases HttpRequest.step_cases ran with
    | accept _ message _ handled =>
        exact .decode i request body message reading handled
    | reject _ error _ handled =>
        exact .invalid i request body error reading handled
  · cases stepped
  · rename_i request body alert action again handling
    rcases Option.map_eq_some_iff.mp stepped with
      ⟨⟨central, alert'⟩, ran, rfl⟩
    cases HttpRequest.step_cases ran with
    | accept body _ _ _ => exact absurd rfl (again body)
    | reject body _ _ _ => exact absurd rfl (again body)
    | send message _ task sent =>
        exact .send i request body alert message central handling task sent
    | discard message task closed =>
        exact .abandon i request body alert _ _ handling (by decide)
    | timeout message task =>
        exact .abandon i request body alert _ _ handling (by decide)
  · cases stepped

theorem State.step_cases {service : MakeService} {state next : State}
    {action : Action} (stepped : state.step service action = some next) :
    Step service state action next := by
  cases action with
  | elapse nanos =>
      cases stepped
      exact .elapse nanos
  | reaper action =>
      simp only [step] at stepped
      split at stepped
      · rename_i own
        rcases Option.map_eq_some_iff.mp stepped with ⟨connections, ran, rfl⟩
        exact .reaper action connections own ran
      · cases stepped
  | request i request uuid took =>
      simp only [step] at stepped
      split at stepped
      · exact serve_cases ‹_› stepped
      · cases stepped
  | telemetry i action => exact telemetry_cases stepped
  | central action =>
      rcases Option.map_eq_some_iff.mp stepped with ⟨central, ran, rfl⟩
      exact .others action central ran

/-! ## Time and requests -/

def State.clock (state : State) : Int := state.connections.clock

/-- The clock of the server does not go back. -/
theorem clock_le {service : MakeService} {state next : State} {action : Action}
    (stepped : state.step service action = some next) :
    state.clock ≤ next.clock := by
  cases State.step_cases stepped with
  | elapse nanos =>
      simp only [State.clock]
      omega
  | reaper action connections own ran =>
      simp only [State.clock]
      cases Connections.State.step_cases ran with
      | elapse nanos => cases own
      | _ => exact Int.le_refl _
  | connect i request uuid took =>
      simp only [State.clock, connected, State.setExchange, State.accept]
      omega
  | _ => exact Int.le_refl _

/-- Whether a step may change an exchange. -/
def Action.concerns (i : Nat) : Action → Prop
  | .request j _ _ _ | .telemetry j _ => j = i
  | .elapse _ | .reaper _ | .central _ => False

section Exchanges

variable {service : MakeService} {state next : State} {action : Action}

theorem Step.exchanges_of_other (stepped : Step service state action next)
    {i : Nat} (other : ¬action.concerns i) :
    next.exchanges i = state.exchanges i := by
  cases stepped with
  | elapse | reaper | others => rfl
  | connect j | deny j | reply j | read j | refuse j | decode j | invalid j
  | send j | abandon j =>
      exact Function.update_of_ne (fun same => other same.symm) _ _

theorem Step.exchange_opened {i : Nat} {request : Request} {uuid : String}
    {took : Nat} (stepped : Step service state (.request i request uuid took) next) :
    state.exchanges i = .unused ∧
      (next.exchanges i).request = some request := by
  cases stepped with
  | connect _ _ _ _ unused | deny _ _ _ _ unused | reply _ _ _ _ _ unused
  | read _ _ _ _ unused =>
      exact ⟨unused, by simp [State.setExchange, Exchange.request]⟩

/-- The handler of an alert does not change the request, and stops once it has
answered. -/
theorem Step.exchange_request {i : Nat} {act : TelemetryAction}
    (stepped : Step service state (.telemetry i act) next) :
    (state.exchanges i).isAnswered = false ∧
      (next.exchanges i).request = (state.exchanges i).request := by
  cases stepped with
  | refuse _ _ _ _ before | decode _ _ _ _ before | invalid _ _ _ _ before
  | send _ _ _ _ _ _ before | abandon _ _ _ _ _ _ before =>
      simp [State.setExchange, Exchange.request, Exchange.isAnswered, before]

end Exchanges

end Server

end IotRouter.Https
