import IotRouter.Https.Server

/-!
# Sessions are accounted for

The registry under all requests of the server and under its reaper. The service
made with connect info opens one session for every request to `/connect`. The
one `init_server` makes has no connect info, so that it opens none.
-/

namespace IotRouter.Https.Server

open IotRouter.Runtime IotRouter.Connections

/-! ## Runs of the registry -/

section Refinement

variable {service : MakeService} {state next : State} {action : Action}
  {idleTimeout : Duration} {clock : Int}

/-- The map of sessions. -/
def State.sessions (state : State) : AList fun _ : String => ConnectionInfo :=
  state.connections.registry.inner

/-- `handle_connection` registers a session and touches it later. -/
theorem run_connected {connections : Connections.State} {addr : SocketAddr}
    {uuid : String} {took : Nat} (fresh : uuid ∉ connections.registry.inner) :
    (Connections.system idleTimeout clock).runFrom connections
        [.register uuid ("client@" ++ addr.ip.toString) addr.toString
            connections.clock,
          .elapse took, .touch uuid] =
      some (connected connections addr uuid took) := by
  simp [System.runFrom, Connections.system, Connections.State.step, fresh,
    connected]

/-- A step of the server is a run of the registry. -/
theorem Step.connections (stepped : Step service state action next) :
    ∃ actions, (Connections.system idleTimeout clock).runFrom state.connections
      actions = some next.connections := by
  cases stepped with
  | elapse nanos => exact ⟨[.elapse nanos], rfl⟩
  | reaper action connections own ran =>
      refine ⟨[action], ?_⟩
      rw [System.runFrom_singleton]
      exact ran
  | connect i request uuid took unused routed info fresh =>
      exact ⟨_, run_connected fresh⟩
  | _ => exact ⟨[], rfl⟩

theorem reachable_connections
    (reachable : (system service idleTimeout clock).Reachable state) :
    (Connections.system idleTimeout clock).Reachable state.connections := by
  apply System.invariant (fun state : State =>
    (Connections.system idleTimeout clock).Reachable state.connections)
    .start ?_ reachable
  intro state next action _ before stepped
  rcases (State.step_cases stepped).connections with ⟨actions, ran⟩
  exact before.run ran

end Refinement

/-! ## Sessions opened and removed -/

section Sessions

variable {connections after : Connections.State} {key : String}

theorem mem_connected {addr : SocketAddr} {uuid : String} {took : Nat} :
    key ∈ (connected connections addr uuid took).registry.inner ↔
      key = uuid ∨ key ∈ connections.registry.inner := by
  rw [connected, ConnectionRegistry.mem_touch, ConnectionRegistry.register,
    AList.mem_insert]

theorem count_connected (addr : SocketAddr) {uuid : String} (took : Nat)
    (fresh : uuid ∉ connections.registry.inner) :
    (connected connections addr uuid took).registry.count =
      connections.registry.count + 1 := by
  rw [connected, ConnectionRegistry.count_touch,
    ConnectionRegistry.count_register _ _ _ fresh]

/-- The reaper adds no session. -/
theorem reaper_mem {action : Connections.Action} (own : ofReaper action = true)
    (stepped : connections.step action = some after)
    (stays : key ∈ after.registry.inner) : key ∈ connections.registry.inner := by
  cases Connections.State.step_cases stepped with
  | elapse nanos => cases own
  | register id clientCn remoteAddr now fresh read => cases own
  | touch id => cases own
  | remove now id rest at_ => exact (AList.mem_erase.mp stays).2
  | _ => exact stays

/-- It removes the sessions that are noted as reaped. -/
theorem reaper_count {action : Connections.Action} (own : ofReaper action = true)
    (stepped : connections.step action = some after) :
    after.registry.count + (reapedBy connections action).length =
      connections.registry.count := by
  cases Connections.State.step_cases stepped with
  | elapse nanos => cases own
  | register id clientCn remoteAddr now fresh read => cases own
  | touch id => cases own
  | remove now id rest at_ =>
      simp only [reapedBy, at_]
      exact ConnectionRegistry.count_remove _ _
  | _ => rfl

end Sessions

/-- A request for `/connect`. -/
def IsConnect (method : Method) (action : Action) : Prop :=
  ∃ i request uuid took, action = .request i request uuid took ∧
    request.method = method ∧ request.path = "/connect"

/-- The requests that `handle_connection` is routed to. -/
theorem routed_connection_iff {request : Request} :
    request.routed = .handler .connection ↔
      (request.method = .get ∨ request.method = .head) ∧
        request.path = "/connect" := by
  rcases request with ⟨method, path, peer⟩
  by_cases connect : path = "/connect"
  · subst connect
    cases method <;> simp [Request.routed, routes, Method.serves]
  · simp only [connect, and_false, iff_false, Request.routed]
    split
    · rename_i name route handler found
      have listed := List.mem_of_find?_eq_some found
      have same := List.find?_some found
      simp only [decide_eq_true_eq] at same
      split
      · intro here
        cases here
        simp only [routes, List.mem_cons, Prod.mk.injEq, reduceCtorEq, and_false,
          and_true, List.not_mem_nil, or_false] at listed
        exact connect (same.symm.trans listed.1)
      · simp
    · simp

/-- What the step does to the map of sessions. -/
structure Accounts (state next : State) (action : Action) : Prop where
  /-- `GET /connect` adds one session and is answered with its id. -/
  connects : ∀ i request uuid took, action = .request i request uuid took →
    request.method = .get → request.path = "/connect" →
    ∃ id status clientCn message, id ∉ state.sessions ∧
      (∀ key, key ∈ next.sessions ↔ key = id ∨ key ∈ state.sessions) ∧
      next.exchanges i =
        .answered request none (.connected status id clientCn message)
  /-- The reaper adds no session. -/
  reaps : ∀ inner, action = .reaper inner →
    ∀ key ∈ next.sessions, key ∈ state.sessions
  /-- Nothing else adds or removes one. -/
  keeps : ¬IsConnect .get action → (∀ inner, action ≠ .reaper inner) →
    ∀ key, key ∈ next.sessions ↔ key ∈ state.sessions

section Steps

variable {service : MakeService} {state next : State} {action : Action}

theorem isConnect_request {method : Method} {i : Nat} {request : Request}
    {uuid : String} {took : Nat} :
    IsConnect method (.request i request uuid took) ↔
      request.method = method ∧ request.path = "/connect" := by
  constructor
  · intro connect
    rcases connect with ⟨_, _, _, _, is, method, path⟩
    cases is
    exact ⟨method, path⟩
  · intro here
    exact ⟨_, _, _, _, rfl, here.1, here.2⟩

theorem IsConnect.routed {method : Method} {i : Nat} {request : Request}
    {uuid : String} {took : Nat}
    (connect : IsConnect method (.request i request uuid took))
    (served : method = .get ∨ method = .head) :
    request.routed = .handler .connection := by
  rcases isConnect_request.mp connect with ⟨rfl, path⟩
  exact routed_connection_iff.mpr ⟨served, path⟩

/-- A step that leaves the sessions alone and is no request for `/connect`. -/
theorem Accounts.of_same (same : next.sessions = state.sessions)
    (elsewhere : ¬IsConnect .get action) : Accounts state next action where
  connects i request uuid took is method path :=
    absurd ⟨i, request, uuid, took, is, method, path⟩ elsewhere
  reaps _ _ key member := same ▸ member
  keeps _ _ key := by rw [same]

section Opened

variable {i : Nat} {request : Request} {uuid : String} {took : Nat}

/-- A request that opens a session is accounted for if it is a `GET`. -/
theorem Accounts.of_opened {status clientCn message : String}
    (get : IsConnect .get (.request i request uuid took))
    (fresh : uuid ∉ state.sessions)
    (opened : ∀ key, key ∈ next.sessions ↔ key = uuid ∨ key ∈ state.sessions)
    (answered : next.exchanges i =
      .answered request none (.connected status uuid clientCn message)) :
    Accounts state next (.request i request uuid took) where
  connects i' request' uuid' took' is _ _ := by
    cases is
    exact ⟨uuid, _, _, _, fresh, opened, answered⟩
  reaps inner is := by
    cases is
  keeps other := absurd get other

theorem Accounts.get_of_opened
    (accounts : Accounts state next (.request i request uuid took))
    (fresh : uuid ∉ state.sessions) (opened : uuid ∈ next.sessions) :
    IsConnect .get (.request i request uuid took) := by
  by_contra other
  have same := accounts.keeps other (fun _ => by simp) uuid
  exact fresh (same.mp opened)

/-- A `GET /connect` that is answered with an error is not accounted for. -/
theorem Accounts.not_denied {code : Nat}
    (accounts : Accounts state next (.request i request uuid took))
    (denied : next.exchanges i = .answered request none (.rejected code)) :
    ¬IsConnect .get (.request i request uuid took) := by
  intro connect
  rcases isConnect_request.mp connect with ⟨method, path⟩
  rcases accounts.connects i request uuid took rfl method path with
    ⟨id, status, clientCn, message, _, _, answered⟩
  cases denied.symm.trans answered

end Opened

/-- With connect info `GET /connect` opens its session, and so does `HEAD`;
without it neither does. -/
theorem Step.accounts_iff (stepped : Step service state action next) :
    Accounts state next action ↔
      (IsConnect .get action → service = .withConnectInfo) ∧
        (IsConnect .head action → service = .plain) := by
  have quiet : next.sessions = state.sessions →
      (∀ method, method = .get ∨ method = .head → ¬IsConnect method action) →
      (Accounts state next action ↔
        (IsConnect .get action → service = .withConnectInfo) ∧
          (IsConnect .head action → service = .plain)) := by
    intro same elsewhere
    have get := elsewhere .get (Or.inl rfl)
    have head := elsewhere .head (Or.inr rfl)
    constructor
    · intro _
      exact ⟨fun connect => absurd connect get,
        fun connect => absurd connect head⟩
    · intro _
      exact .of_same same get
  cases stepped with
  | reaper action connections own ran =>
      have elsewhere : ∀ method, ¬IsConnect method (.reaper action) := by
        intro method connect
        rcases connect with ⟨_, _, _, _, is, _⟩
        cases is
      constructor
      · intro _
        exact ⟨fun connect => absurd connect (elsewhere _),
          fun connect => absurd connect (elsewhere _)⟩
      · intro _
        constructor
        · intro i request uuid took is
          cases is
        · intro inner is key member
          exact reaper_mem own ran member
        · intro _ other
          exact absurd rfl (other action)
  | connect i request uuid took unused routed info fresh =>
      rcases routed_connection_iff.mp routed with ⟨method, path⟩
      constructor
      · intro accounts
        have get := accounts.get_of_opened fresh (mem_connected.mpr (Or.inl rfl))
        refine ⟨fun _ => info, fun head => ?_⟩
        cases (isConnect_request.mp get).1.symm.trans
          (isConnect_request.mp head).1
      · intro condition
        have get : IsConnect .get (.request i request uuid took) := by
          rcases method with get | head
          · exact isConnect_request.mpr ⟨get, path⟩
          · cases info.symm.trans
              (condition.2 (isConnect_request.mpr ⟨head, path⟩))
        exact .of_opened get fresh (fun key => mem_connected)
          (Function.update_self i _ _)
  | deny i request uuid took unused routed info =>
      constructor
      · intro accounts
        have denied := accounts.not_denied (Function.update_self i _ _)
        exact ⟨fun connect => absurd connect denied, fun _ => info⟩
      · intro condition
        refine .of_same rfl ?_
        intro connect
        cases info.symm.trans (condition.1 connect)
  | reply i request uuid took response unused elsewhere immediate =>
      apply quiet rfl
      intro method served connect
      exact elsewhere (connect.routed served)
  | read i request uuid took unused routed =>
      apply quiet rfl
      intro method served connect
      cases routed.symm.trans (connect.routed served)
  | _ =>
      apply quiet rfl
      intro method _ connect
      rcases connect with ⟨_, _, _, _, is, _⟩
      cases is

end Steps

/-- What holds of the map of sessions and of its history. -/
structure Accounted (state : State) : Prop where
  keys : ∀ id conn, state.sessions.lookup id = some conn → conn.id = id
  times : ∀ id conn, state.sessions.lookup id = some conn →
    conn.connectedAt ≤ conn.lastSeen
  snapshot : state.connections.registry.count =
    state.connections.registry.snapshot.length
  balance : state.connections.registry.count + state.reaped.length =
    state.served.length

theorem Step.balance {service : MakeService} {state next : State}
    {action : Action} (stepped : Step service state action next)
    (before : state.connections.registry.count + state.reaped.length =
      state.served.length) :
    next.connections.registry.count + next.reaped.length =
      next.served.length := by
  cases stepped with
  | reaper action connections own ran =>
      have count := reaper_count own ran
      simp only [List.length_append]
      omega
  | connect i request uuid took unused routed info fresh =>
      have count := count_connected request.peer took fresh
      simp only [State.setExchange, State.accept, List.length_append,
        List.length_singleton]
      omega
  | _ => exact before

theorem reachable_accounted {service : MakeService} {idleTimeout : Duration}
    {clock : Int} {state : State}
    (reachable : (system service idleTimeout clock).Reachable state) :
    Accounted state := by
  have entries := reachable_entriesWF (reachable_connections reachable)
  constructor
  · intro id conn found
    exact (entries id conn found).1
  · intro id conn found
    exact (entries id conn found).2.1
  · exact ConnectionRegistry.count_eq_length_snapshot _
  · apply System.invariant (fun state : State =>
      state.connections.registry.count + state.reaped.length =
        state.served.length) rfl ?_ reachable
    intro state next action _ before stepped
    exact (State.step_cases stepped).balance before

/-- Every step of the run accounts for its sessions, and so does every state. -/
def AccountsThroughout (service : MakeService) (idleTimeout : Duration)
    (clock : Int) (schedule : List Action) : Prop :=
  (system service idleTimeout clock).StatesMeet Accounted
      (.start idleTimeout clock) schedule ∧
    (system service idleTimeout clock).StepsMeet
      (fun state action => ∀ next, state.step service action = some next →
        Accounts state next action) (.start idleTimeout clock) schedule

/-- For either service, the requests that break the account are the `GET` that
finds no connect info and the `HEAD` that finds it. -/
theorem accountsThroughout_iff_requests {service : MakeService}
    {idleTimeout : Duration} {clock : Int} {schedule : List Action} {last : State}
    (ran : (system service idleTimeout clock).runFrom
      (.start idleTimeout clock) schedule = some last) :
    AccountsThroughout service idleTimeout clock schedule ↔
      ∀ action ∈ schedule, (IsConnect .get action → service = .withConnectInfo) ∧
        (IsConnect .head action → service = .plain) := by
  have states : (system service idleTimeout clock).StatesMeet Accounted
      (.start idleTimeout clock) schedule :=
    System.statesMeet_of_reachable reachable_accounted .start
  rw [← System.stepsMeet_actions ran, AccountsThroughout, and_iff_right states]
  apply System.stepsMeet_iff ?_ .start ran
  intro state next action _ stepped
  have exact_ := (State.step_cases stepped).accounts_iff
  constructor
  · intro accounts
    exact exact_.mp (accounts next stepped)
  · intro condition other otherStepped
    cases stepped.symm.trans otherStepped
    exact exact_.mpr condition

/-- The service `init_server` makes accounts for its sessions exactly as long as
no session is asked for. -/
theorem accountsThroughout_iff {idleTimeout : Duration} {clock : Int}
    {schedule : List Action} {last : State}
    (ran : (system initServer idleTimeout clock).runFrom
      (.start idleTimeout clock) schedule = some last) :
    AccountsThroughout initServer idleTimeout clock schedule ↔
      ∀ action ∈ schedule, ¬IsConnect .get action := by
  rw [accountsThroughout_iff_requests ran]
  simp [initServer]

/-- A look at the connections while the reaper makes its round. -/
def quietRun : List Action :=
  [.request 0 ⟨.get, "/connections", ⟨.v4 ⟨10, 0, 0, 1⟩, 443⟩⟩ "" 0,
    .reaper .wake, .reaper .collect, .reaper .finish]

theorem accountsThroughout_quietRun :
    ∃ last, (system initServer HttpsService.idleTimeout 0).runFrom
        (.start HttpsService.idleTimeout 0) quietRun = some last ∧
      (AccountsThroughout initServer HttpsService.idleTimeout 0 quietRun ↔
        ∀ action ∈ quietRun, ¬IsConnect .get action) :=
  ⟨_, rfl, accountsThroughout_iff rfl⟩

/-- One request for a session. -/
def connectRun : List Action :=
  [.request 0 ⟨.get, "/connect", ⟨.v4 ⟨10, 0, 0, 1⟩, 443⟩⟩ "id" 0]

/-- It is answered with an error, and no session is opened. -/
theorem not_accountsThroughout :
    ¬∀ {idleTimeout : Duration} {clock : Int} {schedule : List Action}
      {last : State}, (system initServer idleTimeout clock).runFrom
        (.start idleTimeout clock) schedule = some last →
      AccountsThroughout initServer idleTimeout clock schedule := by
  intro accounts
  obtain ⟨last, ran, here⟩ : ∃ last,
      (system initServer HttpsService.idleTimeout 0).runFrom
        (.start HttpsService.idleTimeout 0) connectRun = some last ∧
      (State.start HttpsService.idleTimeout 0).step initServer
        (.request 0 ⟨.get, "/connect", ⟨.v4 ⟨10, 0, 0, 1⟩, 443⟩⟩ "id" 0) =
          some last := ⟨_, rfl, rfl⟩
  rcases ((accounts ran).2.1 last here).connects _ _ _ _ rfl rfl rfl with
    ⟨id, status, clientCn, message, _, _, answered⟩
  cases here
  cases answered

end IotRouter.Https.Server
