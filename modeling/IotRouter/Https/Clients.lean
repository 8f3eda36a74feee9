import IotRouter.Https.Accounting
import IotRouter.Runtime.AddressText

/-!
# Sessions and their clients

A session knows its client by the text of its address only, and so does the log
of accepted requests. No two addresses have the same text, so what the log lists
under the remote address of a session was asked for by the client that opened it.
-/

namespace IotRouter.Https.Server

open IotRouter.Runtime IotRouter.Connections

/-- A request of the peer has been answered with the response. -/
def Answered (state : State) (peer : SocketAddr) (response : Response) : Prop :=
  ∃ (i : Nat) (request : Request) (body : Option Body),
    state.exchanges i = .answered request body response ∧ request.peer = peer

/-- The answer that came with the id of a session. -/
def Opened (state : State) (conn : ConnectionInfo) (peer : SocketAddr) : Prop :=
  ∃ status message,
    Answered state peer (.connected status conn.id conn.clientCn message)

/-- Sessions and accepted requests go by the text of an address that asked for
them. -/
structure ClientsWF (state : State) : Prop where
  opened : ∀ id conn, state.sessions.lookup id = some conn →
    ∃ peer, peer.toString = conn.remoteAddr ∧ Opened state conn peer
  listed : ∀ addr time, (addr, time) ∈ state.accepted →
    ∃ peer response, peer.toString = addr ∧ response.code = 200 ∧
      Answered state peer response

section Steps

variable {service : MakeService} {state next : State} {action : Action}

/-- What is answered stays answered. -/
theorem Answered.step {peer : SocketAddr} {response : Response}
    (answered : Answered state peer response)
    (stepped : Step service state action next) :
    Answered next peer response := by
  rcases answered with ⟨i, request, body, at_, same⟩
  refine ⟨i, request, body, ?_, same⟩
  by_cases here : action.concerns i
  · cases action with
    | request j =>
        cases here
        cases at_.symm.trans stepped.exchange_opened.1
    | telemetry j =>
        cases here
        have pending := stepped.exchange_request.1
        rw [at_] at pending
        cases pending
    | elapse | reaper | central => cases here
  · rw [stepped.exchanges_of_other here]
    exact at_

/-- The reaper changes no session. -/
theorem reaper_lookup {connections after : Connections.State}
    {inner : Connections.Action} (own : ofReaper inner = true)
    (stepped : connections.step inner = some after) {id : String}
    {conn : ConnectionInfo}
    (found : after.registry.inner.lookup id = some conn) :
    connections.registry.inner.lookup id = some conn := by
  cases Connections.State.step_cases stepped with
  | elapse | register | touch => cases own
  | remove now removed rest at_ =>
      rw [ConnectionRegistry.lookup_remove] at found
      split at found
      · cases found
      · exact found
  | _ => exact found

/-- The session that a request to `/connect` opens, with the others as they
are. -/
theorem lookup_connected {connections : Connections.State} {addr : SocketAddr}
    {uuid id : String} {took : Nat} {conn : ConnectionInfo}
    (found : (connected connections addr uuid took).registry.inner.lookup id =
      some conn) :
    connections.registry.inner.lookup id = some conn ∨
      conn.id = uuid ∧ conn.clientCn = "client@" ++ addr.ip.toString ∧
        conn.remoteAddr = addr.toString := by
  simp only [connected, ConnectionRegistry.lookup_touch,
    ConnectionRegistry.lookup_register, if_true] at found
  split at found
  · rw [Option.map_some] at found
    cases found
    exact Or.inr ⟨rfl, rfl, rfl⟩
  · exact Or.inl found

/-- One more answer opens one more session or has one more request accepted, or
neither. -/
theorem ClientsWF.step (wf : ClientsWF state)
    (stepped : Step service state action next) : ClientsWF next := by
  have opened : ∀ id conn, state.sessions.lookup id = some conn →
      ∃ peer, peer.toString = conn.remoteAddr ∧ Opened next conn peer := by
    intro id conn found
    rcases wf.opened id conn found with
      ⟨peer, text, status, message, answered⟩
    exact ⟨peer, text, status, message, answered.step stepped⟩
  have listed : ∀ addr time, (addr, time) ∈ state.accepted →
      ∃ peer response, peer.toString = addr ∧ response.code = 200 ∧
        Answered next peer response := by
    intro addr time member
    rcases wf.listed addr time member with
      ⟨peer, response, text, ok, answered⟩
    exact ⟨peer, response, text, ok, answered.step stepped⟩
  cases stepped with
  | reaper inner connections own ran =>
      constructor
      · intro id conn found
        exact opened id conn (reaper_lookup own ran found)
      · exact listed
  | connect i request uuid took unused routed info fresh =>
      constructor
      · intro id conn found
        rcases lookup_connected found with before | ⟨rfl, cn, text⟩
        · exact opened id conn before
        · refine ⟨request.peer, text.symm, "ok",
            "Conexión mTLS establecida y registrada", i, request, none, ?_, rfl⟩
          rw [cn]
          exact Function.update_self i _ _
      · intro addr time member
        rcases List.mem_append.mp member with before | this
        · exact listed addr time before
        · cases List.mem_singleton.mp this
          exact ⟨request.peer, _, rfl, rfl, i, request, none,
            Function.update_self i _ _, rfl⟩
  | send i request body alert message central handling task sent =>
      constructor
      · exact opened
      · intro addr time member
        rcases List.mem_append.mp member with before | this
        · exact listed addr time before
        · cases List.mem_singleton.mp this
          exact ⟨request.peer, _, rfl, rfl, i, request, some body,
            Function.update_self i _ _, rfl⟩
  | _ => exact ⟨opened, listed⟩

end Steps

section Reached

variable {service : MakeService} {idleTimeout : Duration} {clock : Int}
  {state : State}

theorem reachable_clientsWF
    (reachable : (system service idleTimeout clock).Reachable state) :
    ClientsWF state := by
  apply System.invariant ClientsWF ?_ ?_ reachable
  · constructor
    · intro id conn found
      cases found
    · intro addr time member
      cases member
  · intro state next action _ wf stepped
    exact wf.step (State.step_cases stepped)

/-- The peers of the requests have addresses of the right length. -/
def Addressed (state : State) : Prop :=
  ∀ i request, (state.exchanges i).request = some request →
    request.peer.ip.Grouped

theorem Answered.grouped {peer : SocketAddr} {response : Response}
    (answered : Answered state peer response) (addressed : Addressed state) :
    peer.ip.Grouped := by
  rcases answered with ⟨i, request, body, at_, rfl⟩
  apply addressed i request
  rw [at_]
  rfl

/-- The requests listed under the remote address of a session come from the
client that opened it. -/
theorem exists_client
    (reachable : (system service idleTimeout clock).Reachable state)
    (addressed : Addressed state) {id : String} {conn : ConnectionInfo}
    (found : state.sessions.lookup id = some conn) :
    ∃ peer, Opened state conn peer ∧
      ∀ time, (conn.remoteAddr, time) ∈ state.accepted →
        ∃ response, response.code = 200 ∧ Answered state peer response := by
  have wf := reachable_clientsWF reachable
  rcases wf.opened id conn found with ⟨peer, text, status, message, opened⟩
  refine ⟨peer, ⟨status, message, opened⟩, ?_⟩
  intro time member
  rcases wf.listed _ time member with ⟨other, response, alike, ok, answered⟩
  have same : other = peer :=
    (SocketAddr.toString_inj (answered.grouped addressed)
      (opened.grouped addressed)).mp (alike.trans text.symm)
  exact ⟨response, ok, same ▸ answered⟩

end Reached

end IotRouter.Https.Server
