import IotRouter.Https.Bridge
import IotRouter.Https.Accounting

/-!
# Sessions of clients that keep sending

A session is touched by the request that opens it and by no other:
`handle_telemetry` never looks at the registry. The reaper goes by the time of
that one touch, whatever the client has sent since.
-/

namespace IotRouter.Https.Server

open IotRouter.Runtime IotRouter.Connections

section Steps

variable {service : MakeService} {idleTimeout : Duration} {clock : Int}
  {state : State}

/-- Only the reaper takes a session away, the one that is next. -/
theorem Step.removed {next : State} {action : Action} {id : String}
    {conn : ConnectionInfo} (stepped : Step service state action next)
    (found : state.sessions.lookup id = some conn)
    (gone : id ∉ next.sessions) :
    action = .reaper .remove ∧
      ∃ now rest, state.connections.reaper = .removing now (id :: rest) := by
  have present : id ∈ state.sessions := by
    rw [← AList.lookup_isSome, found]
    rfl
  cases stepped with
  | reaper action connections own ran =>
      have removal := (Connections.State.step_cases ran).removed found gone
      exact ⟨congrArg Action.reaper removal.1, removal.2⟩
  | connect i request uuid took =>
      exact absurd (mem_connected.mpr (Or.inr present)) gone
  | _ => exact absurd present gone

/-! ## The log of accepted requests -/

/-- A step has at most one request accepted, as it ends. -/
theorem Step.accepted {next : State} {action : Action}
    (stepped : Step service state action next) :
    next.accepted = state.accepted ∨
      ∃ addr, next.accepted = state.accepted ++ [(addr, next.clock)] := by
  cases stepped with
  | connect | send => exact Or.inr ⟨_, rfl⟩
  | _ => exact Or.inl rfl

/-- The accepted requests are listed by their times. -/
structure AcceptedWF (state : State) : Prop where
  sorted : state.accepted.Pairwise fun earlier later => earlier.2 ≤ later.2
  past : ∀ entry ∈ state.accepted, entry.2 ≤ state.clock

end Steps

/-! ## What the reaper takes no notice of -/

/-- The request that opened the session, at its last touch, is the last one of
the client to be accepted. -/
def Unheard (state : State) (conn : ConnectionInfo) : Prop :=
  ∃ before after,
    state.accepted = before ++ (conn.remoteAddr, conn.lastSeen) :: after ∧
      ∀ entry ∈ after, entry.1 ≠ conn.remoteAddr

/-- An unheard client had its last request accepted when the session was last
touched. -/
theorem Unheard.le {state : State} {conn : ConnectionInfo}
    (unheard : Unheard state conn) (wf : AcceptedWF state) {time : Int}
    (listed : (conn.remoteAddr, time) ∈ state.accepted) :
    time ≤ conn.lastSeen := by
  rcases unheard with ⟨before, after, split, others⟩
  have sorted := wf.sorted
  rw [split] at listed sorted
  rcases List.mem_append.mp listed with earlier | listed
  · exact (List.pairwise_append.mp sorted).2.2 _ earlier _ List.mem_cons_self
  · rcases List.mem_cons.mp listed with same | later
    · exact Int.le_of_eq (congrArg Prod.snd same)
    · exact absurd rfl (others _ later)

def peer : SocketAddr := ⟨.v4 ⟨10, 0, 0, 1⟩, 443⟩

end IotRouter.Https.Server
