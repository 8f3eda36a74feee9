import IotRouter.Router.EndToEnd

/-!
# How long a stream holds a route

`ensure_edge_registered` keeps an entry that is already there, whoever made it.
So a stream gets the route of an id if no other stream has it, and then holds it
until it ends, or until another stream that announced the id ends. A reconnecting
edge does not get its route back while the entry of its old stream is there.
-/

namespace IotRouter.Router

open IotRouter.Grpc IotRouter.Https IotRouter.Runtime

namespace State

variable {state next : State} {action : Action} {i : StreamId}
variable {edgeId : String}

/-- The events that may end the hold of stream `i` on the route: its own final
unregistration, a message of another stream with the same id that passes
`ensure_edge_registered`, and the final unregistration of another stream that
announced the id. -/
inductive Supersedes (i : StreamId) (edgeId : String) (state : State) :
    Action → Prop where
  | ends (last : String)
      (pc : (state.edges.streams i).task.pc = .unregistering last) :
      Supersedes i edgeId state (.edge i .task)
  | announcedBy (j : StreamId) (other : j ≠ i) (index : Nat) (msg : FromEdge)
      (pc : (state.edges.streams j).task.pc = .registering index msg)
      (same : msg.edgeId = edgeId) :
      Supersedes i edgeId state (.edge j .task)
  | otherEnds (j : StreamId) (other : j ≠ i) (last : String)
      (pc : (state.edges.streams j).task.pc = .unregistering last)
      (announced : edgeId ∈ announcedIds (state.edges.streams j).received) :
      Supersedes i edgeId state (.edge j .task)

/-- The entry is the stream's own, and a unicast to the id goes into its channel
alone, or nowhere if its receiver is gone. -/
structure HoldsRoute (state : State) (i : StreamId) (edgeId : String) :
    Prop where
  entry : state.edges.lock.value.lookup edgeId = some i
  dispatches : ∀ order next dispatch toEdge,
    system.step state (.dispatcher order) = some next →
    next.dispatched = state.dispatched ++ [dispatch] →
    dispatch.message.value = .toEdge edgeId toEdge →
    toEdge.heartbeat? = none →
    (state.listens (.edge i) = true ∧ dispatch.result = .unicast (.ok ()) ∧
      Gains state next (.edge i) dispatch.message) ∨
    (state.listens (.edge i) = false ∧
      dispatch.result =
        .unicast (.error (closedError dispatch.message.value)) ∧
      next.outbox = state.outbox)

theorem holdsRoute_of_entry (reachable : system.Reachable state)
    (entry : state.edges.lock.value.lookup edgeId = some i) :
    HoldsRoute state i edgeId := by
  refine ⟨entry, ?_⟩
  intro order next dispatch toEdge stepped records value plain
  have route : state.entry dispatch.message.value = some (.edge i) := by
    rw [value, State.entry, held, entry]
    rfl
  have quiet : heartbeatOf dispatch.message.value = none := by
    rw [value]
    exact plain
  have settled := (settled_of_recorded reachable stepped records quiet).2
  cases settled with
  | enqueued client found listens result gains =>
      cases route.symm.trans found
      exact Or.inl ⟨listens, result, gains⟩
  | notConnected missing result unchanged =>
      cases route.symm.trans missing
  | closed client found listens result unchanged =>
      cases route.symm.trans found
      exact Or.inr ⟨listens, result, unchanged⟩

/-- The entry survives every step that does not supersede it. -/
theorem entry_step (reachable : system.Reachable state)
    (entry : state.edges.lock.value.lookup edgeId = some i)
    (stays : ¬Supersedes i edgeId state action)
    (stepped : system.step state action = some next) :
    next.edges.lock.value.lookup edgeId = some i := by
  have wf := edgeSideWF reachable
  rcases step_edges stepped with ⟨j, act, rfl, inner⟩ | ⟨_, served⟩
  · rcases inner.table with
      ⟨index, msg, _, _, value, _⟩ | ⟨last, rfl, pc, _, value, _⟩ | ⟨_, value, _⟩
    · rw [value, lookup_ensureEdgeRegistered]
      split
      · rename_i same
        rw [← same, entry]
        rfl
      · exact entry
    · rw [value, lookup_unregisterEdge, if_neg]
      · exact entry
      · intro equal
        subst equal
        by_cases own : j = i
        · subst own
          exact stays (.ends edgeId pc)
        · have connected := ((wf.streams j).unregistering edgeId pc).1
          rw [(wf.streams j).connected] at connected
          exact stays (.otherEnds j own edgeId pc
            (List.mem_of_getLast? connected))
    · rw [value]
      exact entry
  · rw [served.value]
    exact entry

/-- What passing `ensure_edge_registered` does to the entry of the message's
id. -/
theorem lookup_passed {index : Nat} {msg : FromEdge}
    (pc : (state.edges.streams i).task.pc = .registering index msg)
    (passed : system.step state (.edge i .task) = some next) :
    next.edges.lock.value.lookup msg.edgeId =
      some ((state.edges.lock.value.lookup msg.edgeId).getD i) := by
  rcases step_edges passed with ⟨j, act, equal, inner⟩ | ⟨other, _⟩
  · cases equal
    rcases inner.table with
      ⟨position, message, _, here, value, _⟩ | ⟨_, _, here, _⟩ | ⟨quiet, _⟩
    · cases pc.symm.trans here
      rw [value, lookup_ensureEdgeRegistered, if_pos rfl]
    · cases pc.symm.trans here
    · exact absurd ⟨rfl, by simp [EdgeTask.Waits, pc]⟩ quiet
  · exact absurd rfl (other i .task)

/-- A message of stream `i` passes `ensure_edge_registered`. An entry that is
there stays as it is. If no other stream has the entry, the stream holds the
route from then on, until a step supersedes it. -/
theorem holdsRoute_until_superseded {index : Nat} {msg : FromEdge}
    (reachable : system.Reachable state)
    (pc : (state.edges.streams i).task.pc = .registering index msg)
    (passed : system.step state (.edge i .task) = some next) :
    (∀ owner, state.edges.lock.value.lookup msg.edgeId = some owner →
      next.edges.lock.value.lookup msg.edgeId = some owner) ∧
    ((∀ owner, state.edges.lock.value.lookup msg.edgeId = some owner →
        owner = i) →
      ∀ schedule last, system.runFrom next schedule = some last →
        system.StepsMeet (fun state action =>
          ¬Supersedes i msg.edgeId state action) next schedule →
        HoldsRoute last i msg.edgeId) := by
  have after := lookup_passed pc passed
  constructor
  · intro owner found
    rw [after, found]
    rfl
  · intro unclaimed schedule last ran met
    have mine : next.edges.lock.value.lookup msg.edgeId = some i := by
      rw [after]
      cases found : state.edges.lock.value.lookup msg.edgeId with
      | none => rfl
      | some owner => rw [unclaimed owner found, Option.getD_some]
    have reachedNext := reachable.step passed
    apply holdsRoute_of_entry (reachedNext.run ran)
    exact System.run_preserves_while
      (fun state => state.edges.lock.value.lookup msg.edgeId = some i)
      (fun state action => ¬Supersedes i msg.edgeId state action)
      entry_step reachedNext mine met ran

/-- Stream 0 is about to register `"a"`. -/
def firstContact : List Action :=
  [.edge 0 .connect, .edge 0 (.client (.send ⟨"a", none⟩)), .edge 0 .task]

/-- The Manager sends edge `"a"` a message, and the dispatcher enqueues it. -/
def firstMessage : List Action :=
  [.manager 0 .connect, .manager 0 .task,
    .manager 0 (.client (.send ⟨"a", some (.deleteHub ⟨none, "n"⟩)⟩)),
    .manager 0 .task, .manager 0 .task, .dispatcher [], .dispatcher [],
    .dispatcher []]

theorem holdsRoute_firstContact :
    ∃ state next last, system.runFrom start firstContact = some state ∧
      system.step state (.edge 0 .task) = some next ∧
      system.runFrom next firstMessage = some last ∧
      (last.edges.streams 0).outbound.accepted.map
        (fun message => message.value.edgeId) = ["a"] ∧
      HoldsRoute last 0 "a" := by
  obtain ⟨state, next, last, reached, pc, passed, ran, told, unclaimed⟩ :
      ∃ state next last, system.runFrom start firstContact = some state ∧
        (state.edges.streams 0).task.pc = .registering 0 ⟨"a", none⟩ ∧
        system.step state (.edge 0 .task) = some next ∧
        system.runFrom next firstMessage = some last ∧
        (last.edges.streams 0).outbound.accepted.map
          (fun message => message.value.edgeId) = ["a"] ∧
        state.edges.lock.value.lookup "a" = none :=
    ⟨_, _, _, rfl, rfl, rfl, rfl, rfl, rfl⟩
  refine ⟨state, next, last, reached, passed, ran, told, ?_⟩
  apply (holdsRoute_until_superseded ⟨_, reached⟩ pc passed).2 ?_
    firstMessage last ran ?_
  · intro owner found
    cases unclaimed.symm.trans found
  · apply System.StepsMeet.of_forall
    intro action member state supersedes
    cases supersedes <;> simp [firstMessage] at member

/-- Stream 0 has registered `"a"` and is still open; stream 1 is about to
register the same id. -/
def reconnection : List Action :=
  firstContact ++ [.edge 0 .task, .edge 1 .connect,
    .edge 1 (.client (.send ⟨"a", none⟩)), .edge 1 .task]

/-- The reconnecting stream does not take the route over. -/
theorem not_holdsRoute_until_superseded :
    ¬∀ {state next last : State} {i : StreamId} {index : Nat} {msg : FromEdge}
      {schedule : List Action}, system.Reachable state →
      (state.edges.streams i).task.pc = .registering index msg →
      system.step state (.edge i .task) = some next →
      system.runFrom next schedule = some last →
      system.StepsMeet (fun state action =>
        ¬Supersedes i msg.edgeId state action) next schedule →
      HoldsRoute last i msg.edgeId := by
  intro takesOver
  obtain ⟨state, next, reached, pc, passed, kept⟩ :
      ∃ state next, system.runFrom start reconnection = some state ∧
        (state.edges.streams 1).task.pc = .registering 0 ⟨"a", none⟩ ∧
        system.step state (.edge 1 .task) = some next ∧
        next.edges.lock.value.lookup "a" = some 0 :=
    ⟨_, _, rfl, rfl, rfl, rfl⟩
  have held : HoldsRoute next 1 "a" :=
    takesOver ⟨_, reached⟩ pc passed (system.runFrom_nil next) trivial
  cases kept.symm.trans held.entry

end State

end IotRouter.Router
