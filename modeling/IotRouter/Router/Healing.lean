import IotRouter.Router.Ownership
import IotRouter.Router.Replies
import IotRouter.Router.Takeover

/-!
# How a route heals

Streams that overlap under one id keep each other's senders and remove each
other's entries, in many orders. The log of the writes bounds the damage: an
entry is owned by a stream that registered its key, and a stream that
unregistered an id owns no entry under it any more. So once every other stream
that registered an id has unregistered, the next message of the remaining stream
gets the route back, if streams keep to one id each.
-/

namespace IotRouter.Router

open IotRouter.Grpc IotRouter.Https IotRouter.Runtime

/-- Every stream registered at most one id. -/
def SingleIds (side : EdgeSide) : Prop :=
  ∀ i left right edgeId other,
    EdgeOp.announced i left edgeId ∈ side.log →
    EdgeOp.announced i right other ∈ side.log → edgeId = other

/-- The message the task is registering carries this id. -/
def EdgeTask.Registers (task : EdgeTask) (edgeId : String) : Prop :=
  ∃ index msg, task.pc = .registering index msg ∧ msg.edgeId = edgeId

/-- What the log says about the owners of the entries. -/
structure LoggedOwners (side : EdgeSide) : Prop where
  /-- The owner of an entry registered its key. -/
  owned : ∀ edgeId owner, side.lock.value.lookup edgeId = some owner →
    ∃ index, EdgeOp.announced owner index edgeId ∈ side.log
  /-- The id a task will unregister has been registered, or is about to be. -/
  connected : ∀ i edgeId, (side.streams i).task.connectedEdgeId = some edgeId →
    (side.streams i).task.Registers edgeId ∨
      ∃ index, EdgeOp.announced i index edgeId ∈ side.log
  /-- Nothing is left under the id that a stream unregistered. -/
  gone : ∀ i edgeId, EdgeOp.unregistered i edgeId ∈ side.log →
    side.lock.value.lookup edgeId ≠ some i

namespace LoggedOwners

variable {central central' : Central} {side side' : EdgeSide} {i : StreamId}
variable {action : StreamAction FromEdge}

theorem start : LoggedOwners State.start.edges where
  owned edgeId owner found := by
    simp [State.start, RwLock.new] at found
  connected i edgeId connected := by
    simp [State.start, Stream.fresh] at connected
  gone i edgeId member := by
    simp [State.start] at member

theorem served (logged : LoggedOwners side)
    (service : Side.Served side side') : LoggedOwners side' where
  owned := by
    simp only [service.value, service.log]
    exact logged.owned
  connected := by
    simp only [service.task, service.log]
    exact logged.connected
  gone := by
    simp only [service.value, service.log]
    exact logged.gone

/-- A new owner registers the key at this step. -/
theorem owned_step (logged : LoggedOwners side)
    (stepped : EdgeStep central side i action central' side')
    {edgeId : String} {owner : StreamId}
    (found : side'.lock.value.lookup edgeId = some owner) :
    ∃ index, EdgeOp.announced owner index edgeId ∈ side'.log := by
  have earlier : side.lock.value.lookup edgeId = some owner →
      ∃ index, EdgeOp.announced owner index edgeId ∈ side'.log := by
    intro before
    rcases logged.owned edgeId owner before with ⟨index, member⟩
    exact ⟨index, stepped.log_grows.subset member⟩
  rcases stepped.table with
    ⟨index, msg, _, _, value, log⟩ | ⟨ended, _, _, _, value, _⟩ | ⟨_, value, _⟩
  · rw [value, lookup_ensureEdgeRegistered] at found
    split at found
    · rename_i same
      subst same
      cases before : side.lock.value.lookup msg.edgeId with
      | none =>
          rw [before] at found
          cases found
          exact ⟨index, by simp [log]⟩
      | some other =>
          rw [before] at found
          cases found
          exact earlier before
    · exact earlier found
  · rw [value, lookup_unregisterEdge] at found
    split at found
    · cases found
    · exact earlier found
  · exact earlier (value ▸ found)

/-- A task that takes a message registers it next, and has registered it when it
goes on. -/
theorem connected_step (logged : LoggedOwners side)
    (stepped : EdgeStep central side i action central' side')
    {j : StreamId} {edgeId : String}
    (connected : (side'.streams j).task.connectedEdgeId = some edgeId) :
    (side'.streams j).task.Registers edgeId ∨
      ∃ index, EdgeOp.announced j index edgeId ∈ side'.log := by
  by_cases own : j = i
  · subst own
    cases stepped with
    | connect idle =>
        rw [Side.setStream_self] at connected
        cases connected
    | client act stream live acted =>
        rw [Side.setStream_self, (Stream.client_frame acted).1] at connected ⊢
        exact logged.connected j edgeId connected
    | skip msg rest pc =>
        rw [Side.setStream_self] at connected ⊢
        exact logged.connected j edgeId connected
    | read msg rest pc inbound named =>
        rw [Side.requestWrite_streams, Side.setStream_self] at connected ⊢
        cases connected
        exact Or.inl ⟨_, msg, rfl, rfl⟩
    | register index msg lock pc written =>
        rw [Side.setStream_self] at connected
        rcases logged.connected j edgeId connected with
          ⟨_, other, here, same⟩ | ⟨earlier, member⟩
        · cases pc.symm.trans here
          subst same
          exact Or.inr ⟨index, by simp⟩
        · exact Or.inr ⟨earlier, by simp [member]⟩
    | leave last pc | vanish pc | forward message central' pc
    | discard message pc | unregister last lock pc =>
        simp only [Side.requestWrite_streams, Side.setStream_self] at connected
        rcases logged.connected j edgeId connected with
          ⟨_, _, here, _⟩ | ⟨earlier, member⟩
        · cases pc.symm.trans here
        · exact Or.inr ⟨earlier, by
            simp [Side.requestWrite, Side.setStream, member]⟩
  · rw [stepped.streams_of_ne own] at connected ⊢
    rcases logged.connected j edgeId connected with registers | ⟨index, member⟩
    · exact Or.inl registers
    · exact Or.inr ⟨index, stepped.log_grows.subset member⟩

/-- A stream that unregistered registers no more. -/
theorem gone_step (logged : LoggedOwners side) (wf : EdgeSideWF side)
    (stepped : EdgeStep central side i action central' side')
    {j : StreamId} {edgeId : String}
    (member : EdgeOp.unregistered j edgeId ∈ side'.log) :
    side'.lock.value.lookup edgeId ≠ some j := by
  rcases stepped.table with
    ⟨index, msg, _, pc, value, log⟩ | ⟨ended, _, _, _, value, log⟩ |
      ⟨_, value, log⟩
  · rw [log, List.mem_append, List.mem_singleton] at member
    rcases member with before | this
    · have foreign : i ≠ j := by
        intro same
        subst same
        rw [wf.unregistered i edgeId before] at pc
        cases pc
      rw [value, lookup_ensureEdgeRegistered]
      split
      · rename_i same
        subst same
        cases owner : side.lock.value.lookup msg.edgeId with
        | none => simpa using foreign
        | some other =>
            rw [Option.getD_some, ← owner]
            exact logged.gone j msg.edgeId before
      · exact logged.gone j edgeId before
    · cases this
  · rw [value, lookup_unregisterEdge]
    split
    · simp
    · rename_i different
      rw [log, List.mem_append, List.mem_singleton] at member
      rcases member with before | this
      · exact logged.gone j edgeId before
      · cases this
        exact absurd rfl different
  · rw [value]
    exact logged.gone j edgeId (log ▸ member)

theorem step (logged : LoggedOwners side) (wf : EdgeSideWF side)
    (stepped : EdgeStep central side i action central' side') :
    LoggedOwners side' where
  owned _ _ found := logged.owned_step stepped found
  connected _ _ connected := logged.connected_step stepped connected
  gone _ _ member := logged.gone_step wf stepped member

/-- With one id for each stream, a stream that unregistered owns nothing. -/
theorem not_owner (logged : LoggedOwners side) (wf : EdgeSideWF side)
    (single : SingleIds side) {edgeId last : String}
    (member : EdgeOp.unregistered i last ∈ side.log) :
    side.lock.value.lookup edgeId ≠ some i := by
  intro found
  have task := wf.unregistered i last member
  rcases logged.owned edgeId i found with ⟨left, announced⟩
  rcases logged.connected i last (by rw [task]) with
    ⟨_, _, pc, _⟩ | ⟨right, registered⟩
  · rw [task] at pc
    cases pc
  · have same := single i left right edgeId last announced registered
    subst same
    exact logged.gone i edgeId member found

end LoggedOwners

namespace State

variable {state next last : State} {action : Action} {i : StreamId}
variable {edgeId : String}

theorem loggedOwners (reachable : system.Reachable state) :
    LoggedOwners state.edges := by
  apply System.invariant (fun state : State => LoggedOwners state.edges)
    LoggedOwners.start ?_ reachable
  intro state next action reached logged stepped
  rcases step_edges stepped with ⟨i, act, _, inner⟩ | ⟨_, served⟩
  · exact logged.step (edgeSideWF reached) inner
  · exact logged.served served

/-- The log of the whole router only grows. -/
theorem edgeLog_grows (stepped : system.step state action = some next) :
    state.edges.log <+: next.edges.log := by
  rcases step_edges stepped with ⟨i, act, _, inner⟩ | ⟨_, served⟩
  · exact inner.log_grows
  · exact served.log ▸ List.prefix_rfl

/-- The events that may end a healed route: the final unregistration of the
stream itself, and that of another stream that registered the id after the first
`since` writes. -/
inductive Breaks (i : StreamId) (edgeId : String) (since : Nat)
    (state : State) : Action → Prop where
  | ends (last : String)
      (pc : (state.edges.streams i).task.pc = .unregistering last) :
      Breaks i edgeId since state (.edge i .task)
  | otherEnds (j : StreamId) (other : j ≠ i) (last : String)
      (pc : (state.edges.streams j).task.pc = .unregistering last)
      (index : Nat)
      (announced : .announced j index edgeId ∈ state.edges.log.drop since) :
      Breaks i edgeId since state (.edge j .task)

/-- Every stream other than `i` that registered the id has run its final
`unregister_edge`. -/
def OthersEnded (state : State) (i : StreamId) (edgeId : String) : Prop :=
  ∀ j, j ≠ i → ∀ index, .announced j index edgeId ∈ state.edges.log →
    ∃ last, .unregistered j last ∈ state.edges.log

/-- The entry is the stream's own, and the log extends the one of the moment it
got the entry. -/
structure Healed (i : StreamId) (edgeId : String) (since : List EdgeOp)
    (state : State) : Prop where
  entry : state.edges.lock.value.lookup edgeId = some i
  log : since <+: state.edges.log

/-- What unregisters the id of a healed route is an end that breaks it. -/
theorem Healed.breaks {since : List EdgeOp}
    (healed : Healed i edgeId since state) (reachable : system.Reachable state)
    (others : ∀ j, j ≠ i → ∀ index, .announced j index edgeId ∈ since →
      ∃ last, .unregistered j last ∈ since)
    {j : StreamId}
    (pc : (state.edges.streams j).task.pc = .unregistering edgeId) :
    Breaks i edgeId since.length state (.edge j .task) := by
  have wf := edgeSideWF reachable
  by_cases own : j = i
  · subst own
    exact .ends edgeId pc
  · have connected := ((wf.streams j).unregistering edgeId pc).1
    rcases (loggedOwners reachable).connected j edgeId connected with
      ⟨_, _, here, _⟩ | ⟨index, member⟩
    · cases pc.symm.trans here
    · rcases healed.log with ⟨after, split⟩
      rw [← split, List.mem_append] at member
      rcases member with early | late
      · rcases others j own index early with ⟨ended, unregistered⟩
        have task := wf.unregistered j ended (healed.log.subset unregistered)
        rw [task] at pc
        cases pc
      · apply Breaks.otherEnds j own edgeId pc index
        rwa [← split, List.drop_left]

theorem Healed.step {since : List EdgeOp}
    (healed : Healed i edgeId since state) (reachable : system.Reachable state)
    (others : ∀ j, j ≠ i → ∀ index, .announced j index edgeId ∈ since →
      ∃ last, .unregistered j last ∈ since)
    (stays : ¬Breaks i edgeId since.length state action)
    (stepped : system.step state action = some next) :
    Healed i edgeId since next := by
  refine ⟨?_, healed.log.trans (edgeLog_grows stepped)⟩
  have entry := healed.entry
  rcases step_edges stepped with ⟨j, act, rfl, inner⟩ | ⟨_, served⟩
  · rcases inner.table with
      ⟨index, msg, _, _, value, _⟩ | ⟨ended, rfl, pc, _, value, _⟩ | ⟨_, value, _⟩
    · rw [value, lookup_ensureEdgeRegistered]
      split
      · rename_i same
        rw [← same, entry]
        rfl
      · exact entry
    · rw [value, lookup_unregisterEdge, if_neg]
      · exact entry
      · intro equal
        subst equal
        exact stays (healed.breaks reachable others pc)
    · rw [value]
      exact entry
  · rw [served.value]
    exact entry

/-- A message of stream `i` passes `ensure_edge_registered` when every other
stream that registered its id has ended: the stream has the route from then on,
until it ends itself, or another stream does that registered the id since. -/
theorem routeHeals {index : Nat} {msg : FromEdge}
    (reachable : system.Reachable state) (single : SingleIds state.edges)
    (others : OthersEnded state i msg.edgeId)
    (pc : (state.edges.streams i).task.pc = .registering index msg)
    (passed : system.step state (.edge i .task) = some next) :
    next.edges.lock.value.lookup msg.edgeId = some i ∧
      ∀ schedule last, system.runFrom next schedule = some last →
        system.StepsMeet (fun state action =>
          ¬Breaks i msg.edgeId next.edges.log.length state action)
          next schedule →
        last.edges.lock.value.lookup msg.edgeId = some i := by
  have wf := edgeSideWF reachable
  have logged := loggedOwners reachable
  have entry : next.edges.lock.value.lookup msg.edgeId = some i := by
    rw [lookup_passed pc passed]
    cases found : state.edges.lock.value.lookup msg.edgeId with
    | none => rfl
    | some owner =>
        by_cases own : owner = i
        · rw [own, Option.getD_some]
        · rcases logged.owned _ _ found with ⟨position, announced⟩
          rcases others owner own position announced with ⟨ended, member⟩
          exact absurd found (logged.not_owner wf single member)
  refine ⟨entry, ?_⟩
  intro schedule last ran met
  have othersNext : ∀ j, j ≠ i → ∀ position,
      .announced j position msg.edgeId ∈ next.edges.log →
      ∃ ended, .unregistered j ended ∈ next.edges.log := by
    intro j foreign position member
    have before : .announced j position msg.edgeId ∈ state.edges.log := by
      rcases step_edges passed with ⟨_, _, equal, inner⟩ | ⟨_, served⟩
      · cases equal
        rcases inner.table with
          ⟨_, _, _, _, _, log⟩ | ⟨_, _, _, _, _, log⟩ | ⟨_, _, log⟩
        · simpa [log, foreign] using member
        · simpa [log] using member
        · exact log ▸ member
      · exact served.log ▸ member
    rcases others j foreign position before with ⟨ended, unregistered⟩
    exact ⟨ended, (edgeLog_grows passed).subset unregistered⟩
  have healed : Healed i msg.edgeId next.edges.log last :=
    System.run_preserves_while (Healed i msg.edgeId next.edges.log)
      (fun state action =>
        ¬Breaks i msg.edgeId next.edges.log.length state action)
      (fun reached healed stays stepped =>
        healed.step reached othersNext stays stepped)
      (reachable.step passed) ⟨entry, List.prefix_rfl⟩ met ran
  exact healed.entry

/-- Streams 0 and 1 overlap under one id; stream 0 ends and takes the entry with
it, and stream 1 is about to register its next message. -/
def overlap : List Action :=
  [.edge 0 .connect, .edge 0 (.client (.send (announcement "a"))),
    .edge 0 .task, .edge 0 .task, .edge 1 .connect,
    .edge 1 (.client (.send (announcement "a"))), .edge 1 .task, .edge 1 .task,
    .edge 0 (.client .close), .edge 0 .task, .edge 0 .task,
    .edge 1 (.client (.send (announcement "a"))), .edge 1 .task]

theorem routeHeals_overlap :
    ∃ state next last, system.runFrom start overlap = some state ∧
      system.step state (.edge 1 .task) = some next ∧
      system.runFrom next [.edge 2 .connect] = some last ∧
      state.edges.lock.value.lookup "a" = none ∧
      last.edges.lock.value.lookup "a" = some 1 := by
  obtain ⟨state, next, last, reached, log, pc, passed, ran, removed⟩ :
      ∃ state next last, system.runFrom start overlap = some state ∧
        state.edges.log = [.announced 0 0 "a", .announced 1 0 "a",
          .unregistered 0 "a"] ∧
        (state.edges.streams 1).task.pc =
          .registering 1 (announcement "a") ∧
        system.step state (.edge 1 .task) = some next ∧
        system.runFrom next [.edge 2 .connect] = some last ∧
        state.edges.lock.value.lookup "a" = none :=
    ⟨_, _, _, rfl, rfl, rfl, rfl, rfl, rfl⟩
  refine ⟨state, next, last, reached, passed, ran, removed, ?_⟩
  have single : SingleIds state.edges := by
    intro i left right edgeId other first second
    rw [log] at first second
    simp only [List.mem_cons, EdgeOp.announced.injEq, reduceCtorEq,
      List.not_mem_nil, or_false] at first second
    rcases first with ⟨_, _, rfl⟩ | ⟨_, _, rfl⟩ <;>
      rcases second with ⟨_, _, rfl⟩ | ⟨_, _, rfl⟩ <;> rfl
  have others : OthersEnded state 1 "a" := by
    intro j foreign index member
    rw [log] at member ⊢
    simp only [List.mem_cons, EdgeOp.announced.injEq, reduceCtorEq,
      List.not_mem_nil, or_false] at member
    rcases member with ⟨rfl, _, _⟩ | ⟨rfl, _, _⟩
    · exact ⟨"a", by simp⟩
    · exact absurd rfl foreign
  apply (routeHeals ⟨_, reached⟩ single others pc passed).2
    [.edge 2 .connect] last ran
  refine ⟨?_, fun _ _ => trivial⟩
  intro breaks
  cases breaks

end State

end IotRouter.Router
