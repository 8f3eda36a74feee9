import IotRouter.Router.Locks
import IotRouter.Router.Streams

/-!
# Bookkeeping of the edge streams

What the inbound task of an edge stream knows about itself at each await: which
message it is working on, which id it announced last, and that it only leaves
its loop once the client has ended the stream. For the whole side: an entry of
the map is owned by a stream that announced its key, and the log of the writes
names what the streams did.
-/

namespace IotRouter.Router

open IotRouter.Grpc IotRouter.Runtime

/-! ## Edge streams -/

/-- The ids a stream announced: those of its messages with one, in order. -/
def announcedIds (received : List FromEdge) : List String :=
  (received.map FromEdge.edgeId).filter (· ≠ "")

theorem announcedIds_append_named (received : List FromEdge) {msg : FromEdge}
    (named : msg.edgeId ≠ "") :
    announcedIds (received ++ [msg]) = announcedIds received ++ [msg.edgeId] := by
  simp [announcedIds, named]

theorem announcedIds_append_anonymous (received : List FromEdge)
    {msg : FromEdge} (anonymous : msg.edgeId = "") :
    announcedIds (received ++ [msg]) = announcedIds received := by
  simp [announcedIds, anonymous]

theorem mem_announcedIds {received : List FromEdge} {edgeId : String} :
    edgeId ∈ announcedIds received ↔
      edgeId ≠ "" ∧ ∃ msg ∈ received, msg.edgeId = edgeId := by
  simp [announcedIds, and_comm]

/-- The task of stream `i` and the messages it took agree. -/
structure EdgeStreamWF (i : StreamId) (stream : EdgeStream) : Prop where
  inbound : InboundWF stream
  connected :
    stream.task.connectedEdgeId = (announcedIds stream.received).getLast?
  idle : stream.task.pc = .idle → stream.received = []
  registering : ∀ index msg, stream.task.pc = .registering index msg →
    stream.received[index]? = some msg ∧
      index + 1 = stream.received.length ∧ msg.edgeId ≠ ""
  forwarding : ∀ message, stream.task.pc = .forwarding message →
    message.source = .edge i ∧ message.index + 1 = stream.received.length ∧
      ∃ msg, stream.received[message.index]? = some msg ∧ msg.edgeId ≠ "" ∧
        processFromEdge msg = some message.value
  unregistering : ∀ edgeId, stream.task.pc = .unregistering edgeId →
    stream.task.connectedEdgeId = some edgeId ∧ stream.inboundOpen = false
  done : stream.task.pc = .done → stream.inboundOpen = false

namespace EdgeStreamWF

variable {i : StreamId} {stream stream' : EdgeStream}

theorem fresh (i : StreamId) {pc : EdgePc} (starts : pc = .idle ∨ pc = .next) :
    EdgeStreamWF i (.fresh _ _ { pc, connectedEdgeId := none }) := by
  refine ⟨InboundWF.fresh _ _ _, rfl, fun _ => rfl, ?_, ?_, ?_, ?_⟩ <;>
    rcases starts with rfl | rfl <;> simp [Stream.fresh]

/-- Only the outbound channel differs. -/
theorem withOutbound (wf : EdgeStreamWF i stream)
    (outbound : Channel 100 (Tagged ToEdge)) :
    EdgeStreamWF i { stream with outbound } :=
  ⟨⟨wf.inbound.kept, wf.inbound.sent_eq⟩, wf.connected, wf.idle,
    wf.registering, wf.forwarding, wf.unregistering, wf.done⟩

theorem client (wf : EdgeStreamWF i stream) {action : ClientAction FromEdge}
    (acted : stream.client action = some stream') : EdgeStreamWF i stream' := by
  rcases Stream.client_frame acted with ⟨task, received, opened⟩
  have closed : stream.inboundOpen = false → stream'.inboundOpen = false := by
    intro ended
    by_contra reopened
    rw [opened (Bool.not_eq_false _ ▸ reopened)] at ended
    cases ended
  refine ⟨wf.inbound.client acted, ?_, ?_, ?_, ?_, ?_, ?_⟩
  · rw [task, received]
    exact wf.connected
  · rw [task, received]
    exact wf.idle
  · rw [task, received]
    exact wf.registering
  · rw [task, received]
    exact wf.forwarding
  · rw [task]
    intro edgeId ending
    exact ⟨(wf.unregistering edgeId ending).1,
      closed (wf.unregistering edgeId ending).2⟩
  · rw [task]
    exact fun ended => closed (wf.done ended)

/-- The inbound task keeps its own account. -/
theorem step {central central' : Central} {side side' : EdgeSide}
    {action : StreamAction FromEdge}
    (stepped : EdgeStep central side i action central' side')
    (wf : EdgeStreamWF i (side.streams i)) :
    EdgeStreamWF i (side'.streams i) := by
  cases stepped with
  | connect idle =>
      rw [Side.setStream_self]
      exact fresh i (Or.inr rfl)
  | client act stream live acted =>
      rw [Side.setStream_self]
      exact wf.client acted
  | skip msg rest pc inbound anonymous =>
      rw [Side.setStream_self]
      refine ⟨wf.inbound.take inbound _ _, ?_, ?_, ?_, ?_, ?_, ?_⟩
      · rw [announcedIds_append_anonymous _ anonymous]
        exact wf.connected
      all_goals simp [pc]
  | read msg rest pc inbound named =>
      rw [Side.requestWrite_streams, Side.setStream_self]
      refine ⟨wf.inbound.take inbound _ _, ?_, ?_, ?_, ?_, ?_, ?_⟩
      · rw [announcedIds_append_named _ named]
        simp
      · simp
      · intro index other registering
        cases registering
        simp [named]
      all_goals simp
  | leave edgeId pc inbound ended connected =>
      rw [Side.requestWrite_streams, Side.setStream_self]
      refine ⟨⟨wf.inbound.kept, wf.inbound.sent_eq⟩, wf.connected,
        ?_, ?_, ?_, ?_, ?_⟩ <;> simp [connected, ended]
  | vanish pc inbound ended anonymous =>
      rw [Side.setStream_self]
      refine ⟨⟨wf.inbound.kept, wf.inbound.sent_eq⟩, wf.connected,
        ?_, ?_, ?_, ?_, ?_⟩ <;> simp [ended]
  | register index msg lock pc written =>
      rw [Side.setStream_self]
      rcases wf.registering index msg pc with ⟨found, last, named⟩
      refine ⟨⟨wf.inbound.kept, wf.inbound.sent_eq⟩, wf.connected,
        ?_, ?_, ?_, ?_, ?_⟩ <;> cases translated : processFromEdge msg <;> simp
      exact ⟨last, msg, found, named, translated⟩
  | forward message central' pc sent =>
      rw [Side.setStream_self]
      refine ⟨⟨wf.inbound.kept, wf.inbound.sent_eq⟩, wf.connected,
        ?_, ?_, ?_, ?_, ?_⟩ <;> simp
  | discard message pc closed =>
      rw [Side.setStream_self]
      refine ⟨⟨wf.inbound.kept, wf.inbound.sent_eq⟩, wf.connected,
        ?_, ?_, ?_, ?_, ?_⟩ <;> simp
  | unregister edgeId lock pc written =>
      rw [Side.setStream_self]
      rcases wf.unregistering edgeId pc with ⟨connected, ended⟩
      refine ⟨⟨wf.inbound.kept, wf.inbound.sent_eq⟩, wf.connected,
        ?_, ?_, ?_, ?_, ?_⟩ <;> simp [ended]

end EdgeStreamWF

/-! ## The whole edge side -/

section Side

variable {central central' : Central} {side side' : EdgeSide} {i : StreamId}
variable {action : StreamAction FromEdge}

/-- What a step does to the map and to the log of its writes: a message passes
`ensure_edge_registered`, a stream runs its final `unregister_edge`, or neither
changes. -/
theorem EdgeStep.table
    (stepped : EdgeStep central side i action central' side') :
    (∃ index msg, action = .task ∧
      (side.streams i).task.pc = .registering index msg ∧
      side'.lock.value =
        (ensureEdgeRegistered side.lock.value msg.edgeId i).1 ∧
      side'.log = side.log ++ [.announced i index msg.edgeId]) ∨
    (∃ edgeId, action = .task ∧
      (side.streams i).task.pc = .unregistering edgeId ∧
      (side'.streams i).task =
        { pc := .done
          connectedEdgeId := (side.streams i).task.connectedEdgeId } ∧
      side'.lock.value = unregisterEdge side.lock.value edgeId ∧
      side'.log = side.log ++ [.unregistered i edgeId]) ∨
    (¬(action = .task ∧ (side.streams i).task.Waits) ∧
      side'.lock.value = side.lock.value ∧ side'.log = side.log) := by
  cases stepped with
  | register index msg lock pc written =>
      rcases RwLock.write_eq_some.mp written with ⟨_, _, _, rfl⟩
      exact Or.inl ⟨index, msg, rfl, pc, rfl, rfl⟩
  | unregister edgeId lock pc written =>
      rcases RwLock.write_eq_some.mp written with ⟨_, _, _, rfl⟩
      exact Or.inr (Or.inl ⟨edgeId, rfl, pc, by simp, rfl, rfl⟩)
  | connect | client => exact Or.inr (Or.inr ⟨by simp, rfl, rfl⟩)
  | skip msg rest pc =>
      exact Or.inr (Or.inr ⟨by simp [EdgeTask.Waits, pc], rfl, rfl⟩)
  | read msg rest pc =>
      exact Or.inr (Or.inr ⟨by simp [EdgeTask.Waits, pc], rfl, rfl⟩)
  | leave edgeId pc =>
      exact Or.inr (Or.inr ⟨by simp [EdgeTask.Waits, pc], rfl, rfl⟩)
  | vanish pc =>
      exact Or.inr (Or.inr ⟨by simp [EdgeTask.Waits, pc], rfl, rfl⟩)
  | forward message central' pc =>
      exact Or.inr (Or.inr ⟨by simp [EdgeTask.Waits, pc], rfl, rfl⟩)
  | discard message pc =>
      exact Or.inr (Or.inr ⟨by simp [EdgeTask.Waits, pc], rfl, rfl⟩)

/-- A task never forgets what it received. -/
theorem EdgeStep.received_grows
    (stepped : EdgeStep central side i action central' side')
    (wf : ∀ j, EdgeStreamWF j (side.streams j)) (j : StreamId) :
    (side.streams j).received <+: (side'.streams j).received := by
  by_cases own : j = i
  · subst own
    cases stepped with
    | connect idle =>
        rw [(wf j).idle idle]
        exact ⟨_, List.nil_append _⟩
    | client act stream live acted =>
        rw [Side.setStream_self, (Stream.client_frame acted).2.1]
    | skip | read => simp
    | leave | vanish | register | forward | discard | unregister => simp
  · rw [stepped.streams_of_ne own]

/-- A task that is done stays as it is. -/
theorem EdgeStep.task_of_done
    (stepped : EdgeStep central side i action central' side') {j : StreamId}
    (ended : (side.streams j).task.pc = .done) :
    (side'.streams j).task = (side.streams j).task := by
  by_cases own : j = i
  · subst own
    cases stepped with
    | client act stream live acted =>
        rw [Side.setStream_self, (Stream.client_frame acted).1]
    | connect pc | skip _ _ pc | read _ _ pc | leave _ pc | vanish pc
    | register _ _ _ pc | forward _ _ pc | discard _ pc | unregister _ _ pc =>
        rw [pc] at ended
        cases ended
  · rw [stepped.streams_of_ne own]

/-- The streams, the map and the log of its writes agree. -/
structure EdgeSideWF (side : EdgeSide) : Prop where
  streams : ∀ i, EdgeStreamWF i (side.streams i)
  /-- The owner of an entry announced its key. -/
  owned : ∀ edgeId owner, side.lock.value.lookup edgeId = some owner →
    edgeId ∈ announcedIds (side.streams owner).received
  announced : ∀ i index edgeId, .announced i index edgeId ∈ side.log →
    edgeId ≠ "" ∧
      ∃ msg, (side.streams i).received[index]? = some msg ∧ msg.edgeId = edgeId
  unregistered : ∀ i edgeId, .unregistered i edgeId ∈ side.log →
    (side.streams i).task = { pc := .done, connectedEdgeId := some edgeId }

namespace EdgeSideWF

theorem start : EdgeSideWF State.start.edges where
  streams i := EdgeStreamWF.fresh i (Or.inl rfl)
  owned edgeId owner found := by
    simp [State.start, RwLock.new] at found
  announced i index edgeId member := by
    simp [State.start] at member
  unregistered i edgeId member := by
    simp [State.start] at member

/-- Service by the dispatcher changes the outbound channels only. -/
theorem served (wf : EdgeSideWF side) (service : Side.Served side side') :
    EdgeSideWF side' where
  streams i := by
    rcases service.streams i with ⟨outbound, same, _⟩
    rw [same]
    exact (wf.streams i).withOutbound outbound
  owned := by
    simp only [service.value, service.received]
    exact wf.owned
  announced := by
    simp only [service.log, service.received]
    exact wf.announced
  unregistered := by
    simp only [service.log, service.task]
    exact wf.unregistered

/-- The message stream `i` registers was announced by it. -/
theorem registering_announced (wf : EdgeSideWF side) {index : Nat}
    {msg : FromEdge} (pc : (side.streams i).task.pc = .registering index msg) :
    msg.edgeId ∈ announcedIds (side.streams i).received := by
  rcases (wf.streams i).registering index msg pc with ⟨found, _, named⟩
  exact mem_announcedIds.mpr ⟨named, msg, List.mem_of_getElem? found, rfl⟩

theorem streams_step (wf : EdgeSideWF side)
    (stepped : EdgeStep central side i action central' side') (j : StreamId) :
    EdgeStreamWF j (side'.streams j) := by
  by_cases own : j = i
  · subst own
    exact EdgeStreamWF.step stepped (wf.streams j)
  · rw [stepped.streams_of_ne own]
    exact wf.streams j

/-- A new owner has announced the key, and an old one still has. -/
theorem owned_step (wf : EdgeSideWF side)
    (stepped : EdgeStep central side i action central' side')
    {key : String} {owner : StreamId}
    (found : side'.lock.value.lookup key = some owner) :
    key ∈ announcedIds (side'.streams owner).received := by
  have grows := stepped.received_grows wf.streams
  have still : key ∈ announcedIds (side.streams owner).received →
      key ∈ announcedIds (side'.streams owner).received := by
    intro member
    rcases mem_announcedIds.mp member with ⟨named, msg, received, same⟩
    exact mem_announcedIds.mpr ⟨named, msg, (grows owner).subset received, same⟩
  apply still
  rcases stepped.table with
    ⟨index, msg, _, pc, value, _⟩ | ⟨edgeId, _, _, _, value, _⟩ | ⟨_, value, _⟩
  · rw [value, lookup_ensureEdgeRegistered] at found
    split at found
    · rename_i same
      subst same
      cases before : side.lock.value.lookup msg.edgeId with
      | none =>
          rw [before] at found
          cases found
          exact wf.registering_announced pc
      | some other =>
          rw [before] at found
          cases found
          exact wf.owned _ _ before
    · exact wf.owned _ _ found
  · rw [value, lookup_unregisterEdge] at found
    split at found
    · cases found
    · exact wf.owned _ _ found
  · rw [value] at found
    exact wf.owned _ _ found

/-- The log names an announcement that the task received. -/
theorem announced_step (wf : EdgeSideWF side)
    (stepped : EdgeStep central side i action central' side')
    {j : StreamId} {position : Nat} {edgeId : String}
    (member : .announced j position edgeId ∈ side'.log) :
    edgeId ≠ "" ∧ ∃ msg, (side'.streams j).received[position]? = some msg ∧
      msg.edgeId = edgeId := by
  have grows := stepped.received_grows wf.streams
  have earlier : EdgeOp.announced j position edgeId ∈ side.log →
      edgeId ≠ "" ∧ ∃ msg, (side'.streams j).received[position]? = some msg ∧
        msg.edgeId = edgeId := by
    intro member
    rcases wf.announced j position edgeId member with ⟨named, msg, found, same⟩
    exact ⟨named, msg, getElem?_of_grows (grows j) found, same⟩
  rcases stepped.table with
    ⟨index, msg, _, pc, _, log⟩ | ⟨ended, _, _, _, _, log⟩ | ⟨_, _, log⟩
  · rw [log, List.mem_append, List.mem_singleton] at member
    rcases member with before | this
    · exact earlier before
    · cases this
      rcases (wf.streams _).registering _ msg pc with ⟨found, _, named⟩
      exact ⟨named, msg, getElem?_of_grows (grows _) found, rfl⟩
  · rw [log, List.mem_append, List.mem_singleton] at member
    rcases member with before | this
    · exact earlier before
    · cases this
  · exact earlier (log ▸ member)

/-- A stream that unregistered is done. -/
theorem unregistered_step (wf : EdgeSideWF side)
    (stepped : EdgeStep central side i action central' side')
    {j : StreamId} {edgeId : String}
    (member : .unregistered j edgeId ∈ side'.log) :
    (side'.streams j).task = { pc := .done, connectedEdgeId := some edgeId } := by
  have earlier : EdgeOp.unregistered j edgeId ∈ side.log →
      (side'.streams j).task =
        { pc := .done, connectedEdgeId := some edgeId } := by
    intro member
    have ended := wf.unregistered j edgeId member
    rw [stepped.task_of_done (by rw [ended])]
    exact ended
  rcases stepped.table with
    ⟨index, msg, _, _, _, log⟩ | ⟨ended, _, pc, task, _, log⟩ | ⟨_, _, log⟩
  · rw [log, List.mem_append, List.mem_singleton] at member
    rcases member with before | this
    · exact earlier before
    · cases this
  · rw [log, List.mem_append, List.mem_singleton] at member
    rcases member with before | this
    · exact earlier before
    · cases this
      rw [task, ((wf.streams i).unregistering edgeId pc).1]
  · exact earlier (log ▸ member)

theorem step (wf : EdgeSideWF side)
    (stepped : EdgeStep central side i action central' side') :
    EdgeSideWF side' where
  streams := wf.streams_step stepped
  owned _ _ found := wf.owned_step stepped found
  announced _ _ _ member := wf.announced_step stepped member
  unregistered _ _ member := wf.unregistered_step stepped member

/-- A stream that owns an entry has connected. -/
theorem owner_connected (wf : EdgeSideWF side) {edgeId : String}
    {owner : StreamId} (found : side.lock.value.lookup edgeId = some owner) :
    (side.streams owner).task.pc ≠ .idle := by
  intro idle
  have member := wf.owned edgeId owner found
  rw [(wf.streams owner).idle idle] at member
  cases member

end EdgeSideWF

end Side

/-- The edge side is well formed in every reachable state. -/
theorem State.edgeSideWF {state : State} (reachable : system.Reachable state) :
    EdgeSideWF state.edges := by
  apply System.invariant (fun state : State => EdgeSideWF state.edges)
    EdgeSideWF.start ?_ reachable
  intro state next action _ wf stepped
  rcases step_edges stepped with ⟨i, act, _, inner⟩ | ⟨_, served⟩
  · exact wf.step inner
  · exact wf.served served

end IotRouter.Router
