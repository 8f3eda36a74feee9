import IotRouter.Router.EndToEnd

/-!
# What reaches an edge

Every message an edge stream's channel ever took carries an id that the stream
announced, and comes from a Manager command for that id or from a heartbeat of a
Data session. This ties the table, the messages under way and the contents of
all channels together: the envelope, the id inside the message and the key of
the map never disagree.
-/

namespace IotRouter.Router

open IotRouter.Grpc IotRouter.Https IotRouter.Runtime

/-- Where a message for an edge comes from, given what the Manager and the Data
sessions said: a command with the same id and content that is no heartbeat, or a
heartbeat. -/
inductive Origin (commands : StreamId → List FromManager)
    (beats : StreamId → List FromDataSaver) (source : Source) (index : Nat)
    (toEdge : ToEdge) : Prop where
  | command (session : StreamId) (msg : FromManager)
      (payload : FromManager.Payload) (out : ToEdge.Payload)
      (source_eq : source = .manager session)
      (said : (commands session)[index]? = some msg)
      (carries : msg.payload = some payload)
      (edgeId : toEdge.edgeId = msg.edgeId)
      (payload_eq : toEdge.payload = some out)
      (content : out.content = payload.content)
      (plain : toEdge.heartbeat? = none)
  | heartbeat (session : StreamId) (msg : FromDataSaver)
      (heartbeat : Heartbeat) (source_eq : source = .data session)
      (said : (beats session)[index]? = some msg)
      (carries : msg.payload = some (.heartbeat heartbeat))
      (payload_eq : toEdge.payload = some (.heartbeat heartbeat))

namespace Origin

variable {commands commands' : StreamId → List FromManager}
variable {beats beats' : StreamId → List FromDataSaver}
variable {source : Source} {index : Nat} {toEdge : ToEdge}

/-- What was said stays said. -/
theorem mono (origin : Origin commands beats source index toEdge)
    (moreCommands : ∀ session, commands session <+: commands' session)
    (moreBeats : ∀ session, beats session <+: beats' session) :
    Origin commands' beats' source index toEdge := by
  cases origin with
  | command session msg payload out source_eq said =>
      exact .command session msg payload out source_eq
        (getElem?_of_grows (moreCommands session) said) ‹_› ‹_› ‹_› ‹_› ‹_›
  | heartbeat session msg heartbeat source_eq said =>
      exact .heartbeat session msg heartbeat source_eq
        (getElem?_of_grows (moreBeats session) said) ‹_› ‹_›

/-- A heartbeat under another id is still that heartbeat. -/
theorem relabel (origin : Origin commands beats source index toEdge)
    {heartbeat : Heartbeat} (carries : toEdge.heartbeat? = some heartbeat)
    (edgeId : String) :
    Origin commands beats source index
      { edgeId, payload := some (.heartbeat heartbeat) } := by
  cases origin with
  | command session msg payload out source_eq said _ _ _ _ plain =>
      rw [plain] at carries
      cases carries
  | heartbeat session msg other source_eq said payload payload_eq =>
      have same : toEdge.heartbeat? = some other := by
        simp [ToEdge.heartbeat?, payload_eq]
      cases same.symm.trans carries
      exact .heartbeat session msg heartbeat source_eq said payload rfl

end Origin

namespace State

variable {state next : State} {action : Action}

/-- What the tasks of the Manager and Data sessions received. -/
def OriginIn (state : State) (source : Source) (index : Nat)
    (toEdge : ToEdge) : Prop :=
  Origin (fun session => (state.manager.streams session).received)
    (fun session => (state.data.streams session).received) source index toEdge

/-- What the tasks received is never forgotten. -/
theorem received_grows (reachable : system.Reachable state)
    (stepped : system.step state action = some next) :
    (∀ j, (state.edges.streams j).received <+:
        (next.edges.streams j).received) ∧
      (∀ j, (state.manager.streams j).received <+:
        (next.manager.streams j).received) ∧
      ∀ j, (state.data.streams j).received <+:
        (next.data.streams j).received := by
  refine ⟨fun j => ?_, fun j => ?_, fun j => ?_⟩
  · rcases step_edges stepped with ⟨i, act, _, inner⟩ | ⟨_, served⟩
    · exact inner.received_grows (edgeSideWF reachable).streams j
    · rw [served.received]
  · rcases step_manager stepped with ⟨i, act, _, inner⟩ | ⟨_, served⟩
    · exact inner.received_grows (slotSidesWF reachable).1.streams j
    · rw [served.received]
  · rcases step_data stepped with ⟨i, act, _, inner⟩ | ⟨_, served⟩
    · exact inner.received_grows (slotSidesWF reachable).2.streams j
    · rw [served.received]

/-- A message for an edge under way comes from a Manager or a Data session. -/
theorem Pipeline.origin (wf : Pipeline state) {message : Tagged RouterMessage}
    {destination : String} {toEdge : ToEdge}
    (member : message ∈ state.central.accepted)
    (value : message.value = .toEdge destination toEdge) :
    OriginIn state message.source message.index toEdge := by
  rcases wf.toEdge_translated member value with
    ⟨session, msg, source, said, translated⟩ |
      ⟨session, msg, source, said, translated⟩
  · rcases processFromManager_eq_some translated with
      ⟨payload, out, carries, content, plain, same⟩
    cases same
    exact .command session msg payload out source said carries rfl rfl content
      plain
  · rcases processFromData_eq_some translated with ⟨heartbeat, carries, same⟩
    cases same
    exact .heartbeat session msg heartbeat source said carries rfl

/-- A message taken by the channel of an edge stream, with its provenance. -/
inductive Rightful (state : State) (i : StreamId)
    (message : Tagged RouterMessage) : Prop where
  | intro (toEdge : ToEdge) (value : message.value = .toEdge toEdge.edgeId toEdge)
      (announced : toEdge.edgeId ∈ announcedIds (state.edges.streams i).received)
      (origin : OriginIn state message.source message.index toEdge)

theorem announcedIds_mono {before after : List FromEdge}
    (grows : before <+: after) : announcedIds before <+: announcedIds after :=
  (grows.map _).filter _

theorem Rightful.step {i : StreamId} {message : Tagged RouterMessage}
    (rightful : Rightful state i message) (reachable : system.Reachable state)
    (stepped : system.step state action = some next) :
    Rightful next i message := by
  rcases rightful with ⟨toEdge, value, announced, origin⟩
  rcases received_grows reachable stepped with ⟨edges, manager, data⟩
  exact ⟨toEdge, value, (announcedIds_mono (edges i)).subset announced,
    origin.mono manager data⟩

/-- A heartbeat of a broadcast is rightful for the stream whose entry is being
served: it goes out under the key of that entry. -/
theorem rightful_of_beat (reachable : system.Reachable state) {i : StreamId}
    {message : Tagged RouterMessage} {heartbeat : Heartbeat} {edgeId : String}
    (inHand : message ∈ state.dispatcher.inHand)
    (carries : heartbeatOf message.value = some heartbeat)
    (entry : state.edges.lock.value.lookup edgeId = some i) :
    Rightful state i (message.as
      (.toEdge edgeId { edgeId, payload := some (.heartbeat heartbeat) })) := by
  have wf := pipeline reachable
  refine ⟨{ edgeId, payload := some (.heartbeat heartbeat) }, rfl,
    (edgeSideWF reachable).owned _ _ entry, ?_⟩
  cases value : message.value with
  | toEdge destination toEdge =>
      rw [value] at carries
      exact (wf.origin (wf.inHand_accepted inHand) value).relabel carries edgeId
  | toManager | toData =>
      rw [value] at carries
      cases carries

/-- A message that the table routes to the stream is rightful for it. -/
theorem rightful_of_entry (reachable : system.Reachable state) {i : StreamId}
    {message : Tagged RouterMessage}
    (inHand : message ∈ state.dispatcher.inHand)
    (entry : state.entry message.value = some (.edge i)) :
    Rightful state i message := by
  have wf := pipeline reachable
  have accepted := wf.inHand_accepted inHand
  rcases Option.map_eq_some_iff.mp entry with ⟨tx, found, address⟩
  cases value : message.value with
  | toEdge destination toEdge =>
      rw [value] at found address
      cases address
      have addressed := wf.addressed accepted value
      subst addressed
      exact ⟨toEdge, value, (edgeSideWF reachable).owned _ _ found,
        wf.origin accepted value⟩
  | toManager | toData =>
      rw [value] at address
      cases address

/-- Every message a channel of an edge stream ever took is rightful. -/
theorem rightful (reachable : system.Reachable state) :
    ∀ i, ∀ message ∈ state.outbox (.edge i), Rightful state i message := by
  apply System.invariant (fun state : State =>
    ∀ i, ∀ message ∈ state.outbox (.edge i), Rightful state i message)
    ?_ ?_ reachable
  · intro i message member
    cases member
  · intro state next action reached before stepped i message member
    have earlier : message ∈ state.outbox (.edge i) → Rightful next i message :=
      fun member => (before i message member).step reached stepped
    rcases step_effect reached stepped with ⟨_, _, effect⟩ | ⟨_, same, _⟩
    · cases effect with
      | quiet same | broadcast _ _ _ same => exact earlier (same ▸ member)
      | beat beat heartbeat edgeId tx inHand carries entry gains =>
          rw [gains, List.mem_append] at member
          rcases member with old | new
          · exact earlier old
          · split at new
            · rename_i target
              cases target
              rw [List.mem_singleton] at new
              subst new
              exact (rightful_of_beat reached inHand carries entry).step reached
                stepped
            · cases new
      | unicast dispatch inHand plain settled =>
          cases settled with
          | notConnected _ _ same | closed _ _ _ _ same =>
              exact earlier (same ▸ member)
          | enqueued client entry listens result gains =>
              rw [gains, List.mem_append] at member
              rcases member with old | new
              · exact earlier old
              · split at new
                · rename_i target
                  subst target
                  rw [List.mem_singleton] at new
                  subst new
                  exact (rightful_of_entry reached inHand entry).step reached
                    stepped
                · cases new
    · exact earlier (same ▸ member)

/-- What is true of every message ever enqueued for an edge stream. As it is
true right after the message was enqueued, the stream announced the id and the
Manager or Data session spoke before that. -/
structure EdgeTraffic (state : State) (i : StreamId)
    (message : Tagged ToEdge) : Prop where
  named : message.value.edgeId ≠ ""
  announced :
    message.value.edgeId ∈ announcedIds (state.edges.streams i).received
  origin : Origin (fun session => (state.manager.streams session).sent)
    (fun session => (state.data.streams session).sent) message.source
    message.index message.value
  notFromEdge : ∀ stream, message.source ≠ .edge stream
  notFromHttp : ∀ request, message.source ≠ .http request
  broadcastId : message.value.edgeId = "all" →
    "all" ∈ announcedIds (state.edges.streams i).received

/-- Edges get what is meant for them, and only from those who may send it. -/
theorem edgeTraffic (reachable : system.Reachable state) :
    ∀ i, ∀ message ∈ (state.edges.streams i).outbound.accepted,
      EdgeTraffic state i message := by
  intro i message member
  have inOutbox : message.as (.toEdge message.value.edgeId message.value) ∈
      state.outbox (.edge i) := List.mem_map_of_mem member
  rcases rightful reachable i _ inOutbox with ⟨toEdge, value, announced, origin⟩
  have same : toEdge = message.value := by
    have equal := value
    simp only [Tagged.as, RouterMessage.toEdge.injEq] at equal
    exact equal.2.symm
  subst same
  have said : Origin (fun session => (state.manager.streams session).sent)
      (fun session => (state.data.streams session).sent) message.source
      message.index message.value := by
    apply Origin.mono origin (fun session => ?_) (fun session => ?_)
    · exact ((slotSidesWF reachable).1.streams session).inbound.received_prefix_sent
    · exact ((slotSidesWF reachable).2.streams session).inbound.received_prefix_sent
  refine ⟨(mem_announcedIds.mp announced).1, announced, said, ?_, ?_, ?_⟩
  · intro stream fromEdge
    cases said with
    | command _ _ _ _ source_eq | heartbeat _ _ _ source_eq =>
        rw [fromEdge] at source_eq
        cases source_eq
  · intro request fromHttp
    cases said with
    | command _ _ _ _ source_eq | heartbeat _ _ _ source_eq =>
        rw [fromHttp] at source_eq
        cases source_eq
  · intro all
    exact all ▸ announced

/-- Data session 0 sends a heartbeat and edge 0 gets it under its own id. -/
def heartbeatRun : List Action :=
  [.edge 0 .connect, .edge 0 (.client (.send ⟨"a", none⟩)), .edge 0 .task,
    .edge 0 .task, .data 0 .connect, .data 0 .task,
    .data 0 (.client (.send ⟨some (.heartbeat ⟨none, true⟩)⟩)), .data 0 .task,
    .data 0 .task, .dispatcher [], .dispatcher [("a", 0)],
    .dispatcher [], .dispatcher []]

theorem edgeTraffic_heartbeatRun :
    ∃ last, system.runFrom start heartbeatRun = some last ∧
      (last.edges.streams 0).outbound.accepted.length = 1 ∧
      ∀ i, ∀ message ∈ (last.edges.streams i).outbound.accepted,
        EdgeTraffic last i message :=
  ⟨_, rfl, rfl, edgeTraffic ⟨heartbeatRun, rfl⟩⟩

end State

end IotRouter.Router
