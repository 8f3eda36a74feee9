import IotRouter.Router.Pipeline

/-!
# From the dispatcher to the clients

What each step of the dispatcher does to the outbound channels. A message that
is not a heartbeat is settled in one step: the channel that the table holds for
its destination takes it, or is closed, or there is none. A heartbeat goes, under
each key of the map, into the channel held for that key.
-/

namespace IotRouter.Router

open IotRouter.Grpc IotRouter.Https IotRouter.Runtime

/-- A stream of one of the three services, as the receiver of messages. -/
inductive Client where
  | edge (stream : StreamId)
  | manager (session : StreamId)
  | data (session : StreamId)
  deriving DecidableEq, Repr

/-- The client that a sender found for a message feeds. -/
def recipient : RouterMessage → StreamId → Client
  | .toEdge _ _, tx => .edge tx
  | .toManager _, tx => .manager tx
  | .toData _, tx => .data tx

namespace Side

variable {Value Task In Out Op : Type}
variable {side side' : Side Value Task In Out Op}

/-- A delivery adds one message to one channel, which is open. -/
theorem accepted_deliver {tx : StreamId} {message : Tagged Out}
    (sent : side.deliver tx message = .sent side') :
    (side.streams tx).outbound.isOpen = true ∧
      ∀ j, (side'.streams j).outbound.accepted =
        (side.streams j).outbound.accepted ++
          if j = tx then [message] else [] := by
  rcases deliver_eq_sent.mp sent with ⟨outbound, accepted, rfl⟩
  rcases Channel.send_eq_sent.mp accepted with ⟨isOpen, room, rfl⟩
  refine ⟨isOpen, fun j => ?_⟩
  by_cases target : j = tx
  · subst target
    simp
  · rw [side.setStream_of_ne target, if_neg target, List.append_nil]

/-- A unicast delivers the message exactly if the channel is open. -/
theorem accepted_unicast {tx : StreamId} {message : Tagged Out}
    {delivered : Bool}
    (returned : side.unicast tx message = some (side', delivered)) :
    (side.streams tx).outbound.isOpen = delivered ∧
      ∀ j, (side'.streams j).outbound.accepted =
        (side.streams j).outbound.accepted ++
          if delivered = true ∧ j = tx then [message] else [] := by
  rcases unicast_eq_some.mp returned with
    ⟨middle, sent, rfl, rfl⟩ | ⟨closed, rfl, rfl⟩
  · rcases accepted_deliver sent with ⟨isOpen, accepted⟩
    refine ⟨isOpen, fun j => ?_⟩
    simp only [true_and]
    exact accepted j
  · exact ⟨deliver_eq_closed.mp closed, fun j => by simp [release]⟩

theorem accepted_lookUp {entry : Value → Option StreamId}
    {found : Option StreamId}
    (looked : side.lookUp entry = some (side', found)) :
    found = entry side.lock.value ∧ side'.streams = side.streams := by
  rcases lookUp_eq_some.mp looked with ⟨lock, acquired, same, rfl⟩
  rcases RwLock.acquire_eq_some.mp acquired with ⟨_, _, rfl⟩
  exact ⟨same, rfl⟩

end Side

namespace State

/-- The sender the table holds for a message, as a client. -/
def entry (state : State) (message : RouterMessage) : Option Client :=
  (state.held message).map (recipient message)

/-- The client has connected. -/
def Connected (state : State) : Client → Prop
  | .edge i => (state.edges.streams i).task.pc ≠ .idle
  | .manager i => (state.manager.streams i).task ≠ .idle
  | .data i => (state.data.streams i).task ≠ .idle

/-- The receiver of the client's outbound channel has not been dropped. -/
def listens (state : State) : Client → Bool
  | .edge i => (state.edges.streams i).outbound.isOpen
  | .manager i => (state.manager.streams i).outbound.isOpen
  | .data i => (state.data.streams i).outbound.isOpen

/-- Everything the client's outbound channel ever took, in order, with its
provenance. -/
def outbox (state : State) : Client → List (Tagged RouterMessage)
  | .edge i => (state.edges.streams i).outbound.accepted.map fun message =>
      message.as (.toEdge message.value.edgeId message.value)
  | .manager i => (state.manager.streams i).outbound.accepted.map fun message =>
      message.as (.toManager message.value)
  | .data i => (state.data.streams i).outbound.accepted.map fun message =>
      message.as (.toData message.value)

/-- One message goes to one client, or none to anyone. -/
def Gains (state next : State) (client : Client)
    (message : Tagged RouterMessage) : Prop :=
  ∀ other, next.outbox other =
    state.outbox other ++ if other = client then [message] else []

/-- The three ends of a message that is not a heartbeat. -/
inductive Settled (state next : State) (dispatch : Dispatch) : Prop where
  | enqueued (client : Client)
      (entry : state.entry dispatch.message.value = some client)
      (listens : state.listens client = true)
      (result : dispatch.result = .unicast (.ok ()))
      (gains : Gains state next client dispatch.message)
  | notConnected (entry : state.entry dispatch.message.value = none)
      (result : dispatch.result =
        .unicast (.error (notConnectedError dispatch.message.value)))
      (same : next.outbox = state.outbox)
  | closed (client : Client)
      (entry : state.entry dispatch.message.value = some client)
      (listens : state.listens client = false)
      (result : dispatch.result =
        .unicast (.error (closedError dispatch.message.value)))
      (same : next.outbox = state.outbox)

/-- What a dispatcher step does to the outbound channels and to the record of
its work. -/
inductive DispatchEffect (state next : State) : Prop where
  | quiet (same : next.outbox = state.outbox)
      (dispatched : next.dispatched = state.dispatched)
  /-- One heartbeat of a broadcast. -/
  | beat (message : Tagged RouterMessage) (heartbeat : Heartbeat)
      (edgeId : String) (tx : StreamId)
      (inHand : message ∈ state.dispatcher.inHand)
      (carries : heartbeatOf message.value = some heartbeat)
      (entry : state.edges.lock.value.lookup edgeId = some tx)
      (gains : Gains state next (.edge tx) (message.as
        (.toEdge edgeId { edgeId, payload := some (.heartbeat heartbeat) })))
      (dispatched : next.dispatched = state.dispatched)
  | unicast (dispatch : Dispatch)
      (inHand : dispatch.message ∈ state.dispatcher.inHand)
      (plain : heartbeatOf dispatch.message.value = none)
      (settled : Settled state next dispatch)
      (dispatched : next.dispatched = state.dispatched ++ [dispatch])
  | broadcast (dispatch : Dispatch)
      (inHand : dispatch.message ∈ state.dispatcher.inHand)
      (carries : heartbeatOf dispatch.message.value ≠ none)
      (same : next.outbox = state.outbox)
      (dispatched : next.dispatched = state.dispatched ++ [dispatch])

/-- A message for an edge is the translation of what a Manager or a Data session
said: edges and posted alerts speak to the Manager and to Data only. -/
theorem Pipeline.toEdge_translated {state : State} (wf : Pipeline state)
    {message : Tagged RouterMessage} {destination : String} {toEdge : ToEdge}
    (member : message ∈ state.central.accepted)
    (value : message.value = .toEdge destination toEdge) :
    (∃ session msg, message.source = .manager session ∧
      (state.manager.streams session).received[message.index]? = some msg ∧
      processFromManager msg = some (.toEdge destination toEdge)) ∨
    ∃ session msg, message.source = .data session ∧
      (state.data.streams session).received[message.index]? = some msg ∧
      processFromData msg = some (.toEdge destination toEdge) := by
  have genuine := wf.genuine member
  rw [value] at genuine
  cases source : message.source with
  | edge i =>
      rw [source] at genuine
      simp only [image, List.getElem?_map, Option.map_eq_some_iff, edgeImage]
        at genuine
      rcases genuine with ⟨msg, _, translated⟩
      split at translated
      · cases translated
      · rcases processFromEdge_eq_some translated with ⟨out, same⟩ | ⟨out, same⟩
        · cases same
        · cases same
  | manager i =>
      rw [source] at genuine
      simp only [image, List.getElem?_map, Option.map_eq_some_iff] at genuine
      rcases genuine with ⟨msg, said, translated⟩
      exact Or.inl ⟨i, msg, rfl, said, translated⟩
  | data i =>
      rw [source] at genuine
      simp only [image, List.getElem?_map, Option.map_eq_some_iff] at genuine
      rcases genuine with ⟨msg, said, translated⟩
      exact Or.inr ⟨i, msg, rfl, said, translated⟩
  | http i =>
      rw [source] at genuine
      simp only [image, List.getElem?_map, Option.map_eq_some_iff,
        Option.some.injEq] at genuine
      rcases genuine with ⟨posted, found, rfl⟩
      rcases (wf.http i).toData _ (List.mem_of_getElem? found) with
        ⟨alert, same⟩
      cases same

/-- The address on the envelope is the address inside the message. -/
theorem Pipeline.addressed {state : State} (wf : Pipeline state)
    {message : Tagged RouterMessage} {destination : String} {toEdge : ToEdge}
    (member : message ∈ state.central.accepted)
    (value : message.value = .toEdge destination toEdge) :
    toEdge.edgeId = destination := by
  rcases wf.toEdge_translated member value with
    ⟨_, _, _, _, translated⟩ | ⟨_, _, _, _, translated⟩
  · rcases processFromManager_eq_some translated with ⟨_, out, _, _, _, same⟩
    cases same
    rfl
  · rcases processFromData_eq_some translated with ⟨heartbeat, _, same⟩
    cases same
    rfl

/-! ## The steps of the dispatcher -/

section Outbox

variable {state next : State}

/-- No channel took anything. -/
theorem outbox_same
    (edges : ∀ j, (next.edges.streams j).outbound.accepted =
      (state.edges.streams j).outbound.accepted)
    (manager : ∀ j, (next.manager.streams j).outbound.accepted =
      (state.manager.streams j).outbound.accepted)
    (data : ∀ j, (next.data.streams j).outbound.accepted =
      (state.data.streams j).outbound.accepted) :
    next.outbox = state.outbox := by
  funext client
  cases client <;> simp only [outbox, edges, manager, data]

theorem gains_edge {tx : StreamId} {message : Tagged RouterMessage}
    (toEdge : ToEdge)
    (edges : ∀ j, (next.edges.streams j).outbound.accepted =
      (state.edges.streams j).outbound.accepted ++
        if j = tx then [message.as toEdge] else [])
    (manager : next.manager.streams = state.manager.streams)
    (data : next.data.streams = state.data.streams) :
    Gains state next (.edge tx)
      (message.as (.toEdge toEdge.edgeId toEdge)) := by
  intro other
  cases other with
  | edge j =>
      by_cases target : j = tx <;> simp [outbox, edges, target, Tagged.as]
  | manager j => simp [outbox, manager]
  | data j => simp [outbox, data]

theorem gains_manager {tx : StreamId} {message : Tagged RouterMessage}
    {toManager : ToManager}
    (edges : next.edges.streams = state.edges.streams)
    (manager : ∀ j, (next.manager.streams j).outbound.accepted =
      (state.manager.streams j).outbound.accepted ++
        if j = tx then [message.as toManager] else [])
    (data : next.data.streams = state.data.streams) :
    Gains state next (.manager tx) (message.as (.toManager toManager)) := by
  intro other
  cases other with
  | edge j => simp [outbox, edges]
  | manager j =>
      by_cases target : j = tx <;> simp [outbox, manager, target, Tagged.as]
  | data j => simp [outbox, data]

theorem gains_data {tx : StreamId} {message : Tagged RouterMessage}
    {toData : ToDataSaver}
    (edges : next.edges.streams = state.edges.streams)
    (manager : next.manager.streams = state.manager.streams)
    (data : ∀ j, (next.data.streams j).outbound.accepted =
      (state.data.streams j).outbound.accepted ++
        if j = tx then [message.as toData] else []) :
    Gains state next (.data tx) (message.as (.toData toData)) := by
  intro other
  cases other with
  | edge j => simp [outbox, edges]
  | manager j => simp [outbox, manager]
  | data j =>
      by_cases target : j = tx <;> simp [outbox, data, target, Tagged.as]

/-- Relabelling a message with its own value changes nothing. -/
theorem as_value {message : Tagged RouterMessage} {value : RouterMessage}
    (same : message.value = value) : message.as value = message := by
  subst same
  rfl

/-- The effect of a lookup: nothing yet if there is an entry, an error if there
is none. -/
theorem lookUp_effect {after : State} {message : Tagged RouterMessage}
    {found : Option StreamId} (inHand : message ∈ state.dispatcher.inHand)
    (plain : heartbeatOf message.value = none)
    (entry : found = state.held message.value)
    (same : after.outbox = state.outbox)
    (records : after.dispatched = state.dispatched) :
    DispatchEffect state (after.finishLookUp message found) := by
  cases found with
  | some tx => exact .quiet same records
  | none =>
      have absent : state.entry message.value = none := by
        rw [State.entry, ← entry]
        rfl
      let dispatch : Dispatch :=
        ⟨message, .unicast (.error (notConnectedError message.value))⟩
      have records : (after.finishLookUp message none).dispatched =
          state.dispatched ++ [dispatch] := by
        rw [← records]
        rfl
      exact .unicast dispatch inHand plain (.notConnected absent rfl same)
        records

/-- The effect of a send: the channel took the message, or it was closed. -/
theorem send_effect {after : State} {message : Tagged RouterMessage}
    {client : Client} {delivered : Bool}
    (inHand : message ∈ state.dispatcher.inHand)
    (plain : heartbeatOf message.value = none)
    (entry : state.entry message.value = some client)
    (listens : state.listens client = delivered)
    (gains : delivered = true → Gains state after client message)
    (same : delivered = false → after.outbox = state.outbox)
    (records : after.dispatched = state.dispatched) :
    DispatchEffect state (after.finishSend message delivered) := by
  cases delivered with
  | true =>
      let dispatch : Dispatch := ⟨message, .unicast (.ok ())⟩
      have records : (after.finishSend message true).dispatched =
          state.dispatched ++ [dispatch] := by
        rw [← records]
        rfl
      exact .unicast dispatch inHand plain
        (.enqueued client entry listens rfl (gains rfl)) records
  | false =>
      let dispatch : Dispatch :=
        ⟨message, .unicast (.error (closedError message.value))⟩
      have records : (after.finishSend message false).dispatched =
          state.dispatched ++ [dispatch] := by
        rw [← records]
        rfl
      exact .unicast dispatch inHand plain
        (.closed client entry listens rfl (same rfl)) records

end Outbox

/-- The dispatcher settles one message, sends one heartbeat, or touches no
channel. -/
theorem DispatchStep.effect {state next : State}
    {order : List (String × StreamId)}
    (stepped : DispatchStep state order next) (wf : Pipeline state)
    (routed : Routed state) : DispatchEffect state next := by
  cases stepped with
  | receive message central idle received =>
      simp only [route]
      split <;> exact .quiet rfl rfl
  | lookUpEdge message destination toEdge edges found at_ value plain looked =>
      rcases Side.accepted_lookUp looked with ⟨entry, streams⟩
      apply lookUp_effect (by simp [at_, Dispatcher.inHand])
        (by simp [heartbeatOf, value, plain])
      · rw [entry, value]
        rfl
      · exact outbox_same (fun j => by rw [streams]) (fun _ => rfl)
          (fun _ => rfl)
      · rfl
  | lookUpManager message toManager manager found at_ value looked =>
      rcases Side.accepted_lookUp looked with ⟨entry, streams⟩
      apply lookUp_effect (by simp [at_, Dispatcher.inHand])
        (by simp [heartbeatOf, value])
      · rw [entry, value]
        rfl
      · exact outbox_same (fun _ => rfl) (fun j => by rw [streams])
          (fun _ => rfl)
      · rfl
  | lookUpData message toData data found at_ value looked =>
      rcases Side.accepted_lookUp looked with ⟨entry, streams⟩
      apply lookUp_effect (by simp [at_, Dispatcher.inHand])
        (by simp [heartbeatOf, value])
      · rw [entry, value]
        rfl
      · exact outbox_same (fun _ => rfl) (fun _ => rfl)
          (fun j => by rw [streams])
      · rfl
  | startBroadcast message destination toEdge heartbeat lock at_ value beat
      acquired iterates =>
      exact .quiet rfl rfl
  | sendEdge message destination toEdge tx edges delivered at_ value sent =>
      rcases Side.accepted_unicast sent with ⟨isOpen, accepted⟩
      have inHand : message ∈ state.dispatcher.inHand := by
        simp [at_, Dispatcher.inHand]
      have address := wf.addressed (wf.inHand_accepted inHand) value
      simp only [Routed, at_] at routed
      have entry : state.entry message.value = some (.edge tx) := by
        rw [State.entry, routed.2, value]
        rfl
      apply send_effect inHand routed.1 entry isOpen
      · intro equal
        subst equal
        simp only [true_and] at accepted
        have gains : Gains state { state with edges } (.edge tx)
            (message.as (.toEdge toEdge.edgeId toEdge)) :=
          gains_edge toEdge accepted rfl rfl
        rwa [address, as_value value] at gains
      · intro equal
        subst equal
        refine outbox_same ?_ (fun _ => rfl) (fun _ => rfl)
        simpa using accepted
      · rfl
  | sendManager message toManager tx manager delivered at_ value sent =>
      rcases Side.accepted_unicast sent with ⟨isOpen, accepted⟩
      have inHand : message ∈ state.dispatcher.inHand := by
        simp [at_, Dispatcher.inHand]
      simp only [Routed, at_] at routed
      have entry : state.entry message.value = some (.manager tx) := by
        rw [State.entry, routed.2, value]
        rfl
      apply send_effect inHand routed.1 entry isOpen
      · intro equal
        subst equal
        simp only [true_and] at accepted
        have gains : Gains state { state with manager } (.manager tx)
            (message.as (.toManager toManager)) :=
          gains_manager rfl accepted rfl
        rwa [as_value value] at gains
      · intro equal
        subst equal
        refine outbox_same (fun _ => rfl) ?_ (fun _ => rfl)
        simpa using accepted
      · rfl
  | sendData message toData tx data delivered at_ value sent =>
      rcases Side.accepted_unicast sent with ⟨isOpen, accepted⟩
      have inHand : message ∈ state.dispatcher.inHand := by
        simp [at_, Dispatcher.inHand]
      simp only [Routed, at_] at routed
      have entry : state.entry message.value = some (.data tx) := by
        rw [State.entry, routed.2, value]
        rfl
      apply send_effect inHand routed.1 entry isOpen
      · intro equal
        subst equal
        simp only [true_and] at accepted
        have gains : Gains state { state with data } (.data tx)
            (message.as (.toData toData)) :=
          gains_data rfl rfl accepted
        rwa [as_value value] at gains
      · intro equal
        subst equal
        refine outbox_same (fun _ => rfl) (fun _ => rfl) ?_
        simpa using accepted
      · rfl
  | broadcastSent message heartbeat edgeId tx rest sentCount edges at_ sent =>
      rcases Side.accepted_deliver sent with ⟨_, accepted⟩
      have gains : Gains state { state with edges } (.edge tx) (message.as
          (.toEdge edgeId { edgeId, payload := some (.heartbeat heartbeat) })) :=
        gains_edge { edgeId, payload := some (.heartbeat heartbeat) } accepted
          rfl rfl
      simp only [Routed, at_] at routed
      exact .beat message heartbeat edgeId tx (by simp [at_, Dispatcher.inHand])
        routed.1 (routed.2 (edgeId, tx) List.mem_cons_self)
        gains rfl
  | broadcastClosed => exact .quiet rfl rfl
  | finishBroadcast message heartbeat sentCount at_ =>
      simp only [Routed, at_] at routed
      exact .broadcast _ (by simp [at_, Dispatcher.inHand])
        (by simp [routed.1]) rfl rfl

end State

/-! ## The steps of the others -/

theorem Stream.client_accepted {Task In Out : Type}
    {stream stream' : Stream Task In Out} {action : ClientAction In}
    (acted : stream.client action = some stream') :
    stream'.outbound.accepted = stream.outbound.accepted := by
  cases action with
  | send | close | reset | dropReceiver =>
      simp only [client] at acted
      split at acted <;> cases acted
      rfl
  | drain =>
      rcases Option.map_eq_some_iff.mp acted with
        ⟨⟨value, outbound⟩, received, rfl⟩
      exact (Channel.receive_eq_some.mp received).2.1

/-- A stream that connects gets a channel of its own; no other step of a stream
makes its channel take or forget anything. -/
theorem EdgeStep.accepted {central central' : Central} {side side' : EdgeSide}
    {i : StreamId} {action : StreamAction FromEdge}
    (stepped : EdgeStep central side i action central' side')
    (unused : (side.streams i).task.pc = .idle →
      (side.streams i).outbound.accepted = []) (j : StreamId) :
    (side'.streams j).outbound.accepted =
      (side.streams j).outbound.accepted := by
  by_cases own : j = i
  · subst own
    cases stepped with
    | connect idle => simp [Stream.fresh, unused idle]
    | client act stream live acted =>
        rw [Side.setStream_self]
        exact Stream.client_accepted acted
    | skip | read | leave | vanish | register | forward | discard
    | unregister => simp
  · rw [stepped.streams_of_ne own]

theorem SessionStep.accepted {In Out : Type} {service : SlotService In}
    {central central' : Central} {side side' : SlotSide In Out} {i : StreamId}
    {action : StreamAction In}
    (stepped : SessionStep service central side i action central' side')
    (unused : (side.streams i).task = .idle →
      (side.streams i).outbound.accepted = []) (j : StreamId) :
    (side'.streams j).outbound.accepted =
      (side.streams j).outbound.accepted := by
  by_cases own : j = i
  · subst own
    cases stepped with
    | connect idle => simp [Stream.fresh, unused idle]
    | client act stream live acted =>
        rw [Side.setStream_self]
        exact Stream.client_accepted acted
    | abort => simp [Side.setStream]
    | register | read | leave | forward | discard | unregister => simp
  · rw [stepped.streams_of_ne own]

/-- Every step of an edge stream leaves it connected. -/
theorem EdgeStep.pc_ne_idle {central central' : Central} {side side' : EdgeSide}
    {i : StreamId} {action : StreamAction FromEdge}
    (stepped : EdgeStep central side i action central' side') :
    (side'.streams i).task.pc ≠ .idle := by
  cases stepped with
  | client act stream live acted =>
      rw [Side.setStream_self, (Stream.client_frame acted).1]
      exact live
  | register index msg lock pc written =>
      rw [Side.setStream_self]
      split <;> simp
  | skip msg rest pc => simp [pc]
  | connect | read | leave | vanish | forward | discard | unregister =>
      simp [Stream.fresh]

namespace State

variable {state next : State} {action : Action}

/-- A client never disconnects for good: its stream stays known. -/
theorem connected_step (stepped : system.step state action = some next)
    {client : Client} (connected : state.Connected client) :
    next.Connected client := by
  cases client with
  | edge j =>
      rcases step_edges stepped with ⟨i, act, _, inner⟩ | ⟨_, served⟩
      · by_cases own : j = i
        · subst own
          exact inner.pc_ne_idle
        · simpa [Connected, inner.streams_of_ne own] using connected
      · simpa [Connected, served.task] using connected
  | manager j =>
      rcases step_manager stepped with ⟨i, act, _, inner⟩ | ⟨_, served⟩
      · by_cases own : j = i
        · subst own
          exact inner.task_ne_idle
        · simpa [Connected, inner.streams_of_ne own] using connected
      · simpa [Connected, served.task] using connected
  | data j =>
      rcases step_data stepped with ⟨i, act, _, inner⟩ | ⟨_, served⟩
      · by_cases own : j = i
        · subst own
          exact inner.task_ne_idle
        · simpa [Connected, inner.streams_of_ne own] using connected
      · simpa [Connected, served.task] using connected

/-- The table holds senders of connected clients only. -/
theorem entry_connected (reachable : system.Reachable state)
    {message : RouterMessage} {client : Client}
    (entry : state.entry message = some client) : state.Connected client := by
  rcases Option.map_eq_some_iff.mp entry with ⟨tx, found, rfl⟩
  cases message with
  | toEdge destination toEdge =>
      exact (edgeSideWF reachable).owner_connected found
  | toManager toManager => exact ((slotSidesWF reachable).1.owned tx found).1
  | toData toData => exact ((slotSidesWF reachable).2.owned tx found).1

/-- Nothing has been enqueued for a client that never connected. -/
def Unused (state : State) : Prop :=
  ∀ client, ¬state.Connected client → state.outbox client = []

/-- A message goes to a client that has connected. -/
theorem Unused.gains {client : Client} {message : Tagged RouterMessage}
    (unused : Unused state) (connected : state.Connected client)
    (gains : Gains state next client message)
    (stays : ∀ other, state.Connected other → next.Connected other) :
    Unused next := by
  intro other idle
  have before : ¬state.Connected other := mt (stays other) idle
  have different : other ≠ client := fun same => before (same ▸ connected)
  rw [gains other, if_neg different, List.append_nil]
  exact unused other before

/-- A step that is not the dispatcher's makes no channel take anything. -/
theorem outbox_of_source (unused : Unused state)
    (stepped : system.step state action = some next)
    (other : ∀ order, action ≠ .dispatcher order) :
    next.outbox = state.outbox ∧ next.dispatched = state.dispatched := by
  have idle_edge : ∀ i, (state.edges.streams i).task.pc = .idle →
      (state.edges.streams i).outbound.accepted = [] := by
    intro i idle
    exact List.map_eq_nil_iff.mp
      (unused (.edge i) (fun connected => connected idle))
  have idle_manager : ∀ i, (state.manager.streams i).task = .idle →
      (state.manager.streams i).outbound.accepted = [] := by
    intro i idle
    exact List.map_eq_nil_iff.mp
      (unused (.manager i) (fun connected => connected idle))
  have idle_data : ∀ i, (state.data.streams i).task = .idle →
      (state.data.streams i).outbound.accepted = [] := by
    intro i idle
    exact List.map_eq_nil_iff.mp
      (unused (.data i) (fun connected => connected idle))
  cases step_cases stepped with
  | edge i act central edges inner =>
      exact ⟨outbox_same (inner.accepted (idle_edge i)) (fun _ => rfl)
        (fun _ => rfl), rfl⟩
  | manager i act central manager inner =>
      exact ⟨outbox_same (fun _ => rfl) (inner.accepted (idle_manager i))
        (fun _ => rfl), rfl⟩
  | data i act central data inner =>
      exact ⟨outbox_same (fun _ => rfl) (fun _ => rfl)
        (inner.accepted (idle_data i)), rfl⟩
  | http => exact ⟨rfl, rfl⟩
  | dispatcher order => exact absurd rfl (other order)

theorem unused (reachable : system.Reachable state) : Unused state := by
  apply System.invariant Unused ?_ ?_ reachable
  · intro client _
    cases client <;> rfl
  · intro state next action reached unused stepped
    have stays : ∀ other, state.Connected other → next.Connected other :=
      fun other connected => connected_step stepped connected
    have same : next.outbox = state.outbox → Unused next := by
      intro same client idle
      rw [same]
      exact unused client (mt (stays client) idle)
    cases step_cases stepped with
    | edge | manager | data | http =>
        exact same (outbox_of_source unused stepped (by simp)).1
    | dispatcher order next inner =>
        cases inner.effect (pipeline reached) (routed reached) with
        | quiet unchanged => exact same unchanged
        | beat message heartbeat edgeId tx inHand carries entry gains =>
            have connected : state.Connected (.edge tx) :=
              (edgeSideWF reached).owner_connected entry
            exact unused.gains connected gains stays
        | unicast dispatch inHand plain settled =>
            cases settled with
            | enqueued client entry listens result gains =>
                exact unused.gains (entry_connected reached entry) gains stays
            | notConnected entry result unchanged => exact same unchanged
            | closed client entry listens result unchanged =>
                exact same unchanged
        | broadcast dispatch inHand carries unchanged => exact same unchanged

/-- What a step of the router does to the outbound channels. -/
theorem step_effect (reachable : system.Reachable state)
    (stepped : system.step state action = some next) :
    (∃ order, action = .dispatcher order ∧ DispatchEffect state next) ∨
      ((∀ order, action ≠ .dispatcher order) ∧
        next.outbox = state.outbox ∧ next.dispatched = state.dispatched) := by
  cases step_cases stepped with
  | edge | manager | data | http =>
      exact Or.inr ⟨by simp, outbox_of_source (unused reachable) stepped (by simp)⟩
  | dispatcher order next inner =>
      exact Or.inl ⟨order, rfl,
        inner.effect (pipeline reachable) (routed reachable)⟩

/-- A step that finishes a message which is no heartbeat has settled it. -/
theorem settled_of_recorded (reachable : system.Reachable state)
    (stepped : system.step state action = some next) {dispatch : Dispatch}
    (records : next.dispatched = state.dispatched ++ [dispatch])
    (plain : heartbeatOf dispatch.message.value = none) :
    dispatch.message ∈ state.dispatcher.inHand ∧
      Settled state next dispatch := by
  have unique : ∀ {other : Dispatch},
      next.dispatched = state.dispatched ++ [other] → other = dispatch := by
    intro other appended
    have equal := appended.symm.trans records
    simpa using equal
  rcases step_effect reachable stepped with ⟨_, _, effect⟩ | ⟨_, _, unchanged⟩
  · cases effect with
    | quiet _ unchanged | beat _ _ _ _ _ _ _ _ unchanged =>
        rw [unchanged] at records
        simp at records
    | unicast other inHand quiet settled appended =>
        cases unique appended
        exact ⟨inHand, settled⟩
    | broadcast other inHand carries unchanged appended =>
        cases unique appended
        exact absurd plain carries
  · rw [unchanged] at records
    simp at records

end State

end IotRouter.Router
