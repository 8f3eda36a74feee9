import IotRouter.Router.Waiting

/-!
# The dispatcher and the clients that drain

While the dispatcher holds a read guard it is sending: it goes on as soon as the
channel in front of it has room or is closed, and nothing else can move it. A
drain makes room and disturbs nobody. A suspended dispatcher stays suspended
until the client drains or drops its receiver.
-/

namespace IotRouter.Router

open IotRouter.Grpc IotRouter.Https IotRouter.Runtime

namespace Side

variable {Value Task In Out Op : Type}
variable {side side' : Side Value Task In Out Op}

/-- A unicast has to wait exactly if the channel is open and full. -/
theorem unicast_eq_none {tx : StreamId} {message : Tagged Out} :
    side.unicast tx message = none ↔
      (side.streams tx).outbound.isOpen = true ∧
        100 ≤ (side.streams tx).outbound.queue.length := by
  rw [← deliver_eq_full message]
  simp only [unicast]
  split <;> rename_i attempt <;> simp [attempt]

theorem unicast_queue {tx : StreamId} {message : Tagged Out} {delivered : Bool}
    (returned : side.unicast tx message = some (side', delivered)) :
    side'.lock.queue = side.lock.queue := by
  rcases unicast_eq_some.mp returned with ⟨middle, sent, _, rfl⟩ | ⟨_, _, rfl⟩
  · rcases deliver_eq_sent.mp sent with ⟨outbound, _, rfl⟩
    rfl
  · rfl

theorem lookUp_queue {entry : Value → Option StreamId}
    {found : Option StreamId}
    (looked : side.lookUp entry = some (side', found)) :
    ∃ rest, side.lock.queue = (.dispatcher, .read) :: rest ∧
      side'.lock.queue = rest := by
  rcases lookUp_eq_some.mp looked with ⟨lock, acquired, _, rfl⟩
  rcases RwLock.acquire_eq_some.mp acquired with ⟨rest, queue, rfl⟩
  refine ⟨rest, queue, ?_⟩
  split <;> rfl

end Side

namespace State

variable {state next : State}

/-! ## Steps of the dispatcher -/

/-- No dispatcher step ends or begins the wait of a stream. -/
theorem DispatchStep.pending {order : List (String × StreamId)}
    (stepped : DispatchStep state order next) :
    next.pending = state.pending := by
  rcases stepped.served with ⟨edges, manager, data, _⟩
  funext lock i
  cases lock with
  | edges => simp only [State.pending, edges.task]
  | manager => simp only [State.pending, manager.task]
  | data => simp only [State.pending, data.task]

/-- A dispatcher that holds a guard sends once and comes closer to receiving
again. -/
theorem DispatchStep.sends {order : List (String × StreamId)}
    (stepped : DispatchStep state order next) {lock : TableLock}
    (holds : state.dispatcher.Holds lock) :
    Undisturbed state next ∧
      next.dispatcher.remaining < state.dispatcher.remaining ∧
      (next.dispatcher.Holds lock ∨ next.dispatcher = .receiving) := by
  have pending := stepped.pending
  cases stepped with
  | receive message central at_ => simp [at_] at holds
  | lookUpEdge _ _ _ _ _ at_ => simp [at_] at holds
  | lookUpManager _ _ _ _ at_ => simp [at_] at holds
  | lookUpData _ _ _ _ at_ => simp [at_] at holds
  | startBroadcast _ _ _ _ _ at_ => simp [at_] at holds
  | sendEdge message destination toEdge tx edges delivered at_ value sent =>
      refine ⟨⟨?_, pending, rfl⟩, by simp [at_, Dispatcher.remaining, finishSend,
        finish], Or.inr rfl⟩
      funext other
      cases other <;> first | rfl | exact Side.unicast_queue sent
  | sendManager message toManager tx manager delivered at_ value sent =>
      refine ⟨⟨?_, pending, rfl⟩, by simp [at_, Dispatcher.remaining, finishSend,
        finish], Or.inr rfl⟩
      funext other
      cases other <;> first | rfl | exact Side.unicast_queue sent
  | sendData message toData tx data delivered at_ value sent =>
      refine ⟨⟨?_, pending, rfl⟩, by simp [at_, Dispatcher.remaining, finishSend,
        finish], Or.inr rfl⟩
      funext other
      cases other <;> first | rfl | exact Side.unicast_queue sent
  | broadcastSent message heartbeat edgeId tx rest sentCount edges at_ sent =>
      rw [at_, holds_broadcasting] at holds
      refine ⟨⟨?_, pending, rfl⟩, by simp [at_, Dispatcher.remaining],
        Or.inl (by simp [holds])⟩
      rcases Side.deliver_eq_sent.mp sent with ⟨outbound, _, rfl⟩
      funext other
      cases other <;> rfl
  | broadcastClosed message heartbeat edgeId tx rest sentCount at_ closed =>
      rw [at_, holds_broadcasting] at holds
      exact ⟨⟨rfl, pending, rfl⟩, by simp [at_, Dispatcher.remaining],
        Or.inl (by simp [holds])⟩
  | finishBroadcast message heartbeat sentCount at_ =>
      refine ⟨⟨?_, pending, rfl⟩, by simp [at_, Dispatcher.remaining, finish],
        Or.inr rfl⟩
      funext other
      cases other <;> rfl

theorem exists_map_eq_some {α β : Type} {attempt : Option α} {goOn : α → β} :
    (∃ next, attempt.map goOn = some next) ↔ attempt ≠ none := by
  cases attempt <;> simp

/-- A dispatcher that holds a guard can step exactly if it is not suspended. -/
theorem dispatch_enabled {lock : TableLock}
    (holds : state.dispatcher.Holds lock) (order : List (String × StreamId)) :
    (∃ next, system.step state (.dispatcher order) = some next) ↔
      ∀ client, state.dispatcher.target = some client → ¬state.Full client := by
  simp only [system, step]
  cases at_ : state.dispatcher with
  | receiving | lookingUp => simp [at_] at holds
  | sending message tx =>
      simp only [Dispatcher.target, Option.some.injEq, forall_eq', dispatch, at_]
      cases value : message.value <;>
        exact exists_map_eq_some.trans (not_congr Side.unicast_eq_none)
  | broadcasting message heartbeat rest sentCount =>
      cases rest with
      | nil => simp [dispatch, at_, Dispatcher.target]
      | cons entry rest =>
          rcases entry with ⟨edgeId, tx⟩
          simp only [Dispatcher.target, Option.some.injEq, forall_eq', dispatch,
            at_]
          split <;> rename_i attempt
          · have full : ¬state.Full (.edge tx) := by
              intro full
              rw [(Side.deliver_eq_full _).mpr full] at attempt
              cases attempt
            simp [full]
          · have full : ¬state.Full (.edge tx) := by
              intro full
              rw [(Side.deliver_eq_full _).mpr full] at attempt
              cases attempt
            simp [full]
          · have full : state.Full (.edge tx) := (Side.deliver_eq_full _).mp attempt
            simp [full]

/-- A dispatcher that was first in line has left the line. It holds the guard, or
is done because there is no entry. -/
theorem DispatchStep.looks {order : List (String × StreamId)}
    (stepped : DispatchStep state order next) {lock : TableLock}
    (looks : state.dispatcher.LooksAt lock) :
    (∃ rest, state.waiters lock = (.dispatcher, .read) :: rest ∧
      next.waiters lock = rest) ∧
    next.central = state.central ∧
    (next.dispatcher.Holds lock ∨ next.dispatcher = .receiving) := by
  cases stepped with
  | lookUpEdge message destination toEdge edges found at_ value plain looked =>
      rw [at_, looksAt_lookingUp, value] at looks
      subst looks
      refine ⟨?_, ?_, ?_⟩
      · cases found <;> exact Side.lookUp_queue looked
      · cases found <;> rfl
      · cases found with
        | none => exact Or.inr rfl
        | some tx => exact Or.inl (by simp [finishLookUp, value])
  | lookUpManager message toManager manager found at_ value looked =>
      rw [at_, looksAt_lookingUp, value] at looks
      subst looks
      refine ⟨?_, ?_, ?_⟩
      · cases found <;> exact Side.lookUp_queue looked
      · cases found <;> rfl
      · cases found with
        | none => exact Or.inr rfl
        | some tx => exact Or.inl (by simp [finishLookUp, value])
  | lookUpData message toData data found at_ value looked =>
      rw [at_, looksAt_lookingUp, value] at looks
      subst looks
      refine ⟨?_, ?_, ?_⟩
      · cases found <;> exact Side.lookUp_queue looked
      · cases found <;> rfl
      · cases found with
        | none => exact Or.inr rfl
        | some tx => exact Or.inl (by simp [finishLookUp, value])
  | startBroadcast message destination toEdge heartbeat lock' at_ value beat
      acquired iterates =>
      rw [at_, looksAt_lookingUp, value] at looks
      subst looks
      rcases RwLock.acquire_eq_some.mp acquired with ⟨rest, queue, rfl⟩
      exact ⟨⟨rest, queue, rfl⟩, rfl, Or.inl rfl⟩
  | receive _ _ at_ | sendEdge _ _ _ _ _ _ at_ | sendManager _ _ _ _ _ at_
  | sendData _ _ _ _ _ at_ | broadcastSent _ _ _ _ _ _ _ at_
  | broadcastClosed _ _ _ _ _ _ at_ | finishBroadcast _ _ _ at_ =>
      simp [at_] at looks

/-- The dispatcher that is first in line looks up the entry of its message. -/
theorem lookUp_step {lock : TableLock} (looks : state.dispatcher.LooksAt lock)
    {rest : List (Party × Access)}
    (line : state.waiters lock = (.dispatcher, .read) :: rest) :
    ∃ order next, system.step state (.dispatcher order) = some next ∧
      next.waiters lock = rest ∧ next.pending = state.pending ∧
      next.central = state.central ∧
      (next.dispatcher.Holds lock ∨ next.dispatcher = .receiving) := by
  have enabled : ∃ order next,
      system.step state (.dispatcher order) = some next := by
    simp only [system, step]
    cases at_ : state.dispatcher with
    | receiving | sending | broadcasting => simp [at_] at looks
    | lookingUp message =>
        rw [at_, looksAt_lookingUp] at looks
        cases value : message.value with
        | toEdge destination toEdge =>
            rw [value] at looks
            subst looks
            have acquired := RwLock.acquire_eq_some.mpr ⟨rest, line, rfl⟩
            cases beat : toEdge.heartbeat? with
            | some heartbeat =>
                refine ⟨state.edges.lock.value.pairs, ?_⟩
                simp [dispatch, at_, value, beat, acquired]
            | none => simp [dispatch, at_, value, beat, Side.lookUp, acquired]
        | toManager toManager =>
            rw [value] at looks
            subst looks
            have acquired := RwLock.acquire_eq_some.mpr ⟨rest, line, rfl⟩
            simp [dispatch, at_, value, Side.lookUp, acquired]
        | toData toData =>
            rw [value] at looks
            subst looks
            have acquired := RwLock.acquire_eq_some.mpr ⟨rest, line, rfl⟩
            simp [dispatch, at_, value, Side.lookUp, acquired]
  rcases enabled with ⟨order, next, stepped⟩
  cases step_cases stepped with
  | dispatcher order next inner =>
      rcases inner.looks looks with ⟨⟨behind, ahead, left⟩, central, dispatcher⟩
      refine ⟨order, next, stepped, ?_, inner.pending, central, dispatcher⟩
      rw [left]
      exact (List.cons.inj (ahead.symm.trans line)).2

/-- The dispatcher receives the oldest message of the central channel. -/
theorem receive_step (idle : state.dispatcher = .receiving)
    {message : Tagged RouterMessage} {rest : List (Tagged RouterMessage)}
    (queue : state.central.queue = message :: rest) :
    ∃ next, system.step state (.dispatcher []) = some next ∧
      next.dispatcher = .lookingUp message ∧ next.central.queue = rest ∧
      next.central.accepted = state.central.accepted := by
  obtain ⟨head, central, received⟩ :=
    Channel.receive_isSome (by rw [queue]; exact List.cons_ne_nil _ _)
  rcases Channel.receive_eq_some.mp received with ⟨heads, accepted, _⟩
  rw [queue] at heads
  rcases List.cons.inj heads with ⟨rfl, rfl⟩
  refine ⟨{ state with central }.route message, ?_, ?_⟩
  · simp [system, step, dispatch, idle, received]
  · simp only [route]
    split <;> exact ⟨rfl, rfl, accepted⟩

/-! ## Clients -/

end State

/-- A client that drains takes the oldest element and nothing else changes. -/
theorem Stream.drain_eq_some {Task In Out : Type} {stream : Stream Task In Out}
    (queued : 0 < stream.outbound.queue.length) :
    ∃ outbound, stream.client .drain = some { stream with outbound } ∧
      outbound.queue.length + 1 = stream.outbound.queue.length := by
  rcases Channel.receive_isSome (List.ne_nil_of_length_pos queued) with
    ⟨value, outbound, received⟩
  rcases Channel.receive_eq_some.mp received with ⟨queue, _⟩
  exact ⟨outbound, by simp [client, received], by simp [queue]⟩

namespace State

variable {state next : State}

/-- What a drain changes. -/
structure Drained (state next : State) (client : Client) : Prop where
  undisturbed : Undisturbed state next
  dispatcher : next.dispatcher = state.dispatcher
  queueLength : next.queueLength client + 1 = state.queueLength client

/-- A stream whose task stays where it is disturbs nobody. -/
theorem Undisturbed.edges {i : StreamId} {stream : EdgeStream}
    (same : stream.task = (state.edges.streams i).task) :
    Undisturbed state { state with edges := state.edges.setStream i stream } := by
  refine ⟨?_, ?_, rfl⟩
  · funext lock
    cases lock <;> rfl
  · funext lock j
    cases lock with
    | edges =>
        by_cases own : j = i
        · subst own
          simp [State.pending, same]
        · simp [State.pending, Side.setStream_of_ne _ own]
    | manager | data => rfl

theorem Undisturbed.manager {i : StreamId}
    {stream : Stream SessionTask FromManager ToManager}
    (same : stream.task = (state.manager.streams i).task) :
    Undisturbed state
      { state with manager := state.manager.setStream i stream } := by
  refine ⟨?_, ?_, rfl⟩
  · funext lock
    cases lock <;> rfl
  · funext lock j
    cases lock with
    | manager =>
        by_cases own : j = i
        · subst own
          simp [State.pending, same]
        · simp [State.pending, Side.setStream_of_ne _ own]
    | edges | data => rfl

theorem Undisturbed.data {i : StreamId}
    {stream : Stream SessionTask FromDataSaver ToDataSaver}
    (same : stream.task = (state.data.streams i).task) :
    Undisturbed state { state with data := state.data.setStream i stream } := by
  refine ⟨?_, ?_, rfl⟩
  · funext lock
    cases lock <;> rfl
  · funext lock j
    cases lock with
    | data =>
        by_cases own : j = i
        · subst own
          simp [State.pending, same]
        · simp [State.pending, Side.setStream_of_ne _ own]
    | edges | manager => rfl

/-- A connected client can drain a channel that is not empty. -/
theorem drain_step {client : Client} (connected : state.Connected client)
    (queued : 0 < state.queueLength client) :
    ∃ next, system.step state (.drain client) = some next ∧
      Drained state next client := by
  cases client with
  | edge i =>
      rcases Stream.drain_eq_some queued with ⟨outbound, drained, length⟩
      have live : (state.edges.streams i).task.pc ≠ .idle := connected
      let stream := { state.edges.streams i with outbound }
      refine ⟨{ state with edges := state.edges.setStream i stream }, ?_,
        .edges rfl, rfl, ?_⟩
      · simp [system, step, Action.drain, EdgeSide.step, live, drained,
          stream]
      · simpa [queueLength, stream] using length
  | manager i =>
      rcases Stream.drain_eq_some queued with ⟨outbound, drained, length⟩
      have live : (state.manager.streams i).task ≠ .idle := connected
      let stream := { state.manager.streams i with outbound }
      refine ⟨{ state with manager := state.manager.setStream i stream }, ?_,
        .manager rfl, rfl, ?_⟩
      · simp [system, step, Action.drain, SlotSide.step, live, drained,
          stream]
      · simpa [queueLength, stream] using length
  | data i =>
      rcases Stream.drain_eq_some queued with ⟨outbound, drained, length⟩
      have live : (state.data.streams i).task ≠ .idle := connected
      let stream := { state.data.streams i with outbound }
      refine ⟨{ state with data := state.data.setStream i stream }, ?_,
        .data rfl, rfl, ?_⟩
      · simp [system, step, Action.drain, SlotSide.step, live, drained,
          stream]
      · simpa [queueLength, stream] using length

/-- No outbound channel holds more than its capacity. -/
theorem queueLength_le (state : State) (client : Client) :
    state.queueLength client ≤ 100 := by
  cases client with
  | edge i => exact (state.edges.streams i).outbound.bounded
  | manager i => exact (state.manager.streams i).outbound.bounded
  | data i => exact (state.data.streams i).outbound.bounded

/-- After a drain there is room. -/
theorem Drained.not_full {client : Client} (drained : Drained state next client) :
    ¬next.Full client := by
  intro full
  have bound := queueLength_le state client
  have gone := drained.queueLength
  have waits := full.2
  omega

/-- The client the dispatcher is sending to has an entry in the table. -/
theorem target_entry (reachable : system.Reachable state) {client : Client}
    (target : state.dispatcher.target = some client) :
    ∃ message, state.entry message = some client := by
  have route := routed reachable
  cases at_ : state.dispatcher with
  | receiving | lookingUp => simp [at_, Dispatcher.target] at target
  | sending message tx =>
      simp only [at_, Dispatcher.target, Option.some.injEq] at target
      simp only [Routed, at_] at route
      refine ⟨message.value, ?_⟩
      rw [entry, route.2, ← target]
      rfl
  | broadcasting message heartbeat rest sentCount =>
      cases rest with
      | nil => simp [at_, Dispatcher.target] at target
      | cons first rest =>
          simp only [at_, Dispatcher.target, Option.some.injEq] at target
          simp only [Routed, at_] at route
          refine ⟨.toEdge first.1 ⟨first.1, none⟩, ?_⟩
          rw [entry, held, route.2 first List.mem_cons_self, ← target]
          rfl

/-- A suspended dispatcher can always be freed by the client it waits for. -/
theorem drain_of_suspended (reachable : system.Reachable state)
    {client : Client} (suspended : state.SuspendedOn client) :
    ∃ next, system.step state (.drain client) = some next ∧
      Drained state next client := by
  rcases target_entry reachable suspended.1 with ⟨message, entry⟩
  have waits := suspended.2.2
  exact drain_step (entry_connected reachable entry) (by omega)

/-! ## A suspended dispatcher -/

end State

theorem Stream.client_outbound {Task In Out : Type}
    {stream stream' : Stream Task In Out} {action : ClientAction In}
    (acted : stream.client action = some stream') (stays : action ≠ .drain)
    (listens : action ≠ .dropReceiver) : stream'.outbound = stream.outbound := by
  cases action with
  | send | close | reset =>
      simp only [client] at acted
      split at acted <;> cases acted
      rfl
  | drain => exact absurd rfl stays
  | dropReceiver => exact absurd rfl listens

theorem Stream.dropReceiver_eq_some {Task In Out : Type}
    {stream stream' : Stream Task In Out}
    (acted : stream.client .dropReceiver = some stream') :
    stream'.outbound.isOpen = false := by
  simp only [client] at acted
  split at acted <;> cases acted
  exact Channel.close_isOpen _

theorem EdgeStep.outbound {central central' : Central} {side side' : EdgeSide}
    {i : StreamId} {action : StreamAction FromEdge}
    (stepped : EdgeStep central side i action central' side')
    (live : (side.streams i).task.pc ≠ .idle)
    (stays : action ≠ .client .drain) (listens : action ≠ .client .dropReceiver) :
    (side'.streams i).outbound = (side.streams i).outbound := by
  cases stepped with
  | connect idle => exact absurd idle live
  | client act stream _ acted =>
      rw [Side.setStream_self]
      exact Stream.client_outbound acted (fun same => stays (same ▸ rfl))
        (fun same => listens (same ▸ rfl))
  | skip | read | leave | vanish | register | forward | discard
  | unregister => simp

theorem SessionStep.outbound {In Out : Type} {service : SlotService In}
    {central central' : Central} {side side' : SlotSide In Out} {i : StreamId}
    {action : StreamAction In}
    (stepped : SessionStep service central side i action central' side')
    (live : (side.streams i).task ≠ .idle)
    (registered : (side.streams i).task ≠ .registering)
    (stays : action ≠ .client .drain) (listens : action ≠ .client .dropReceiver) :
    (side'.streams i).outbound = (side.streams i).outbound := by
  cases stepped with
  | connect idle => exact absurd idle live
  | abort waiting => exact absurd waiting registered
  | client act stream _ acted =>
      rw [Side.setStream_self]
      exact Stream.client_outbound acted (fun same => stays (same ▸ rfl))
        (fun same => listens (same ▸ rfl))
  | register | read | leave | forward | discard | unregister => simp

theorem Advances.queue_grows {source : Source} {central central' : Central}
    {unforwarded unforwarded' : List (Tagged RouterMessage)}
    {image image' : List (Option RouterMessage)}
    (advances : Advances source central central' unforwarded unforwarded' image
      image') : central.queue <+: central'.queue := by
  rcases advances with ⟨forwarded, _, queue, _⟩
  exact queue ▸ List.prefix_append _ _

namespace State

variable {state next : State} {action : Action}

/-- A client with an entry in the table has finished its handshake. -/
theorem entry_registered (reachable : system.Reachable state)
    (message : RouterMessage) :
    (∀ i, state.entry message = some (.manager i) →
      (state.manager.streams i).task ≠ .registering) ∧
    ∀ i, state.entry message = some (.data i) →
      (state.data.streams i).task ≠ .registering := by
  rcases slotSidesWF reachable with ⟨manager, data⟩
  constructor
  · intro i entry
    rcases Option.map_eq_some_iff.mp entry with ⟨tx, found, same⟩
    cases message with
    | toManager toManager =>
        cases same
        exact (manager.owned i found).2
    | toEdge | toData => cases same
  · intro i entry
    rcases Option.map_eq_some_iff.mp entry with ⟨tx, found, same⟩
    cases message with
    | toData toData =>
        cases same
        exact (data.owned i found).2
    | toEdge | toManager => cases same

/-- Whoever steps, a full channel stays full until its client drains it or drops
its receiver. -/
theorem full_step (reachable : system.Reachable state) {client : Client}
    {message : RouterMessage} (entry : state.entry message = some client)
    (full : state.Full client) (stays : action ≠ .drain client)
    (listens : action ≠ .dropReceiver client)
    (other : ∀ order, action ≠ .dispatcher order)
    (stepped : system.step state action = some next) : next.Full client := by
  have live := entry_connected reachable entry
  rcases entry_registered reachable message with
    ⟨managerRegistered, dataRegistered⟩
  cases step_cases stepped with
  | edge i act central edges inner =>
      cases client with
      | edge j =>
          by_cases own : j = i
          · subst own
            have same := inner.outbound live (fun same => stays (same ▸ rfl))
              (fun same => listens (same ▸ rfl))
            simpa [Full, State.listens, queueLength, same] using full
          · simpa [Full, State.listens, queueLength, inner.streams_of_ne own]
              using full
      | manager j | data j => exact full
  | manager i act central manager inner =>
      cases client with
      | manager j =>
          by_cases own : j = i
          · subst own
            have same := inner.outbound live (managerRegistered j entry)
              (fun same => stays (same ▸ rfl)) (fun same => listens (same ▸ rfl))
            simpa [Full, State.listens, queueLength, same] using full
          · simpa [Full, State.listens, queueLength, inner.streams_of_ne own]
              using full
      | edge j | data j => exact full
  | data i act central data inner =>
      cases client with
      | data j =>
          by_cases own : j = i
          · subst own
            have same := inner.outbound live (dataRegistered j entry)
              (fun same => stays (same ▸ rfl)) (fun same => listens (same ▸ rfl))
            simpa [Full, State.listens, queueLength, same] using full
          · simpa [Full, State.listens, queueLength, inner.streams_of_ne own]
              using full
      | edge j | manager j => exact full
  | http => exact full
  | dispatcher order => exact absurd rfl (other order)

/-- A dispatcher with a target holds a guard. -/
theorem holds_of_target {client : Client}
    (target : state.dispatcher.target = some client) :
    ∃ lock, state.dispatcher.Holds lock := by
  cases at_ : state.dispatcher with
  | receiving | lookingUp => simp [at_, Dispatcher.target] at target
  | sending message tx => exact ⟨tableLock message.value, rfl⟩
  | broadcasting message heartbeat rest sentCount => exact ⟨.edges, rfl⟩

/-- What stays while the dispatcher is suspended: its await, what it has done,
what the channels took, and the messages that wait. -/
structure Stalled (state next : State) (client : Client) : Prop where
  suspended : next.SuspendedOn client
  dispatcher : next.dispatcher = state.dispatcher
  dispatched : next.dispatched = state.dispatched
  outbox : next.outbox = state.outbox
  queue : state.central.queue <+: next.central.queue

theorem Stalled.refl {client : Client} (suspended : state.SuspendedOn client) :
    Stalled state state client :=
  ⟨suspended, rfl, rfl, rfl, List.prefix_rfl⟩

theorem Stalled.trans {first second third : State} {client : Client}
    (left : Stalled first second client) (right : Stalled second third client) :
    Stalled first third client :=
  ⟨right.suspended, right.dispatcher.trans left.dispatcher,
    right.dispatched.trans left.dispatched, right.outbox.trans left.outbox,
    left.queue.trans right.queue⟩

/-- Neither a drain of the client nor the end of its receiver. -/
def LeavesFull (client : Client) (action : Action) : Prop :=
  action ≠ .drain client ∧ action ≠ .dropReceiver client

/-- Only the client can end the suspension. -/
theorem suspended_step (reachable : system.Reachable state) {client : Client}
    (suspended : state.SuspendedOn client) (leaves : LeavesFull client action)
    (stepped : system.step state action = some next) :
    Stalled state next client := by
  rcases suspended with ⟨target, full⟩
  rcases holds_of_target target with ⟨lock, holds⟩
  have other : ∀ order, action ≠ .dispatcher order := by
    intro order equal
    subst equal
    exact (dispatch_enabled holds order).mp ⟨next, stepped⟩ client target full
  rcases target_entry reachable target with ⟨message, entry⟩
  have fullNext :=
    full_step reachable entry full leaves.1 leaves.2 other stepped
  rcases outbox_of_source (unused reachable) stepped other with
    ⟨outbox, dispatched⟩
  have wf := pipeline reachable
  cases step_cases stepped with
  | edge i act central edges inner =>
      exact ⟨⟨target, fullNext⟩, rfl, dispatched, outbox,
        (inner.advances ((edgeSideWF reachable).streams i)
          wf.isOpen).queue_grows⟩
  | manager i act central manager inner =>
      exact ⟨⟨target, fullNext⟩, rfl, dispatched, outbox,
        (inner.advances ((slotSidesWF reachable).1.streams i)
          wf.isOpen).queue_grows⟩
  | data i act central data inner =>
      exact ⟨⟨target, fullNext⟩, rfl, dispatched, outbox,
        (inner.advances ((slotSidesWF reachable).2.streams i)
          wf.isOpen).queue_grows⟩
  | http i act central request inner =>
      exact ⟨⟨target, fullNext⟩, rfl, dispatched, outbox,
        (inner.advances (wf.http i) wf.isOpen).queue_grows⟩
  | dispatcher order => exact absurd rfl (other order)

/-- After the end of the receiver a send to the client fails at once. -/
theorem dropReceiver_step {client : Client}
    (stepped : system.step state (.dropReceiver client) = some next) :
    next.dispatcher = state.dispatcher ∧ next.listens client = false := by
  cases client with
  | edge i =>
      cases step_cases stepped with
      | edge i act central edges inner =>
          cases inner with
          | client act stream live acted =>
              refine ⟨rfl, ?_⟩
              simpa [listens] using Stream.dropReceiver_eq_some acted
  | manager i =>
      cases step_cases stepped with
      | manager i act central manager inner =>
          cases inner with
          | client act stream live acted =>
              refine ⟨rfl, ?_⟩
              simpa [listens] using Stream.dropReceiver_eq_some acted
  | data i =>
      cases step_cases stepped with
      | data i act central data inner =>
          cases inner with
          | client act stream live acted =>
              refine ⟨rfl, ?_⟩
              simpa [listens] using Stream.dropReceiver_eq_some acted

/-- Any other step of the client frees the dispatcher. -/
theorem freed_step (reachable : system.Reachable state) {client : Client}
    (suspended : state.SuspendedOn client) (frees : ¬LeavesFull client action)
    (stepped : system.step state action = some next)
    (order : List (String × StreamId)) :
    ∃ last, system.step next (.dispatcher order) = some last := by
  rcases suspended with ⟨target, full⟩
  rcases holds_of_target target with ⟨lock, holds⟩
  have freed : next.dispatcher = state.dispatcher ∧ ¬next.Full client := by
    by_cases drains : action = .drain client
    · subst drains
      rcases drain_of_suspended reachable ⟨target, full⟩ with
        ⟨other, drained, effect⟩
      cases stepped.symm.trans drained
      exact ⟨effect.dispatcher, effect.not_full⟩
    · have drops : action = .dropReceiver client := by
        by_contra stays
        exact frees ⟨drains, stays⟩
      subst drops
      rcases dropReceiver_step stepped with ⟨same, closed⟩
      refine ⟨same, fun stillFull => ?_⟩
      rw [Full, closed] at stillFull
      cases stillFull.1
  rcases freed with ⟨same, room⟩
  apply (dispatch_enabled (same ▸ holds) order).mpr
  intro other otherTarget
  rw [same, target] at otherTarget
  cases otherTarget
  exact room

/-- A run in which the client neither drains nor drops its receiver leaves the
dispatcher where it is. -/
theorem suspended_run (reachable : system.Reachable state) {client : Client}
    (suspended : state.SuspendedOn client) {last : State}
    (leads : system.Leads (fun _ => LeavesFull client) state last) :
    Stalled state last client := by
  rcases leads with ⟨schedule, ran, leaves⟩
  apply System.run_preserves_while (fun last => Stalled state last client)
    (fun _ => LeavesFull client) ?_ reachable (.refl suspended) leaves ran
  intro before after action reached stalled permitted stepped
  exact stalled.trans
    (suspended_step reached stalled.suspended permitted stepped)

end State

end IotRouter.Router
