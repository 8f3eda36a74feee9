import IotRouter.Router.Senders

/-!
# What the clients read

The last part of the way: a message in a client's channel is drained in its turn,
or the client drops the receiver. With what is proved of the senders and of the
dispatcher, a message that the transport keeps is processed, and everybody who is
told of it reads it or goes away.
-/

namespace IotRouter.Runtime.Channel

universe u

variable {capacity : Nat} {α : Type u}

/-- How many values the receiver has taken. -/
def taken (channel : Channel capacity α) : Nat :=
  channel.accepted.length - channel.queue.length

theorem length_queue_le (channel : Channel capacity α) :
    channel.queue.length ≤ channel.accepted.length :=
  channel.queue_suffix.sublist.length_le

/-- Values may come in, and the oldest `reads` go out. -/
structure Flows (before after : Channel capacity α) (reads : Nat) : Prop where
  accepted : before.accepted <+: after.accepted
  taken : after.taken = before.taken + reads

theorem Flows.refl (channel : Channel capacity α) : Flows channel channel 0 :=
  ⟨List.prefix_rfl, rfl⟩

theorem Flows.sent {before after : Channel capacity α} {value : α}
    (sent : before.send value = .sent after) : Flows before after 0 := by
  rcases send_eq_sent.mp sent with ⟨_, room, rfl⟩
  constructor
  · exact List.prefix_append _ _
  · simp only [Channel.taken, push_queue, push_accepted, List.length_append,
      List.length_singleton]
    omega

theorem Flows.received {before after : Channel capacity α} {value : α}
    (received : before.receive = some (value, after)) :
    Flows before after 1 := by
  rcases receive_eq_some.mp received with ⟨queue, accepted, _⟩
  have bound := before.length_queue_le
  constructor
  · rw [accepted]
  · simp only [Channel.taken, accepted, queue, List.length_cons] at bound ⊢
    omega

end IotRouter.Runtime.Channel

namespace IotRouter.Router

open IotRouter.Grpc IotRouter.Https IotRouter.Runtime

/-! ## The dispatcher only adds -/

namespace Side

variable {Value Task In Out Op : Type}
variable {side side' : Side Value Task In Out Op}

/-- Nothing is taken out of the outbound channels. -/
def Feeds (side side' : Side Value Task In Out Op) : Prop :=
  ∀ i, Channel.Flows (side.streams i).outbound (side'.streams i).outbound 0

theorem Feeds.of_streams (same : side'.streams = side.streams) :
    Feeds side side' :=
  fun _ => same ▸ Channel.Flows.refl _

theorem Feeds.deliver {tx : StreamId} {message : Tagged Out}
    (sent : side.deliver tx message = .sent side') : Feeds side side' := by
  rcases deliver_eq_sent.mp sent with ⟨outbound, accepted, rfl⟩
  intro i
  by_cases target : i = tx
  · subst target
    rw [setStream_self]
    exact Channel.Flows.sent accepted
  · rw [side.setStream_of_ne target]
    exact Channel.Flows.refl _

theorem Feeds.unicast {tx : StreamId} {message : Tagged Out} {delivered : Bool}
    (sent : side.unicast tx message = some (side', delivered)) :
    Feeds side side' := by
  rcases unicast_eq_some.mp sent with ⟨middle, arrives, _, rfl⟩ | ⟨_, _, rfl⟩
  · have fed := Feeds.deliver arrives
    exact fed
  · exact .of_streams rfl

theorem Feeds.lookUp {entry : Value → Option StreamId} {found : Option StreamId}
    (looked : side.lookUp entry = some (side', found)) : Feeds side side' := by
  rcases lookUp_eq_some.mp looked with ⟨_, _, _, rfl⟩
  exact .of_streams rfl

end Side

theorem State.DispatchStep.feeds {state next : State}
    {order : List (String × StreamId)} (stepped : State.DispatchStep state order next) :
    Side.Feeds state.edges next.edges ∧
      Side.Feeds state.manager next.manager ∧
      Side.Feeds state.data next.data := by
  cases stepped with
  | receive message central idle received =>
      simp only [State.route]
      split <;> exact ⟨.of_streams rfl, .of_streams rfl, .of_streams rfl⟩
  | lookUpEdge _ _ _ _ found _ _ _ looked =>
      cases found <;>
        exact ⟨.lookUp looked, .of_streams rfl, .of_streams rfl⟩
  | lookUpManager _ _ _ found _ _ looked =>
      cases found <;>
        exact ⟨.of_streams rfl, .lookUp looked, .of_streams rfl⟩
  | lookUpData _ _ _ found _ _ looked =>
      cases found <;>
        exact ⟨.of_streams rfl, .of_streams rfl, .lookUp looked⟩
  | sendEdge _ _ _ _ _ _ _ _ sent =>
      exact ⟨.unicast sent, .of_streams rfl, .of_streams rfl⟩
  | sendManager _ _ _ _ _ _ _ sent =>
      exact ⟨.of_streams rfl, .unicast sent, .of_streams rfl⟩
  | sendData _ _ _ _ _ _ _ sent =>
      exact ⟨.of_streams rfl, .of_streams rfl, .unicast sent⟩
  | broadcastSent _ _ _ _ _ _ _ _ sent =>
      exact ⟨.deliver sent, .of_streams rfl, .of_streams rfl⟩
  | startBroadcast | broadcastClosed | finishBroadcast =>
      exact ⟨.of_streams rfl, .of_streams rfl, .of_streams rfl⟩

/-! ## Only a drain takes -/

/-- What a client's own step does to its channel, if the receiver stays. -/
theorem Stream.client_flows {Task In Out : Type} [DecidableEq In]
    {stream stream' : Stream Task In Out} {action : ClientAction In}
    (acted : stream.client action = some stream') :
    stream'.outbound.isOpen = false ∨
      Channel.Flows stream.outbound stream'.outbound
        (if action = .drain then 1 else 0) := by
  cases action with
  | drain =>
      rcases Option.map_eq_some_iff.mp acted with
        ⟨⟨value, outbound⟩, received, rfl⟩
      exact Or.inr (Channel.Flows.received received)
  | dropReceiver => exact Or.inl (Stream.dropReceiver_eq_some acted)
  | send | close | reset =>
      right
      rw [Stream.client_outbound acted nofun nofun, if_neg nofun]
      exact Channel.Flows.refl _

theorem EdgeStep.flows {central central' : Central} {side side' : EdgeSide}
    {i : StreamId} {action : StreamAction FromEdge}
    (stepped : EdgeStep central side i action central' side')
    (live : (side.streams i).task.pc ≠ .idle) :
    (side'.streams i).outbound.isOpen = false ∨
      Channel.Flows (side.streams i).outbound (side'.streams i).outbound
        (if action = .client .drain then 1 else 0) := by
  cases stepped with
  | connect idle => exact absurd idle live
  | client act stream _ acted =>
      rw [Side.setStream_self]
      simpa using Stream.client_flows acted
  | skip | read | leave | vanish | register | forward | discard
  | unregister =>
      right
      simpa using Channel.Flows.refl _

/-- What a step of a stream does to any stream's channel. -/
theorem EdgeStep.flows_at {central central' : Central} {side side' : EdgeSide}
    {i j : StreamId} {action : StreamAction FromEdge}
    (stepped : EdgeStep central side i action central' side')
    (live : (side.streams j).task.pc ≠ .idle) :
    (side'.streams j).outbound.isOpen = false ∨
      Channel.Flows (side.streams j).outbound (side'.streams j).outbound
        (if i = j ∧ action = .client .drain then 1 else 0) := by
  by_cases own : j = i
  · subst own
    simpa using stepped.flows live
  · rw [stepped.streams_of_ne own, if_neg (fun same => own same.1.symm)]
    exact Or.inr (Channel.Flows.refl _)

theorem SessionStep.flows {In Out : Type} [DecidableEq In]
    {service : SlotService In} {central central' : Central}
    {side side' : SlotSide In Out} {i : StreamId} {action : StreamAction In}
    (stepped : SessionStep service central side i action central' side')
    (live : (side.streams i).task ≠ .idle) :
    (side'.streams i).outbound.isOpen = false ∨
      Channel.Flows (side.streams i).outbound (side'.streams i).outbound
        (if action = .client .drain then 1 else 0) := by
  cases stepped with
  | connect idle => exact absurd idle live
  | abort => simp
  | client act stream _ acted =>
      rw [Side.setStream_self]
      simpa using Stream.client_flows acted
  | register | read | leave | forward | discard | unregister =>
      right
      simpa using Channel.Flows.refl _

theorem SessionStep.flows_at {In Out : Type} [DecidableEq In]
    {service : SlotService In} {central central' : Central}
    {side side' : SlotSide In Out} {i j : StreamId} {action : StreamAction In}
    (stepped : SessionStep service central side i action central' side')
    (live : (side.streams j).task ≠ .idle) :
    (side'.streams j).outbound.isOpen = false ∨
      Channel.Flows (side.streams j).outbound (side'.streams j).outbound
        (if i = j ∧ action = .client .drain then 1 else 0) := by
  by_cases own : j = i
  · subst own
    simpa using stepped.flows live
  · rw [stepped.streams_of_ne own, if_neg (fun same => own same.1.symm)]
    exact Or.inr (Channel.Flows.refl _)

namespace State

variable {state next : State} {action : Action} {client : Client}

/-- How many messages the client has drained. -/
def taken (state : State) : Client → Nat
  | .edge i => (state.edges.streams i).outbound.taken
  | .manager i => (state.manager.streams i).outbound.taken
  | .data i => (state.data.streams i).outbound.taken

/-- What the client has read, if it has not dropped the receiver. -/
def read (state : State) (client : Client) : List (Tagged RouterMessage) :=
  (state.outbox client).take (state.taken client)

/-- A message is read or still queued. -/
theorem taken_add_queueLength (state : State) (client : Client) :
    state.taken client + state.queueLength client =
      (state.outbox client).length := by
  cases client with
  | edge i =>
      have bound := (state.edges.streams i).outbound.length_queue_le
      simp only [taken, Channel.taken, queueLength, outbox, List.length_map]
      omega
  | manager i =>
      have bound := (state.manager.streams i).outbound.length_queue_le
      simp only [taken, Channel.taken, queueLength, outbox, List.length_map]
      omega
  | data i =>
      have bound := (state.data.streams i).outbound.length_queue_le
      simp only [taken, Channel.taken, queueLength, outbox, List.length_map]
      omega

/-- What a step does to what a client is told and what it reads. -/
structure Reads (state next : State) (client : Client) (reads : Nat) :
    Prop where
  outbox : state.outbox client <+: next.outbox client
  taken : next.taken client = state.taken client + reads

section Channels

variable {i : StreamId} {reads : Nat}

theorem reads_edge
    (flows : Channel.Flows (state.edges.streams i).outbound
      (next.edges.streams i).outbound reads) :
    Reads state next (.edge i) reads :=
  ⟨flows.accepted.map _, flows.taken⟩

theorem reads_manager
    (flows : Channel.Flows (state.manager.streams i).outbound
      (next.manager.streams i).outbound reads) :
    Reads state next (.manager i) reads :=
  ⟨flows.accepted.map _, flows.taken⟩

theorem reads_data
    (flows : Channel.Flows (state.data.streams i).outbound
      (next.data.streams i).outbound reads) :
    Reads state next (.data i) reads :=
  ⟨flows.accepted.map _, flows.taken⟩

end Channels

/-- The dispatcher takes nothing out of any channel. -/
theorem DispatchStep.reads {order : List (String × StreamId)}
    (stepped : DispatchStep state order next) (client : Client) :
    Reads state next client 0 := by
  rcases stepped.feeds with ⟨edges, manager, data⟩
  cases client with
  | edge i => exact reads_edge (edges i)
  | manager i => exact reads_manager (manager i)
  | data i => exact reads_data (data i)

/-- As long as the client keeps the receiver, a drain of its own takes the next
message, and nothing else takes one. -/
theorem reads_step (connected : state.Connected client)
    (stepped : system.step state action = some next) :
    next.listens client = false ∨
      Reads state next client (if action = .drain client then 1 else 0) := by
  have still : action ≠ .drain client → Reads state next client 0 →
      next.listens client = false ∨
        Reads state next client (if action = .drain client then 1 else 0) := by
    intro other same
    rw [if_neg other]
    exact Or.inr same
  cases step_cases stepped with
  | edge i act central edges inner =>
      cases client with
      | edge j =>
          rcases inner.flows_at connected with gone | flows
          · exact Or.inl gone
          · apply Or.inr (reads_edge _)
            simpa [Action.drain] using flows
      | manager j => exact still (fun same => by cases same) (reads_manager (.refl _))
      | data j => exact still (fun same => by cases same) (reads_data (.refl _))
  | manager i act central manager inner =>
      cases client with
      | manager j =>
          rcases inner.flows_at connected with gone | flows
          · exact Or.inl gone
          · apply Or.inr (reads_manager _)
            simpa [Action.drain] using flows
      | edge j => exact still (fun same => by cases same) (reads_edge (.refl _))
      | data j => exact still (fun same => by cases same) (reads_data (.refl _))
  | data i act central data inner =>
      cases client with
      | data j =>
          rcases inner.flows_at connected with gone | flows
          · exact Or.inl gone
          · apply Or.inr (reads_data _)
            simpa [Action.drain] using flows
      | edge j => exact still (fun same => by cases same) (reads_edge (.refl _))
      | manager j => exact still (fun same => by cases same) (reads_manager (.refl _))
  | http i act central request inner =>
      apply still
      · cases client <;> intro same <;> cases same
      · cases client with
        | edge j => exact reads_edge (.refl _)
        | manager j => exact reads_manager (.refl _)
        | data j => exact reads_data (.refl _)
  | dispatcher order next inner =>
      apply still
      · cases client <;> intro same <;> cases same
      · exact inner.reads client

/-! ## Every message is read -/

/-- The client has been told the message and has not read it. -/
structure Unread (client : Client) (place : Nat)
    (message : Tagged RouterMessage) (state : State) : Prop where
  told : (state.outbox client)[place]? = some message
  unread : state.taken client ≤ place

/-- The message is read, or the client has dropped the receiver. -/
def ReadOrGone (client : Client) (message : Tagged RouterMessage)
    (state : State) : Prop :=
  state.listens client = false ∨ message ∈ state.read client

/-- What has been taken is read. -/
theorem mem_read {place : Nat} {message : Tagged RouterMessage}
    (told : (state.outbox client)[place]? = some message)
    (taken : place < state.taken client) : message ∈ state.read client := by
  apply List.mem_of_getElem?
  rw [read, List.getElem?_take_of_lt taken]
  exact told

/-- Somebody who is told something has connected. -/
theorem Unread.connected (reachable : system.Reachable state) {place : Nat}
    {message : Tagged RouterMessage} (waits : Unread client place message state) :
    state.Connected client := by
  by_contra idle
  have told := waits.told
  rw [unused reachable client idle] at told
  cases told

/-- What is told and not read can be drained. -/
theorem Unread.enabled (reachable : system.Reachable state) {place : Nat}
    {message : Tagged RouterMessage} (waits : Unread client place message state) :
    system.Enabled (Turn.drain client).Takes state := by
  have queued : 0 < state.queueLength client := by
    rcases List.getElem?_eq_some_iff.mp waits.told with ⟨inside, _⟩
    have all := taken_add_queueLength state client
    have unread := waits.unread
    omega
  rcases drain_step (waits.connected reachable) queued with ⟨next, stepped, _⟩
  exact ⟨_, next, rfl, stepped⟩

/-- How many drains it takes until the message at a place is read. -/
def toRead (client : Client) (place : Nat) (state : State) : Nat :=
  place + 1 - state.taken client

/-- Every drain of its client brings a message closer to being read, and nothing
else takes it further away. -/
theorem unread_approaches (reachable : system.Reachable state) {place : Nat}
    {message : Tagged RouterMessage} (waits : Unread client place message state)
    (stepped : system.step state action = some next) :
    System.Run.Approaches Turn.Takes (Unread client place message)
      (ReadOrGone client message) (toRead client place)
      (fun _ => .drain client) state action next := by
  rcases reads_step (waits.connected reachable) stepped with gone | reads
  · exact Or.inl (Or.inl gone)
  have told : (next.outbox client)[place]? = some message := by
    rcases List.getElem?_eq_some_iff.mp waits.told with ⟨inside, _⟩
    rcases reads.outbox with ⟨more, same⟩
    rw [← same, List.getElem?_append_left inside]
    exact waits.told
  by_cases taken : place < next.taken client
  · exact Or.inl (Or.inr (mem_read told taken))
  refine Or.inr ⟨⟨told, Nat.not_lt.mp taken⟩, ?_⟩
  have moved := reads.taken
  by_cases drains : action = .drain client
  · left
    rw [if_pos drains] at moved
    simp only [toRead]
    omega
  · right
    rw [if_neg drains] at moved
    exact ⟨by rw [toRead, moved]; rfl, rfl, drains⟩

/-- In a fair run everything in a client's channel is read, in its turn. -/
theorem eventually_read {run : system.Run} (fair : WeaklyFair run)
    {message : Tagged RouterMessage} {n : Nat}
    (told : message ∈ (run.state n).outbox client) :
    ∃ m, n ≤ m ∧ ReadOrGone client message (run.state m) := by
  rcases List.mem_iff_getElem?.mp told with ⟨place, at_⟩
  by_cases already : place < (run.state n).taken client
  · exact ⟨n, Nat.le_refl n, Or.inr (mem_read at_ already)⟩
  · have waits : Unread client place message (run.state n) :=
      ⟨at_, Nat.not_lt.mp already⟩
    exact run.eventually_of_rank
      (fun reachable waits stepped => unread_approaches reachable waits stepped)
      (fun reachable waits => waits.enabled reachable) fair waits

/-- What becomes of a message from an instant on: it is processed, and every
client that is told of it, as a copy for a heartbeat, reads it or goes away. -/
structure Arrives (run : system.Run) (message : Tagged RouterMessage) (n : Nat) :
    Prop where
  processed : ∃ m, n ≤ m ∧ message ∈ (run.state m).processed
  read : ∀ client told m, told ∈ (run.state m).outbox client →
    told.source = message.source → told.index = message.index →
    ∃ last, m ≤ last ∧ ReadOrGone client told (run.state last)

/-- In a fair run every message that a source sends and the transport keeps
arrives. -/
theorem everySentArrives {run : system.Run} (begins : run.state 0 = start)
    (fair : StronglyFair run) {message : Tagged RouterMessage}
    (kept : Keeps run message.source) {n : Nat}
    (sent : message ∈ tagged message.source
      ((run.state n).sentImage message.source)) :
    Arrives run message n where
  processed := eventually_processed_of_sent begins fair kept sent
  read _ _ _ told _ _ := eventually_read fair.weaklyFair told

theorem everySentArrives_spokenRun :
    ∃ (run : system.Run) (message : Tagged RouterMessage),
      StronglyFair run ∧ message.source = .edge 0 ∧ Arrives run message 3 := by
  rcases exists_fair spokenRun rfl with ⟨run, begins, fair, state, actions⟩
  have kept : Keeps run (.edge 0) := by
    intro n reset
    rcases actions n _ reset with early | late
    · simp [spokenRun] at early
    · simp [Action.Onward, Action.isServer] at late
      rcases late with ⟨client, same⟩
      cases client <;> cases same
  obtain ⟨message, source, sent⟩ : ∃ message : Tagged RouterMessage,
      message.source = .edge 0 ∧
      message ∈ tagged (.edge 0) ((run.state 3).sentImage (.edge 0)) := by
    rw [show run.state 3 = _ from state]
    exact ⟨_, rfl, List.mem_singleton_self _⟩
  exact ⟨run, message, fair, source,
    everySentArrives begins fair (source ▸ kept) (source ▸ sent)⟩

end State

end IotRouter.Router
