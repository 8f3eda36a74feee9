import IotRouter.Runtime.Termination
import IotRouter.Router.Progress

/-!
# How much work is left

The server's own steps and the drains of the clients use up what the clients have
sent: every message takes a bounded number of steps on its way in, one look at
the table, and then one send and one drain for each channel it goes to. A
broadcast multiplies, but by no more than the map can hold, and the map cannot
grow by more ids than there are messages left to announce them. So the work left
is bounded at every moment, and every such step lowers it.
-/

namespace IotRouter.Router

open IotRouter.Grpc IotRouter.Https IotRouter.Runtime

/-- A step of a task of the server, or a client takes an element out of its
channel. -/
def Action.Onward (action : Action) : Prop :=
  action.isServer = true ∨ ∃ client, action = .drain client

/-- The server's own steps and the drains are these steps of a stream or a
request. -/
theorem Action.Onward.own {action : Action} (onward : action.Onward) :
    (∀ i act, action = .edge i act → act = .task ∨ act = .client .drain) ∧
      (∀ i act, action = .manager i act →
        act = .task ∨ act = .client .drain) ∧
      (∀ i act, action = .data i act → act = .task ∨ act = .client .drain) ∧
      ∀ i act, action = .http i act → act = .task := by
  rcases onward with server | ⟨client, rfl⟩
  · refine ⟨?_, ?_, ?_, ?_⟩ <;> intro i act same <;> subst same <;>
      cases act <;> simp [Action.isServer] at server ⊢
  · cases client <;> simp [Action.drain]

/-! ## The work of one task -/

/-- The messages a task has taken and not put into the central channel. -/
def EdgeTask.carries (task : EdgeTask) : Nat :=
  match task.pc with
  | .registering _ _ | .forwarding _ => 1
  | _ => 0

/-- The steps of a task that takes no further message. A message it forwards
costs two, as the dispatcher has to receive it. -/
def EdgeTask.toGo (task : EdgeTask) : Nat :=
  match task.pc with
  | .idle | .done => 0
  | .unregistering _ => 1
  | .next => 2
  | .forwarding _ => 4
  | .registering _ _ => 5

/-- The ids a task is about to announce. -/
def EdgeTask.announces (task : EdgeTask) : Nat :=
  match task.pc with
  | .registering _ _ => 1
  | _ => 0

def SessionTask.carries : SessionTask → Nat
  | .forwarding _ => 1
  | _ => 0

def SessionTask.toGo : SessionTask → Nat
  | .idle | .done => 0
  | .unregistering => 1
  | .next => 2
  | .registering => 3
  | .forwarding _ => 4

def HttpRequest.carries (request : HttpRequest) : Nat :=
  match request.task with
  | .sending _ => 1
  | _ => 0

def Dispatcher.carries : Dispatcher → Nat
  | .lookingUp _ => 1
  | _ => 0

/-- The steps of the dispatcher until it receives again, once it has looked at
the table, and the drains they call for. -/
def Dispatcher.toGo : Dispatcher → Nat
  | .receiving | .lookingUp _ => 0
  | .sending _ _ => 2
  | .broadcasting _ _ rest _ => 2 * rest.length + 1

section Dispatcher

variable (message : Tagged RouterMessage) (heartbeat : Heartbeat)
  (tx : StreamId) (rest : List (String × StreamId)) (sentCount : Nat)

@[simp] theorem carries_receiving : Dispatcher.receiving.carries = 0 := rfl
@[simp] theorem carries_lookingUp :
    (Dispatcher.lookingUp message).carries = 1 := rfl
@[simp] theorem carries_sending :
    (Dispatcher.sending message tx).carries = 0 := rfl
@[simp] theorem carries_broadcasting :
    (Dispatcher.broadcasting message heartbeat rest sentCount).carries = 0 := rfl

@[simp] theorem toGo_receiving : Dispatcher.receiving.toGo = 0 := rfl
@[simp] theorem toGo_lookingUp :
    (Dispatcher.lookingUp message).toGo = 0 := rfl
@[simp] theorem toGo_sending : (Dispatcher.sending message tx).toGo = 2 := rfl
@[simp] theorem toGo_broadcasting :
    (Dispatcher.broadcasting message heartbeat rest sentCount).toGo =
      2 * rest.length + 1 := rfl

end Dispatcher

/-! ## The work of one stream -/

namespace Stream

variable {Task In Out : Type} (stream : Stream Task In Out)

/-- The messages of a stream that are not in the central channel yet. -/
def messages (carries : Task → Nat) : Nat :=
  stream.inbound.length + carries stream.task

/-- The steps of a stream's task and of its client, apart from what its messages
cost the dispatcher. -/
def steps (toGo : Task → Nat) : Nat :=
  4 * stream.inbound.length + toGo stream.task + stream.outbound.queue.length

end Stream

namespace Side

variable {Value Task In Out Op : Type}

/-- The sum over the given streams. -/
def total (side : Side Value Task In Out Op) (ids : Finset StreamId)
    (count : Stream Task In Out → Nat) : Nat :=
  ∑ i ∈ ids, count (side.streams i)

variable {side side' : Side Value Task In Out Op} {ids : Finset StreamId}

/-- One of the streams changes. -/
theorem total_change {i : StreamId} (member : i ∈ ids)
    (others : ∀ j, j ≠ i → side'.streams j = side.streams j)
    (count : Stream Task In Out → Nat) :
    side'.total ids count + count (side.streams i) =
      side.total ids count + count (side'.streams i) :=
  sum_change member fun j different => congrArg count (others j different)

theorem total_congr (same : side'.streams = side.streams)
    (count : Stream Task In Out → Nat) :
    side'.total ids count = side.total ids count := by
  rw [total, total, same]

end Side

/-! ## The work of the router -/

namespace State

/-- The streams and the requests that have begun are among `ids`. -/
structure Covers (ids : Finset Nat) (state : State) : Prop where
  edges : ∀ i, state.Connected (.edge i) → i ∈ ids
  manager : ∀ i, state.Connected (.manager i) → i ∈ ids
  data : ∀ i, state.Connected (.data i) → i ∈ ids
  http : ∀ i, (state.http i).task ≠ .idle → i ∈ ids

variable (ids : Finset Nat) (state : State)

/-- The messages the dispatcher has still to look at. -/
def undispatched : Nat :=
  state.edges.total ids (Stream.messages · EdgeTask.carries) +
    state.manager.total ids (Stream.messages · SessionTask.carries) +
    state.data.total ids (Stream.messages · SessionTask.carries) +
    ∑ i ∈ ids, (state.http i).carries +
    state.central.queue.length + state.dispatcher.carries

/-- The steps left, apart from what the looks of the dispatcher lead to. -/
def stepsLeft : Nat :=
  state.edges.total ids (Stream.steps · EdgeTask.toGo) +
    state.manager.total ids (Stream.steps · SessionTask.toGo) +
    state.data.total ids (Stream.steps · SessionTask.toGo) +
    2 * ∑ i ∈ ids, (state.http i).carries +
    state.central.queue.length + state.dispatcher.toGo

/-- A bound on the size of the map, now and later. -/
def keysLeft : Nat :=
  state.edges.lock.value.entries.length +
    state.edges.total ids (Stream.messages · EdgeTask.announces)

/-- A bound on the number of steps. -/
def workLeft : Nat :=
  (2 * state.keysLeft ids + 3) * state.undispatched ids + state.stepsLeft ids

end State

/-! ## The steps of a stream -/

theorem length_ensureEdgeRegistered (edges : EdgeMap) (edgeId : String)
    (tx : StreamId) :
    (ensureEdgeRegistered edges edgeId tx).1.entries.length ≤
      edges.entries.length + 1 := by
  simp only [ensureEdgeRegistered]
  split
  · exact Nat.le_succ _
  · exact Nat.succ_le_succ (List.kerase_sublist edgeId edges.entries).length_le

theorem length_unregisterEdge (edges : EdgeMap) (edgeId : String) :
    (unregisterEdge edges edgeId).entries.length ≤ edges.entries.length :=
  (List.kerase_sublist edgeId edges.entries).length_le

/-- What one step of a stream costs, `waiting` being the length of the central
queue: the messages on their way in become no more, and no fewer without a step
spent on them. -/
inductive Spends (messages messages' steps steps' waiting waiting' : Nat) :
    Prop where
  /-- A message goes on, or there is none. -/
  | moves (same : messages' + waiting' = messages + waiting)
      (fewer : steps' + waiting' < steps + waiting)
  /-- A message is dropped. -/
  | drops (fewer : messages' + waiting' + 1 = messages + waiting)
      (spent : steps' + waiting' < steps + waiting)

/-- A message sent on is one more in the central queue. -/
theorem sent_length {central central' : Central}
    {message : Tagged RouterMessage}
    (sent : central.send message = .sent central') :
    central'.queue.length = central.queue.length + 1 := by
  rcases Channel.send_eq_sent.mp sent with ⟨_, room, rfl⟩
  simp

/-- A drain takes one element out of the outbound channel. -/
theorem Stream.drain_spends {Task In Out : Type}
    {stream stream' : Stream Task In Out}
    (acted : stream.client .drain = some stream') (carries toGo : Task → Nat) :
    stream'.messages carries = stream.messages carries ∧
      stream'.steps toGo + 1 = stream.steps toGo := by
  rcases Option.map_eq_some_iff.mp acted with ⟨⟨value, outbound⟩, received, rfl⟩
  have queue := (Channel.receive_eq_some.mp received).1
  refine ⟨rfl, ?_⟩
  simp only [steps, queue, List.length_cons]
  omega

theorem EdgeStep.spends {central central' : Central} {side side' : EdgeSide}
    {i : StreamId} {action : StreamAction FromEdge}
    (stepped : EdgeStep central side i action central' side')
    (onward : action = .task ∨ action = .client .drain) :
    (side.streams i).task.pc ≠ .idle ∧
      side'.lock.value.entries.length +
          (side'.streams i).messages EdgeTask.announces ≤
        side.lock.value.entries.length +
          (side.streams i).messages EdgeTask.announces ∧
      Spends ((side.streams i).messages EdgeTask.carries)
        ((side'.streams i).messages EdgeTask.carries)
        ((side.streams i).steps EdgeTask.toGo)
        ((side'.streams i).steps EdgeTask.toGo)
        central.queue.length central'.queue.length := by
  cases stepped with
  | connect => simp at onward
  | client act stream live acted =>
      have drains : act = .drain := by simpa using onward
      subst drains
      refine ⟨live, ?_, ?_⟩
      · rw [Side.setStream_self, (Stream.drain_spends acted _ EdgeTask.toGo).1]
        exact Nat.le_refl _
      · rw [Side.setStream_self]
        rcases Stream.drain_spends acted EdgeTask.carries EdgeTask.toGo with
          ⟨messages, steps⟩
        exact .moves (by rw [messages]) (by omega)
  | skip msg rest pc inbound anonymous =>
      refine ⟨by simp [pc], ?_, .drops ?_ ?_⟩
      · simp [Stream.messages, inbound, Side.setStream]
      · simp [Stream.messages, inbound]
        omega
      · simp [Stream.steps, inbound]
  | read msg rest pc inbound named =>
      refine ⟨by simp [pc], ?_, .moves ?_ ?_⟩
      · simp [Stream.messages, EdgeTask.announces, inbound, pc, Side.setStream,
          Side.requestWrite, RwLock.request]
      · simp [Stream.messages, EdgeTask.carries, inbound, pc]
      · simp [Stream.steps, EdgeTask.toGo, inbound, pc]
        omega
  | leave edgeId pc inbound ended connected =>
      refine ⟨by simp [pc], ?_, .moves ?_ ?_⟩
      · simp [Stream.messages, EdgeTask.announces, pc, Side.setStream,
          Side.requestWrite, RwLock.request]
      · simp [Stream.messages, EdgeTask.carries, pc]
      · simp [Stream.steps, EdgeTask.toGo, pc]
  | vanish pc inbound ended anonymous =>
      refine ⟨by simp [pc], ?_, .moves ?_ ?_⟩
      · simp [Stream.messages, EdgeTask.announces, pc, Side.setStream]
      · simp [Stream.messages, EdgeTask.carries, pc]
      · simp [Stream.steps, EdgeTask.toGo, pc]
  | register index msg lock pc written =>
      rcases RwLock.write_eq_some.mp written with ⟨_, rest, _, rfl⟩
      refine ⟨by simp [pc], ?_, ?_⟩
      · have grown := length_ensureEdgeRegistered side.lock.value msg.edgeId i
        cases processFromEdge msg <;>
          simp [Stream.messages, EdgeTask.announces, pc, Side.setStream] <;>
          omega
      · cases translated : processFromEdge msg with
        | none =>
            refine .drops ?_ ?_ <;>
              simp [Stream.messages, Stream.steps, EdgeTask.carries,
                EdgeTask.toGo, pc]
            omega
        | some message =>
            refine .moves ?_ ?_ <;>
              simp [Stream.messages, Stream.steps, EdgeTask.carries,
                EdgeTask.toGo, pc]
  | forward message central' pc sent =>
      have length := sent_length sent
      refine ⟨by simp [pc], ?_, .moves ?_ ?_⟩
      · simp [Stream.messages, EdgeTask.announces, pc, Side.setStream]
      · simp [Stream.messages, EdgeTask.carries, pc]
        omega
      · simp [Stream.steps, EdgeTask.toGo, pc]
        omega
  | discard message pc closed =>
      refine ⟨by simp [pc], ?_, .drops ?_ ?_⟩
      · simp [Stream.messages, EdgeTask.announces, pc, Side.setStream]
      · simp [Stream.messages, EdgeTask.carries, pc]
        omega
      · simp [Stream.steps, EdgeTask.toGo, pc]
  | unregister edgeId lock pc written =>
      rcases RwLock.write_eq_some.mp written with ⟨_, rest, _, rfl⟩
      refine ⟨by simp [pc], ?_, .moves ?_ ?_⟩
      · have shrunk := length_unregisterEdge side.lock.value edgeId
        simp [Stream.messages, EdgeTask.announces, pc, Side.setStream]
        omega
      · simp [Stream.messages, EdgeTask.carries, pc]
      · simp [Stream.steps, EdgeTask.toGo, pc]

theorem SessionStep.spends {In Out : Type} {service : SlotService In}
    {central central' : Central} {side side' : SlotSide In Out} {i : StreamId}
    {action : StreamAction In}
    (stepped : SessionStep service central side i action central' side')
    (onward : action = .task ∨ action = .client .drain) :
    (side.streams i).task ≠ .idle ∧
      Spends ((side.streams i).messages SessionTask.carries)
        ((side'.streams i).messages SessionTask.carries)
        ((side.streams i).steps SessionTask.toGo)
        ((side'.streams i).steps SessionTask.toGo)
        central.queue.length central'.queue.length := by
  cases stepped with
  | connect | abort => simp at onward
  | client act stream live acted =>
      have drains : act = .drain := by simpa using onward
      subst drains
      refine ⟨live, ?_⟩
      rw [Side.setStream_self]
      rcases Stream.drain_spends acted SessionTask.carries SessionTask.toGo with
        ⟨messages, steps⟩
      exact .moves (by rw [messages]) (by omega)
  | register lock task written =>
      refine ⟨by simp [task], .moves ?_ ?_⟩
      · simp [Stream.messages, SessionTask.carries, task]
      · simp [Stream.steps, SessionTask.toGo, task]
  | read msg rest task inbound =>
      refine ⟨by simp [task], ?_⟩
      cases translated : service.process msg with
      | none =>
          refine .drops ?_ ?_ <;>
            simp [Stream.messages, Stream.steps, SessionTask.carries,
              SessionTask.toGo, inbound, task]
          omega
      | some message =>
          refine .moves ?_ ?_ <;>
            simp [Stream.messages, Stream.steps, SessionTask.carries,
              SessionTask.toGo, inbound, task]
          omega
  | leave task inbound ended =>
      refine ⟨by simp [task], .moves ?_ ?_⟩
      · simp [Stream.messages, SessionTask.carries, task]
      · simp [Stream.steps, SessionTask.toGo, task]
  | forward message central' task sent =>
      have length := sent_length sent
      refine ⟨by simp [task], .moves ?_ ?_⟩
      · simp [Stream.messages, SessionTask.carries, task]
        omega
      · simp [Stream.steps, SessionTask.toGo, task]
        omega
  | discard message task closed =>
      refine ⟨by simp [task], .drops ?_ ?_⟩
      · simp [Stream.messages, SessionTask.carries, task]
        omega
      · simp [Stream.steps, SessionTask.toGo, task]
  | unregister lock task written =>
      refine ⟨by simp [task], .moves ?_ ?_⟩
      · simp [Stream.messages, SessionTask.carries, task]
      · simp [Stream.steps, SessionTask.toGo, task]

theorem HttpStep.spends {central central' : Central}
    {request request' : HttpRequest} {i : Nat}
    (stepped : HttpStep central request i .task central' request') :
    request.task ≠ .idle ∧
      Spends request.carries request'.carries (2 * request.carries)
        (2 * request'.carries) central.queue.length central'.queue.length := by
  cases stepped with
  | send message central' task sent =>
      have length := sent_length sent
      refine ⟨by simp [task], .moves ?_ ?_⟩ <;>
        simp [HttpRequest.carries, task] <;> omega
  | discard message task closed =>
      refine ⟨by simp [task], .drops ?_ ?_⟩ <;>
        simp [HttpRequest.carries, task]
      omega

/-! ## The steps of the dispatcher -/

namespace Side

variable {Value Task In Out Op : Type}
variable {side side' : Side Value Task In Out Op} {ids : Finset StreamId}
variable {tx : StreamId} {message : Tagged Out}

/-- One channel takes one element, which its client will have to take out. -/
theorem deliver_total (member : tx ∈ ids)
    (sent : side.deliver tx message = .sent side') (carries toGo : Task → Nat) :
    side'.total ids (Stream.messages · carries) =
        side.total ids (Stream.messages · carries) ∧
      side'.total ids (Stream.steps · toGo) =
        side.total ids (Stream.steps · toGo) + 1 := by
  rcases deliver_eq_sent.mp sent with ⟨outbound, accepted, rfl⟩
  rcases Channel.send_eq_sent.mp accepted with ⟨_, room, rfl⟩
  have others : ∀ j, j ≠ tx → (side.setStream tx { side.streams tx with
      outbound := (side.streams tx).outbound.push message room }).streams j =
        side.streams j :=
    fun j different => side.setStream_of_ne different _
  have messages := total_change member others (Stream.messages · carries)
  have steps := total_change member others (Stream.steps · toGo)
  simp only [setStream_self, Stream.messages] at messages
  simp only [setStream_self, Stream.steps, Channel.push_queue,
    List.length_append, List.length_singleton] at steps
  constructor
  · simp only [Stream.messages]
    omega
  · simp only [Stream.steps]
    omega

theorem unicast_total (member : tx ∈ ids) {delivered : Bool}
    (returned : side.unicast tx message = some (side', delivered))
    (carries toGo : Task → Nat) :
    side'.total ids (Stream.messages · carries) =
        side.total ids (Stream.messages · carries) ∧
      side'.total ids (Stream.steps · toGo) ≤
        side.total ids (Stream.steps · toGo) + 1 := by
  rcases unicast_eq_some.mp returned with
    ⟨middle, sent, _, rfl⟩ | ⟨_, _, rfl⟩
  · rcases deliver_total member sent carries toGo with ⟨messages, steps⟩
    exact ⟨messages, Nat.le_of_eq steps⟩
  · exact ⟨rfl, Nat.le_succ _⟩

end Side

namespace State

variable {ids : Finset Nat} {state next : State}

/-- A step lowers the work left: messages go on or are dropped at the price of a
step, or the dispatcher looks at the table, which a message does once. -/
inductive Lowers (ids : Finset Nat) (state next : State) : Prop where
  | spends (keys : next.keysLeft ids ≤ state.keysLeft ids)
      (messages : next.undispatched ids ≤ state.undispatched ids)
      (steps : next.stepsLeft ids < state.stepsLeft ids)
  | looks (keys : next.keysLeft ids ≤ state.keysLeft ids)
      (messages : next.undispatched ids + 1 = state.undispatched ids)
      (steps : next.stepsLeft ids ≤
        state.stepsLeft ids + (2 * state.keysLeft ids + 2))

theorem Lowers.workLeft (lowers : Lowers ids state next) :
    next.workLeft ids < state.workLeft ids := by
  simp only [State.workLeft]
  have shrinks : next.keysLeft ids ≤ state.keysLeft ids →
      (2 * next.keysLeft ids + 3) * next.undispatched ids ≤
        (2 * state.keysLeft ids + 3) * next.undispatched ids :=
    fun keys => Nat.mul_le_mul_right _ (by omega)
  cases lowers with
  | spends keys messages steps =>
      have fewer := Nat.mul_le_mul_left (2 * state.keysLeft ids + 3) messages
      have less := shrinks keys
      omega
  | looks keys messages steps =>
      have less := shrinks keys
      rw [← messages, Nat.mul_succ]
      omega

/-- A message in hand goes to a client that has connected. -/
theorem Covers.tx_mem (covers : Covers ids state)
    (reachable : system.Reachable state) {message : RouterMessage}
    {tx : StreamId} (found : state.held message = some tx) : tx ∈ ids := by
  have connected := entry_connected reachable
    (show state.entry message = some (recipient message tx) by
      rw [entry, found, Option.map_some])
  cases message with
  | toEdge => exact covers.edges tx connected
  | toManager => exact covers.manager tx connected
  | toData => exact covers.data tx connected

/-- What `route` leaves alone. -/
structure RouteFrame (state next : State) : Prop where
  edges : next.edges.streams = state.edges.streams
  map : next.edges.lock.value = state.edges.lock.value
  manager : next.manager.streams = state.manager.streams
  data : next.data.streams = state.data.streams
  http : next.http = state.http
  central : next.central = state.central
  looks : ∃ message, next.dispatcher = .lookingUp message

theorem route_frame (state : State) (message : Tagged RouterMessage) :
    RouteFrame state (state.route message) := by
  simp only [route]
  split <;> exact ⟨rfl, rfl, rfl, rfl, rfl, rfl, message, rfl⟩

/-- The dispatcher received a message. -/
theorem Lowers.of_route {central : Central}
    (idle : state.dispatcher = .receiving)
    (taken : central.queue.length + 1 = state.central.queue.length)
    (frame : RouteFrame { state with central } next) :
    Lowers ids state next := by
  rcases frame with
    ⟨edges, map, manager, data, http, received, message, looks⟩
  refine .spends ?_ ?_ ?_
  · simp only [keysLeft, Side.total_congr edges, map]
    exact Nat.le_refl _
  · simp only [undispatched, Side.total_congr edges, Side.total_congr manager,
      Side.total_congr data, http, received, looks, idle, carries_receiving,
      carries_lookingUp]
    omega
  · simp only [stepsLeft, Side.total_congr edges, Side.total_congr manager,
      Side.total_congr data, http, received, looks, idle, toGo_receiving,
      toGo_lookingUp]
    omega

/-- The dispatcher looked an entry up: it has nothing more to do for the message,
or one send. -/
theorem Lowers.of_lookUp {message : Tagged RouterMessage} {after : State}
    {found : Option StreamId} (at_ : after.dispatcher = .lookingUp message)
    (keys : after.keysLeft ids = state.keysLeft ids)
    (messages : after.undispatched ids = state.undispatched ids)
    (steps : after.stepsLeft ids = state.stepsLeft ids) :
    Lowers ids state (after.finishLookUp message found) := by
  simp only [undispatched, at_, carries_lookingUp] at messages
  simp only [stepsLeft, at_, toGo_lookingUp] at steps
  cases found with
  | none =>
      refine .looks (Nat.le_of_eq keys) ?_ ?_
      · simp only [undispatched, finishLookUp, finish, carries_receiving]
        omega
      · simp only [stepsLeft, finishLookUp, finish, toGo_receiving]
        omega
  | some tx =>
      refine .looks (Nat.le_of_eq keys) ?_ ?_
      · simp only [undispatched, finishLookUp, carries_sending]
        omega
      · simp only [stepsLeft, finishLookUp, toGo_sending]
        omega

/-- The dispatcher sent a message, or found its channel closed. -/
theorem Lowers.of_send {message : Tagged RouterMessage} {tx : StreamId}
    {after : State} {delivered : Bool}
    (at_ : after.dispatcher = .sending message tx)
    (keys : after.keysLeft ids = state.keysLeft ids)
    (messages : after.undispatched ids = state.undispatched ids)
    (steps : after.stepsLeft ids ≤ state.stepsLeft ids + 1) :
    Lowers ids state (after.finishSend message delivered) := by
  simp only [undispatched, at_, carries_sending] at messages
  simp only [stepsLeft, at_, toGo_sending] at steps
  refine .spends (Nat.le_of_eq keys) ?_ ?_
  · simp only [undispatched, finishSend, finish, carries_receiving]
    omega
  · simp only [stepsLeft, finishSend, finish, toGo_receiving]
    omega

theorem DispatchStep.lowers {order : List (String × StreamId)}
    (stepped : DispatchStep state order next)
    (reachable : system.Reachable state) (covers : Covers ids state) :
    Lowers ids state next := by
  have route := State.routed reachable
  cases stepped with
  | receive message central idle received =>
      have queue := (Channel.receive_eq_some.mp received).1
      refine .of_route idle ?_ (State.route_frame { state with central } message)
      rw [queue, List.length_cons]
  | lookUpEdge message destination toEdge edges found at_ value plain looked =>
      have streams := (Side.accepted_lookUp looked).2
      have map := (Side.served_lookUp looked).value
      refine .of_lookUp at_ ?_ ?_ ?_
      · simp only [keysLeft, Side.total_congr streams, map]
      · simp only [undispatched, Side.total_congr streams]
      · simp only [stepsLeft, Side.total_congr streams]
  | lookUpManager message toManager manager found at_ value looked =>
      have streams := (Side.accepted_lookUp looked).2
      refine .of_lookUp at_ ?_ ?_ ?_
      · rfl
      · simp only [undispatched, Side.total_congr streams]
      · simp only [stepsLeft, Side.total_congr streams]
  | lookUpData message toData data found at_ value looked =>
      have streams := (Side.accepted_lookUp looked).2
      refine .of_lookUp at_ ?_ ?_ ?_
      · rfl
      · simp only [undispatched, Side.total_congr streams]
      · simp only [stepsLeft, Side.total_congr streams]
  | startBroadcast message destination toEdge heartbeat lock at_ value beat
      acquired iterates =>
      have map : lock.value = state.edges.lock.value :=
        (Side.served_acquire acquired).value
      have length : order.length = state.edges.lock.value.entries.length := by
        rw [iterates.length_eq, EdgeMap.pairs, List.length_map, map]
      refine .looks ?_ ?_ ?_
      · simp only [keysLeft, Side.total, map]
        exact Nat.le_refl _
      · simp only [undispatched, Side.total, at_, carries_lookingUp,
          carries_broadcasting]
      · simp only [stepsLeft, Side.total, at_, toGo_lookingUp,
          toGo_broadcasting, length, keysLeft]
        omega
  | sendEdge message destination toEdge tx edges delivered at_ value sent =>
      simp only [Routed, at_] at route
      have member := covers.tx_mem reachable route.2
      have map := (Side.served_unicast sent).value
      refine .of_send at_ ?_ ?_ ?_
      · simp only [keysLeft, map, (Side.unicast_total member sent
          EdgeTask.announces EdgeTask.toGo).1]
      · simp only [undispatched, (Side.unicast_total member sent
          EdgeTask.carries EdgeTask.toGo).1]
      · have steps := (Side.unicast_total member sent EdgeTask.carries
          EdgeTask.toGo).2
        simp only [stepsLeft]
        omega
  | sendManager message toManager tx manager delivered at_ value sent =>
      simp only [Routed, at_] at route
      have member := covers.tx_mem reachable route.2
      rcases Side.unicast_total member sent SessionTask.carries
        SessionTask.toGo with ⟨messages, steps⟩
      refine .of_send at_ ?_ ?_ ?_
      · rfl
      · simp only [undispatched, messages]
      · simp only [stepsLeft]
        omega
  | sendData message toData tx data delivered at_ value sent =>
      simp only [Routed, at_] at route
      have member := covers.tx_mem reachable route.2
      rcases Side.unicast_total member sent SessionTask.carries
        SessionTask.toGo with ⟨messages, steps⟩
      refine .of_send at_ ?_ ?_ ?_
      · rfl
      · simp only [undispatched, messages]
      · simp only [stepsLeft]
        omega
  | broadcastSent message heartbeat edgeId tx rest sentCount edges at_ sent =>
      simp only [Routed, at_] at route
      have found := route.2 (edgeId, tx) List.mem_cons_self
      have member := covers.edges tx ((edgeSideWF reachable).owner_connected found)
      have map := (Side.served_deliver sent).value
      rcases Side.deliver_total member sent EdgeTask.carries EdgeTask.toGo with
        ⟨messages, steps⟩
      refine .spends ?_ ?_ ?_
      · simp only [keysLeft, map, (Side.deliver_total member sent
          EdgeTask.announces EdgeTask.toGo).1]
        exact Nat.le_refl _
      · simp only [undispatched, messages, at_, carries_broadcasting]
        exact Nat.le_refl _
      · simp only [stepsLeft, steps, at_, toGo_broadcasting, List.length_cons]
        omega
  | broadcastClosed message heartbeat edgeId tx rest sentCount at_ closed =>
      refine .spends (Nat.le_refl _) ?_ ?_
      · simp only [undispatched, at_, carries_broadcasting]
        exact Nat.le_refl _
      · simp only [stepsLeft, at_, toGo_broadcasting, List.length_cons]
        omega
  | finishBroadcast message heartbeat sentCount at_ =>
      refine .spends (Nat.le_refl _) ?_ ?_
      · simp only [undispatched, finish, Side.total, Side.release, at_,
          carries_broadcasting, carries_receiving]
        exact Nat.le_refl _
      · simp only [stepsLeft, finish, Side.total, Side.release, at_,
          toGo_broadcasting, toGo_receiving, List.length_nil]
        omega

/-! ## The steps of the router -/

/-- The server's own steps and the drains lower the work left. -/
theorem step_lowers {action : Action} (reachable : system.Reachable state)
    (covers : Covers ids state) (onward : action.Onward)
    (stepped : system.step state action = some next) :
    Lowers ids state next := by
  rcases onward.own with ⟨ownEdge, ownManager, ownData, ownHttp⟩
  cases step_cases stepped with
  | edge i act central edges inner =>
      rcases inner.spends (ownEdge i act rfl) with ⟨live, keys, spends⟩
      have others : ∀ j, j ≠ i → edges.streams j = state.edges.streams j :=
        fun j => inner.streams_of_ne
      have member := covers.edges i live
      have messages := Side.total_change member others
        (Stream.messages · EdgeTask.carries)
      have steps := Side.total_change member others
        (Stream.steps · EdgeTask.toGo)
      have announced := Side.total_change member others
        (Stream.messages · EdgeTask.announces)
      cases spends <;> refine .spends ?_ ?_ ?_ <;>
        simp only [keysLeft, undispatched, stepsLeft] <;> omega
  | manager i act central manager inner =>
      rcases inner.spends (ownManager i act rfl) with ⟨live, spends⟩
      have others : ∀ j, j ≠ i → manager.streams j = state.manager.streams j :=
        fun j => inner.streams_of_ne
      have member := covers.manager i live
      have messages := Side.total_change member others
        (Stream.messages · SessionTask.carries)
      have steps := Side.total_change member others
        (Stream.steps · SessionTask.toGo)
      cases spends <;> refine .spends (Nat.le_refl _) ?_ ?_ <;>
        simp only [undispatched, stepsLeft] <;> omega
  | data i act central data inner =>
      rcases inner.spends (ownData i act rfl) with ⟨live, spends⟩
      have others : ∀ j, j ≠ i → data.streams j = state.data.streams j :=
        fun j => inner.streams_of_ne
      have member := covers.data i live
      have messages := Side.total_change member others
        (Stream.messages · SessionTask.carries)
      have steps := Side.total_change member others
        (Stream.steps · SessionTask.toGo)
      cases spends <;> refine .spends (Nat.le_refl _) ?_ ?_ <;>
        simp only [undispatched, stepsLeft] <;> omega
  | http i act central request inner =>
      cases ownHttp i act rfl
      rcases inner.spends with ⟨live, spends⟩
      have others : ∀ j, j ≠ i →
          (Function.update state.http i request j).carries =
            (state.http j).carries := by
        intro j different
        rw [Function.update_of_ne different]
      have counts := sum_change (covers.http i live) others
      rw [Function.update_self] at counts
      cases spends <;> refine .spends (Nat.le_refl _) ?_ ?_ <;>
        simp only [undispatched, stepsLeft] <;> omega
  | dispatcher order next inner => exact inner.lowers reachable covers

end State

end IotRouter.Router
