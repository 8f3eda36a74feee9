import IotRouter.Router.State

/-!
# Steps of the router

One definition for each piece of code between two awaits, in the order of the
source: the inbound task of an edge stream, `connect_stream` and the inbound
task of a Manager or Data session, `handle_telemetry`, and the dispatcher with
the sends of the routing table. `step` lets one of them, or one client, act.
-/

namespace IotRouter.Router

open IotRouter.Grpc IotRouter.Https IotRouter.Runtime

/-! ## One stream -/

namespace Stream

variable {Task In Out : Type}

/-- One action of the client. -/
def client (stream : Stream Task In Out) :
    ClientAction In → Option (Stream Task In Out)
  | .send msg =>
      if stream.inboundOpen then
        some { stream with
          inbound := stream.inbound ++ [msg], sent := stream.sent ++ [msg] }
      else none
  | .close =>
      if stream.inboundOpen then some { stream with inboundOpen := false }
      else none
  | .reset =>
      if stream.inboundOpen then
        some { stream with inboundOpen := false, inbound := [] }
      else none
  | .drain =>
      stream.outbound.receive.map fun (_, outbound) => { stream with outbound }
  | .dropReceiver =>
      if stream.outbound.isOpen then
        some { stream with outbound := stream.outbound.close }
      else none

/-- What `inbound_stream.next().await` yields: nothing yet, a message with its
index, or the end of the stream (closed or failed). -/
inductive Next (Task In Out : Type) where
  | pending
  | message (index : Nat) (msg : In) (stream : Stream Task In Out)
  | ended

def next (stream : Stream Task In Out) : Next Task In Out :=
  match stream.inbound with
  | msg :: rest => .message stream.received.length msg
      { stream with inbound := rest, received := stream.received ++ [msg] }
  | [] => if stream.inboundOpen then .pending else .ended

end Stream

/-! ## One side of the routing table -/

namespace Side

variable {Value Task In Out Op : Type}

def setStream (side : Side Value Task In Out Op) (i : StreamId)
    (stream : Stream Task In Out) : Side Value Task In Out Op :=
  { side with streams := Function.update side.streams i stream }

/-- `write().await` starts to wait. -/
def requestWrite (side : Side Value Task In Out Op) (i : StreamId) :
    Side Value Task In Out Op :=
  { side with lock := side.lock.request (.stream i) .write }

/-- `write().await` is granted: update the value, note the write, and drop the
guard. -/
def write (side : Side Value Task In Out Op) (i : StreamId)
    (update : Value → Value) (op : Op) : Option (Side Value Task In Out Op) :=
  (side.lock.write (.stream i) update).map fun lock =>
    { side with lock, log := side.log ++ [op] }

/-- `read().await` starts to wait. -/
def requestRead (side : Side Value Task In Out Op) :
    Side Value Task In Out Op :=
  { side with lock := side.lock.request .dispatcher .read }

/-- The dispatcher drops its read guard. -/
def release (side : Side Value Task In Out Op) : Side Value Task In Out Op :=
  { side with lock := side.lock.release .dispatcher }

/-- `read().await` is granted and the entry is looked up. Without an entry the
function returns at once and drops the guard; with one the guard is held for the
send. -/
def lookUp (side : Side Value Task In Out Op)
    (entry : Value → Option StreamId) :
    Option (Side Value Task In Out Op × Option StreamId) :=
  (side.lock.acquire .dispatcher).map fun lock =>
    let held : Side Value Task In Out Op := { side with lock }
    match entry lock.value with
    | some tx => (held, some tx)
    | none => (held.release, none)

/-- `tx.send(message).await`. -/
def deliver (side : Side Value Task In Out Op) (tx : StreamId)
    (message : Tagged Out) : SendResult (Side Value Task In Out Op) :=
  match (side.streams tx).outbound.send message with
  | .sent outbound =>
      .sent (side.setStream tx { side.streams tx with outbound })
  | .closed => .closed
  | .full => .full

/-- The send of `send_to_*` and its return, which drops the guard: the side
afterwards and whether the channel took the message. `none` while the channel is
full. -/
def unicast (side : Side Value Task In Out Op) (tx : StreamId)
    (message : Tagged Out) : Option (Side Value Task In Out Op × Bool) :=
  match side.deliver tx message with
  | .sent side => some (side.release, true)
  | .closed => some (side.release, false)
  | .full => none

end Side

/-! ## Edge streams -/

namespace EdgeSide

/-- The inbound task of `EdgeServiceImpl::connect_stream`. -/
def runTask (central : Central) (side : EdgeSide) (i : StreamId) :
    Option (Central × EdgeSide) :=
  let stream := side.streams i
  let task := stream.task
  match task.pc with
  | .idle => none
  | .next =>
      match stream.next with
      | .pending => none
      | .message index msg stream =>
          if msg.edgeId = "" then
            -- `continue`
            some (central, side.setStream i stream)
          else
            let task : EdgeTask :=
              { pc := .registering index msg, connectedEdgeId := some msg.edgeId }
            some (central, (side.setStream i { stream with task }).requestWrite i)
      | .ended =>
          match task.connectedEdgeId with
          | some edgeId =>
              let task := { task with pc := .unregistering edgeId }
              some (central,
                (side.setStream i { stream with task }).requestWrite i)
          | none =>
              some (central,
                side.setStream i { stream with task := { task with pc := .done } })
  | .registering index msg =>
      (side.write i (fun edges => (ensureEdgeRegistered edges msg.edgeId i).1)
        (.announced i index msg.edgeId)).map fun side =>
          let pc : EdgePc :=
            match processFromEdge msg with
            | some message => .forwarding { source := .edge i, index, value := message }
            | none => .next
          (central, side.setStream i { stream with task := { task with pc } })
  | .forwarding message =>
      match central.send message with
      | .sent central =>
          some (central,
            side.setStream i { stream with task := { task with pc := .next } })
      | .closed =>
          some (central,
            side.setStream i { stream with task := { task with pc := .next } })
      | .full => none
  | .unregistering edgeId =>
      (side.write i (fun edges => unregisterEdge edges edgeId)
        (.unregistered i edgeId)).map fun side =>
          (central,
            side.setStream i { stream with task := { task with pc := .done } })
  | .done => none

/-- The handler of an edge stream has no await, so it cannot be cancelled. -/
def step (central : Central) (side : EdgeSide) (i : StreamId) :
    StreamAction FromEdge → Option (Central × EdgeSide)
  | .connect =>
      if (side.streams i).task.pc = .idle then
        some (central, side.setStream i
          (.fresh _ _ { pc := .next, connectedEdgeId := none }))
      else none
  | .abort => none
  | .client action =>
      if (side.streams i).task.pc = .idle then none
      else ((side.streams i).client action).map fun stream =>
        (central, side.setStream i stream)
  | .task => runTask central side i

end EdgeSide

/-! ## Manager and Data sessions -/

namespace SlotSide

variable {In Out : Type}

/-- `connect_stream` after its `register_*` began to wait, and the inbound task
it spawns. -/
def runTask (service : SlotService In) (central : Central)
    (side : SlotSide In Out) (i : StreamId) :
    Option (Central × SlotSide In Out) :=
  let stream := side.streams i
  match stream.task with
  | .idle => none
  | .registering =>
      (side.write i (service.register i) (.registered i)).map fun side =>
        (central, side.setStream i { stream with task := .next })
  | .next =>
      match stream.next with
      | .pending => none
      | .message index msg stream =>
          let task : SessionTask :=
            match service.process msg with
            | some message =>
                .forwarding { source := service.source i, index, value := message }
            | none => .next
          some (central, side.setStream i { stream with task })
      | .ended =>
          some (central,
            (side.setStream i { stream with task := .unregistering }).requestWrite i)
  | .forwarding message =>
      match central.send message with
      | .sent central =>
          some (central, side.setStream i { stream with task := .next })
      | .closed =>
          some (central, side.setStream i { stream with task := .next })
      | .full => none
  | .unregistering =>
      (side.write i service.unregister (.unregistered i)).map fun side =>
        (central, side.setStream i { stream with task := .done })
  | .done => none

/-- While `register_*` waits the handler has not returned: if the client goes
away the handler is dropped, its place in the queue and its channel with it. -/
def step (service : SlotService In) (central : Central)
    (side : SlotSide In Out) (i : StreamId) :
    StreamAction In → Option (Central × SlotSide In Out)
  | .connect =>
      if (side.streams i).task = .idle then
        some (central,
          (side.setStream i (.fresh _ _ .registering)).requestWrite i)
      else none
  | .abort =>
      if (side.streams i).task = .registering then
        let side := side.setStream i { side.streams i with
          task := .done, outbound := (side.streams i).outbound.close }
        some (central, { side with lock := side.lock.cancel (.stream i) })
      else none
  | .client action =>
      if (side.streams i).task = .idle then none
      else ((side.streams i).client action).map fun stream =>
        (central, side.setStream i stream)
  | .task => runTask service central side i

end SlotSide

/-! ## Posted alerts -/

namespace HttpRequest

/-- `handle_telemetry` for request `i`. -/
def step (central : Central) (request : HttpRequest) (i : Nat) :
    HttpAction → Option (Central × HttpRequest)
  | .post body =>
      match request.task with
      | .idle =>
          match handleTelemetry body with
          | .ok message =>
              some (central, { task := .sending message, posted := [message] })
          | .error error =>
              some (central, { request with task := .replied (.error error) })
      | _ => none
  | .task =>
      match request.task with
      | .sending message =>
          match central.send { source := .http i, index := 0, value := message } with
          | .sent central =>
              some (central, { request with task := .replied routedReply })
          | .closed =>
              some (central, { request with task := .replied closedReply })
          | .full => none
      | _ => none
  | .timeout =>
      match request.task with
      | .sending _ => some (central, { request with task := .timedOut })
      | _ => none

end HttpRequest

/-! ## The dispatcher and the whole router -/

namespace State

/-- No stream, no request, an empty table. -/
def start : State where
  central := .empty
  edges :=
    { lock := .new ∅
      streams := fun _ => .fresh _ _ { pc := .idle, connectedEdgeId := none }
      log := [] }
  manager :=
    { lock := .new none, streams := fun _ => .fresh _ _ .idle, log := [] }
  data :=
    { lock := .new none, streams := fun _ => .fresh _ _ .idle, log := [] }
  http := fun _ => { task := .idle, posted := [] }
  dispatcher := .receiving
  dispatched := []

/-- The dispatcher is done with a message and receives again. -/
def finish (state : State) (message : Tagged RouterMessage)
    (result : DispatchResult) : State :=
  { state with
    dispatcher := .receiving
    dispatched := state.dispatched ++ [{ message, result }] }

/-- The result of `send_to_*` once the channel took the message or turned out to
be closed. -/
def finishSend (state : State) (message : Tagged RouterMessage)
    (delivered : Bool) : State :=
  state.finish message (.unicast
    (if delivered then .ok () else .error (closedError message.value)))

/-- After the lookup of `send_to_*`: on to the send, or back with an error. -/
def finishLookUp (state : State) (message : Tagged RouterMessage) :
    Option StreamId → State
  | some tx => { state with dispatcher := .sending message tx }
  | none => state.finish message
      (.unicast (.error (notConnectedError message.value)))

/-- A received message asks for the read guard its destination needs. -/
def route (state : State) (message : Tagged RouterMessage) : State :=
  let state := { state with dispatcher := .lookingUp message }
  match message.value with
  | .toEdge _ _ => { state with edges := state.edges.requestRead }
  | .toManager _ => { state with manager := state.manager.requestRead }
  | .toData _ => { state with data := state.data.requestRead }

/-- `dispatcher_task`, with the sends of the routing table unfolded into it. -/
def dispatch (state : State) (order : List (String × StreamId)) :
    Option State :=
  match state.dispatcher with
  | .receiving =>
      state.central.receive.map fun (message, central) =>
        { state with central }.route message
  | .lookingUp message =>
      match message.value with
      | .toEdge destination toEdge =>
          match toEdge.heartbeat? with
          | some heartbeat =>
              -- `broadcast_heartbeat_to_edges`
              (state.edges.lock.acquire .dispatcher).bind fun lock =>
                if order.Perm lock.value.pairs then
                  some { state with
                    edges := { state.edges with lock }
                    dispatcher := .broadcasting message heartbeat order 0 }
                else none
          | none =>
              (state.edges.lookUp (·.lookup destination)).map fun (edges, tx) =>
                { state with edges }.finishLookUp message tx
      | .toManager _ =>
          (state.manager.lookUp id).map fun (manager, tx) =>
            { state with manager }.finishLookUp message tx
      | .toData _ =>
          (state.data.lookUp id).map fun (data, tx) =>
            { state with data }.finishLookUp message tx
  | .sending message tx =>
      match message.value with
      | .toEdge _ toEdge =>
          (state.edges.unicast tx (message.as toEdge)).map
            fun (edges, delivered) => { state with edges }.finishSend message delivered
      | .toManager toManager =>
          (state.manager.unicast tx (message.as toManager)).map
            fun (manager, delivered) =>
              { state with manager }.finishSend message delivered
      | .toData toData =>
          (state.data.unicast tx (message.as toData)).map
            fun (data, delivered) => { state with data }.finishSend message delivered
  | .broadcasting message heartbeat rest sentCount =>
      match rest with
      | [] =>
          some ({ state with edges := state.edges.release }.finish message
            (.broadcast sentCount))
      | (edgeId, tx) :: rest =>
          match state.edges.deliver tx
              (message.as { edgeId, payload := some (.heartbeat heartbeat) }) with
          | .sent edges =>
              some { state with
                edges
                dispatcher := .broadcasting message heartbeat rest (sentCount + 1) }
          | .closed =>
              some { state with
                dispatcher := .broadcasting message heartbeat rest sentCount }
          | .full => none

/-- One step of the router; `none` if the action is not enabled. -/
def step (state : State) : Action → Option State
  | .edge i action =>
      (EdgeSide.step state.central state.edges i action).map
        fun (central, edges) => { state with central, edges }
  | .manager i action =>
      (SlotSide.step managerService state.central state.manager i action).map
        fun (central, manager) => { state with central, manager }
  | .data i action =>
      (SlotSide.step dataService state.central state.data i action).map
        fun (central, data) => { state with central, data }
  | .http i action =>
      ((state.http i).step state.central i action).map
        fun (central, request) =>
          { state with central, http := Function.update state.http i request }
  | .dispatcher order => state.dispatch order

end State

/-- The router as a transition system: a schedule is an interleaving of all
tasks and clients. -/
def system : System State Action where
  start := State.start
  step := State.step

end IotRouter.Router
