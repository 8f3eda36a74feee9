import IotRouter.Router.Step

/-!
# What one step can do

The step functions read backwards: every enabled step of a stream or of the
dispatcher is one of the cases below, with everything it checked and everything
it changed. Later proofs split on these cases and never unfold a step function.

The dispatcher touches a side of the table only through its read guard and
through the outbound channels; `Side.Served` says what it leaves alone.
-/

namespace IotRouter.Router

open IotRouter.Grpc IotRouter.Https IotRouter.Runtime

namespace Side

variable {Value Task In Out Op : Type}
variable (side : Side Value Task In Out Op)

@[simp] theorem setStream_log (i : StreamId) (stream : Stream Task In Out) :
    (side.setStream i stream).log = side.log := rfl

@[simp] theorem setStream_self (i : StreamId) (stream : Stream Task In Out) :
    (side.setStream i stream).streams i = stream := by
  simp [setStream]

theorem setStream_of_ne {i j : StreamId} (different : j ≠ i)
    (stream : Stream Task In Out) :
    (side.setStream i stream).streams j = side.streams j := by
  simp [setStream, different]

@[simp] theorem requestWrite_streams (i : StreamId) :
    (side.requestWrite i).streams = side.streams := rfl

variable {side} {side' : Side Value Task In Out Op}

/-- A granted write changes the value, appends to the log and leaves the
streams. -/
theorem write_eq_some {i : StreamId} {update : Value → Value} {op : Op} :
    side.write i update op = some side' ↔
      ∃ lock, side.lock.write (.stream i) update = some lock ∧
        side' = { side with lock, log := side.log ++ [op] } := by
  simp only [write, Option.map_eq_some_iff]
  exact exists_congr fun _ => and_congr_right fun _ => eq_comm

theorem lookUp_eq_some {entry : Value → Option StreamId}
    {found : Option StreamId} :
    side.lookUp entry = some (side', found) ↔
      ∃ lock, side.lock.acquire .dispatcher = some lock ∧
        found = entry lock.value ∧
        side' = { side with
          lock := if found.isSome then lock else lock.release .dispatcher } := by
  simp only [lookUp]
  rw [Option.map_eq_some_iff]
  apply exists_congr fun lock => and_congr_right fun _ => ?_
  cases lookup : entry lock.value with
  | none =>
      simp only [Prod.mk.injEq]
      constructor
      · intro equal
        rcases equal with ⟨rfl, rfl⟩
        exact ⟨rfl, rfl⟩
      · intro equal
        rcases equal with ⟨rfl, rfl⟩
        exact ⟨rfl, rfl⟩
  | some tx =>
      simp only [Prod.mk.injEq]
      constructor
      · intro equal
        rcases equal with ⟨rfl, rfl⟩
        exact ⟨rfl, rfl⟩
      · intro equal
        rcases equal with ⟨rfl, rfl⟩
        exact ⟨rfl, rfl⟩

theorem deliver_eq_sent {tx : StreamId} {message : Tagged Out} :
    side.deliver tx message = .sent side' ↔
      ∃ outbound, (side.streams tx).outbound.send message = .sent outbound ∧
        side' = side.setStream tx { side.streams tx with outbound } := by
  simp only [deliver]
  split <;> rename_i sent <;> simp [sent, eq_comm]

theorem deliver_eq_closed {tx : StreamId} {message : Tagged Out} :
    side.deliver tx message = .closed ↔
      (side.streams tx).outbound.isOpen = false := by
  rw [← Channel.send_eq_closed message]
  simp only [deliver]
  split <;> rename_i sent <;> simp [sent]

theorem deliver_eq_full {tx : StreamId} (message : Tagged Out) :
    side.deliver tx message = .full ↔
      (side.streams tx).outbound.isOpen = true ∧
        100 ≤ (side.streams tx).outbound.queue.length := by
  rw [← Channel.send_eq_full message]
  simp only [deliver]
  split <;> rename_i sent <;> simp [sent]

theorem unicast_eq_some {tx : StreamId} {message : Tagged Out}
    {delivered : Bool} :
    side.unicast tx message = some (side', delivered) ↔
      (∃ sent, side.deliver tx message = .sent sent ∧ delivered = true ∧
        side' = sent.release) ∨
      (side.deliver tx message = .closed ∧ delivered = false ∧
        side' = side.release) := by
  simp only [unicast]
  split <;> rename_i attempt <;> simp [attempt, eq_comm, and_comm]

/-! ## What the dispatcher leaves alone -/

/-- The effect of a dispatcher step on one side: the table, the log and the
tasks stay, and an outbound channel only gains messages. -/
structure Served (side side' : Side Value Task In Out Op) : Prop where
  value : side'.lock.value = side.lock.value
  log : side'.log = side.log
  streams : ∀ i, ∃ outbound, side'.streams i = { side.streams i with outbound } ∧
    outbound.isOpen = (side.streams i).outbound.isOpen ∧
    (side.streams i).outbound.accepted <+: outbound.accepted

theorem Served.refl (side : Side Value Task In Out Op) : Served side side where
  value := rfl
  log := rfl
  streams i := ⟨(side.streams i).outbound, rfl, rfl, List.prefix_rfl⟩

theorem Served.trans {first second third : Side Value Task In Out Op}
    (left : Served first second) (right : Served second third) :
    Served first third where
  value := right.value.trans left.value
  log := right.log.trans left.log
  streams i := by
    rcases left.streams i with ⟨middle, middleEq, middleOpen, middlePrefix⟩
    rcases right.streams i with ⟨last, lastEq, lastOpen, lastPrefix⟩
    rw [middleEq] at lastEq lastOpen lastPrefix
    exact ⟨last, lastEq, lastOpen.trans middleOpen,
      middlePrefix.trans lastPrefix⟩

/-- Only the queue and the guards of the lock change. -/
theorem Served.of_lock {lock : RwLock Party Value}
    (same : lock.value = side.lock.value) : Served side { side with lock } where
  value := same
  log := rfl
  streams i := ⟨(side.streams i).outbound, rfl, rfl, List.prefix_rfl⟩

theorem served_requestRead (side : Side Value Task In Out Op) :
    Served side side.requestRead :=
  .of_lock rfl

theorem served_release (side : Side Value Task In Out Op) :
    Served side side.release :=
  .of_lock rfl

theorem served_acquire {lock : RwLock Party Value}
    (acquired : side.lock.acquire .dispatcher = some lock) :
    Served side { side with lock } := by
  rcases RwLock.acquire_eq_some.mp acquired with ⟨_, _, rfl⟩
  exact .of_lock rfl

theorem served_lookUp {entry : Value → Option StreamId}
    {found : Option StreamId}
    (looked : side.lookUp entry = some (side', found)) : Served side side' := by
  rcases lookUp_eq_some.mp looked with ⟨lock, acquired, _, rfl⟩
  rcases RwLock.acquire_eq_some.mp acquired with ⟨_, _, rfl⟩
  refine .of_lock ?_
  split <;> rfl

theorem served_deliver {tx : StreamId} {message : Tagged Out}
    (sent : side.deliver tx message = .sent side') : Served side side' := by
  rcases deliver_eq_sent.mp sent with ⟨outbound, accepted, rfl⟩
  rcases Channel.send_eq_sent.mp accepted with ⟨_, room, rfl⟩
  refine ⟨rfl, rfl, fun i => ?_⟩
  by_cases target : i = tx
  · subst target
    exact ⟨_, side.setStream_self _ _, rfl, List.prefix_append _ _⟩
  · exact ⟨_, side.setStream_of_ne target _, rfl, List.prefix_rfl⟩

theorem served_unicast {tx : StreamId} {message : Tagged Out} {delivered : Bool}
    (sent : side.unicast tx message = some (side', delivered)) :
    Served side side' := by
  rcases unicast_eq_some.mp sent with ⟨middle, delivered, _, rfl⟩ | ⟨_, _, rfl⟩
  · exact (served_deliver delivered).trans (served_release _)
  · exact served_release _

section Fields

variable (served : Served side side') (i : StreamId)
include served

theorem Served.task : (side'.streams i).task = (side.streams i).task := by
  rcases served.streams i with ⟨_, same, _⟩
  rw [same]

theorem Served.inboundOpen :
    (side'.streams i).inboundOpen = (side.streams i).inboundOpen := by
  rcases served.streams i with ⟨_, same, _⟩
  rw [same]

theorem Served.received :
    (side'.streams i).received = (side.streams i).received := by
  rcases served.streams i with ⟨_, same, _⟩
  rw [same]

theorem Served.sent : (side'.streams i).sent = (side.streams i).sent := by
  rcases served.streams i with ⟨_, same, _⟩
  rw [same]

end Fields

end Side

/-! ## Streams -/

namespace Stream

variable {Task In Out : Type} {stream stream' : Stream Task In Out}
variable {action : ClientAction In}

/-- A client neither moves the task nor touches what the task received, and
never reopens its direction. -/
theorem client_frame (acted : stream.client action = some stream') :
    stream'.task = stream.task ∧ stream'.received = stream.received ∧
      (stream'.inboundOpen = true → stream.inboundOpen = true) := by
  cases action with
  | send | close | reset | dropReceiver =>
      simp only [client] at acted
      split at acted <;> cases acted
      rename_i opened
      exact ⟨rfl, rfl, by simp [opened]⟩
  | drain =>
      rcases Option.map_eq_some_iff.mp acted with ⟨_, _, rfl⟩
      exact ⟨rfl, rfl, id⟩

end Stream

/-- The steps of edge stream `i`: what its inbound task does at each await, and
what its client does. -/
inductive EdgeStep (central : Central) (side : EdgeSide) (i : StreamId) :
    StreamAction FromEdge → Central → EdgeSide → Prop where
  | connect (idle : (side.streams i).task.pc = .idle) :
      EdgeStep central side i .connect central (side.setStream i
        (.fresh _ _ { pc := .next, connectedEdgeId := none }))
  | client (action : ClientAction FromEdge) (stream : EdgeStream)
      (live : (side.streams i).task.pc ≠ .idle)
      (acted : (side.streams i).client action = some stream) :
      EdgeStep central side i (.client action) central (side.setStream i stream)
  /-- A message without `edge_id` is dropped. -/
  | skip (msg : FromEdge) (rest : List FromEdge)
      (pc : (side.streams i).task.pc = .next)
      (inbound : (side.streams i).inbound = msg :: rest)
      (anonymous : msg.edgeId = "") :
      EdgeStep central side i .task central (side.setStream i
        { side.streams i with
          inbound := rest, received := (side.streams i).received ++ [msg] })
  | read (msg : FromEdge) (rest : List FromEdge)
      (pc : (side.streams i).task.pc = .next)
      (inbound : (side.streams i).inbound = msg :: rest)
      (named : msg.edgeId ≠ "") :
      EdgeStep central side i .task central ((side.setStream i
        { side.streams i with
          inbound := rest, received := (side.streams i).received ++ [msg]
          task :=
            { pc := .registering (side.streams i).received.length msg
              connectedEdgeId := some msg.edgeId } }).requestWrite i)
  /-- The inbound stream ended and some id was announced. -/
  | leave (edgeId : String) (pc : (side.streams i).task.pc = .next)
      (inbound : (side.streams i).inbound = [])
      (ended : (side.streams i).inboundOpen = false)
      (connected : (side.streams i).task.connectedEdgeId = some edgeId) :
      EdgeStep central side i .task central ((side.setStream i
        { side.streams i with
          task := { (side.streams i).task with pc := .unregistering edgeId }
          }).requestWrite i)
  /-- The inbound stream ended and no id was ever announced. -/
  | vanish (pc : (side.streams i).task.pc = .next)
      (inbound : (side.streams i).inbound = [])
      (ended : (side.streams i).inboundOpen = false)
      (anonymous : (side.streams i).task.connectedEdgeId = none) :
      EdgeStep central side i .task central (side.setStream i
        { side.streams i with task := { (side.streams i).task with pc := .done } })
  /-- A message passes `ensure_edge_registered`. -/
  | register (index : Nat) (msg : FromEdge) (lock : RwLock Party EdgeMap)
      (pc : (side.streams i).task.pc = .registering index msg)
      (written : side.lock.write (.stream i)
        (fun edges => (ensureEdgeRegistered edges msg.edgeId i).1) = some lock) :
      EdgeStep central side i .task central
        (Side.setStream { side with
            lock, log := side.log ++ [.announced i index msg.edgeId] } i
          { side.streams i with
            task := { (side.streams i).task with
              pc := match processFromEdge msg with
                | some message => .forwarding
                    { source := .edge i, index, value := message }
                | none => .next } })
  | forward (message : Tagged RouterMessage) (central' : Central)
      (pc : (side.streams i).task.pc = .forwarding message)
      (sent : central.send message = .sent central') :
      EdgeStep central side i .task central' (side.setStream i
        { side.streams i with task := { (side.streams i).task with pc := .next } })
  /-- The central channel is closed; the message is dropped. -/
  | discard (message : Tagged RouterMessage)
      (pc : (side.streams i).task.pc = .forwarding message)
      (closed : central.send message = .closed) :
      EdgeStep central side i .task central (side.setStream i
        { side.streams i with task := { (side.streams i).task with pc := .next } })
  | unregister (edgeId : String) (lock : RwLock Party EdgeMap)
      (pc : (side.streams i).task.pc = .unregistering edgeId)
      (written : side.lock.write (.stream i)
        (fun edges => unregisterEdge edges edgeId) = some lock) :
      EdgeStep central side i .task central
        (Side.setStream { side with
            lock, log := side.log ++ [.unregistered i edgeId] } i
          { side.streams i with
            task := { (side.streams i).task with pc := .done } })

theorem EdgeSide.step_cases {central central' : Central} {side side' : EdgeSide}
    {i : StreamId} {action : StreamAction FromEdge}
    (stepped : EdgeSide.step central side i action = some (central', side')) :
    EdgeStep central side i action central' side' := by
  cases action with
  | connect =>
      simp only [EdgeSide.step] at stepped
      split at stepped <;> cases stepped
      exact .connect ‹_›
  | abort => cases stepped
  | client action =>
      simp only [EdgeSide.step] at stepped
      split at stepped
      · cases stepped
      · rcases Option.map_eq_some_iff.mp stepped with ⟨stream, acted, equal⟩
        cases equal
        exact .client action stream ‹_› acted
  | task =>
      simp only [EdgeSide.step, EdgeSide.runTask] at stepped
      split at stepped
      case h_1 => cases stepped
      case h_2 pc =>
        split at stepped
        case h_1 => cases stepped
        case h_2 index msg stream next =>
          simp only [Stream.next] at next
          split at next
          case h_2 => split at next <;> cases next
          case h_1 head rest inbound =>
            cases next
            split at stepped
            · cases stepped
              exact .skip msg rest pc inbound ‹_›
            · cases stepped
              exact .read msg rest pc inbound ‹_›
        case h_3 next =>
          simp only [Stream.next] at next
          split at next
          case h_1 => cases next
          case h_2 inbound =>
            split at next
            · cases next
            · rename_i closed
              have ended := Bool.eq_false_iff.mpr closed
              split at stepped
              · cases stepped
                exact .leave _ pc inbound ended ‹_›
              · cases stepped
                exact .vanish pc inbound ended ‹_›
      case h_3 index msg pc =>
        rcases Option.map_eq_some_iff.mp stepped with ⟨written, wrote, equal⟩
        rcases Side.write_eq_some.mp wrote with ⟨lock, locked, rfl⟩
        cases equal
        exact .register index msg lock pc locked
      case h_4 message pc =>
        split at stepped
        · cases stepped
          exact .forward message _ pc ‹_›
        · cases stepped
          exact .discard message pc ‹_›
        · cases stepped
      case h_5 edgeId pc =>
        rcases Option.map_eq_some_iff.mp stepped with ⟨written, wrote, equal⟩
        rcases Side.write_eq_some.mp wrote with ⟨lock, locked, rfl⟩
        cases equal
        exact .unregister edgeId lock pc locked
      case h_6 => cases stepped

/-- A step of one edge stream leaves the other streams alone. -/
theorem EdgeStep.streams_of_ne {central central' : Central}
    {side side' : EdgeSide} {i j : StreamId} {action : StreamAction FromEdge}
    (stepped : EdgeStep central side i action central' side')
    (different : j ≠ i) : side'.streams j = side.streams j := by
  cases stepped <;> exact Side.setStream_of_ne _ different _

/-- The steps of Manager or Data session `i`. -/
inductive SessionStep {In Out : Type} (service : SlotService In)
    (central : Central) (side : SlotSide In Out) (i : StreamId) :
    StreamAction In → Central → SlotSide In Out → Prop where
  | connect (idle : (side.streams i).task = .idle) :
      SessionStep service central side i .connect central
        ((side.setStream i (.fresh _ _ .registering)).requestWrite i)
  | abort (waiting : (side.streams i).task = .registering) :
      SessionStep service central side i .abort central
        { side.setStream i { side.streams i with
            task := .done, outbound := (side.streams i).outbound.close } with
          lock := side.lock.cancel (.stream i) }
  | client (action : ClientAction In) (stream : Stream SessionTask In Out)
      (live : (side.streams i).task ≠ .idle)
      (acted : (side.streams i).client action = some stream) :
      SessionStep service central side i (.client action) central
        (side.setStream i stream)
  | register (lock : RwLock Party Slot)
      (task : (side.streams i).task = .registering)
      (written : side.lock.write (.stream i) (service.register i) = some lock) :
      SessionStep service central side i .task central
        (Side.setStream { side with
            lock, log := side.log ++ [.registered i] } i
          { side.streams i with task := .next })
  | read (msg : In) (rest : List In) (task : (side.streams i).task = .next)
      (inbound : (side.streams i).inbound = msg :: rest) :
      SessionStep service central side i .task central (side.setStream i
        { side.streams i with
          inbound := rest, received := (side.streams i).received ++ [msg]
          task := match service.process msg with
            | some message => .forwarding
                { source := service.source i
                  index := (side.streams i).received.length
                  value := message }
            | none => .next })
  | leave (task : (side.streams i).task = .next)
      (inbound : (side.streams i).inbound = [])
      (ended : (side.streams i).inboundOpen = false) :
      SessionStep service central side i .task central ((side.setStream i
        { side.streams i with task := .unregistering }).requestWrite i)
  | forward (message : Tagged RouterMessage) (central' : Central)
      (task : (side.streams i).task = .forwarding message)
      (sent : central.send message = .sent central') :
      SessionStep service central side i .task central' (side.setStream i
        { side.streams i with task := .next })
  | discard (message : Tagged RouterMessage)
      (task : (side.streams i).task = .forwarding message)
      (closed : central.send message = .closed) :
      SessionStep service central side i .task central (side.setStream i
        { side.streams i with task := .next })
  | unregister (lock : RwLock Party Slot)
      (task : (side.streams i).task = .unregistering)
      (written : side.lock.write (.stream i) service.unregister = some lock) :
      SessionStep service central side i .task central
        (Side.setStream { side with
            lock, log := side.log ++ [.unregistered i] } i
          { side.streams i with task := .done })

theorem SlotSide.step_cases {In Out : Type} {service : SlotService In}
    {central central' : Central} {side side' : SlotSide In Out} {i : StreamId}
    {action : StreamAction In}
    (stepped : SlotSide.step service central side i action =
      some (central', side')) :
    SessionStep service central side i action central' side' := by
  cases action with
  | connect =>
      simp only [SlotSide.step] at stepped
      split at stepped <;> cases stepped
      exact .connect ‹_›
  | abort =>
      simp only [SlotSide.step] at stepped
      split at stepped <;> cases stepped
      exact .abort ‹_›
  | client action =>
      simp only [SlotSide.step] at stepped
      split at stepped
      · cases stepped
      · rcases Option.map_eq_some_iff.mp stepped with ⟨stream, acted, equal⟩
        cases equal
        exact .client action stream ‹_› acted
  | task =>
      simp only [SlotSide.step, SlotSide.runTask] at stepped
      split at stepped
      case h_1 => cases stepped
      case h_2 task =>
        rcases Option.map_eq_some_iff.mp stepped with ⟨written, wrote, equal⟩
        rcases Side.write_eq_some.mp wrote with ⟨lock, locked, rfl⟩
        cases equal
        exact .register lock task locked
      case h_3 task =>
        split at stepped
        case h_1 => cases stepped
        case h_2 index msg stream next =>
          simp only [Stream.next] at next
          split at next
          case h_2 => split at next <;> cases next
          case h_1 head rest inbound =>
            cases next
            cases stepped
            exact .read msg rest task inbound
        case h_3 next =>
          simp only [Stream.next] at next
          split at next
          case h_1 => cases next
          case h_2 inbound =>
            split at next
            · cases next
            · rename_i closed
              cases stepped
              exact .leave task inbound (Bool.eq_false_iff.mpr closed)
      case h_4 message task =>
        split at stepped
        · cases stepped
          exact .forward message _ task ‹_›
        · cases stepped
          exact .discard message task ‹_›
        · cases stepped
      case h_5 task =>
        rcases Option.map_eq_some_iff.mp stepped with ⟨written, wrote, equal⟩
        rcases Side.write_eq_some.mp wrote with ⟨lock, locked, rfl⟩
        cases equal
        exact .unregister lock task locked
      case h_6 => cases stepped

/-- A step of one session leaves the other sessions alone. -/
theorem SessionStep.streams_of_ne {In Out : Type} {service : SlotService In}
    {central central' : Central} {side side' : SlotSide In Out} {i j : StreamId}
    {action : StreamAction In}
    (stepped : SessionStep service central side i action central' side')
    (different : j ≠ i) : side'.streams j = side.streams j := by
  cases stepped <;> exact Side.setStream_of_ne _ different _

/-- The steps of the handler of request `i`. -/
inductive HttpStep (central : Central) (request : HttpRequest) (i : Nat) :
    HttpAction → Central → HttpRequest → Prop where
  | accept (body : Body) (message : RouterMessage)
      (idle : request.task = .idle)
      (handled : handleTelemetry body = .ok message) :
      HttpStep central request i (.post body) central
        { task := .sending message, posted := [message] }
  | reject (body : Body) (error : AppError) (idle : request.task = .idle)
      (handled : handleTelemetry body = .error error) :
      HttpStep central request i (.post body) central
        { request with task := .replied (.error error) }
  | send (message : RouterMessage) (central' : Central)
      (task : request.task = .sending message)
      (sent : central.send { source := .http i, index := 0, value := message } =
        .sent central') :
      HttpStep central request i .task central'
        { request with task := .replied routedReply }
  | discard (message : RouterMessage) (task : request.task = .sending message)
      (closed : central.send { source := .http i, index := 0, value := message } =
        .closed) :
      HttpStep central request i .task central
        { request with task := .replied closedReply }
  | timeout (message : RouterMessage) (task : request.task = .sending message) :
      HttpStep central request i .timeout central
        { request with task := .timedOut }

theorem HttpRequest.step_cases {central central' : Central}
    {request request' : HttpRequest} {i : Nat} {action : HttpAction}
    (stepped : request.step central i action = some (central', request')) :
    HttpStep central request i action central' request' := by
  cases action with
  | post body =>
      simp only [HttpRequest.step] at stepped
      split at stepped
      case h_2 => cases stepped
      case h_1 idle =>
        split at stepped <;> cases stepped
        · exact .accept body _ idle ‹_›
        · exact .reject body _ idle ‹_›
  | task =>
      simp only [HttpRequest.step] at stepped
      split at stepped
      case h_2 => cases stepped
      case h_1 message task =>
        split at stepped <;> cases stepped
        · exact .send message _ task ‹_›
        · exact .discard message task ‹_›
  | timeout =>
      simp only [HttpRequest.step] at stepped
      split at stepped <;> cases stepped
      exact .timeout _ ‹_›

/-! ## The dispatcher -/

namespace State

/-- The steps of the dispatcher. -/
inductive DispatchStep (state : State) (order : List (String × StreamId)) :
    State → Prop where
  | receive (message : Tagged RouterMessage) (central : Central)
      (idle : state.dispatcher = .receiving)
      (received : state.central.receive = some (message, central)) :
      DispatchStep state order ({ state with central }.route message)
  | lookUpEdge (message : Tagged RouterMessage) (destination : String)
      (toEdge : ToEdge) (edges : EdgeSide) (found : Option StreamId)
      (at_ : state.dispatcher = .lookingUp message)
      (value : message.value = .toEdge destination toEdge)
      (plain : toEdge.heartbeat? = none)
      (looked : state.edges.lookUp (·.lookup destination) = some (edges, found)) :
      DispatchStep state order ({ state with edges }.finishLookUp message found)
  | lookUpManager (message : Tagged RouterMessage) (toManager : ToManager)
      (manager : SlotSide FromManager ToManager) (found : Option StreamId)
      (at_ : state.dispatcher = .lookingUp message)
      (value : message.value = .toManager toManager)
      (looked : state.manager.lookUp id = some (manager, found)) :
      DispatchStep state order ({ state with manager }.finishLookUp message found)
  | lookUpData (message : Tagged RouterMessage) (toData : ToDataSaver)
      (data : SlotSide FromDataSaver ToDataSaver) (found : Option StreamId)
      (at_ : state.dispatcher = .lookingUp message)
      (value : message.value = .toData toData)
      (looked : state.data.lookUp id = some (data, found)) :
      DispatchStep state order ({ state with data }.finishLookUp message found)
  | startBroadcast (message : Tagged RouterMessage) (destination : String)
      (toEdge : ToEdge) (heartbeat : Heartbeat) (lock : RwLock Party EdgeMap)
      (at_ : state.dispatcher = .lookingUp message)
      (value : message.value = .toEdge destination toEdge)
      (beat : toEdge.heartbeat? = some heartbeat)
      (acquired : state.edges.lock.acquire .dispatcher = some lock)
      (iterates : order.Perm lock.value.pairs) :
      DispatchStep state order { state with
        edges := { state.edges with lock }
        dispatcher := .broadcasting message heartbeat order 0 }
  | sendEdge (message : Tagged RouterMessage) (destination : String)
      (toEdge : ToEdge) (tx : StreamId) (edges : EdgeSide) (delivered : Bool)
      (at_ : state.dispatcher = .sending message tx)
      (value : message.value = .toEdge destination toEdge)
      (sent : state.edges.unicast tx (message.as toEdge) =
        some (edges, delivered)) :
      DispatchStep state order ({ state with edges }.finishSend message delivered)
  | sendManager (message : Tagged RouterMessage) (toManager : ToManager)
      (tx : StreamId) (manager : SlotSide FromManager ToManager)
      (delivered : Bool) (at_ : state.dispatcher = .sending message tx)
      (value : message.value = .toManager toManager)
      (sent : state.manager.unicast tx (message.as toManager) =
        some (manager, delivered)) :
      DispatchStep state order
        ({ state with manager }.finishSend message delivered)
  | sendData (message : Tagged RouterMessage) (toData : ToDataSaver)
      (tx : StreamId) (data : SlotSide FromDataSaver ToDataSaver)
      (delivered : Bool) (at_ : state.dispatcher = .sending message tx)
      (value : message.value = .toData toData)
      (sent : state.data.unicast tx (message.as toData) = some (data, delivered)) :
      DispatchStep state order ({ state with data }.finishSend message delivered)
  | broadcastSent (message : Tagged RouterMessage) (heartbeat : Heartbeat)
      (edgeId : String) (tx : StreamId) (rest : List (String × StreamId))
      (sentCount : Nat) (edges : EdgeSide)
      (at_ : state.dispatcher =
        .broadcasting message heartbeat ((edgeId, tx) :: rest) sentCount)
      (sent : state.edges.deliver tx
        (message.as { edgeId, payload := some (.heartbeat heartbeat) }) =
          .sent edges) :
      DispatchStep state order { state with
        edges
        dispatcher := .broadcasting message heartbeat rest (sentCount + 1) }
  | broadcastClosed (message : Tagged RouterMessage) (heartbeat : Heartbeat)
      (edgeId : String) (tx : StreamId) (rest : List (String × StreamId))
      (sentCount : Nat)
      (at_ : state.dispatcher =
        .broadcasting message heartbeat ((edgeId, tx) :: rest) sentCount)
      (closed : (state.edges.streams tx).outbound.isOpen = false) :
      DispatchStep state order { state with
        dispatcher := .broadcasting message heartbeat rest sentCount }
  | finishBroadcast (message : Tagged RouterMessage) (heartbeat : Heartbeat)
      (sentCount : Nat)
      (at_ : state.dispatcher = .broadcasting message heartbeat [] sentCount) :
      DispatchStep state order
        ({ state with edges := state.edges.release }.finish message
          (.broadcast sentCount))

theorem dispatch_cases {state next : State} {order : List (String × StreamId)}
    (stepped : state.dispatch order = some next) :
    DispatchStep state order next := by
  simp only [dispatch] at stepped
  split at stepped
  case h_1 idle =>
    rcases Option.map_eq_some_iff.mp stepped with
      ⟨⟨message, central⟩, received, rfl⟩
    exact .receive message central idle received
  case h_2 message at_ =>
    split at stepped
    case h_1 destination toEdge value =>
      split at stepped
      case h_1 heartbeat beat =>
        rcases Option.bind_eq_some_iff.mp stepped with ⟨lock, acquired, started⟩
        split at started <;> cases started
        exact .startBroadcast message destination toEdge heartbeat lock at_ value
          beat acquired ‹_›
      case h_2 plain =>
        rcases Option.map_eq_some_iff.mp stepped with
          ⟨⟨edges, found⟩, looked, rfl⟩
        exact .lookUpEdge message destination toEdge edges found at_ value plain
          looked
    case h_2 toManager value =>
      rcases Option.map_eq_some_iff.mp stepped with
        ⟨⟨manager, found⟩, looked, rfl⟩
      exact .lookUpManager message toManager manager found at_ value looked
    case h_3 toData value =>
      rcases Option.map_eq_some_iff.mp stepped with ⟨⟨data, found⟩, looked, rfl⟩
      exact .lookUpData message toData data found at_ value looked
  case h_3 message tx at_ =>
    split at stepped
    case h_1 destination toEdge value =>
      rcases Option.map_eq_some_iff.mp stepped with
        ⟨⟨edges, delivered⟩, sent, rfl⟩
      exact .sendEdge message destination toEdge tx edges delivered at_ value sent
    case h_2 toManager value =>
      rcases Option.map_eq_some_iff.mp stepped with
        ⟨⟨manager, delivered⟩, sent, rfl⟩
      exact .sendManager message toManager tx manager delivered at_ value sent
    case h_3 toData value =>
      rcases Option.map_eq_some_iff.mp stepped with
        ⟨⟨data, delivered⟩, sent, rfl⟩
      exact .sendData message toData tx data delivered at_ value sent
  case h_4 message heartbeat rest sentCount at_ =>
    split at stepped
    case h_1 =>
      cases stepped
      exact .finishBroadcast message heartbeat sentCount at_
    case h_2 edgeId tx rest =>
      split at stepped
      case h_1 edges sent =>
        cases stepped
        exact .broadcastSent message heartbeat edgeId tx rest sentCount edges at_
          sent
      case h_2 closed =>
        cases stepped
        exact .broadcastClosed message heartbeat edgeId tx rest sentCount at_
          (Side.deliver_eq_closed.mp closed)
      case h_3 => cases stepped

/-- The dispatcher serves every side and leaves the requests alone. -/
theorem DispatchStep.served {state next : State}
    {order : List (String × StreamId)}
    (stepped : DispatchStep state order next) :
    Side.Served state.edges next.edges ∧
      Side.Served state.manager next.manager ∧
      Side.Served state.data next.data ∧ next.http = state.http := by
  cases stepped with
  | receive message central idle received =>
      simp only [route]
      split
      · exact ⟨Side.served_requestRead _, .refl _, .refl _, rfl⟩
      · exact ⟨.refl _, Side.served_requestRead _, .refl _, rfl⟩
      · exact ⟨.refl _, .refl _, Side.served_requestRead _, rfl⟩
  | lookUpEdge message destination toEdge edges found at_ value plain looked =>
      cases found <;> exact ⟨Side.served_lookUp looked, .refl _, .refl _, rfl⟩
  | lookUpManager message toManager manager found at_ value looked =>
      cases found <;> exact ⟨.refl _, Side.served_lookUp looked, .refl _, rfl⟩
  | lookUpData message toData data found at_ value looked =>
      cases found <;> exact ⟨.refl _, .refl _, Side.served_lookUp looked, rfl⟩
  | startBroadcast message destination toEdge heartbeat lock at_ value beat
      acquired iterates =>
      exact ⟨Side.served_acquire acquired, .refl _, .refl _, rfl⟩
  | sendEdge message destination toEdge tx edges delivered at_ value sent =>
      exact ⟨Side.served_unicast sent, .refl _, .refl _, rfl⟩
  | sendManager message toManager tx manager delivered at_ value sent =>
      exact ⟨.refl _, Side.served_unicast sent, .refl _, rfl⟩
  | sendData message toData tx data delivered at_ value sent =>
      exact ⟨.refl _, .refl _, Side.served_unicast sent, rfl⟩
  | broadcastSent message heartbeat edgeId tx rest sentCount edges at_ sent =>
      exact ⟨Side.served_deliver sent, .refl _, .refl _, rfl⟩
  | broadcastClosed => exact ⟨.refl _, .refl _, .refl _, rfl⟩
  | finishBroadcast => exact ⟨Side.served_release _, .refl _, .refl _, rfl⟩

/-! ## The whole router -/

/-- The steps of the router. -/
inductive Step (state : State) : Action → State → Prop where
  | edge (i : StreamId) (action : StreamAction FromEdge) (central : Central)
      (edges : EdgeSide)
      (stepped : EdgeStep state.central state.edges i action central edges) :
      Step state (.edge i action) { state with central, edges }
  | manager (i : StreamId) (action : StreamAction FromManager)
      (central : Central) (manager : SlotSide FromManager ToManager)
      (stepped : SessionStep managerService state.central state.manager i action
        central manager) :
      Step state (.manager i action) { state with central, manager }
  | data (i : StreamId) (action : StreamAction FromDataSaver)
      (central : Central) (data : SlotSide FromDataSaver ToDataSaver)
      (stepped : SessionStep dataService state.central state.data i action
        central data) :
      Step state (.data i action) { state with central, data }
  | http (i : Nat) (action : HttpAction) (central : Central)
      (request : HttpRequest)
      (stepped : HttpStep state.central (state.http i) i action central request) :
      Step state (.http i action)
        { state with central, http := Function.update state.http i request }
  | dispatcher (order : List (String × StreamId)) (next : State)
      (stepped : DispatchStep state order next) :
      Step state (.dispatcher order) next

theorem step_cases {state next : State} {action : Action}
    (stepped : system.step state action = some next) : Step state action next := by
  cases action with
  | edge i action =>
      rcases Option.map_eq_some_iff.mp stepped with
        ⟨⟨central, edges⟩, inner, rfl⟩
      exact .edge i action central edges (EdgeSide.step_cases inner)
  | manager i action =>
      rcases Option.map_eq_some_iff.mp stepped with
        ⟨⟨central, manager⟩, inner, rfl⟩
      exact .manager i action central manager (SlotSide.step_cases inner)
  | data i action =>
      rcases Option.map_eq_some_iff.mp stepped with
        ⟨⟨central, data⟩, inner, rfl⟩
      exact .data i action central data (SlotSide.step_cases inner)
  | http i action =>
      rcases Option.map_eq_some_iff.mp stepped with
        ⟨⟨central, request⟩, inner, rfl⟩
      exact .http i action central request (HttpRequest.step_cases inner)
  | dispatcher order => exact .dispatcher order next (dispatch_cases stepped)

/-- What a step of the router does to the edge side: a step of one stream, or
service by the dispatcher. -/
theorem step_edges {state next : State} {action : Action}
    (stepped : system.step state action = some next) :
    (∃ i act, action = .edge i act ∧
      EdgeStep state.central state.edges i act next.central next.edges) ∨
    ((∀ i act, action ≠ .edge i act) ∧ Side.Served state.edges next.edges) := by
  cases step_cases stepped with
  | edge i act central edges inner => exact Or.inl ⟨i, act, rfl, inner⟩
  | manager | data | http => exact Or.inr ⟨by simp, .refl _⟩
  | dispatcher order next inner => exact Or.inr ⟨by simp, inner.served.1⟩

theorem step_manager {state next : State} {action : Action}
    (stepped : system.step state action = some next) :
    (∃ i act, action = .manager i act ∧
      SessionStep managerService state.central state.manager i act next.central
        next.manager) ∨
    ((∀ i act, action ≠ .manager i act) ∧
      Side.Served state.manager next.manager) := by
  cases step_cases stepped with
  | manager i act central manager inner => exact Or.inl ⟨i, act, rfl, inner⟩
  | edge | data | http => exact Or.inr ⟨by simp, .refl _⟩
  | dispatcher order next inner => exact Or.inr ⟨by simp, inner.served.2.1⟩

theorem step_data {state next : State} {action : Action}
    (stepped : system.step state action = some next) :
    (∃ i act, action = .data i act ∧
      SessionStep dataService state.central state.data i act next.central
        next.data) ∨
    ((∀ i act, action ≠ .data i act) ∧ Side.Served state.data next.data) := by
  cases step_cases stepped with
  | data i act central data inner => exact Or.inl ⟨i, act, rfl, inner⟩
  | edge | manager | http => exact Or.inr ⟨by simp, .refl _⟩
  | dispatcher order next inner => exact Or.inr ⟨by simp, inner.served.2.2.1⟩

end State

end IotRouter.Router
