import IotRouter.Router.Inversion

/-!
# Who waits for the table and who holds it

In every reachable state the queue of each lock lists exactly the streams whose
tasks wait to write and the dispatcher if it waits to read, and the only read
guard is the dispatcher's. It follows that the table does not change while the
dispatcher is sending, so an entry it looked up is still the entry when the
message goes out.
-/

namespace IotRouter.Router

open IotRouter.Grpc IotRouter.Runtime

/-- The locks of the routing table. -/
inductive TableLock where
  | edges
  | manager
  | data
  deriving DecidableEq, Repr

/-- The lock a message needs for its delivery. -/
def tableLock : RouterMessage → TableLock
  | .toEdge _ _ => .edges
  | .toManager _ => .manager
  | .toData _ => .data

/-- The dispatcher waits for a read guard. -/
def Dispatcher.LooksAt (dispatcher : Dispatcher) (lock : TableLock) : Prop :=
  match dispatcher with
  | .lookingUp message => tableLock message.value = lock
  | _ => False

/-- The dispatcher holds a read guard. -/
def Dispatcher.Holds (dispatcher : Dispatcher) (lock : TableLock) : Prop :=
  match dispatcher with
  | .sending message _ => tableLock message.value = lock
  | .broadcasting _ _ _ _ => lock = .edges
  | _ => False

section Cases

variable (message : Tagged RouterMessage) (lock : TableLock)

@[simp] theorem looksAt_receiving :
    Dispatcher.receiving.LooksAt lock ↔ False := Iff.rfl
@[simp] theorem looksAt_lookingUp :
    (Dispatcher.lookingUp message).LooksAt lock ↔
      tableLock message.value = lock := Iff.rfl
@[simp] theorem looksAt_sending (tx : StreamId) :
    (Dispatcher.sending message tx).LooksAt lock ↔ False := Iff.rfl
@[simp] theorem looksAt_broadcasting (heartbeat : Heartbeat)
    (rest : List (String × StreamId)) (sentCount : Nat) :
    (Dispatcher.broadcasting message heartbeat rest sentCount).LooksAt lock ↔
      False := Iff.rfl

@[simp] theorem holds_receiving :
    Dispatcher.receiving.Holds lock ↔ False := Iff.rfl
@[simp] theorem holds_lookingUp :
    (Dispatcher.lookingUp message).Holds lock ↔ False := Iff.rfl
@[simp] theorem holds_sending (tx : StreamId) :
    (Dispatcher.sending message tx).Holds lock ↔
      tableLock message.value = lock := Iff.rfl
@[simp] theorem holds_broadcasting (heartbeat : Heartbeat)
    (rest : List (String × StreamId)) (sentCount : Nat) :
    (Dispatcher.broadcasting message heartbeat rest sentCount).Holds lock ↔
      lock = .edges := Iff.rfl

end Cases

/-- The task waits for a write guard. -/
def EdgeTask.Waits (task : EdgeTask) : Prop :=
  match task.pc with
  | .registering _ _ | .unregistering _ => True
  | _ => False

def SessionTask.Waits : SessionTask → Prop
  | .registering | .unregistering => True
  | _ => False

/-! ## One side -/

namespace Side

variable {Value Task In Out Op : Type}
variable {side side' : Side Value Task In Out Op}
variable {waits : Task → Prop} {looks holds : Prop}

/-- The lock of a side accounts for its streams and for the dispatcher. -/
def Accounted (side : Side Value Task In Out Op) (waits : Task → Prop)
    (looks holds : Prop) : Prop :=
  RwLock.Accounts Party.stream Party.dispatcher side.lock
    (fun i => waits (side.streams i).task) looks holds

theorem stream_injective : Function.Injective Party.stream := by
  intro left right equal
  exact Party.stream.inj equal

theorem stream_ne_dispatcher (i : StreamId) :
    Party.stream i ≠ Party.dispatcher := by
  simp

/-- A step of stream `i` that leaves the lock alone and neither starts nor stops
waiting. -/
theorem Accounted.setStream (account : side.Accounted waits looks holds)
    {i : StreamId} {stream : Stream Task In Out}
    (same : waits stream.task ↔ waits (side.streams i).task) :
    (side.setStream i stream).Accounted waits looks holds := by
  apply RwLock.Accounts.congr account (fun j => ?_) Iff.rfl Iff.rfl
  by_cases own : j = i
  · subst own
    simpa using same
  · rw [Side.setStream_of_ne side own]

/-- Stream `i` starts to wait for the write guard. -/
theorem Accounted.requestWrite (account : side.Accounted waits looks holds)
    {i : StreamId} {stream : Stream Task In Out}
    (fresh : ¬waits (side.streams i).task) (joins : waits stream.task) :
    ((side.setStream i stream).requestWrite i).Accounted waits looks holds := by
  apply RwLock.Accounts.request_write stream_injective account fresh
    (fun j => ?_)
  by_cases own : j = i
  · subst own
    simp [joins]
  · simp [Side.setStream_of_ne side own, own]

/-- The streams that wait after stream `i` has stopped waiting. -/
theorem waits_after {i : StreamId} {stream : Stream Task In Out}
    (leaves : ¬waits stream.task) (j : StreamId) :
    waits ((side.setStream i stream).streams j).task ↔
      j ≠ i ∧ waits (side.streams j).task := by
  by_cases own : j = i
  · subst own
    simp [leaves]
  · simp [Side.setStream_of_ne side own, own]

/-- Stream `i` gets the write guard and stops waiting. -/
theorem Accounted.write (account : side.Accounted waits looks holds)
    {i : StreamId} {update : Value → Value} {lock : RwLock Party Value}
    {log : List Op} {stream : Stream Task In Out}
    (written : side.lock.write (.stream i) update = some lock)
    (leaves : ¬waits stream.task) :
    (Side.setStream { side with lock, log } i stream).Accounted waits looks
      holds :=
  RwLock.Accounts.write stream_injective account written
    (waits_after leaves)

/-- Stream `i` gives up waiting. -/
theorem Accounted.cancel (account : side.Accounted waits looks holds)
    {i : StreamId} {stream : Stream Task In Out}
    (leaves : ¬waits stream.task) :
    ({ side.setStream i stream with
      lock := side.lock.cancel (.stream i) } :
        Side Value Task In Out Op).Accounted waits looks holds :=
  RwLock.Accounts.cancel stream_injective stream_ne_dispatcher account
    (waits_after leaves)

/-- The dispatcher starts to wait. -/
theorem Accounted.requestRead {looks' : Prop}
    (account : side.Accounted waits looks holds) (fresh : ¬looks)
    (joins : looks') : side.requestRead.Accounted waits looks' holds :=
  RwLock.Accounts.request_read account fresh joins

/-- The dispatcher looks an entry up and holds the guard if there is one. -/
theorem Accounted.lookUp {looks' holds' : Prop}
    (account : side.Accounted waits looks holds) (idle : ¬holds)
    {entry : Value → Option StreamId} {found : Option StreamId}
    (looked : side.lookUp entry = some (side', found)) (leaves : ¬looks')
    (takes : holds' ↔ found.isSome = true) :
    side'.Accounted waits looks' holds' := by
  rcases Side.lookUp_eq_some.mp looked with ⟨lock, acquired, _, rfl⟩
  have held : RwLock.Accounts Party.stream Party.dispatcher lock
      (fun i => waits (side.streams i).task) False True :=
    RwLock.Accounts.acquire account idle acquired not_false trivial
  cases found with
  | some tx =>
      exact held.congr (fun _ => Iff.rfl) (by simpa using leaves)
        (by simpa using takes)
  | none =>
      have dropped := held.release trivial not_false
      exact dropped.congr (fun _ => Iff.rfl) (by simpa using leaves)
        (by simpa using takes)

/-- The dispatcher takes the guard for a broadcast. -/
theorem Accounted.acquire {looks' holds' : Prop} {lock : RwLock Party Value}
    (account : side.Accounted waits looks holds) (idle : ¬holds)
    (acquired : side.lock.acquire .dispatcher = some lock) (leaves : ¬looks')
    (takes : holds') :
    ({ side with lock } : Side Value Task In Out Op).Accounted waits looks'
      holds' :=
  RwLock.Accounts.acquire account idle acquired leaves takes

theorem Accounted.deliver (account : side.Accounted waits looks holds)
    {tx : StreamId} {message : Tagged Out}
    (sent : side.deliver tx message = .sent side') :
    side'.Accounted waits looks holds := by
  rcases Side.deliver_eq_sent.mp sent with ⟨outbound, _, rfl⟩
  exact account.setStream Iff.rfl

/-- The dispatcher drops the guard. -/
theorem Accounted.release {holds' : Prop}
    (account : side.Accounted waits looks holds) (held : holds)
    (drops : ¬holds') : side.release.Accounted waits looks holds' :=
  RwLock.Accounts.release account held drops

theorem Accounted.unicast {holds' : Prop}
    (account : side.Accounted waits looks holds) (held : holds)
    {tx : StreamId} {message : Tagged Out} {delivered : Bool}
    (sent : side.unicast tx message = some (side', delivered))
    (drops : ¬holds') : side'.Accounted waits looks holds' := by
  rcases Side.unicast_eq_some.mp sent with
    ⟨middle, delivered, _, rfl⟩ | ⟨_, _, rfl⟩
  · exact (account.deliver delivered).release held drops
  · exact account.release held drops

end Side

theorem EdgeStep.accounted {central central' : Central}
    {side side' : EdgeSide} {i : StreamId} {action : StreamAction FromEdge}
    {looks holds : Prop}
    (stepped : EdgeStep central side i action central' side')
    (account : side.Accounted EdgeTask.Waits looks holds) :
    side'.Accounted EdgeTask.Waits looks holds := by
  cases stepped with
  | connect idle =>
      exact account.setStream (by simp [Stream.fresh, EdgeTask.Waits, idle])
  | client act stream live acted =>
      exact account.setStream (by rw [(Stream.client_frame acted).1])
  | skip msg rest pc => exact account.setStream Iff.rfl
  | read msg rest pc =>
      exact account.requestWrite (by simp [EdgeTask.Waits, pc])
        (by simp [EdgeTask.Waits])
  | leave edgeId pc =>
      exact account.requestWrite (by simp [EdgeTask.Waits, pc])
        (by simp [EdgeTask.Waits])
  | vanish pc => exact account.setStream (by simp [EdgeTask.Waits, pc])
  | register index msg lock pc written =>
      apply account.write written
      cases processFromEdge msg <;> simp [EdgeTask.Waits]
  | forward message central' pc =>
      exact account.setStream (by simp [EdgeTask.Waits, pc])
  | discard message pc =>
      exact account.setStream (by simp [EdgeTask.Waits, pc])
  | unregister edgeId lock pc written =>
      exact account.write written (by simp [EdgeTask.Waits])

theorem SessionStep.accounted {In Out : Type} {service : SlotService In}
    {central central' : Central} {side side' : SlotSide In Out} {i : StreamId}
    {action : StreamAction In} {looks holds : Prop}
    (stepped : SessionStep service central side i action central' side')
    (account : side.Accounted SessionTask.Waits looks holds) :
    side'.Accounted SessionTask.Waits looks holds := by
  cases stepped with
  | connect idle =>
      exact account.requestWrite (by simp [SessionTask.Waits, idle])
        (by simp [Stream.fresh, SessionTask.Waits])
  | abort waiting => exact account.cancel (by simp [SessionTask.Waits])
  | client act stream live acted =>
      exact account.setStream (by rw [(Stream.client_frame acted).1])
  | register lock task written =>
      exact account.write written (by simp [SessionTask.Waits])
  | read msg rest task =>
      apply account.setStream
      cases service.process msg <;> simp [SessionTask.Waits, task]
  | leave task =>
      exact account.requestWrite (by simp [SessionTask.Waits, task])
        (by simp [SessionTask.Waits])
  | forward message central' task =>
      exact account.setStream (by simp [SessionTask.Waits, task])
  | discard message task =>
      exact account.setStream (by simp [SessionTask.Waits, task])
  | unregister lock task written =>
      exact account.write written (by simp [SessionTask.Waits])

/-! ## The whole router -/

namespace State

/-- Each lock accounts for the streams of its side and for the dispatcher. -/
structure Locked (state : State) : Prop where
  edges : state.edges.Accounted EdgeTask.Waits
    (state.dispatcher.LooksAt .edges) (state.dispatcher.Holds .edges)
  manager : state.manager.Accounted SessionTask.Waits
    (state.dispatcher.LooksAt .manager) (state.dispatcher.Holds .manager)
  data : state.data.Accounted SessionTask.Waits
    (state.dispatcher.LooksAt .data) (state.dispatcher.Holds .data)

theorem locked_start : Locked start where
  edges := (RwLock.Accounts.new _).congr
    (by simp [start, Stream.fresh, EdgeTask.Waits]) (by simp [start])
    (by simp [start])
  manager := (RwLock.Accounts.new _).congr
    (by simp [start, Stream.fresh, SessionTask.Waits]) (by simp [start])
    (by simp [start])
  data := (RwLock.Accounts.new _).congr
    (by simp [start, Stream.fresh, SessionTask.Waits]) (by simp [start])
    (by simp [start])

/-- The dispatcher moves on without using this lock. -/
theorem accounted_elsewhere {Value Task In Out Op : Type}
    {side : Side Value Task In Out Op} {waits : Task → Prop}
    {dispatcher dispatcher' : Dispatcher} {lock : TableLock}
    (account : side.Accounted waits (dispatcher.LooksAt lock)
      (dispatcher.Holds lock))
    (looks : dispatcher'.LooksAt lock ↔ dispatcher.LooksAt lock)
    (holds : dispatcher'.Holds lock ↔ dispatcher.Holds lock) :
    side.Accounted waits (dispatcher'.LooksAt lock) (dispatcher'.Holds lock) :=
  RwLock.Accounts.congr account (fun _ => Iff.rfl) looks holds

theorem DispatchStep.locked {state next : State}
    {order : List (String × StreamId)}
    (stepped : DispatchStep state order next) (before : Locked state) :
    Locked next := by
  rcases before with ⟨edgeLock, managerLock, dataLock⟩
  cases stepped with
  | receive message central idle received =>
      rw [idle] at edgeLock managerLock dataLock
      simp only [route]
      split <;> rename_i value
      · refine ⟨edgeLock.requestRead ?_ ?_, accounted_elsewhere managerLock ?_ ?_,
          accounted_elsewhere dataLock ?_ ?_⟩ <;> simp [value, tableLock]
      · refine ⟨accounted_elsewhere edgeLock ?_ ?_, managerLock.requestRead ?_ ?_,
          accounted_elsewhere dataLock ?_ ?_⟩ <;> simp [value, tableLock]
      · refine ⟨accounted_elsewhere edgeLock ?_ ?_,
          accounted_elsewhere managerLock ?_ ?_, dataLock.requestRead ?_ ?_⟩ <;>
          simp [value, tableLock]
  | lookUpEdge message destination toEdge edges found at_ value plain looked =>
      rw [at_] at edgeLock managerLock dataLock
      cases found
      all_goals refine ⟨edgeLock.lookUp ?_ looked ?_ ?_,
        accounted_elsewhere managerLock ?_ ?_,
        accounted_elsewhere dataLock ?_ ?_⟩ <;>
        simp [finishLookUp, finish, value, tableLock]
  | lookUpManager message toManager manager found at_ value looked =>
      rw [at_] at edgeLock managerLock dataLock
      cases found
      all_goals refine ⟨accounted_elsewhere edgeLock ?_ ?_,
        managerLock.lookUp ?_ looked ?_ ?_,
        accounted_elsewhere dataLock ?_ ?_⟩ <;>
        simp [finishLookUp, finish, value, tableLock]
  | lookUpData message toData data found at_ value looked =>
      rw [at_] at edgeLock managerLock dataLock
      cases found
      all_goals refine ⟨accounted_elsewhere edgeLock ?_ ?_,
        accounted_elsewhere managerLock ?_ ?_,
        dataLock.lookUp ?_ looked ?_ ?_⟩ <;>
        simp [finishLookUp, finish, value, tableLock]
  | startBroadcast message destination toEdge heartbeat lock at_ value beat
      acquired iterates =>
      rw [at_] at edgeLock managerLock dataLock
      refine ⟨edgeLock.acquire ?_ acquired ?_ ?_,
        accounted_elsewhere managerLock ?_ ?_,
        accounted_elsewhere dataLock ?_ ?_⟩ <;> simp [value, tableLock]
  | sendEdge message destination toEdge tx edges delivered at_ value sent =>
      rw [at_] at edgeLock managerLock dataLock
      refine ⟨edgeLock.unicast ?_ sent ?_, accounted_elsewhere managerLock ?_ ?_,
        accounted_elsewhere dataLock ?_ ?_⟩ <;>
        simp [finishSend, finish, value, tableLock]
  | sendManager message toManager tx manager delivered at_ value sent =>
      rw [at_] at edgeLock managerLock dataLock
      refine ⟨accounted_elsewhere edgeLock ?_ ?_, managerLock.unicast ?_ sent ?_,
        accounted_elsewhere dataLock ?_ ?_⟩ <;>
        simp [finishSend, finish, value, tableLock]
  | sendData message toData tx data delivered at_ value sent =>
      rw [at_] at edgeLock managerLock dataLock
      refine ⟨accounted_elsewhere edgeLock ?_ ?_,
        accounted_elsewhere managerLock ?_ ?_, dataLock.unicast ?_ sent ?_⟩ <;>
        simp [finishSend, finish, value, tableLock]
  | broadcastSent message heartbeat edgeId tx rest sentCount edges at_ sent =>
      rw [at_] at edgeLock managerLock dataLock
      exact ⟨edgeLock.deliver sent, managerLock, dataLock⟩
  | broadcastClosed message heartbeat edgeId tx rest sentCount at_ closed =>
      rw [at_] at edgeLock managerLock dataLock
      exact ⟨edgeLock, managerLock, dataLock⟩
  | finishBroadcast message heartbeat sentCount at_ =>
      rw [at_] at edgeLock managerLock dataLock
      refine ⟨edgeLock.release ?_ ?_, accounted_elsewhere managerLock ?_ ?_,
        accounted_elsewhere dataLock ?_ ?_⟩ <;> simp [finish]

/-- The locks account for every task in every reachable state. -/
theorem locked {state : State} (reachable : system.Reachable state) :
    Locked state := by
  apply System.invariant Locked locked_start ?_ reachable
  intro state next action _ before stepped
  cases step_cases stepped with
  | edge i act central edges inner =>
      exact ⟨inner.accounted before.edges, before.manager, before.data⟩
  | manager i act central manager inner =>
      exact ⟨before.edges, inner.accounted before.manager, before.data⟩
  | data i act central data inner =>
      exact ⟨before.edges, before.manager, inner.accounted before.data⟩
  | http i act central request inner =>
      exact ⟨before.edges, before.manager, before.data⟩
  | dispatcher order next inner => exact inner.locked before

/-! ## The table while a message is being sent -/

/-- What the table holds for the destination of a message. -/
def held (state : State) : RouterMessage → Option StreamId
  | .toEdge destination _ => state.edges.lock.value.lookup destination
  | .toManager _ => state.manager.lock.value
  | .toData _ => state.data.lock.value

/-- The heartbeat that turns the delivery of a message into a broadcast. -/
def heartbeatOf : RouterMessage → Option Heartbeat
  | .toEdge _ message => message.heartbeat?
  | _ => none

/-- A send uses the entry of its destination, and a broadcast has only entries of
the map left to serve. -/
def Routed (state : State) : Prop :=
  match state.dispatcher with
  | .sending message tx =>
      heartbeatOf message.value = none ∧ state.held message.value = some tx
  | .broadcasting message heartbeat rest _ =>
      heartbeatOf message.value = some heartbeat ∧
        ∀ entry ∈ rest, state.edges.lock.value.lookup entry.1 = some entry.2
  | _ => True

/-- A table that changes only where the dispatcher holds no guard stays
routed. -/
theorem Routed.of_values {state next : State} (routed : Routed state)
    (dispatcher : next.dispatcher = state.dispatcher)
    (edges : state.dispatcher.Holds .edges →
      next.edges.lock.value = state.edges.lock.value)
    (manager : state.dispatcher.Holds .manager →
      next.manager.lock.value = state.manager.lock.value)
    (data : state.dispatcher.Holds .data →
      next.data.lock.value = state.data.lock.value) : Routed next := by
  simp only [Routed] at routed ⊢
  rw [dispatcher]
  cases at_ : state.dispatcher with
  | receiving | lookingUp => trivial
  | sending message tx =>
      rw [at_] at routed edges manager data
      refine ⟨routed.1, ?_⟩
      rw [← routed.2]
      cases value : message.value with
      | toEdge destination toEdge =>
          simp only [held]
          rw [edges (by simp [value, tableLock])]
      | toManager => exact manager (by simp [value, tableLock])
      | toData => exact data (by simp [value, tableLock])
  | broadcasting message heartbeat rest sentCount =>
      rw [at_] at routed edges
      rw [edges (by simp)]
      exact routed

end State

theorem EdgeStep.value_of_readers {central central' : Central}
    {side side' : EdgeSide} {i : StreamId} {action : StreamAction FromEdge}
    (stepped : EdgeStep central side i action central' side')
    (held : side.lock.readers ≠ []) : side'.lock.value = side.lock.value := by
  cases stepped with
  | register index msg lock pc written =>
      exact absurd (RwLock.write_eq_some.mp written).1 held
  | unregister edgeId lock pc written =>
      exact absurd (RwLock.write_eq_some.mp written).1 held
  | _ => rfl

theorem SessionStep.value_of_readers {In Out : Type} {service : SlotService In}
    {central central' : Central} {side side' : SlotSide In Out} {i : StreamId}
    {action : StreamAction In}
    (stepped : SessionStep service central side i action central' side')
    (held : side.lock.readers ≠ []) : side'.lock.value = side.lock.value := by
  cases stepped with
  | register lock task written =>
      exact absurd (RwLock.write_eq_some.mp written).1 held
  | unregister lock task written =>
      exact absurd (RwLock.write_eq_some.mp written).1 held
  | _ => rfl

theorem Side.Accounted.readers_ne_nil {Value Task In Out Op : Type}
    {side : Side Value Task In Out Op} {waits : Task → Prop}
    {looks holds : Prop} (account : side.Accounted waits looks holds)
    (held : holds) : side.lock.readers ≠ [] := by
  rw [RwLock.Accounts.holding account held]
  exact List.cons_ne_nil _ _

namespace State

theorem DispatchStep.routed {state next : State}
    {order : List (String × StreamId)}
    (stepped : DispatchStep state order next) (before : Routed state) :
    Routed next := by
  cases stepped with
  | receive message central idle received =>
      simp only [route]
      split <;> trivial
  | lookUpEdge message destination toEdge edges found at_ value plain looked =>
      rcases Side.lookUp_eq_some.mp looked with ⟨lock, acquired, found_eq, rfl⟩
      cases found with
      | none => trivial
      | some tx =>
          refine ⟨by simp [heartbeatOf, value, plain], ?_⟩
          simp only [held, value]
          exact found_eq.symm
  | lookUpManager message toManager manager found at_ value looked =>
      rcases Side.lookUp_eq_some.mp looked with ⟨lock, acquired, found_eq, rfl⟩
      cases found with
      | none => trivial
      | some tx =>
          refine ⟨by simp [heartbeatOf, value], ?_⟩
          simp only [held, value]
          exact found_eq.symm
  | lookUpData message toData data found at_ value looked =>
      rcases Side.lookUp_eq_some.mp looked with ⟨lock, acquired, found_eq, rfl⟩
      cases found with
      | none => trivial
      | some tx =>
          refine ⟨by simp [heartbeatOf, value], ?_⟩
          simp only [held, value]
          exact found_eq.symm
  | startBroadcast message destination toEdge heartbeat lock at_ value beat
      acquired iterates =>
      refine ⟨by simp [heartbeatOf, value, beat], fun entry member => ?_⟩
      exact (mem_pairs _ _ _).mp (iterates.subset member)
  | broadcastSent message heartbeat edgeId tx rest sentCount edges at_ sent =>
      rcases Side.deliver_eq_sent.mp sent with ⟨outbound, _, rfl⟩
      simp only [Routed, at_] at before
      exact ⟨before.1, fun entry member =>
        before.2 entry (List.mem_cons_of_mem _ member)⟩
  | broadcastClosed message heartbeat edgeId tx rest sentCount at_ closed =>
      simp only [Routed, at_] at before
      exact ⟨before.1, fun entry member =>
        before.2 entry (List.mem_cons_of_mem _ member)⟩
  | sendEdge | sendManager | sendData | finishBroadcast => trivial

theorem routed_start : Routed start := trivial

/-- While the dispatcher sends, the table holds what it looked up. -/
theorem routed {state : State} (reachable : system.Reachable state) :
    Routed state := by
  apply System.invariant Routed routed_start ?_ reachable
  intro state next action reached before stepped
  rcases locked reached with ⟨edgeLock, managerLock, dataLock⟩
  cases step_cases stepped with
  | edge i act central edges inner =>
      exact before.of_values rfl
        (fun held => inner.value_of_readers (edgeLock.readers_ne_nil held))
        (fun _ => rfl) (fun _ => rfl)
  | manager i act central manager inner =>
      exact before.of_values rfl (fun _ => rfl)
        (fun held => inner.value_of_readers (managerLock.readers_ne_nil held))
        (fun _ => rfl)
  | data i act central data inner =>
      exact before.of_values rfl (fun _ => rfl) (fun _ => rfl)
        (fun held => inner.value_of_readers (dataLock.readers_ne_nil held))
  | http i act central request inner =>
      exact before.of_values rfl (fun _ => rfl) (fun _ => rfl) (fun _ => rfl)
  | dispatcher order next inner => exact inner.routed before

end State

end IotRouter.Router
