import IotRouter.Router.Delivery

/-!
# What the tasks wait for

A uniform view of the three locks and of the outbound channels: who waits for a
lock and with which write, whom the dispatcher is sending to, and whether that
channel is full. For every kind of wait, the step that ends it is enabled as soon
as nothing is in its way, and a dispatcher that waits for room stays where it is
until the client makes some.
-/

namespace IotRouter.Router

open IotRouter.Grpc IotRouter.Https IotRouter.Runtime

/-- A write of the table that a task is suspended at. -/
inductive PendingWrite where
  | ensureEdgeRegistered (index : Nat) (msg : FromEdge)
  | unregisterEdge (edgeId : String)
  | register
  | unregister
  deriving DecidableEq, Repr

def EdgeTask.pending (task : EdgeTask) : Option PendingWrite :=
  match task.pc with
  | .registering index msg => some (.ensureEdgeRegistered index msg)
  | .unregistering edgeId => some (.unregisterEdge edgeId)
  | _ => none

def SessionTask.pending : SessionTask → Option PendingWrite
  | .registering => some .register
  | .unregistering => some .unregister
  | _ => none

theorem EdgeTask.pending_isSome {task : EdgeTask} :
    task.pending.isSome = true ↔ task.Waits := by
  rcases task with ⟨pc, connectedEdgeId⟩
  cases pc <;> simp [pending, Waits]

theorem SessionTask.pending_isSome {task : SessionTask} :
    task.pending.isSome = true ↔ task.Waits := by
  cases task <;> simp [pending, Waits]

/-- The task that writes under a lock on behalf of a stream. -/
def Action.ofTask : TableLock → StreamId → Action
  | .edges, i => .edge i .task
  | .manager, i => .manager i .task
  | .data, i => .data i .task

/-- The client of a stream that writes under a lock. -/
def TableLock.client : TableLock → StreamId → Client
  | .edges, i => .edge i
  | .manager, i => .manager i
  | .data, i => .data i

/-- The client takes one element from its outbound channel. -/
def Action.drain : Client → Action
  | .edge i => .edge i (.client .drain)
  | .manager i => .manager i (.client .drain)
  | .data i => .data i (.client .drain)

/-- The client drops the receiver of its outbound channel. -/
def Action.dropReceiver : Client → Action
  | .edge i => .edge i (.client .dropReceiver)
  | .manager i => .manager i (.client .dropReceiver)
  | .data i => .data i (.client .dropReceiver)

/-- A step of a task of the server. A request that is timed out and a handler
that is cancelled are not steps of its own. -/
def Action.isServer : Action → Bool
  | .edge _ .task | .manager _ .task | .data _ .task | .http _ .task
  | .dispatcher _ => true
  | _ => false

/-- The client whose channel the dispatcher is sending to. -/
def Dispatcher.target : Dispatcher → Option Client
  | .sending message tx => some (recipient message.value tx)
  | .broadcasting _ _ ((_, tx) :: _) _ => some (.edge tx)
  | _ => none

/-- The number of steps the dispatcher needs until it receives again. -/
def Dispatcher.remaining : Dispatcher → Nat
  | .sending _ _ => 1
  | .broadcasting _ _ rest _ => rest.length + 1
  | _ => 0

namespace State

/-- Who waits for a lock, in the order of the requests. -/
def waiters (state : State) : TableLock → List (Party × Access)
  | .edges => state.edges.lock.queue
  | .manager => state.manager.lock.queue
  | .data => state.data.lock.queue

def readers (state : State) : TableLock → List Party
  | .edges => state.edges.lock.readers
  | .manager => state.manager.lock.readers
  | .data => state.data.lock.readers

/-- The write a stream waits for, if it waits for the lock. -/
def pending (state : State) : TableLock → StreamId → Option PendingWrite
  | .edges, i => (state.edges.streams i).task.pending
  | .manager, i => (state.manager.streams i).task.pending
  | .data, i => (state.data.streams i).task.pending

/-- The number of messages waiting in the client's outbound channel. -/
def queueLength (state : State) : Client → Nat
  | .edge i => (state.edges.streams i).outbound.queue.length
  | .manager i => (state.manager.streams i).outbound.queue.length
  | .data i => (state.data.streams i).outbound.queue.length

/-- A send to the client has to wait. -/
def Full (state : State) (client : Client) : Prop :=
  state.listens client = true ∧ 100 ≤ state.queueLength client

/-- The dispatcher waits for room in the client's channel. -/
def SuspendedOn (state : State) (client : Client) : Prop :=
  state.dispatcher.target = some client ∧ state.Full client

/-! ## The locks -/

section Locks

variable {state : State} (reachable : system.Reachable state)
include reachable

/-- The account of one lock, whichever it is. -/
theorem accounts (lock : TableLock) :
    RwLock.Accounts Party.stream Party.dispatcher
      { value := (), readers := state.readers lock,
        queue := state.waiters lock }
      (fun i => (state.pending lock i).isSome = true)
      (state.dispatcher.LooksAt lock) (state.dispatcher.Holds lock) := by
  rcases locked reachable with ⟨edges, manager, data⟩
  cases lock with
  | edges =>
      refine ⟨fun i => ?_, edges.looking, edges.queued, edges.nodup,
        edges.holding, edges.free⟩
      exact (edges.writers i).trans EdgeTask.pending_isSome.symm
  | manager =>
      refine ⟨fun i => ?_, manager.looking, manager.queued, manager.nodup,
        manager.holding, manager.free⟩
      exact (manager.writers i).trans SessionTask.pending_isSome.symm
  | data =>
      refine ⟨fun i => ?_, data.looking, data.queued, data.nodup,
        data.holding, data.free⟩
      exact (data.writers i).trans SessionTask.pending_isSome.symm

theorem waits_in_line {lock : TableLock} {i : StreamId} {write : PendingWrite}
    (pending : state.pending lock i = some write) :
    (.stream i, .write) ∈ state.waiters lock :=
  ((accounts reachable lock).writers i).mpr (by simp [pending])

theorem looks_in_line {lock : TableLock}
    (looks : state.dispatcher.LooksAt lock) :
    (.dispatcher, .read) ∈ state.waiters lock :=
  (accounts reachable lock).looking.mpr looks

/-- The first in line is the dispatcher or a stream that waits to write. -/
theorem first_in_line {lock : TableLock} {waiter : Party × Access}
    {rest : List (Party × Access)}
    (line : state.waiters lock = waiter :: rest) :
    (waiter = (.dispatcher, .read) ∧ state.dispatcher.LooksAt lock) ∨
      ∃ i write, waiter = (.stream i, .write) ∧
        state.pending lock i = some write := by
  rcases (accounts reachable lock).head line with looks | ⟨i, same, waits⟩
  · exact Or.inl looks
  · rcases Option.isSome_iff_exists.mp waits with ⟨write, pending⟩
    exact Or.inr ⟨i, write, same, pending⟩

theorem readers_of_free {lock : TableLock}
    (free : ¬state.dispatcher.Holds lock) : state.readers lock = [] :=
  (accounts reachable lock).free free

theorem readers_of_held {lock : TableLock}
    (held : state.dispatcher.Holds lock) : state.readers lock ≠ [] := by
  have readers : state.readers lock = [.dispatcher] :=
    (accounts reachable lock).holding held
  rw [readers]
  exact List.cons_ne_nil _ _

end Locks

/-! ## A granted write -/

/-- What a step leaves alone that neither writes to the table nor forwards a
message. -/
structure Undisturbed (state next : State) : Prop where
  waiters : next.waiters = state.waiters
  pending : next.pending = state.pending
  central : next.central = state.central

theorem Undisturbed.refl (state : State) : Undisturbed state state :=
  ⟨rfl, rfl, rfl⟩

theorem Undisturbed.trans {first second third : State}
    (left : Undisturbed first second) (right : Undisturbed second third) :
    Undisturbed first third :=
  ⟨right.waiters.trans left.waiters, right.pending.trans left.pending,
    right.central.trans left.central⟩

/-- The first in line, a stream, has written and left the line. -/
structure Written (state next : State) (lock : TableLock) (i : StreamId)
    (rest : List (Party × Access)) : Prop where
  waiters : next.waiters lock = rest
  done : next.pending lock i = none
  others : ∀ j, j ≠ i → next.pending lock j = state.pending lock j
  dispatcher : next.dispatcher = state.dispatcher
  central : next.central = state.central

end State

theorem EdgeSide.granted (central : Central) {side : EdgeSide} {i : StreamId}
    {write : PendingWrite} {rest : List (Party × Access)}
    (pending : (side.streams i).task.pending = some write)
    (free : side.lock.readers = [])
    (line : side.lock.queue = (.stream i, .write) :: rest) :
    ∃ side', EdgeSide.step central side i .task = some (central, side') ∧
      side'.lock.queue = rest ∧ (side'.streams i).task.pending = none ∧
      ∀ j, j ≠ i → side'.streams j = side.streams j := by
  have writes : ∀ update op, side.write i update op = some { side with
      lock := { side.lock with value := update side.lock.value, queue := rest }
      log := side.log ++ [op] } := by
    intro update op
    exact Side.write_eq_some.mpr
      ⟨_, RwLock.write_eq_some.mpr ⟨free, rest, line, rfl⟩, rfl⟩
  have enabled : ∃ side', EdgeSide.step central side i .task =
      some (central, side') := by
    cases pc : (side.streams i).task.pc with
    | registering | unregistering =>
        simp [EdgeSide.step, EdgeSide.runTask, pc, writes]
    | idle | next | forwarding | done =>
        simp [EdgeTask.pending, pc] at pending
  rcases enabled with ⟨side', stepped⟩
  refine ⟨side', stepped, ?_, ?_,
    fun j other => (EdgeSide.step_cases stepped).streams_of_ne other⟩
  · cases EdgeSide.step_cases stepped with
    | register index msg lock pc written =>
        rcases RwLock.write_eq_some.mp written with ⟨_, _, behind, rfl⟩
        exact (List.cons.inj (behind.symm.trans line)).2
    | unregister edgeId lock pc written =>
        rcases RwLock.write_eq_some.mp written with ⟨_, _, behind, rfl⟩
        exact (List.cons.inj (behind.symm.trans line)).2
    | skip _ _ pc | read _ _ pc | leave _ pc | vanish pc | forward _ _ pc
    | discard _ pc => simp [EdgeTask.pending, pc] at pending
  · cases EdgeSide.step_cases stepped with
    | register index msg lock pc written =>
        rw [Side.setStream_self]
        cases processFromEdge msg <;> rfl
    | unregister edgeId lock pc written =>
        rw [Side.setStream_self]
        rfl
    | skip _ _ pc | read _ _ pc | leave _ pc | vanish pc | forward _ _ pc
    | discard _ pc => simp [EdgeTask.pending, pc] at pending

theorem EdgeStep.free_of_pending {central central' : Central}
    {side side' : EdgeSide} {i : StreamId} {write : PendingWrite}
    (stepped : EdgeStep central side i .task central' side')
    (pending : (side.streams i).task.pending = some write) :
    side.lock.readers = [] := by
  cases stepped with
  | register _ _ _ _ written | unregister _ _ _ written =>
      exact (RwLock.write_eq_some.mp written).1
  | skip _ _ pc | read _ _ pc | leave _ pc | vanish pc | forward _ _ pc
  | discard _ pc => simp [EdgeTask.pending, pc] at pending

theorem SlotSide.granted {In Out : Type} (service : SlotService In)
    (central : Central) {side : SlotSide In Out} {i : StreamId}
    {write : PendingWrite} {rest : List (Party × Access)}
    (pending : (side.streams i).task.pending = some write)
    (free : side.lock.readers = [])
    (line : side.lock.queue = (.stream i, .write) :: rest) :
    ∃ side', SlotSide.step service central side i .task =
        some (central, side') ∧
      side'.lock.queue = rest ∧ (side'.streams i).task.pending = none ∧
      ∀ j, j ≠ i → side'.streams j = side.streams j := by
  have writes : ∀ update op, side.write i update op = some { side with
      lock := { side.lock with value := update side.lock.value, queue := rest }
      log := side.log ++ [op] } := by
    intro update op
    exact Side.write_eq_some.mpr
      ⟨_, RwLock.write_eq_some.mpr ⟨free, rest, line, rfl⟩, rfl⟩
  have enabled : ∃ side', SlotSide.step service central side i .task =
      some (central, side') := by
    cases task : (side.streams i).task with
    | registering | unregistering =>
        simp [SlotSide.step, SlotSide.runTask, task, writes]
    | idle | next | forwarding | done =>
        simp [SessionTask.pending, task] at pending
  rcases enabled with ⟨side', stepped⟩
  refine ⟨side', stepped, ?_, ?_,
    fun j other => (SlotSide.step_cases stepped).streams_of_ne other⟩
  · cases SlotSide.step_cases stepped with
    | register lock task written =>
        rcases RwLock.write_eq_some.mp written with ⟨_, _, behind, rfl⟩
        exact (List.cons.inj (behind.symm.trans line)).2
    | unregister lock task written =>
        rcases RwLock.write_eq_some.mp written with ⟨_, _, behind, rfl⟩
        exact (List.cons.inj (behind.symm.trans line)).2
    | read _ _ task | leave task | forward _ _ task | discard _ task =>
        simp [SessionTask.pending, task] at pending
  · cases SlotSide.step_cases stepped with
    | register | unregister =>
        rw [Side.setStream_self]
        rfl
    | read _ _ task | leave task | forward _ _ task | discard _ task =>
        simp [SessionTask.pending, task] at pending

theorem SessionStep.free_of_pending {In Out : Type} {service : SlotService In}
    {central central' : Central} {side side' : SlotSide In Out} {i : StreamId}
    {write : PendingWrite}
    (stepped : SessionStep service central side i .task central' side')
    (pending : (side.streams i).task.pending = some write) :
    side.lock.readers = [] := by
  cases stepped with
  | register _ _ written | unregister _ _ written =>
      exact (RwLock.write_eq_some.mp written).1
  | read _ _ task | leave task | forward _ _ task | discard _ task =>
      simp [SessionTask.pending, task] at pending

namespace State

/-- The first in line writes as soon as nobody holds the lock. -/
theorem write_step {state : State} (reachable : system.Reachable state)
    {lock : TableLock} (free : ¬state.dispatcher.Holds lock) {i : StreamId}
    {write : PendingWrite} (pending : state.pending lock i = some write)
    {rest : List (Party × Access)}
    (line : state.waiters lock = (.stream i, .write) :: rest) :
    ∃ next, system.step state (.ofTask lock i) = some next ∧
      Written state next lock i rest := by
  have readers := readers_of_free reachable free
  cases lock with
  | edges =>
      rcases EdgeSide.granted state.central pending readers line with
        ⟨edges, stepped, queue, done, others⟩
      refine ⟨{ state with edges }, ?_, queue, done, fun j other => ?_, rfl, rfl⟩
      · simp [system, step, Action.ofTask, stepped]
      · simp [State.pending, others j other]
  | manager =>
      obtain ⟨manager, stepped, queue, done, others⟩ :=
        SlotSide.granted managerService state.central pending readers line
      refine ⟨{ state with manager }, ?_, queue, done, fun j other => ?_, rfl,
        rfl⟩
      · simp [system, step, Action.ofTask, stepped]
      · simp [State.pending, others j other]
  | data =>
      obtain ⟨data, stepped, queue, done, others⟩ :=
        SlotSide.granted dataService state.central pending readers line
      refine ⟨{ state with data }, ?_, queue, done, fun j other => ?_, rfl, rfl⟩
      · simp [system, step, Action.ofTask, stepped]
      · simp [State.pending, others j other]

/-- A write is granted only while nobody holds the lock. -/
theorem not_holds_of_write {state next : State}
    (reachable : system.Reachable state) {lock : TableLock} {i : StreamId}
    {write : PendingWrite} (pending : state.pending lock i = some write)
    (stepped : system.step state (.ofTask lock i) = some next) :
    ¬state.dispatcher.Holds lock := by
  intro holds
  apply readers_of_held reachable holds
  cases lock with
  | edges =>
      cases step_cases stepped with
      | edge i act central edges inner => exact inner.free_of_pending pending
  | manager =>
      cases step_cases stepped with
      | manager i act central manager inner =>
          exact inner.free_of_pending pending
  | data =>
      cases step_cases stepped with
      | data i act central data inner => exact inner.free_of_pending pending

end State

end IotRouter.Router
