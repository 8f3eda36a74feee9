import IotRouter.Router.Sending

/-!
# Progress of the server

The waits of the tasks are ordered: a stream waits behind the dispatcher for a
lock, the dispatcher waits for a client to drain, and every source waits for the
dispatcher to empty the central channel. So some step is always enabled, and with
the help of the clients that the dispatcher waits for, every wait can be brought
to its end.
-/

namespace IotRouter.Router

open IotRouter.Grpc IotRouter.Https IotRouter.Runtime

theorem Action.isServer_ofTask (lock : TableLock) (i : StreamId) :
    (Action.ofTask lock i).isServer = true := by
  cases lock <;> rfl

namespace State

variable {state next : State}

/-! ## No deadlock -/

/-- Some task of the server waits for a lock or for room in a channel, or has a
message to process. -/
inductive Busy (state : State) : Prop where
  | awaitsLock (lock : TableLock) (i : StreamId) (write : PendingWrite)
      (pending : state.pending lock i = some write)
  | dispatches (busy : state.dispatcher ≠ .receiving)
  | queued (waiting : state.central.queue ≠ [])
  | edgeForwards (i : StreamId) (message : Tagged RouterMessage)
      (pc : (state.edges.streams i).task.pc = .forwarding message)
  | managerForwards (i : StreamId) (message : Tagged RouterMessage)
      (task : (state.manager.streams i).task = .forwarding message)
  | dataForwards (i : StreamId) (message : Tagged RouterMessage)
      (task : (state.data.streams i).task = .forwarding message)
  | httpSends (i : Nat) (message : RouterMessage)
      (task : (state.http i).task = .sending message)
  | edgeReads (i : StreamId) (pc : (state.edges.streams i).task.pc = .next)
      (arrived : (state.edges.streams i).inbound ≠ [])
  | managerReads (i : StreamId) (task : (state.manager.streams i).task = .next)
      (arrived : (state.manager.streams i).inbound ≠ [])
  | dataReads (i : StreamId) (task : (state.data.streams i).task = .next)
      (arrived : (state.data.streams i).inbound ≠ [])

/-- A step of a server task is enabled, or a client can drain a channel that is
not empty. -/
def CanMove (state : State) : Prop :=
  ∃ action next, system.step state action = some next ∧
    (action.isServer = true ∨
      ∃ client, action = .drain client ∧ 0 < state.queueLength client)

theorem canMove_of_enabled (action : Action) (server : action.isServer = true)
    (enabled : (system.step state action).isSome = true) : CanMove state := by
  rcases Option.isSome_iff_exists.mp enabled with ⟨next, stepped⟩
  exact ⟨action, next, stepped, Or.inl server⟩

/-- Whoever is first in line for a lock that nobody holds can go on. -/
theorem canMove_of_line (reachable : system.Reachable state) {lock : TableLock}
    (free : ¬state.dispatcher.Holds lock)
    (line : state.waiters lock ≠ []) : CanMove state := by
  rcases List.exists_cons_of_ne_nil line with ⟨waiter, rest, waiting⟩
  rcases first_in_line reachable waiting with
    ⟨rfl, looks⟩ | ⟨i, write, rfl, pending⟩
  · rcases lookUp_step looks waiting with ⟨order, next, stepped, _⟩
    exact ⟨_, next, stepped, Or.inl rfl⟩
  · rcases write_step reachable free pending waiting with ⟨next, stepped, _⟩
    exact ⟨_, next, stepped, Or.inl (Action.isServer_ofTask lock i)⟩

/-- A dispatcher that works on a message can go on, if only after a drain. -/
theorem canMove_of_dispatcher (reachable : system.Reachable state)
    (busy : state.dispatcher ≠ .receiving) : CanMove state := by
  have goes : ∀ lock, state.dispatcher.Holds lock → CanMove state := by
    intro lock holds
    by_cases waits : ∃ client, state.SuspendedOn client
    · rcases waits with ⟨client, suspended⟩
      rcases drain_of_suspended reachable suspended with
        ⟨next, stepped, drained⟩
      have waiting := suspended.2.2
      exact ⟨_, next, stepped, Or.inr ⟨client, rfl, by omega⟩⟩
    · obtain ⟨next, stepped⟩ := (dispatch_enabled holds []).mpr
        (fun client target full => waits ⟨client, target, full⟩)
      exact ⟨_, next, stepped, Or.inl rfl⟩
  cases at_ : state.dispatcher with
  | receiving => exact absurd at_ busy
  | sending message tx => exact goes (tableLock message.value) (by simp [at_])
  | broadcasting message heartbeat rest sentCount =>
      exact goes .edges (by simp [at_])
  | lookingUp message =>
      have looks : state.dispatcher.LooksAt (tableLock message.value) := by
        simp [at_]
      apply canMove_of_line reachable (by simp [at_])
        (List.ne_nil_of_mem (looks_in_line reachable looks))

/-- The tasks never wait for each other in a cycle. -/
theorem canMove_of_busy (reachable : system.Reachable state)
    (busy : Busy state) : CanMove state := by
  by_cases idle : state.dispatcher = .receiving
  case neg => exact canMove_of_dispatcher reachable idle
  by_cases empty : state.central.queue = []
  case neg =>
    rcases List.exists_cons_of_ne_nil empty with ⟨message, rest, queue⟩
    rcases receive_step idle queue with ⟨next, stepped, _⟩
    exact ⟨_, next, stepped, Or.inl rfl⟩
  -- The dispatcher is idle, so there is room and no lock is held.
  have room : ∀ message : Tagged RouterMessage,
      ∃ central, state.central.send message = .sent central := by
    intro message
    exact ⟨_, Channel.send_eq_sent.mpr
      ⟨(pipeline reachable).isOpen, by simp [empty], rfl⟩⟩
  cases busy with
  | awaitsLock lock i write pending =>
      exact canMove_of_line reachable (by simp [idle])
        (List.ne_nil_of_mem (waits_in_line reachable pending))
  | dispatches busy => exact absurd idle busy
  | queued waiting => exact absurd empty waiting
  | edgeForwards i message pc =>
      rcases room message with ⟨central, sent⟩
      apply canMove_of_enabled (.edge i .task) rfl
      simp [system, step, EdgeSide.step, EdgeSide.runTask, pc, sent]
  | managerForwards i message task =>
      rcases room message with ⟨central, sent⟩
      apply canMove_of_enabled (.manager i .task) rfl
      simp [system, step, SlotSide.step, SlotSide.runTask, task, sent]
  | dataForwards i message task =>
      rcases room message with ⟨central, sent⟩
      apply canMove_of_enabled (.data i .task) rfl
      simp [system, step, SlotSide.step, SlotSide.runTask, task, sent]
  | httpSends i message task =>
      rcases room { source := .http i, index := 0, value := message } with
        ⟨central, sent⟩
      apply canMove_of_enabled (.http i .task) rfl
      simp [system, step, HttpRequest.step, task, sent]
  | edgeReads i pc arrived =>
      rcases List.exists_cons_of_ne_nil arrived with ⟨msg, rest, inbound⟩
      apply canMove_of_enabled (.edge i .task) rfl
      by_cases anonymous : msg.edgeId = "" <;>
        simp [system, step, EdgeSide.step, EdgeSide.runTask, pc, Stream.next,
          inbound, anonymous]
  | managerReads i task arrived =>
      rcases List.exists_cons_of_ne_nil arrived with ⟨msg, rest, inbound⟩
      apply canMove_of_enabled (.manager i .task) rfl
      simp [system, step, SlotSide.step, SlotSide.runTask, task, Stream.next,
        inbound]
  | dataReads i task arrived =>
      rcases List.exists_cons_of_ne_nil arrived with ⟨msg, rest, inbound⟩
      apply canMove_of_enabled (.data i .task) rfl
      simp [system, step, SlotSide.step, SlotSide.runTask, task, Stream.next,
        inbound]

/-- Edge stream 1 asks to be registered while the dispatcher is about to serve
edge `"a"` in a broadcast. -/
def registeringAmidBroadcast : List Action :=
  [.edge 0 .connect, .edge 0 (.client (.send ⟨"a", none⟩)), .edge 0 .task,
    .edge 0 .task, .data 0 .connect, .data 0 .task,
    .data 0 (.client (.send ⟨some (.heartbeat ⟨none, true⟩)⟩)), .data 0 .task,
    .data 0 .task, .dispatcher [], .dispatcher [("a", 0)], .edge 1 .connect,
    .edge 1 (.client (.send ⟨"b", none⟩)), .edge 1 .task]

/-- The registration cannot go on before the broadcast is over, and the
broadcast does go on. -/
theorem canMove_of_registering :
    ∃ state message heartbeat,
      system.runFrom start registeringAmidBroadcast = some state ∧
      state.dispatcher = .broadcasting message heartbeat [("a", 0)] 0 ∧
      state.pending .edges 1 = some (.ensureEdgeRegistered 0 ⟨"b", none⟩) ∧
      system.step state (.edge 1 .task) = none ∧ CanMove state :=
  ⟨_, _, _, rfl, rfl, rfl, rfl,
    canMove_of_busy ⟨registeringAmidBroadcast, rfl⟩
      (.awaitsLock .edges 1 (.ensureEdgeRegistered 0 ⟨"b", none⟩) rfl)⟩

end State

end IotRouter.Router
