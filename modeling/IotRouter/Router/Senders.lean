import IotRouter.Router.Starvation

/-!
# Every sender gets through

The room in the central channel comes and goes, so it takes a scheduler that
gives every sender a turn at a time when there is room: then whatever a source
sends is processed in the end, unless the transport loses it or its handler is
cancelled. A task needs a bounded number of turns of its own to forward the
message at a position of its stream, and always gets another one.
-/

namespace IotRouter.Router

open IotRouter.Grpc IotRouter.Https IotRouter.Runtime

/-! ## What an inbound task is at -/

/-- The awaits of the inbound tasks, whatever the service. -/
inductive Await where
  | idle
  /-- for the lock, to register -/
  | writing
  /-- for the client -/
  | listening
  /-- for room in the central channel -/
  | forwarding (message : Tagged RouterMessage)
  /-- for the lock to unregister, or for nothing any more -/
  | leaving
  deriving DecidableEq

def EdgeTask.await (task : EdgeTask) : Await :=
  match task.pc with
  | .idle => .idle
  | .registering _ _ => .writing
  | .next => .listening
  | .forwarding message => .forwarding message
  | .unregistering _ | .done => .leaving

def SessionTask.await : SessionTask → Await
  | .idle => .idle
  | .registering => .writing
  | .next => .listening
  | .forwarding message => .forwarding message
  | .unregistering | .done => .leaving

theorem EdgeTask.await_eq_forwarding {task : EdgeTask}
    {message : Tagged RouterMessage} :
    task.await = .forwarding message ↔ task.pc = .forwarding message := by
  rw [await]
  cases task.pc <;> simp

theorem SessionTask.await_eq_forwarding {task : SessionTask}
    {message : Tagged RouterMessage} :
    task.await = .forwarding message ↔ task = .forwarding message := by
  cases task <;> simp [await]

/-- The turns a task needs until it listens again. -/
def Await.turns : Await → Nat
  | .writing => 2
  | .forwarding _ => 1
  | .idle | .listening | .leaving => 0

theorem Await.turns_le (await : Await) : await.turns ≤ 2 := by
  cases await <;> simp [turns]

namespace Stream

variable {Task In Out : Type}

/-- The turns of its own that a task needs until it has forwarded everything up
to position `k` of its stream. -/
def turnsTo (await : Task → Await) (k : Nat) (stream : Stream Task In Out) :
    Nat :=
  3 * (k + 1 - stream.received.length) + (await stream.task).turns

/-- What a step does to a stream that has begun; `turn` says whether it is a
step of its task. -/
structure Goes (await : Task → Await) (stream stream' : Stream Task In Out)
    (turn : Prop) : Prop where
  live : await stream'.task ≠ .idle
  sent : stream.sent <+: stream'.sent
  fewer : ∀ k, stream'.turnsTo await k ≤ stream.turnsTo await k ∨
    stream.turnsTo await k = 0
  taken : turn → ∀ k, stream'.turnsTo await k < stream.turnsTo await k ∨
    await stream'.task = .leaving ∨ stream.turnsTo await k = 0
  waits : ∀ message, await stream.task = .forwarding message →
    await stream'.task = .forwarding message ∨ turn

variable {await : Task → Await} {stream stream' : Stream Task In Out}
variable {turn : Prop}

/-- A step that neither moves the task nor takes a message. -/
theorem Goes.of_same (live : await stream.task ≠ .idle)
    (task : stream'.task = stream.task)
    (received : stream'.received = stream.received)
    (sent : stream.sent <+: stream'.sent) (pass : ¬turn) :
    stream.Goes await stream' turn where
  live := task ▸ live
  sent := sent
  fewer k := by
    left
    simp [turnsTo, task, received]
  taken takes := absurd takes pass
  waits message forwarding := by
    rw [task]
    exact Or.inl forwarding

/-- A client adds to what it has sent or leaves it. -/
theorem Goes.client {action : ClientAction In}
    (live : await stream.task ≠ .idle)
    (acted : stream.client action = some stream') (pass : ¬turn) :
    stream.Goes await stream' turn := by
  rcases client_frame acted with ⟨task, received, _⟩
  apply Goes.of_same live task received ?_ pass
  cases action with
  | send msg =>
      simp only [Stream.client] at acted
      split at acted <;> cases acted
      exact List.prefix_append _ _
  | close | reset | dropReceiver =>
      simp only [Stream.client] at acted
      split at acted <;> cases acted
      exact List.prefix_rfl
  | drain =>
      rcases Option.map_eq_some_iff.mp acted with ⟨_, _, rfl⟩
      exact List.prefix_rfl

/-- A listening task takes a message. -/
theorem Goes.take (listens : await stream.task = .listening) {msg : In}
    {rest : List In} {task : Task} (live : await task ≠ .idle) :
    stream.Goes await { stream with
      task, inbound := rest, received := stream.received ++ [msg] } turn where
  live := live
  sent := List.prefix_rfl
  fewer k := by
    have bound := (await task).turns_le
    have none : Await.listening.turns = 0 := rfl
    simp only [turnsTo, List.length_append, List.length_singleton, listens]
    omega
  taken _ k := by
    have bound := (await task).turns_le
    have none : Await.listening.turns = 0 := rfl
    simp only [turnsTo, List.length_append, List.length_singleton, listens]
    omega
  waits message forwarding := by
    rw [listens] at forwarding
    cases forwarding

/-- A task goes on to another await without taking a message. -/
theorem Goes.move {task : Task} (live : await task ≠ .idle)
    (onward : (await task).turns < (await stream.task).turns ∨
      await task = .leaving)
    (waits : ∀ message, await stream.task = .forwarding message → turn) :
    stream.Goes await { stream with task } turn where
  live := live
  sent := List.prefix_rfl
  fewer k := by
    have fewer : (await task).turns ≤ (await stream.task).turns := by
      rcases onward with less | leaves
      · exact Nat.le_of_lt less
      · simp [leaves, Await.turns]
    left
    simpa [turnsTo] using fewer
  taken _ k := by
    rcases onward with less | leaves
    · exact Or.inl (by simpa [turnsTo] using less)
    · exact Or.inr (Or.inl leaves)
  waits message forwarding := Or.inr (waits message forwarding)

end Stream

theorem EdgeStep.goes {central central' : Central} {side side' : EdgeSide}
    {i : StreamId} {action : StreamAction FromEdge}
    (stepped : EdgeStep central side i action central' side')
    (live : (side.streams i).task.await ≠ .idle) :
    (side.streams i).Goes EdgeTask.await (side'.streams i) (action = .task) := by
  cases stepped with
  | connect idle => exact absurd (by simp [EdgeTask.await, idle]) live
  | client act stream _ acted =>
      rw [Side.setStream_self]
      exact .client live acted (by simp)
  | skip msg rest pc inbound anonymous =>
      rw [Side.setStream_self]
      exact .take (by simp [EdgeTask.await, pc]) live
  | read msg rest pc inbound named =>
      simp only [Side.requestWrite, Side.setStream_self]
      exact .take (by simp [EdgeTask.await, pc]) (by simp [EdgeTask.await])
  | leave edgeId pc =>
      simp only [Side.requestWrite, Side.setStream_self]
      exact .move (by simp [EdgeTask.await]) (by simp [EdgeTask.await])
        (fun _ _ => trivial)
  | vanish pc =>
      rw [Side.setStream_self]
      exact .move (by simp [EdgeTask.await]) (by simp [EdgeTask.await])
        (fun _ _ => rfl)
  | register index msg lock pc written =>
      rw [Side.setStream_self]
      apply Stream.Goes.move ?_ ?_ (fun _ _ => rfl)
      · cases processFromEdge msg <;> simp [EdgeTask.await]
      · left
        cases processFromEdge msg <;> simp [EdgeTask.await, pc, Await.turns]
  | forward message central' pc | discard message pc =>
      rw [Side.setStream_self]
      exact .move (by simp [EdgeTask.await])
        (by simp [EdgeTask.await, pc, Await.turns]) (fun _ _ => rfl)
  | unregister edgeId lock pc written =>
      rw [Side.setStream_self]
      exact .move (by simp [EdgeTask.await]) (by simp [EdgeTask.await])
        (fun _ _ => rfl)

/-- What a step of a stream does to any stream. -/
theorem EdgeStep.goes_at {central central' : Central} {side side' : EdgeSide}
    {i j : StreamId} {action : StreamAction FromEdge}
    (stepped : EdgeStep central side j action central' side')
    (live : (side.streams i).task.await ≠ .idle) :
    (side.streams i).Goes EdgeTask.await (side'.streams i)
      (j = i ∧ action = .task) := by
  by_cases own : j = i
  · subst own
    simpa using stepped.goes live
  · rw [stepped.streams_of_ne (Ne.symm own)]
    exact .of_same live rfl rfl List.prefix_rfl (by simp [own])

theorem SessionStep.goes {In Out : Type} {service : SlotService In}
    {central central' : Central} {side side' : SlotSide In Out} {i : StreamId}
    {action : StreamAction In}
    (stepped : SessionStep service central side i action central' side')
    (live : (side.streams i).task.await ≠ .idle) :
    (side.streams i).Goes SessionTask.await (side'.streams i)
      (action = .task) := by
  cases stepped with
  | connect idle => exact absurd (by simp [SessionTask.await, idle]) live
  | abort waiting =>
      simp only [Side.setStream_self]
      refine ⟨by simp [SessionTask.await], List.prefix_rfl, fun k => ?_,
        nofun, fun message forwarding => ?_⟩
      · left
        simp [Stream.turnsTo, SessionTask.await, Await.turns]
      · rw [waiting] at forwarding
        cases forwarding
  | client act stream _ acted =>
      rw [Side.setStream_self]
      exact .client live acted (by simp)
  | read msg rest task inbound =>
      rw [Side.setStream_self]
      apply Stream.Goes.take (by simp [SessionTask.await, task])
      cases service.process msg <;> simp [SessionTask.await]
  | leave task =>
      simp only [Side.requestWrite, Side.setStream_self]
      exact .move (by simp [SessionTask.await]) (by simp [SessionTask.await])
        (fun _ _ => trivial)
  | register lock task written | forward message central' task
  | discard message task =>
      rw [Side.setStream_self]
      exact .move (by simp [SessionTask.await])
        (by simp [SessionTask.await, task, Await.turns]) (fun _ _ => rfl)
  | unregister lock task written =>
      rw [Side.setStream_self]
      exact .move (by simp [SessionTask.await]) (by simp [SessionTask.await])
        (fun _ _ => rfl)

theorem SessionStep.goes_at {In Out : Type} {service : SlotService In}
    {central central' : Central} {side side' : SlotSide In Out} {i j : StreamId}
    {action : StreamAction In}
    (stepped : SessionStep service central side j action central' side')
    (live : (side.streams i).task.await ≠ .idle) :
    (side.streams i).Goes SessionTask.await (side'.streams i)
      (j = i ∧ action = .task) := by
  by_cases own : j = i
  · subst own
    simpa using stepped.goes live
  · rw [stepped.streams_of_ne (Ne.symm own)]
    exact .of_same live rfl rfl List.prefix_rfl (by simp [own])

/-- The dispatcher leaves the task of a stream where it is. -/
theorem Side.Served.goes {Value Task In Out Op : Type}
    {side side' : Side Value Task In Out Op} (served : Side.Served side side')
    {await : Task → Await} {i : StreamId}
    (live : await (side.streams i).task ≠ .idle) {turn : Prop} (pass : ¬turn) :
    (side.streams i).Goes await (side'.streams i) turn := by
  rcases served.streams i with ⟨outbound, same, _⟩
  rw [same]
  exact .of_same live rfl rfl List.prefix_rfl pass

/-! ## Streams of all services -/

/-- The stream as a source of messages. -/
def TableLock.source : TableLock → StreamId → Source
  | .edges, i => .edge i
  | .manager, i => .manager i
  | .data, i => .data i

namespace State

variable {state next : State} {action : Action} {lock : TableLock}
variable {i : StreamId} {k : Nat}

def await (state : State) : TableLock → StreamId → Await
  | .edges, i => (state.edges.streams i).task.await
  | .manager, i => (state.manager.streams i).task.await
  | .data, i => (state.data.streams i).task.await

/-- The turns that the task of a stream needs until it has forwarded everything
up to position `k`. -/
def turnsTo (state : State) (k : Nat) : TableLock → StreamId → Nat
  | .edges, i => (state.edges.streams i).turnsTo EdgeTask.await k
  | .manager, i => (state.manager.streams i).turnsTo SessionTask.await k
  | .data, i => (state.data.streams i).turnsTo SessionTask.await k

theorem turnsTo_eq (state : State) (k : Nat) (lock : TableLock) (i : StreamId) :
    state.turnsTo k lock i =
      3 * (k + 1 - (state.image (lock.source i)).length) +
        (state.await lock i).turns := by
  cases lock <;> simp [turnsTo, Stream.turnsTo, image, TableLock.source, await]

/-- A task that waits for the lock to register waits in line. -/
theorem pending_of_writing (writing : state.await lock i = .writing) :
    ∃ write, state.pending lock i = some write := by
  cases lock with
  | edges =>
      cases pc : (state.edges.streams i).task.pc <;>
        simp [await, EdgeTask.await, pc, State.pending, EdgeTask.pending]
          at writing ⊢
  | manager =>
      cases task : (state.manager.streams i).task <;>
        simp [await, SessionTask.await, task, State.pending,
          SessionTask.pending] at writing ⊢
  | data =>
      cases task : (state.data.streams i).task <;>
        simp [await, SessionTask.await, task, State.pending,
          SessionTask.pending] at writing ⊢

/-- What a step does to a stream that has begun. -/
structure Goes (state next : State) (lock : TableLock) (i : StreamId)
    (turn : Prop) : Prop where
  live : next.await lock i ≠ .idle
  sent : state.sentImage (lock.source i) <+: next.sentImage (lock.source i)
  fewer : ∀ k, next.turnsTo k lock i ≤ state.turnsTo k lock i ∨
    state.turnsTo k lock i = 0
  taken : turn → ∀ k, next.turnsTo k lock i < state.turnsTo k lock i ∨
    next.await lock i = .leaving ∨ state.turnsTo k lock i = 0
  waits : ∀ message, state.await lock i = .forwarding message →
    next.await lock i = .forwarding message ∨ turn

theorem goes (live : state.await lock i ≠ .idle)
    (stepped : system.step state action = some next) :
    Goes state next lock i (action = .ofTask lock i) := by
  cases lock with
  | edges =>
      have goes : (state.edges.streams i).Goes EdgeTask.await
          (next.edges.streams i) (action = .edge i .task) := by
        rcases step_edges stepped with ⟨j, act, rfl, inner⟩ | ⟨other, served⟩
        · simpa using inner.goes_at live
        · exact served.goes live (other i _)
      exact ⟨goes.live, goes.sent.map _, goes.fewer, goes.taken, goes.waits⟩
  | manager =>
      have goes : (state.manager.streams i).Goes SessionTask.await
          (next.manager.streams i) (action = .manager i .task) := by
        rcases step_manager stepped with ⟨j, act, rfl, inner⟩ | ⟨other, served⟩
        · simpa using inner.goes_at live
        · exact served.goes live (other i _)
      exact ⟨goes.live, goes.sent.map _, goes.fewer, goes.taken, goes.waits⟩
  | data =>
      have goes : (state.data.streams i).Goes SessionTask.await
          (next.data.streams i) (action = .data i .task) := by
        rcases step_data stepped with ⟨j, act, rfl, inner⟩ | ⟨other, served⟩
        · simpa using inner.goes_at live
        · exact served.goes live (other i _)
      exact ⟨goes.live, goes.sent.map _, goes.fewer, goes.taken, goes.waits⟩

/-- A task that waits for room can go on as soon as there is some. -/
theorem forwards_enabled (reachable : system.Reachable state)
    {message : Tagged RouterMessage}
    (forwarding : state.await lock i = .forwarding message)
    (room : state.central.queue.length < 1000) :
    system.Enabled (Turn.task lock i).Takes state := by
  obtain ⟨central, sent⟩ : ∃ central,
      state.central.send message = .sent central :=
    ⟨_, Channel.send_eq_sent.mpr ⟨(pipeline reachable).isOpen, room, rfl⟩⟩
  suffices enabled : ∃ next,
      system.step state (.ofTask lock i) = some next by
    rcases enabled with ⟨next, stepped⟩
    exact ⟨_, next, rfl, stepped⟩
  cases lock with
  | edges =>
      have pc := EdgeTask.await_eq_forwarding.mp forwarding
      simp [system, step, Action.ofTask, EdgeSide.step, EdgeSide.runTask, pc,
        sent]
  | manager =>
      have task := SessionTask.await_eq_forwarding.mp forwarding
      simp [system, step, Action.ofTask, SlotSide.step, SlotSide.runTask, task,
        sent]
  | data =>
      have task := SessionTask.await_eq_forwarding.mp forwarding
      simp [system, step, Action.ofTask, SlotSide.step, SlotSide.runTask, task,
        sent]

/-! ## What the transport keeps -/

/-- The transport loses nothing of what a source sends, and nobody cancels its
handler. -/
def Keeps (run : system.Run) : Source → Prop
  | .edge i => ∀ n, run.action n ≠ some (.edge i (.client .reset))
  | .manager i => ∀ n, run.action n ≠ some (.manager i (.client .reset)) ∧
      run.action n ≠ some (.manager i .abort)
  | .data i => ∀ n, run.action n ≠ some (.data i (.client .reset)) ∧
      run.action n ≠ some (.data i .abort)
  | .http i => ∀ n, run.action n ≠ some (.http i .timeout)

/-- The task of a stream has not seen its end, and can take a message if it
listens. -/
structure HasToTake (state : State) (lock : TableLock) (i : StreamId) :
    Prop where
  live : state.await lock i ≠ .idle
  stays : state.await lock i ≠ .leaving
  listens : state.await lock i = .listening →
    system.Enabled (Turn.task lock i).Takes state

end State

/-- A task that has not taken everything its client sent. -/
theorem EdgeSide.hasToTake (central : Central) {side : EdgeSide} {i : StreamId}
    (whole : side.Whole i)
    (untaken : (side.streams i).received.length <
      (side.streams i).sent.length) :
    (side.streams i).task.await ≠ .idle ∧
      (side.streams i).task.await ≠ .leaving ∧
      ((side.streams i).task.await = .listening →
        ∃ after, EdgeSide.step central side i .task = some after) := by
  have waits := Stream.Whole.waits whole untaken
  cases pc : (side.streams i).task.pc with
  | idle => exact absurd (whole.idle pc) waits
  | unregistering | done =>
      exact absurd (whole.left (by simp [EdgeTask.Leaves, pc])).1 waits
  | registering | forwarding => simp [EdgeTask.await, pc]
  | next =>
      rcases List.exists_cons_of_ne_nil waits with ⟨msg, rest, inbound⟩
      by_cases anonymous : msg.edgeId = "" <;>
        simp [EdgeTask.await, EdgeSide.step, EdgeSide.runTask, pc, Stream.next,
          inbound, anonymous]

theorem SlotSide.hasToTake {In Out : Type} (service : SlotService In)
    (central : Central) {side : SlotSide In Out} {i : StreamId}
    (whole : side.Whole i)
    (untaken : (side.streams i).received.length <
      (side.streams i).sent.length) :
    (side.streams i).task.await ≠ .idle ∧
      (side.streams i).task.await ≠ .leaving ∧
      ((side.streams i).task.await = .listening →
        ∃ after, SlotSide.step service central side i .task = some after) := by
  have waits := Stream.Whole.waits whole untaken
  cases task : (side.streams i).task with
  | idle => exact absurd (whole.idle task) waits
  | unregistering | done =>
      exact absurd (whole.left (by simp [SessionTask.Leaves, task])).1 waits
  | registering | forwarding => simp [SessionTask.await]
  | next =>
      rcases List.exists_cons_of_ne_nil waits with ⟨msg, rest, inbound⟩
      simp [SessionTask.await, SlotSide.step, SlotSide.runTask, task,
        Stream.next, inbound]

namespace State

variable {state next : State} {action : Action} {lock : TableLock}
variable {i : StreamId} {k : Nat}

section Runs

variable {run : system.Run} (begins : run.state 0 = start)
include begins

theorem runFrom_start (n : Nat) :
    system.runFrom start (run.schedule n) = some (run.state n) := by
  rw [← begins]
  exact run.runFrom_schedule n

/-- As long as the task of a stream has not come to what was sent it goes on. -/
theorem hasToTake (kept : Keeps run (lock.source i)) {n : Nat}
    (sent : k < ((run.state n).sentImage (lock.source i)).length)
    (untaken : ((run.state n).image (lock.source i)).length ≤ k) :
    HasToTake (run.state n) lock i := by
  have ran := runFrom_start begins n
  have orderly : ∀ {action}, (∀ m, run.action m ≠ some action) →
      action ∉ run.schedule n := by
    intro action never member
    rcases run.mem_schedule member with ⟨m, here⟩
    exact never m here
  have fewer := Nat.lt_of_le_of_lt untaken sent
  cases lock with
  | edges =>
      simp only [TableLock.source, image, sentImage, List.length_map] at fewer
      rcases EdgeSide.hasToTake (run.state n).central
        (whole_edge ran (orderly kept)) fewer with ⟨live, stays, listens⟩
      refine ⟨live, stays, fun at_ => ?_⟩
      rcases listens at_ with ⟨after, stepped⟩
      exact ⟨.edge i .task, _, rfl, congrArg (Option.map _) stepped⟩
  | manager =>
      simp only [TableLock.source, image, sentImage, List.length_map] at fewer
      rcases SlotSide.hasToTake managerService (run.state n).central
        (whole_manager ran (orderly fun m => (kept m).1)
          (orderly fun m => (kept m).2)) fewer with ⟨live, stays, listens⟩
      refine ⟨live, stays, fun at_ => ?_⟩
      rcases listens at_ with ⟨after, stepped⟩
      exact ⟨.manager i .task, _, rfl, congrArg (Option.map _) stepped⟩
  | data =>
      simp only [TableLock.source, image, sentImage, List.length_map] at fewer
      rcases SlotSide.hasToTake dataService (run.state n).central
        (whole_data ran (orderly fun m => (kept m).1)
          (orderly fun m => (kept m).2)) fewer with ⟨live, stays, listens⟩
      refine ⟨live, stays, fun at_ => ?_⟩
      rcases listens at_ with ⟨after, stepped⟩
      exact ⟨.data i .task, _, rfl, congrArg (Option.map _) stepped⟩

end Runs

/-! ## Room in the central channel -/

/-- When the dispatcher receives there is room. -/
theorem room_of_receives (reachable : system.Reachable state)
    (stepped : system.step state action = some next)
    (more : state.dispatching.length < next.dispatching.length) :
    next.central.queue.length < 1000 := by
  by_cases own : ∃ order, action = .dispatcher order
  · rcases own with ⟨order, rfl⟩
    cases step_cases stepped with
    | dispatcher order next inner =>
        have balance := congrArg List.length inner.carries.2.2
        have bounded := state.central.bounded
        simp only [dispatching, List.length_append] at balance more
        omega
  · have other : ∀ order, action ≠ .dispatcher order :=
      fun order same => own ⟨order, same⟩
    have dispatched := (outbox_of_source (unused reachable) stepped other).2
    rw [dispatching, dispatching, processed, processed, dispatched,
      dispatcher_of_other other stepped] at more
    exact absurd more (Nat.lt_irrefl _)

/-- Again and again there is room. -/
theorem eventually_room {run : system.Run} (fair : WeaklyFair run) (n : Nat) :
    ∃ m, n ≤ m ∧ (run.state m).central.queue.length < 1000 := by
  by_cases room : (run.state n).central.queue.length < 1000
  · exact ⟨n, Nat.le_refl n, room⟩
  have accepted := congrArg List.length (pipeline (run.reachable n)).accepted
  have behind : (run.state n).dispatching.length <
      (run.state n).central.accepted.length := by
    simp only [dispatching, List.length_append] at accepted ⊢
    omega
  rcases eventually_reaches fair behind with ⟨m, after, reached⟩
  have grown : ¬(run.state m).dispatching.length ≤
      (run.state n).dispatching.length := by
    rw [dispatching, List.length_append]
    omega
  rcases run.exists_step_of_change
      (·.dispatching.length ≤ (run.state n).dispatching.length) after
      (Nat.le_refl _) grown with ⟨k, action, onward, _, before, here, more⟩
  refine ⟨k + 1, Nat.le_succ_of_le onward, ?_⟩
  exact room_of_receives (run.reachable k) (run.stepped k action here)
    (Nat.lt_of_le_of_lt before (Nat.lt_of_not_le more))

/-! ## Every turn comes -/

/-- A handler that nobody cancels is not cancelled. -/
theorem not_abort {run : system.Run} (kept : Keeps run (lock.source i)) (n : Nat) :
    run.action n ≠ some (.abort lock i) := by
  intro here
  cases lock with
  | edges => cases run.stepped n _ here
  | manager => exact (kept n).2 here
  | data => exact (kept n).2 here

section Turns

variable {run : system.Run} (begins : run.state 0 = start)
variable (fair : StronglyFair run) (kept : Keeps run (lock.source i))
include begins fair kept

/-- A task that has not forwarded everything up to a position gets a turn. -/
theorem task_recurs {n : Nat}
    (sent : k < ((run.state n).sentImage (lock.source i)).length)
    (ahead : 0 < (run.state n).turnsTo k lock i) :
    ∃ later, n ≤ later ∧
      system.Enabled (Turn.task lock i).Takes (run.state later) := by
  have weakly := fair.weaklyFair
  rw [turnsTo_eq] at ahead
  have untaken : (run.state n).await lock i = .listening ∨
      (run.state n).await lock i = .idle ∨
      (run.state n).await lock i = .leaving →
      HasToTake (run.state n) lock i := by
    intro still
    apply hasToTake begins kept sent
    have none : ((run.state n).await lock i).turns = 0 := by
      rcases still with at_ | at_ | at_ <;> rw [at_] <;> rfl
    omega
  cases at_ : (run.state n).await lock i with
  | idle => exact absurd at_ (untaken (Or.inr (Or.inl at_))).live
  | leaving => exact absurd at_ (untaken (Or.inr (Or.inr at_))).stays
  | listening =>
      exact ⟨n, Nat.le_refl n, (untaken (Or.inl at_)).listens at_⟩
  | writing =>
      rcases pending_of_writing at_ with ⟨write, pending⟩
      rcases exists_end_of_wait weakly pending with
        ⟨m, action, after, still, here, gone⟩
      have stepped := run.stepped m action here
      rcases pending_ends still stepped with same | ⟨_, taken | ⟨_, aborted⟩⟩
      · exact absurd same gone
      · exact ⟨m, after, action, _, taken, stepped⟩
      · exact absurd (aborted ▸ here) (not_abort kept m)
  | forwarding message =>
      rcases eventually_room weakly n with ⟨later, after, room⟩
      by_cases still : (run.state later).await lock i = .forwarding message
      · exact ⟨later, after,
          forwards_enabled (run.reachable later) still room⟩
      · -- It has had its turn in between.
        rcases run.exists_step_of_change (·.await lock i = .forwarding message)
          after at_ still with ⟨m, action, onward, _, before, here, gone⟩
        have stepped := run.stepped m action here
        have live : (run.state m).await lock i ≠ .idle := by simp [before]
        rcases (goes live stepped).waits message before with waits | turn
        · exact absurd waits gone
        · exact ⟨m, onward, action, _, turn, stepped⟩

/-- The task of a stream forwards everything up to a position of what was
sent. -/
theorem eventually_forwarded {n : Nat}
    (sent : k < ((run.state n).sentImage (lock.source i)).length) :
    ∃ m, n ≤ m ∧
      (run.state n).sentImage (lock.source i) <+:
        (run.state m).sentImage (lock.source i) ∧
      (run.state m).turnsTo k lock i = 0 := by
  have reaches : ∀ {m}, k < ((run.state m).sentImage (lock.source i)).length →
      ((run.state m).await lock i = .idle ∨
        (run.state m).await lock i = .leaving) →
      (run.state m).turnsTo k lock i = 0 := by
    intro m sent at_
    have none : ((run.state m).await lock i).turns = 0 := by
      rcases at_ with at_ | at_ <;> rw [at_] <;> rfl
    have taken : ¬((run.state m).image (lock.source i)).length ≤ k := by
      intro untaken
      have has := hasToTake begins kept sent untaken
      exact at_.elim has.live has.stays
    rw [turnsTo_eq]
    omega
  have stays : ∀ {m}, (run.state n).sentImage (lock.source i) <+:
      (run.state m).sentImage (lock.source i) →
      k < ((run.state m).sentImage (lock.source i)).length :=
    fun grown => sent.trans_le grown.length_le
  by_cases ahead : (run.state n).turnsTo k lock i = 0
  · exact ⟨n, Nat.le_refl n, List.prefix_rfl, ahead⟩
  have live : (run.state n).await lock i ≠ .idle :=
    fun idle => ahead (reaches sent (Or.inl idle))
  let waits (state : State) : Prop := state.await lock i ≠ .idle ∧
    (run.state n).sentImage (lock.source i) <+:
      state.sentImage (lock.source i) ∧ 0 < state.turnsTo k lock i
  let done (state : State) : Prop :=
    (run.state n).sentImage (lock.source i) <+:
      state.sentImage (lock.source i) ∧
    (state.turnsTo k lock i = 0 ∨ state.await lock i = .leaving)
  have keeps : ∀ {state action next}, system.Reachable state → waits state →
      system.step state action = some next →
      done next ∨ waits next ∧
        (next.turnsTo k lock i < state.turnsTo k lock i ∨
          next.turnsTo k lock i = state.turnsTo k lock i ∧
            ¬(Turn.task lock i).Takes action) := by
    intro state action next _ ⟨live, grown, ahead⟩ stepped
    have step := goes live stepped
    have sent := grown.trans step.sent
    by_cases reached : next.turnsTo k lock i = 0
    · exact Or.inl ⟨sent, Or.inl reached⟩
    have waiting : waits next :=
      ⟨step.live, sent, Nat.pos_of_ne_zero reached⟩
    by_cases turn : action = .ofTask lock i
    · rcases step.taken turn k with less | leaves | none
      · exact Or.inr ⟨waiting, Or.inl less⟩
      · exact Or.inl ⟨sent, Or.inr leaves⟩
      · exact absurd none (Nat.ne_of_gt ahead)
    · rcases step.fewer k with fewer | none
      · exact Or.inr ⟨waiting, (Nat.lt_or_eq_of_le fewer).imp id
          fun equal => ⟨equal, turn⟩⟩
      · exact absurd none (Nat.ne_of_gt ahead)
  rcases run.eventually_of_turns (fair (.task lock i)) keeps
      (fun m ⟨_, grown, ahead⟩ => by
        rcases task_recurs begins fair kept (stays grown) ahead with
          ⟨later, after, enabled⟩
        exact ⟨later, after, Or.inr enabled⟩)
      ⟨live, List.prefix_rfl, Nat.pos_of_ne_zero ahead⟩ with
    ⟨m, after, grown, reached | leaves⟩
  · exact ⟨m, after, grown, reached⟩
  · exact ⟨m, after, grown, reaches (stays grown) (Or.inr leaves)⟩

end Turns

/-- A task that has forwarded everything up to a position holds nothing. -/
theorem unforwarded_of_turnsTo (reached : state.turnsTo k lock i = 0) :
    state.unforwarded (lock.source i) = [] ∧
      k < (state.image (lock.source i)).length := by
  rw [turnsTo_eq] at reached
  refine ⟨?_, by omega⟩
  have listens : (state.await lock i).turns = 0 := by omega
  cases lock with
  | edges =>
      cases pc : (state.edges.streams i).task.pc <;>
        simp [await, EdgeTask.await, pc, Await.turns, TableLock.source,
          unforwarded, EdgeTask.unforwarded] at listens ⊢
  | manager =>
      cases task : (state.manager.streams i).task <;>
        simp [await, SessionTask.await, task, Await.turns, TableLock.source,
          unforwarded, SessionTask.unforwarded] at listens ⊢
  | data =>
      cases task : (state.data.streams i).task <;>
        simp [await, SessionTask.await, task, Await.turns, TableLock.source,
          unforwarded, SessionTask.unforwarded] at listens ⊢

/-- Once a source holds nothing, the channel has taken everything its task
made. -/
theorem accepted_of_handed (reachable : system.Reachable state)
    {message : Tagged RouterMessage}
    (handed : state.unforwarded message.source = [])
    (made : message ∈ tagged message.source (state.image message.source)) :
    message ∈ state.central.accepted := by
  rw [← (pipeline reachable).forwarded, handed, List.append_nil] at made
  exact (mem_part Tagged.source).mp made

/-! ## Posted alerts -/

/-- A request that has begun keeps its message. -/
theorem posted_step (begun : (state.http i).task ≠ .idle)
    (stepped : system.step state action = some next) :
    (next.http i).task ≠ .idle ∧ (next.http i).posted = (state.http i).posted := by
  cases step_cases stepped with
  | edge | manager | data => exact ⟨begun, rfl⟩
  | http j act central request inner =>
      by_cases own : i = j
      · subst own
        simp only [Function.update_self]
        cases inner with
        | accept _ _ idle | reject _ _ idle => exact absurd idle begun
        | send | discard | timeout => exact ⟨by simp, rfl⟩
      · simpa [own] using begun
  | dispatcher order next inner =>
      rw [inner.served.2.2.2]
      exact ⟨begun, rfl⟩

/-- A request waits for room until its handler has had its turn or has been
cancelled. -/
theorem sending_step {message : RouterMessage}
    (stepped : system.step state action = some next) :
    (next.http i).task ≠ .sending message ∨
      (next.http i).task = .sending message ∧ ¬(Turn.request i).Takes action := by
  by_cases still : (next.http i).task = .sending message
  · refine Or.inr ⟨still, fun turn => ?_⟩
    cases turn
    cases step_cases stepped with
    | http j act central request inner =>
        simp only [Function.update_self] at still
        cases inner <;> cases still
  · exact Or.inl still

/-- A handler that waits for room can go on as soon as there is some. -/
theorem sends_enabled (reachable : system.Reachable state)
    {message : RouterMessage}
    (sending : (state.http i).task = .sending message)
    (room : state.central.queue.length < 1000) :
    system.Enabled (Turn.request i).Takes state := by
  obtain ⟨central, sent⟩ : ∃ central, state.central.send
      { source := .http i, index := 0, value := message } = .sent central :=
    ⟨_, Channel.send_eq_sent.mpr ⟨(pipeline reachable).isOpen, room, rfl⟩⟩
  have enabled : ∃ next, system.step state (.http i .task) = some next := by
    simp [system, step, HttpRequest.step, sending, sent]
  rcases enabled with ⟨next, stepped⟩
  exact ⟨_, next, rfl, stepped⟩

section Requests

variable {run : system.Run} (begins : run.state 0 = start)
variable (fair : StronglyFair run) (kept : Keeps run (.http i))
include begins fair kept

/-- The handler of an alert sends it. -/
theorem eventually_sent {n : Nat} (begun : ((run.state n).http i).task ≠ .idle) :
    ∃ m, n ≤ m ∧ (run.state m).unforwarded (.http i) = [] ∧
      (run.state m).image (.http i) = (run.state n).image (.http i) := by
  have posted : ∀ {m}, n ≤ m →
      ((run.state m).http i).posted = ((run.state n).http i).posted := by
    intro m after
    exact (run.stays (fun state => (state.http i).task ≠ .idle ∧
        (state.http i).posted = ((run.state n).http i).posted)
      (fun _ before stepped => ⟨(posted_step before.1 stepped).1,
        (posted_step before.1 stepped).2.trans before.2⟩) after ⟨begun, rfl⟩).2
  have waiting : ∀ {m message}, ((run.state m).http i).task = .sending message →
      ((run.state m).http i).posted = [message] :=
    fun {m} message => ((pipeline (run.reachable m)).http i).sending message
  obtain ⟨m, after, sent⟩ : ∃ m, n ≤ m ∧
      ∀ message, ((run.state m).http i).task ≠ .sending message := by
    by_cases waits : ∃ message, ((run.state n).http i).task = .sending message
    case neg => exact ⟨n, Nat.le_refl n, fun message at_ => waits ⟨message, at_⟩⟩
    rcases waits with ⟨message, sending⟩
    have recurs : ∀ m, ((run.state m).http i).task = .sending message →
        ∃ later, m ≤ later ∧
          (((run.state later).http i).task ≠ .sending message ∨
            system.Enabled (Turn.request i).Takes (run.state later)) := by
      intro m _
      rcases eventually_room fair.weaklyFair m with ⟨later, onward, room⟩
      refine ⟨later, onward, ?_⟩
      by_cases still : ((run.state later).http i).task = .sending message
      · exact Or.inr (sends_enabled (run.reachable later) still room)
      · exact Or.inl still
    rcases run.eventually_taken (fun state => (state.http i).task =
          .sending message) (fun state => (state.http i).task ≠ .sending message)
        (fair (.request i)) (fun _ _ stepped => sending_step stepped) recurs
        sending with ⟨m, after, gone⟩
    refine ⟨m, after, fun other at_ => ?_⟩
    have one := waiting sending
    rw [← posted after, waiting at_] at one
    cases one
    exact gone at_
  have patient : ((run.state m).http i).task ≠ .timedOut := by
    apply not_timedOut (runFrom_start begins m)
    intro member
    rcases run.mem_schedule member with ⟨k, here⟩
    exact kept k here
  refine ⟨m, after, ?_, ?_⟩
  · cases task : ((run.state m).http i).task with
    | timedOut => exact absurd task patient
    | sending message => exact absurd task (sent message)
    | idle | replied => simp [unforwarded, HttpRequest.unforwarded, task]
  · simp only [image, posted after]

end Requests

/-! ## Every message is processed -/

section Accepted

variable {run : system.Run} (begins : run.state 0 = start)
variable (fair : StronglyFair run) {message : Tagged RouterMessage}
variable (kept : Keeps run message.source) {n : Nat}
include begins fair kept

/-- A message of a stream comes to the central channel in its place. -/
theorem eventually_accepted_of_stream (lock : TableLock) {i : StreamId}
    (source : message.source = TableLock.source lock i)
    (sent : message ∈ tagged message.source
      ((run.state n).sentImage message.source)) :
    ∃ m, n ≤ m ∧ message ∈ (run.state m).central.accepted := by
  have same : ∀ {before after : List (Option RouterMessage)},
      before <+: after → message.index < before.length →
      after[message.index]? = before[message.index]? := by
    intro before after grows inside
    rcases grows with ⟨rest, rfl⟩
    exact List.getElem?_append_left inside
  rw [source] at kept sent
  have here := (mem_tagged.mp sent).2
  rcases List.getElem?_eq_some_iff.mp here with ⟨inside, _⟩
  rcases eventually_forwarded begins fair kept inside with
    ⟨m, after, grown, reached⟩
  rcases unforwarded_of_turnsTo reached with ⟨handed, taken⟩
  have reachable := run.reachable m
  refine ⟨m, after, accepted_of_handed reachable (by rw [source]; exact handed)
    (mem_tagged.mpr ⟨rfl, ?_⟩)⟩
  rw [source, ← same (image_prefix_sent reachable _) taken, same grown inside]
  exact here

/-- A posted alert comes to the central channel. -/
theorem eventually_accepted_of_http {i : Nat}
    (source : message.source = .http i)
    (sent : message ∈ tagged message.source
      ((run.state n).sentImage message.source)) :
    ∃ m, n ≤ m ∧ message ∈ (run.state m).central.accepted := by
  rw [source] at kept sent
  have begun : ((run.state n).http i).task ≠ .idle := by
    intro idle
    have none := ((pipeline (run.reachable n)).http i).idle idle
    simp [sentImage, none, tagged, present] at sent
  rcases eventually_sent begins fair kept begun with ⟨m, after, handed, image⟩
  refine ⟨m, after, accepted_of_handed (run.reachable m) ?_ ?_⟩
  · rw [source]
    exact handed
  · rw [source, image]
    exact sent

/-- In a fair run every message a source sends is processed, if the transport
keeps it. -/
theorem eventually_processed_of_sent
    (sent : message ∈ tagged message.source
      ((run.state n).sentImage message.source)) :
    ∃ m, n ≤ m ∧ message ∈ (run.state m).processed := by
  obtain ⟨m, after, accepted⟩ : ∃ m, n ≤ m ∧
      message ∈ (run.state m).central.accepted := by
    cases source : message.source with
    | edge i =>
        exact eventually_accepted_of_stream begins fair kept .edges source sent
    | manager i =>
        exact eventually_accepted_of_stream begins fair kept .manager source sent
    | data i =>
        exact eventually_accepted_of_stream begins fair kept .data source sent
    | http i => exact eventually_accepted_of_http begins fair kept source sent
  rcases List.getElem?_of_mem accepted with ⟨k, here⟩
  have inside := (List.getElem?_eq_some_iff.mp here).1
  rcases eventually_reaches fair.weaklyFair inside with
    ⟨later, onward, reached⟩
  exact ⟨later, after.trans onward, processed_of_reached here onward reached⟩

end Accepted

end State

end IotRouter.Router
