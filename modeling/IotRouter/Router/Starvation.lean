import Mathlib.Data.Prod.Lex
import IotRouter.Router.EndToEnd
import IotRouter.Router.Fairness
import IotRouter.Router.Quiescence

/-!
# Nobody starves

Under a fair scheduler and with clients that drain, every wait ends although new
messages, sessions and alerts keep coming for ever. Whoever waits for a lock gets
it, because nobody gets ahead of a waiter; so the dispatcher is never stuck, and
every message that the central channel took is processed. If the room in the
central channel is given out fairly too, every message that a source sends is.
-/

namespace IotRouter.Router

open IotRouter.Grpc IotRouter.Https IotRouter.Runtime

/-! ## Lines move on -/

instance (dispatcher : Dispatcher) (lock : TableLock) :
    Decidable (dispatcher.Holds lock) :=
  match dispatcher with
  | .receiving | .lookingUp _ => inferInstanceAs (Decidable False)
  | .sending message _ =>
      inferInstanceAs (Decidable (tableLock message.value = lock))
  | .broadcasting _ _ _ _ => inferInstanceAs (Decidable (lock = .edges))

namespace State

variable {state next : State} {action : Action} {lock : TableLock}
variable {waiter : Party × Access}

/-- The turn that the line for a lock needs next: that of the dispatcher or its
client while the dispatcher holds the lock, and that of the head otherwise. -/
def lineTurn (lock : TableLock) (state : State) : Turn :=
  if state.dispatcher.Holds lock then state.sendingTurn
  else
    match (state.waiters lock).head? with
    | some (.stream i, _) => .task lock i
    | _ => .dispatcher

/-- How many are ahead of a waiter, and how long the guard is still held. -/
def lineRank (lock : TableLock) (waiter : Party × Access) (state : State) :
    Nat ×ₗ Nat :=
  toLex ((RwLock.ahead waiter (state.waiters lock)).length,
    if state.dispatcher.Holds lock then state.toSend else 0)

/-- The dispatcher gets a guard by a step of its own, from the line. -/
theorem holds_before (stepped : system.step state action = some next)
    (holds : next.dispatcher.Holds lock) : state.dispatcher.Holds lock ∨
      state.dispatcher.LooksAt lock ∧ ∃ order, action = .dispatcher order := by
  cases step_cases stepped with
  | edge | manager | data | http => exact Or.inl holds
  | dispatcher order next inner =>
      cases inner with
      | receive message central idle received =>
          simp only [route] at holds
          split at holds <;> cases holds
      | lookUpEdge message _ _ edges found at_ | lookUpManager message _ _ found at_
      | lookUpData message _ _ found at_ =>
          right
          cases found with
          | none => cases holds
          | some tx =>
              have own : tableLock message.value = lock := holds
              exact ⟨by simp [at_, own], order, rfl⟩
      | startBroadcast message destination toEdge heartbeat lock' at_ value =>
          right
          have own : lock = .edges := holds
          exact ⟨by simp [at_, value, tableLock, own], order, rfl⟩
      | sendEdge | sendManager | sendData | finishBroadcast => cases holds
      | broadcastSent _ _ _ _ _ _ _ at_ | broadcastClosed _ _ _ _ _ _ at_ =>
          left
          rw [at_]
          exact holds

theorem toSend_pos (holds : state.dispatcher.Holds lock) : 0 < state.toSend := by
  have remaining : 0 < state.dispatcher.remaining := by
    cases at_ : state.dispatcher with
    | receiving | lookingUp => simp [at_] at holds
    | sending | broadcasting => simp [Dispatcher.remaining]
  simp only [toSend]
  omega

section Line

variable (reachable : system.Reachable state)
include reachable

/-- The turn that a line needs next can be taken. -/
theorem lineTurn_enabled (waits : waiter ∈ state.waiters lock) :
    system.Enabled (state.lineTurn lock).Takes state := by
  simp only [lineTurn]
  split
  · exact sendingTurn_enabled reachable ‹_›
  · rename_i free
    rcases List.exists_cons_of_ne_nil (List.ne_nil_of_mem waits) with
      ⟨first, rest, line⟩
    rw [line]
    rcases first_in_line reachable line with
      ⟨rfl, looks⟩ | ⟨i, write, rfl, pending⟩
    · rcases lookUp_step looks line with ⟨order, next, stepped, _⟩
      exact ⟨_, next, ⟨order, rfl⟩, stepped⟩
    · rcases write_step reachable free pending line with ⟨next, stepped, _⟩
      exact ⟨_, next, rfl, stepped⟩

/-- When the turn of the head is taken, the head leaves the line. -/
theorem line_of_taken (free : ¬state.dispatcher.Holds lock)
    (waits : waiter ∈ state.waiters lock)
    (takes : (state.lineTurn lock).Takes action)
    (stepped : system.step state action = some next) :
    ∃ first, state.waiters lock = first :: next.waiters lock := by
  rcases List.exists_cons_of_ne_nil (List.ne_nil_of_mem waits) with
    ⟨first, rest, line⟩
  rw [lineTurn, if_neg free, line] at takes
  rcases first_in_line reachable line with
    ⟨rfl, looks⟩ | ⟨i, write, rfl, pending⟩
  · rcases takes with ⟨order, rfl⟩
    cases step_cases stepped with
    | dispatcher order next inner =>
        rcases (inner.looks looks).1 with ⟨_, ahead, left⟩
        exact ⟨_, left ▸ ahead⟩
  · cases takes
    rcases write_step reachable free pending line with
      ⟨other, writes, written⟩
    cases stepped.symm.trans writes
    exact ⟨_, written.waiters ▸ line⟩

/-- Whoever steps, a waiter leaves the line, or gets closer to its head, or the
turn that the line needs is still to be taken. -/
theorem line_approaches (waits : waiter ∈ state.waiters lock)
    (stepped : system.step state action = some next) :
    System.Run.Approaches Turn.Takes (waiter ∈ waiters · lock)
      (waiter ∉ waiters · lock) (lineRank lock waiter) (lineTurn lock) state
      action next := by
  by_cases still : waiter ∈ next.waiters lock
  case neg => exact Or.inl still
  refine Or.inr ⟨still, ?_⟩
  have nodup := (accounts reachable lock).nodup
  have fewer := (moves stepped lock).ahead nodup waits still
  rcases Nat.lt_or_eq_of_le fewer.length_le with closer | equal
  · exact Or.inl (Prod.Lex.toLex_lt_toLex.mpr (Or.inl closer))
  have same := fewer.eq_of_length equal
  -- The head has not left: everybody ahead is still there.
  have stays : ∀ first, state.waiters lock ≠ first :: next.waiters lock := by
    intro first line
    rw [line] at nodup equal
    have other : first ≠ waiter := by
      intro same
      subst same
      exact (List.nodup_cons.mp nodup).1 still
    rw [RwLock.ahead_tail other] at equal
    omega
  by_cases holds : state.dispatcher.Holds lock
  · rcases toSend_step reachable holds stepped with
      ⟨holdsNext, less | ⟨spent, turn, passed⟩⟩ | done
    · left
      simp only [lineRank, if_pos holds, if_pos holdsNext, same]
      exact Prod.Lex.toLex_lt_toLex.mpr (Or.inr ⟨rfl, less⟩)
    · right
      simp only [lineRank, lineTurn, if_pos holds, if_pos holdsNext, same]
      exact ⟨by rw [spent], turn, passed⟩
    · left
      have free : ¬next.dispatcher.Holds lock := by simp [done]
      simp only [lineRank, if_pos holds, if_neg free, same]
      exact Prod.Lex.toLex_lt_toLex.mpr (Or.inr ⟨rfl, toSend_pos holds⟩)
  · have free : ¬next.dispatcher.Holds lock := by
      intro holdsNext
      rcases holds_before stepped holdsNext with held | ⟨looks, order, rfl⟩
      · exact holds held
      · cases step_cases stepped with
        | dispatcher order next inner =>
            rcases (inner.looks looks).1 with ⟨_, line, left⟩
            exact stays _ (left ▸ line)
    have head : (next.waiters lock).head? = (state.waiters lock).head? := by
      rw [RwLock.head?_of_ahead still, RwLock.head?_of_ahead waits, same]
    refine Or.inr ⟨?_, ?_, fun takes => ?_⟩
    · simp only [lineRank, if_neg holds, if_neg free, same]
    · simp only [lineTurn, if_neg holds, if_neg free, head]
    · rcases line_of_taken reachable holds waits takes stepped with ⟨first, line⟩
      exact stays first line

end Line

/-- Nobody waits for a lock for ever. -/
theorem eventually_served {run : system.Run} (fair : WeaklyFair run) {n : Nat}
    (waits : waiter ∈ (run.state n).waiters lock) :
    ∃ m, n ≤ m ∧ waiter ∉ (run.state m).waiters lock :=
  run.eventually_of_rank line_approaches lineTurn_enabled fair waits

end State

/-! ## Fair runs -/

theorem Turn.onward {turn : Turn} {action : Action} (takes : turn.Takes action) :
    action.Onward := by
  cases turn with
  | dispatcher =>
      rcases takes with ⟨order, rfl⟩
      exact Or.inl rfl
  | task lock i =>
      cases takes
      exact Or.inl (Action.isServer_ofTask lock i)
  | request i =>
      cases takes
      exact Or.inl rfl
  | drain client =>
      cases takes
      exact Or.inr ⟨client, rfl⟩

namespace State

/-- Every finite run is the beginning of a fair one, in which nothing but the
server's own steps and drains follow. -/
theorem exists_fair (schedule : List Action) {state : State}
    (ran : system.runFrom start schedule = some state) :
    ∃ run : system.Run, run.state 0 = start ∧ StronglyFair run ∧
      run.state schedule.length = state ∧
      ∀ n action, run.action n = some action →
        action ∈ schedule ∨ action.Onward := by
  have reachable : system.Reachable state := ⟨schedule, ran⟩
  rcases exists_covers reachable with ⟨ids, covers⟩
  rcases (ranked_workLeft ids).leads_to_rest ⟨reachable, covers⟩ with
    ⟨last, ⟨onward, ranOn, met⟩, rests⟩
  have whole : system.runFrom start (schedule ++ onward) = some last :=
    (system.runFrom_append_eq_some).mpr ⟨state, ran, ranOn⟩
  refine ⟨System.resting .start whole, System.resting_zero .start whole,
    fun turn => ?_, ?_,
    fun n action here => ?_⟩
  · apply System.resting_stronglyFair
    intro enabled
    rcases enabled with ⟨action, next, takes, stepped⟩
    exact rests action next (Turn.onward takes) stepped
  · simp [System.resting, show system.runFrom system.start schedule = _ from ran]
  · have member : action ∈ schedule ++ onward := List.mem_of_getElem? here
    rcases List.mem_append.mp member with before | after
    · exact Or.inl before
    · exact Or.inr ((System.stepsMeet_actions ranOn).mp met action after)

end State

/-! ## Every write ends -/

/-- The cancellation of the handler of a stream. -/
def Action.abort : TableLock → StreamId → Action
  | .edges, i => .edge i .abort
  | .manager, i => .manager i .abort
  | .data, i => .data i .abort

theorem EdgeStep.pending_ends {central central' : Central}
    {side side' : EdgeSide} {i : StreamId} {action : StreamAction FromEdge}
    {write : PendingWrite}
    (stepped : EdgeStep central side i action central' side')
    (pending : (side.streams i).task.pending = some write) :
    (side'.streams i).task.pending = some write ∨
      (side'.streams i).task.pending = none ∧ action = .task := by
  cases stepped with
  | client act stream _ acted =>
      rw [Side.setStream_self, (Stream.client_frame acted).1]
      exact Or.inl pending
  | register index msg lock pc written =>
      rw [Side.setStream_self]
      refine Or.inr ⟨?_, rfl⟩
      cases processFromEdge msg <;> rfl
  | unregister edgeId lock pc written =>
      rw [Side.setStream_self]
      exact Or.inr ⟨rfl, rfl⟩
  | connect pc | skip _ _ pc | read _ _ pc | leave _ pc | vanish pc
  | forward _ _ pc | discard _ pc => simp [EdgeTask.pending, pc] at pending

theorem SessionStep.pending_ends {In Out : Type} {service : SlotService In}
    {central central' : Central} {side side' : SlotSide In Out} {i : StreamId}
    {action : StreamAction In} {write : PendingWrite}
    (stepped : SessionStep service central side i action central' side')
    (pending : (side.streams i).task.pending = some write) :
    (side'.streams i).task.pending = some write ∨
      (side'.streams i).task.pending = none ∧
        (action = .task ∨ write = .register ∧ action = .abort) := by
  cases stepped with
  | abort waiting =>
      rw [waiting] at pending
      cases pending
      exact Or.inr ⟨by simp [SessionTask.pending], Or.inr ⟨rfl, rfl⟩⟩
  | client act stream _ acted =>
      rw [Side.setStream_self, (Stream.client_frame acted).1]
      exact Or.inl pending
  | register | unregister =>
      rw [Side.setStream_self]
      exact Or.inr ⟨rfl, Or.inl rfl⟩
  | connect task | read _ _ task | leave task | forward _ _ task
  | discard _ task => simp [SessionTask.pending, task] at pending

/-- Only the stream's own step ends its wait. -/
theorem SessionStep.pending_ends_at {In Out : Type} {service : SlotService In}
    {central central' : Central} {side side' : SlotSide In Out} {i j : StreamId}
    {action : StreamAction In} {write : PendingWrite}
    (stepped : SessionStep service central side j action central' side')
    (pending : (side.streams i).task.pending = some write) :
    (side'.streams i).task.pending = some write ∨
      (side'.streams i).task.pending = none ∧
        (j = i ∧ action = .task ∨
          write = .register ∧ j = i ∧ action = .abort) := by
  by_cases own : j = i
  · subst own
    simpa using stepped.pending_ends pending
  · rw [stepped.streams_of_ne (Ne.symm own)]
    exact Or.inl pending

namespace State

variable {state next : State} {action : Action} {lock : TableLock}

/-- A write stays pending until its task does it or its handler is
cancelled. -/
theorem pending_ends {i : StreamId} {write : PendingWrite}
    (pending : state.pending lock i = some write)
    (stepped : system.step state action = some next) :
    next.pending lock i = some write ∨ next.pending lock i = none ∧
      (action = .ofTask lock i ∨ write = .register ∧ action = .abort lock i) := by
  cases lock with
  | edges =>
      rcases step_edges stepped with ⟨j, act, rfl, inner⟩ | ⟨_, served⟩
      · by_cases own : i = j
        · subst own
          rcases inner.pending_ends pending with still | ⟨done, rfl⟩
          · exact Or.inl still
          · exact Or.inr ⟨done, Or.inl rfl⟩
        · left
          simpa only [State.pending, inner.streams_of_ne own] using pending
      · left
        simpa only [State.pending, served.task] using pending
  | manager =>
      rcases step_manager stepped with ⟨j, act, rfl, inner⟩ | ⟨_, served⟩
      · simpa [State.pending, Action.ofTask, Action.abort] using
          inner.pending_ends_at pending
      · left
        simpa only [State.pending, served.task] using pending
  | data =>
      rcases step_data stepped with ⟨j, act, rfl, inner⟩ | ⟨_, served⟩
      · simpa [State.pending, Action.ofTask, Action.abort] using
          inner.pending_ends_at pending
      · left
        simpa only [State.pending, served.task] using pending

/-- At this instant the task of a stream does the write it waited for, or the
handler that waits to register is cancelled. -/
structure WriteEnds (run : system.Run) (lock : TableLock) (i : StreamId)
    (write : PendingWrite) (n : Nat) : Prop where
  pending : (run.state n).pending lock i = some write
  done : (run.state (n + 1)).pending lock i = none
  ends : run.action n = some (.ofTask lock i) ∨
    write = .register ∧ run.action n = some (.abort lock i)

/-- Some step ends the wait for a lock. -/
theorem exists_end_of_wait {run : system.Run} (fair : WeaklyFair run)
    {i : StreamId} {write : PendingWrite} {n : Nat}
    (pending : (run.state n).pending lock i = some write) :
    ∃ m action, n ≤ m ∧ (run.state m).pending lock i = some write ∧
      run.action m = some action ∧
      (run.state (m + 1)).pending lock i ≠ some write := by
  rcases eventually_served fair (waits_in_line (run.reachable n) pending) with
    ⟨later, after, left⟩
  have ended : (run.state later).pending lock i ≠ some write :=
    fun still => left (waits_in_line (run.reachable later) still)
  rcases run.exists_step_of_change (·.pending lock i = some write) after pending
    ended with ⟨m, action, onward, _, still, here, gone⟩
  exact ⟨m, action, onward, still, here, gone⟩

/-- Whatever else goes on, no registration and no clean-up waits for ever. -/
theorem everyWriteEnds {run : system.Run} (fair : WeaklyFair run)
    {i : StreamId} {write : PendingWrite} {n : Nat}
    (pending : (run.state n).pending lock i = some write) :
    ∃ m, n ≤ m ∧ WriteEnds run lock i write m := by
  rcases exists_end_of_wait fair pending with ⟨m, action, after, still, here, gone⟩
  rcases pending_ends still (run.stepped m action here) with same | ⟨done, ends⟩
  · exact absurd same gone
  · refine ⟨m, after, still, done, ?_⟩
    rw [here]
    simpa using ends

/-- Manager session 0 registers. -/
theorem everyWriteEnds_registering : ∃ (run : system.Run) (m : Nat),
    WeaklyFair run ∧ WriteEnds run .manager 0 .register m := by
  rcases exists_fair [.manager 0 .connect] rfl with
    ⟨run, _, fair, state, _⟩
  have pending : (run.state 1).pending .manager 0 = some .register := by
    rw [show run.state 1 = _ from state]
    rfl
  rcases everyWriteEnds fair.weaklyFair pending with ⟨m, _, ends⟩
  exact ⟨run, m, fair.weaklyFair, ends⟩

/-! ## Every message is processed -/

/-- What the dispatcher has received so far. -/
def dispatching (state : State) : List (Tagged RouterMessage) :=
  state.processed ++ state.dispatcher.inHand

/-- What a source or a client does leaves in the central channel what is
there. -/
theorem central_of_source (reachable : system.Reachable state)
    (other : ∀ order, action ≠ .dispatcher order)
    (stepped : system.step state action = some next) :
    ∃ forwarded, next.central.queue = state.central.queue ++ forwarded ∧
      next.central.accepted = state.central.accepted ++ forwarded := by
  have wf := pipeline reachable
  cases step_cases stepped with
  | edge i act central edges inner =>
      rcases inner.advances ((edgeSideWF reachable).streams i) wf.isOpen with
        ⟨forwarded, _, queue, accepted, _⟩
      exact ⟨forwarded, queue, accepted⟩
  | manager i act central manager inner =>
      rcases inner.advances ((slotSidesWF reachable).1.streams i) wf.isOpen with
        ⟨forwarded, _, queue, accepted, _⟩
      exact ⟨forwarded, queue, accepted⟩
  | data i act central data inner =>
      rcases inner.advances ((slotSidesWF reachable).2.streams i) wf.isOpen with
        ⟨forwarded, _, queue, accepted, _⟩
      exact ⟨forwarded, queue, accepted⟩
  | http i act central request inner =>
      rcases inner.advances (wf.http i) wf.isOpen with
        ⟨forwarded, _, queue, accepted, _⟩
      exact ⟨forwarded, queue, accepted⟩
  | dispatcher order => exact absurd rfl (other order)

/-- The dispatcher keeps what it has received. -/
theorem DispatchStep.dispatching {order : List (String × StreamId)}
    (stepped : DispatchStep state order next) :
    state.dispatching <+: next.dispatching := by
  cases stepped with
  | receive message central idle received =>
      simp only [route]
      split <;> simp [State.dispatching, processed, Dispatcher.inHand, idle]
  | lookUpEdge _ _ _ _ found at_ | lookUpManager _ _ _ found at_
  | lookUpData _ _ _ found at_ =>
      cases found <;> simp [State.dispatching, finishLookUp, finish, processed,
        Dispatcher.inHand, at_]
  | sendEdge _ _ _ _ _ _ at_ | sendManager _ _ _ _ _ at_
  | sendData _ _ _ _ _ at_ | finishBroadcast _ _ _ at_ =>
      simp [State.dispatching, finishSend, finish, processed, Dispatcher.inHand,
        at_]
  | startBroadcast _ _ _ _ _ at_ | broadcastSent _ _ _ _ _ _ _ at_
  | broadcastClosed _ _ _ _ _ _ at_ =>
      simp [State.dispatching, processed, Dispatcher.inHand, at_]

/-- A dispatcher that receives goes on to look up an entry. -/
theorem DispatchStep.receives {order : List (String × StreamId)}
    (stepped : DispatchStep state order next)
    (idle : state.dispatcher = .receiving) :
    ∃ message, next.dispatcher = .lookingUp message := by
  cases stepped with
  | receive message central _ received =>
      refine ⟨message, ?_⟩
      simp only [route]
      split <;> rfl
  | lookUpEdge _ _ _ _ _ at_ | lookUpManager _ _ _ _ at_
  | lookUpData _ _ _ _ at_ | startBroadcast _ _ _ _ _ at_
  | sendEdge _ _ _ _ _ _ at_ | sendManager _ _ _ _ _ at_
  | sendData _ _ _ _ _ at_ | broadcastSent _ _ _ _ _ _ _ at_
  | broadcastClosed _ _ _ _ _ _ at_ | finishBroadcast _ _ _ at_ =>
      rw [at_] at idle
      cases idle

theorem dispatching_step (reachable : system.Reachable state)
    (stepped : system.step state action = some next) :
    state.dispatching <+: next.dispatching := by
  by_cases own : ∃ order, action = .dispatcher order
  · rcases own with ⟨order, rfl⟩
    cases step_cases stepped with
    | dispatcher order next inner => exact inner.dispatching
  · have other : ∀ order, action ≠ .dispatcher order :=
      fun order same => own ⟨order, same⟩
    have dispatched := (outbox_of_source (unused reachable) stepped other).2
    rw [dispatching, dispatching, processed, processed, dispatched,
      dispatcher_of_other other stepped]

theorem accepted_step (reachable : system.Reachable state)
    (stepped : system.step state action = some next) :
    state.central.accepted <+: next.central.accepted := by
  by_cases own : ∃ order, action = .dispatcher order
  · rcases own with ⟨order, rfl⟩
    cases step_cases stepped with
    | dispatcher order next inner =>
        rw [inner.carries.1]
  · rcases central_of_source reachable (fun order same => own ⟨order, same⟩)
      stepped with ⟨forwarded, _, accepted⟩
    exact accepted ▸ List.prefix_append _ _

theorem processed_step (reachable : system.Reachable state)
    (stepped : system.step state action = some next) :
    state.processed <+: next.processed := by
  rcases dispatched_grows reachable stepped with same | ⟨dispatch, appended⟩
  · rw [processed, processed, same]
  · rw [processed, processed, appended, List.map_append]
    exact List.prefix_append _ _

/-- The channel and the dispatcher forget nothing. -/
theorem accepted_mono (run : system.Run) {n m : Nat} (after : n ≤ m) :
    (run.state n).central.accepted <+: (run.state m).central.accepted := by
  apply run.stays ((run.state n).central.accepted <+: ·.central.accepted) ?_ after
    List.prefix_rfl
  exact fun reachable before stepped =>
    before.trans (accepted_step reachable stepped)

theorem processed_mono (run : system.Run) {n m : Nat} (after : n ≤ m) :
    (run.state n).processed <+: (run.state m).processed := by
  apply run.stays ((run.state n).processed <+: ·.processed) ?_ after List.prefix_rfl
  exact fun reachable before stepped =>
    before.trans (processed_step reachable stepped)

theorem inHand_of_busy (busy : state.dispatcher ≠ .receiving) :
    ∃ message, message ∈ state.dispatcher.inHand := by
  cases at_ : state.dispatcher with
  | receiving => exact absurd at_ busy
  | lookingUp message | sending message tx
  | broadcasting message heartbeat rest sentCount =>
      exact ⟨message, List.mem_singleton_self _⟩

section Fair

variable {run : system.Run} (fair : WeaklyFair run)
include fair

/-- A message the dispatcher has received is processed. -/
theorem eventually_of_dispatching {message : Tagged RouterMessage} {n : Nat}
    (received : message ∈ (run.state n).dispatching) :
    ∃ m, n ≤ m ∧ message ∈ (run.state m).processed := by
  have keeps : ∀ {n m}, n ≤ m → message ∈ (run.state n).dispatching →
      message ∈ (run.state m).dispatching := by
    intro n m after received
    exact run.stays (message ∈ ·.dispatching) (fun reachable received stepped =>
      (dispatching_step reachable stepped).subset received) after received
  -- Once it holds the guard it only has to end its sends.
  have ofHolds : ∀ lock {n}, (run.state n).dispatcher.Holds lock →
      message ∈ (run.state n).dispatching →
      ∃ m, n ≤ m ∧ message ∈ (run.state m).processed := by
    intro lock n holds received
    rcases eventually_receiving fair holds with ⟨m, after, idle⟩
    refine ⟨m, after, ?_⟩
    simpa [dispatching, idle, Dispatcher.inHand] using keeps after received
  rcases List.mem_append.mp received with done | inHand
  · exact ⟨n, Nat.le_refl n, done⟩
  cases at_ : (run.state n).dispatcher with
  | receiving => simp [at_, Dispatcher.inHand] at inHand
  | sending other tx =>
      exact ofHolds (tableLock other.value) (by simp [at_]) received
  | broadcasting other heartbeat rest sentCount =>
      exact ofHolds .edges (by simp [at_]) received
  | lookingUp other =>
      have looks : (run.state n).dispatcher.LooksAt (tableLock other.value) := by
        simp [at_]
      rcases eventually_served fair (looks_in_line (run.reachable n) looks) with
        ⟨m, after, left⟩
      have receivedThen := keeps after received
      rcases List.mem_append.mp receivedThen with done | inHandThen
      · exact ⟨m, after, done⟩
      · obtain ⟨lock, holds⟩ : ∃ lock, (run.state m).dispatcher.Holds lock := by
          simp only [at_, Dispatcher.inHand, List.mem_singleton] at inHand
          subst inHand
          cases atThen : (run.state m).dispatcher with
          | receiving => simp [atThen, Dispatcher.inHand] at inHandThen
          | sending other tx => exact ⟨_, rfl⟩
          | broadcasting other heartbeat rest sentCount => exact ⟨_, rfl⟩
          | lookingUp other =>
              simp only [atThen, Dispatcher.inHand, List.mem_singleton]
                at inHandThen
              subst inHandThen
              exact absurd (looks_in_line (run.reachable m) (by simp [atThen]))
                left
        rcases ofHolds lock holds receivedThen with ⟨later, onward, done⟩
        exact ⟨later, after.trans onward, done⟩

/-- The dispatcher does not wait for ever where there is a message. -/
theorem eventually_busy {n : Nat} (waits : (run.state n).central.queue ≠ []) :
    ∃ m, n ≤ m ∧ (run.state m).dispatcher ≠ .receiving := by
  by_cases idle : (run.state n).dispatcher = .receiving
  case neg => exact ⟨n, Nat.le_refl n, idle⟩
  have approaches : ∀ {state action next}, system.Reachable state →
      (state.dispatcher = .receiving ∧ state.central.queue ≠ []) →
      system.step state action = some next →
      System.Run.Approaches Turn.Takes
        (fun state => state.dispatcher = .receiving ∧ state.central.queue ≠ [])
        (·.dispatcher ≠ .receiving) (fun _ => 0) (fun _ => .dispatcher) state
        action next := by
    intro state action next reachable ⟨idle, waits⟩ stepped
    by_cases own : ∃ order, action = .dispatcher order
    · left
      rcases own with ⟨order, rfl⟩
      cases step_cases stepped with
      | dispatcher order next inner =>
          rcases inner.receives idle with ⟨message, busy⟩
          simp [busy]
    · have other : ∀ order, action ≠ .dispatcher order :=
        fun order same => own ⟨order, same⟩
      rcases central_of_source reachable other stepped with
        ⟨forwarded, queue, _⟩
      refine Or.inr ⟨⟨?_, ?_⟩, Or.inr ⟨rfl, rfl, own⟩⟩
      · rw [dispatcher_of_other other stepped, idle]
      · simp [queue, waits]
  apply run.eventually_of_rank approaches ?_ fair ⟨idle, waits⟩
  intro state _ ⟨idle, waits⟩
  rcases List.exists_cons_of_ne_nil waits with ⟨message, rest, queue⟩
  rcases receive_step idle queue with ⟨next, stepped, _⟩
  exact ⟨_, next, ⟨[], rfl⟩, stepped⟩

/-- As long as the channel took more than was processed, another message is
processed. -/
theorem eventually_finishes {k n : Nat}
    (taken : k < (run.state n).central.accepted.length)
    (reached : k ≤ (run.state n).processed.length) :
    ∃ m, n ≤ m ∧ k < (run.state m).processed.length := by
  rcases Nat.lt_or_eq_of_le reached with further | last
  · exact ⟨n, Nat.le_refl n, further⟩
  have accepted := (pipeline (run.reachable n)).accepted
  obtain ⟨m, after, message, inHand⟩ : ∃ m, n ≤ m ∧
      ∃ message, message ∈ (run.state m).dispatcher.inHand := by
    by_cases idle : (run.state n).dispatcher = .receiving
    · have waits : (run.state n).central.queue ≠ [] := by
        intro empty
        rw [accepted, idle, empty] at taken
        simp [Dispatcher.inHand, last] at taken
      rcases eventually_busy fair waits with ⟨m, after, busy⟩
      exact ⟨m, after, inHand_of_busy busy⟩
    · exact ⟨n, Nat.le_refl n, inHand_of_busy idle⟩
  rcases eventually_of_dispatching fair (List.mem_append_right _ inHand) with
    ⟨later, onward, done⟩
  refine ⟨later, after.trans onward, ?_⟩
  have fresh := (pipeline (run.reachable m)).inHand_fresh inHand
  have before := (processed_mono run after).length_le
  have grown := processed_mono run onward
  have more : (run.state m).processed.length ≠
      (run.state later).processed.length :=
    fun equal => fresh (grown.eq_of_length equal ▸ done)
  have longer := grown.length_le
  omega

/-- The dispatcher gets to every position of the central channel. -/
theorem eventually_reaches {k n : Nat}
    (taken : k < (run.state n).central.accepted.length) :
    ∃ m, n ≤ m ∧ k < (run.state m).processed.length := by
  induction k generalizing n with
  | zero => exact eventually_finishes fair taken (Nat.zero_le _)
  | succ k ih =>
      rcases ih (Nat.lt_of_succ_lt taken) with ⟨m, after, reached⟩
      rcases eventually_finishes fair
        (taken.trans_le (accepted_mono run after).length_le) reached with
        ⟨later, onward, further⟩
      exact ⟨later, after.trans onward, further⟩

omit fair in
/-- What is at a position of the central channel is processed once the dispatcher
has got there. -/
theorem processed_of_reached {k n m : Nat} {message : Tagged RouterMessage}
    (here : (run.state n).central.accepted[k]? = some message) (after : n ≤ m)
    (reached : k < (run.state m).processed.length) :
    message ∈ (run.state m).processed := by
  rcases List.getElem?_eq_some_iff.mp here with ⟨inside, here⟩
  refine List.mem_iff_getElem.mpr ⟨k, reached, ?_⟩
  have done := (pipeline (run.reachable m)).processed_prefix_accepted
  rw [done.getElem reached, ← (accepted_mono run after).getElem inside]
  exact here

/-- Every message the central channel took is processed, whatever keeps coming
behind it. -/
theorem everyAcceptedProcessed {message : Tagged RouterMessage} {n : Nat}
    (taken : message ∈ (run.state n).central.accepted) :
    ∃ m, n ≤ m ∧ message ∈ (run.state m).processed := by
  rcases List.getElem?_of_mem taken with ⟨k, here⟩
  have inside := (List.getElem?_eq_some_iff.mp here).1
  rcases eventually_reaches fair inside with ⟨m, after, reached⟩
  exact ⟨m, after, processed_of_reached here after reached⟩

end Fair

/-- What edge 0 says has been forwarded, and is processed. -/
theorem everyAcceptedProcessed_spokenRun :
    ∃ (run : system.Run) (message : Tagged RouterMessage) (m : Nat),
      WeaklyFair run ∧ message.source = .edge 0 ∧
      message ∈ (run.state m).processed := by
  rcases exists_fair (spokenRun ++ [.edge 0 .task, .edge 0 .task, .edge 0 .task])
      rfl with
    ⟨run, _, fair, state, _⟩
  obtain ⟨message, source, taken⟩ : ∃ message : Tagged RouterMessage,
      message.source = .edge 0 ∧ message ∈ (run.state 6).central.accepted := by
    rw [show run.state 6 = _ from state]
    exact ⟨_, rfl, List.mem_singleton_self _⟩
  rcases everyAcceptedProcessed fair.weaklyFair taken with ⟨m, _, done⟩
  exact ⟨run, message, m, fair.weaklyFair, source, done⟩

end State

end IotRouter.Router
