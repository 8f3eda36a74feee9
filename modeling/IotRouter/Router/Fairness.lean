import IotRouter.Runtime.Fairness
import IotRouter.Router.Sending

/-!
# Turns of the router

Who has to be scheduled fairly for the router to serve everybody: the dispatcher,
the tasks of the streams, the handlers of the alerts, and the clients, which have
to drain. While the dispatcher holds a read guard it comes closer to the end of
its sends with every turn of its own or of the client it waits for. A waiter for
a lock comes closer to the head with every turn of whoever is at the head.
-/

namespace IotRouter.Router

open IotRouter.Grpc IotRouter.Https IotRouter.Runtime

/-! ## Turns -/

inductive Turn where
  | dispatcher
  | task (lock : TableLock) (i : StreamId)
  | request (i : Nat)
  | drain (client : Client)
  deriving DecidableEq, Repr

/-- The actions a turn consists in. The dispatcher may iterate over the map of
edges in any order. -/
def Turn.Takes : Turn → Action → Prop
  | .dispatcher, action => ∃ order, action = .dispatcher order
  | .task lock i, action => action = .ofTask lock i
  | .request i, action => action = .http i .task
  | .drain client, action => action = .drain client

/-- Nobody who can go on from some instant on is passed over for ever. -/
def WeaklyFair (run : system.Run) : Prop :=
  ∀ turn : Turn, run.WeaklyFair turn.Takes

/-- Nor is anybody who can go on again and again, as when the room in a channel
comes and goes. -/
def StronglyFair (run : system.Run) : Prop :=
  ∀ turn : Turn, run.StronglyFair turn.Takes

theorem StronglyFair.weaklyFair {run : system.Run} (fair : StronglyFair run) :
    WeaklyFair run :=
  fun turn => (fair turn).weaklyFair

/-! ## The line for a lock -/

namespace Side

variable {Value Task In Out Op : Type}
variable {side side' : Side Value Task In Out Op}

theorem write_moves {i : StreamId} {update : Value → Value}
    {lock : RwLock Party Value}
    (written : side.lock.write (.stream i) update = some lock) :
    RwLock.Moves side.lock.queue lock.queue := by
  rcases RwLock.write_eq_some.mp written with ⟨_, rest, queue, rfl⟩
  exact Or.inr (queue ▸ List.sublist_cons_self _ _)

theorem lookUp_moves {entry : Value → Option StreamId}
    {found : Option StreamId}
    (looked : side.lookUp entry = some (side', found)) :
    RwLock.Moves side.lock.queue side'.lock.queue := by
  rcases lookUp_queue looked with ⟨rest, queue, left⟩
  rw [queue, left]
  exact Or.inr (List.sublist_cons_self _ _)

end Side

theorem EdgeStep.moves {central central' : Central} {side side' : EdgeSide}
    {i : StreamId} {action : StreamAction FromEdge}
    (stepped : EdgeStep central side i action central' side') :
    RwLock.Moves side.lock.queue side'.lock.queue := by
  cases stepped with
  | read | leave => exact Or.inl (List.prefix_append _ _)
  | register _ _ _ _ written | unregister _ _ _ written =>
      exact Side.write_moves written
  | connect | client | skip | vanish | forward | discard =>
      exact Or.inl List.prefix_rfl

theorem SessionStep.moves {In Out : Type} {service : SlotService In}
    {central central' : Central} {side side' : SlotSide In Out} {i : StreamId}
    {action : StreamAction In}
    (stepped : SessionStep service central side i action central' side') :
    RwLock.Moves side.lock.queue side'.lock.queue := by
  cases stepped with
  | connect | leave => exact Or.inl (List.prefix_append _ _)
  | abort => exact Or.inr List.filter_sublist
  | register _ _ written | unregister _ _ written =>
      exact Side.write_moves written
  | client | read | forward | discard => exact Or.inl List.prefix_rfl

namespace State

variable {state next : State} {action : Action}

theorem DispatchStep.moves {order : List (String × StreamId)}
    (stepped : DispatchStep state order next) (lock : TableLock) :
    RwLock.Moves (state.waiters lock) (next.waiters lock) := by
  have still : ∀ queue : List (Party × Access), RwLock.Moves queue queue :=
    fun _ => Or.inl List.prefix_rfl
  by_cases sends : ∃ held, state.dispatcher.Holds held
  · rcases sends with ⟨held, holds⟩
    rw [(stepped.sends holds).1.waiters]
    exact still _
  cases stepped with
  | receive message central idle received =>
      left
      simp only [route]
      split <;> cases lock <;>
        first
        | exact List.prefix_append _ _
        | exact List.prefix_rfl
  | lookUpEdge message destination toEdge edges found at_ value plain looked =>
      cases lock with
      | edges => cases found <;> exact Side.lookUp_moves looked
      | manager | data => cases found <;> exact still _
  | lookUpManager message toManager manager found at_ value looked =>
      cases lock with
      | manager => cases found <;> exact Side.lookUp_moves looked
      | edges | data => cases found <;> exact still _
  | lookUpData message toData data found at_ value looked =>
      cases lock with
      | data => cases found <;> exact Side.lookUp_moves looked
      | edges | manager => cases found <;> exact still _
  | startBroadcast message destination toEdge heartbeat lock' at_ value beat
      acquired iterates =>
      rcases RwLock.acquire_eq_some.mp acquired with ⟨rest, queue, rfl⟩
      cases lock with
      | edges =>
          rw [show state.waiters .edges = _ from queue]
          exact Or.inr (List.sublist_cons_self _ _)
      | manager | data => exact still _
  | sendEdge message _ _ _ _ _ at_ | sendManager message _ _ _ _ at_
  | sendData message _ _ _ _ at_ =>
      exact absurd ⟨tableLock message.value, by simp [at_]⟩ sends
  | broadcastSent _ _ _ _ _ _ _ at_ | broadcastClosed _ _ _ _ _ _ at_
  | finishBroadcast _ _ _ at_ => exact absurd ⟨.edges, by simp [at_]⟩ sends

/-- The line for a lock only moves on. -/
theorem moves (stepped : system.step state action = some next)
    (lock : TableLock) :
    RwLock.Moves (state.waiters lock) (next.waiters lock) := by
  have still : ∀ queue : List (Party × Access), RwLock.Moves queue queue :=
    fun _ => Or.inl List.prefix_rfl
  cases step_cases stepped with
  | edge i act central edges inner =>
      cases lock with
      | edges => exact inner.moves
      | manager | data => exact still _
  | manager i act central manager inner =>
      cases lock with
      | manager => exact inner.moves
      | edges | data => exact still _
  | data i act central data inner =>
      cases lock with
      | data => exact inner.moves
      | edges | manager => exact still _
  | http => exact still _
  | dispatcher order next inner => exact inner.moves lock

end State

/-! ## Room in a channel -/

/-- A send has to wait for room. -/
def Filled {Out : Type} (outbound : Channel 100 (Tagged Out)) : Prop :=
  outbound.isOpen = true ∧ 100 ≤ outbound.queue.length

/-- A client fills its channel with nothing. -/
theorem Stream.filled_before {Task In Out : Type}
    {stream stream' : Stream Task In Out} {action : ClientAction In}
    (acted : stream.client action = some stream')
    (filled : Filled stream'.outbound) : Filled stream.outbound := by
  cases action with
  | send | close | reset =>
      simp only [client] at acted
      split at acted <;> cases acted
      exact filled
  | drain =>
      rcases Option.map_eq_some_iff.mp acted with
        ⟨⟨value, outbound⟩, received, rfl⟩
      rcases Channel.receive_eq_some.mp received with ⟨queue, _, same⟩
      refine ⟨same ▸ filled.1, ?_⟩
      rw [queue, List.length_cons]
      exact Nat.le_succ_of_le filled.2
  | dropReceiver =>
      simp only [client] at acted
      split at acted <;> cases acted
      cases filled.1

theorem EdgeStep.filled_before {central central' : Central}
    {side side' : EdgeSide} {i : StreamId} {action : StreamAction FromEdge}
    (stepped : EdgeStep central side i action central' side')
    (filled : Filled (side'.streams i).outbound) :
    Filled (side.streams i).outbound := by
  cases stepped with
  | connect => simp [Filled, Stream.fresh, Channel.empty] at filled
  | client act stream _ acted =>
      rw [Side.setStream_self] at filled
      exact Stream.filled_before acted filled
  | skip | read | leave | vanish | register | forward | discard
  | unregister => simpa using filled

theorem SessionStep.filled_before {In Out : Type} {service : SlotService In}
    {central central' : Central} {side side' : SlotSide In Out} {i : StreamId}
    {action : StreamAction In}
    (stepped : SessionStep service central side i action central' side')
    (filled : Filled (side'.streams i).outbound) :
    Filled (side.streams i).outbound := by
  cases stepped with
  | connect => simp [Filled, Stream.fresh, Channel.empty] at filled
  | abort => simp [Filled] at filled
  | client act stream _ acted =>
      rw [Side.setStream_self] at filled
      exact Stream.filled_before acted filled
  | register | read | leave | forward | discard | unregister =>
      simpa using filled

namespace State

variable {state next : State} {action : Action}

/-- Only the dispatcher fills a channel. -/
theorem full_before {client : Client}
    (other : ∀ order, action ≠ .dispatcher order)
    (stepped : system.step state action = some next)
    (full : next.Full client) : state.Full client := by
  cases step_cases stepped with
  | edge i act central edges inner =>
      cases client with
      | edge j =>
          by_cases own : j = i
          · subst own
            exact inner.filled_before full
          · simpa [Full, listens, queueLength, inner.streams_of_ne own]
              using full
      | manager j | data j => exact full
  | manager i act central manager inner =>
      cases client with
      | manager j =>
          by_cases own : j = i
          · subst own
            exact inner.filled_before full
          · simpa [Full, listens, queueLength, inner.streams_of_ne own]
              using full
      | edge j | data j => exact full
  | data i act central data inner =>
      cases client with
      | data j =>
          by_cases own : j = i
          · subst own
            exact inner.filled_before full
          · simpa [Full, listens, queueLength, inner.streams_of_ne own]
              using full
      | edge j | manager j => exact full
  | http => exact full
  | dispatcher order => exact absurd rfl (other order)

/-- Nobody else moves the dispatcher. -/
theorem dispatcher_of_other (other : ∀ order, action ≠ .dispatcher order)
    (stepped : system.step state action = some next) :
    next.dispatcher = state.dispatcher := by
  cases step_cases stepped with
  | edge | manager | data | http => rfl
  | dispatcher order => exact absurd rfl (other order)

/-! ## The end of the sends -/

instance (client : Client) : Decidable (state.Full client) :=
  inferInstanceAs (Decidable (_ ∧ _))

/-- The turn that a dispatcher with a guard needs next. -/
def sendingTurn (state : State) : Turn :=
  match state.dispatcher.target with
  | some client => if state.Full client then .drain client else .dispatcher
  | none => .dispatcher

/-- The turns it needs until it receives again. -/
def toSend (state : State) : Nat :=
  2 * state.dispatcher.remaining +
    if state.sendingTurn = .dispatcher then 0 else 1

theorem sendingTurn_of_suspended {client : Client}
    (suspended : state.SuspendedOn client) :
    state.sendingTurn = .drain client := by
  simp [sendingTurn, suspended.1, suspended.2]

theorem sendingTurn_of_room
    (room : ∀ client, ¬state.SuspendedOn client) :
    state.sendingTurn = .dispatcher := by
  simp only [sendingTurn]
  split
  · rename_i client target
    exact if_neg fun full => room client ⟨target, full⟩
  · rfl

/-- The turn a dispatcher with a guard needs next can be taken. -/
theorem sendingTurn_enabled (reachable : system.Reachable state)
    {lock : TableLock} (holds : state.dispatcher.Holds lock) :
    system.Enabled state.sendingTurn.Takes state := by
  by_cases waits : ∃ client, state.SuspendedOn client
  · rcases waits with ⟨client, suspended⟩
    rcases drain_of_suspended reachable suspended with ⟨next, stepped, _⟩
    rw [sendingTurn_of_suspended suspended]
    exact ⟨_, next, rfl, stepped⟩
  · rw [sendingTurn_of_room fun client suspended => waits ⟨client, suspended⟩]
    obtain ⟨next, stepped⟩ := (dispatch_enabled holds []).mpr
      fun client target full => waits ⟨client, target, full⟩
    exact ⟨_, next, ⟨[], rfl⟩, stepped⟩

/-- Whoever steps while the dispatcher holds a guard, the dispatcher comes
closer to the end of its sends, or its next turn is still to be taken. -/
theorem toSend_step (reachable : system.Reachable state) {lock : TableLock}
    (holds : state.dispatcher.Holds lock)
    (stepped : system.step state action = some next) :
    (next.dispatcher.Holds lock ∧ (next.toSend < state.toSend ∨
      next.toSend = state.toSend ∧ next.sendingTurn = state.sendingTurn ∧
        ¬state.sendingTurn.Takes action)) ∨
    next.dispatcher = .receiving := by
  by_cases own : ∃ order, action = .dispatcher order
  · rcases own with ⟨order, rfl⟩
    cases step_cases stepped with
    | dispatcher order next inner =>
        rcases inner.sends holds with ⟨_, fewer, holdsNext | done⟩
        · refine Or.inl ⟨holdsNext, Or.inl ?_⟩
          simp only [toSend]
          split <;> split <;> omega
        · exact Or.inr done
  · have other : ∀ order, action ≠ .dispatcher order :=
      fun order same => own ⟨order, same⟩
    have same := dispatcher_of_other other stepped
    refine Or.inl ⟨same ▸ holds, ?_⟩
    by_cases waits : ∃ client, state.SuspendedOn client
    · rcases waits with ⟨client, suspended⟩
      have turn := sendingTurn_of_suspended suspended
      by_cases still : next.Full client
      · -- The client has not drained.
        have turnNext : next.sendingTurn = .drain client :=
          sendingTurn_of_suspended ⟨by rw [same]; exact suspended.1, still⟩
        refine Or.inr ⟨?_, turnNext.trans turn.symm, ?_⟩
        · simp [toSend, same, turn, turnNext]
        · intro takes
          rw [turn] at takes
          subst takes
          rcases drain_of_suspended reachable suspended with
            ⟨_, drains, drained⟩
          cases stepped.symm.trans drains
          exact drained.not_full still
      · have turnNext : next.sendingTurn = .dispatcher := by
          apply sendingTurn_of_room
          intro _ suspendedNext
          have target := suspendedNext.1
          rw [same, suspended.1] at target
          cases target
          exact still suspendedNext.2
        left
        simp [toSend, same, turn, turnNext]
    · have room : ∀ client, ¬state.SuspendedOn client :=
        fun client suspended => waits ⟨client, suspended⟩
      have turn := sendingTurn_of_room room
      have turnNext : next.sendingTurn = .dispatcher := by
        apply sendingTurn_of_room
        intro client suspendedNext
        exact room client ⟨same ▸ suspendedNext.1,
          full_before other stepped suspendedNext.2⟩
      refine Or.inr ⟨?_, turnNext.trans turn.symm, ?_⟩
      · simp [toSend, same, turn, turnNext]
      · rw [turn]
        exact own

/-- In a fair run the dispatcher receives again. -/
theorem eventually_receiving {run : system.Run} (fair : WeaklyFair run)
    {lock : TableLock} {n : Nat}
    (holds : (run.state n).dispatcher.Holds lock) :
    ∃ m, n ≤ m ∧ (run.state m).dispatcher = .receiving := by
  have approaches : ∀ {state action next}, system.Reachable state →
      state.dispatcher.Holds lock → system.step state action = some next →
      System.Run.Approaches Turn.Takes (·.dispatcher.Holds lock)
        (·.dispatcher = .receiving) toSend sendingTurn state action next := by
    intro state action next reachable holds stepped
    rcases toSend_step reachable holds stepped with onward | done
    · exact Or.inr onward
    · exact Or.inl done
  exact run.eventually_of_rank approaches
    (fun reachable holds => sendingTurn_enabled reachable holds) fair holds

end State

end IotRouter.Router
