import IotRouter.Router.Streams

/-!
# The Manager and Data slots

Registration overwrites a slot, the end of any session clears it. The slot
follows the newest session exactly as long as no session runs its final
unregistration beside a newer one whose inbound stream is still open.
-/

namespace IotRouter.Router

open IotRouter.Grpc IotRouter.Runtime

namespace SlotSide

variable {In Out : Type} {service : SlotService In}
variable {central central' : Central} {side side' : SlotSide In Out}
variable {i : StreamId} {action : StreamAction In}

/-- The session whose registration ran last. -/
def newest (log : List SlotOp) : Option StreamId :=
  (log.filterMap fun
    | .registered session => some session
    | .unregistered _ => none).getLast?

@[simp] theorem newest_nil : newest [] = none := rfl

@[simp] theorem newest_registered (log : List SlotOp) (session : StreamId) :
    newest (log ++ [.registered session]) = some session := by
  simp [newest]

@[simp] theorem newest_unregistered (log : List SlotOp) (session : StreamId) :
    newest (log ++ [.unregistered session]) = newest log := by
  simp [newest]

/-- While the newest session has not ended its inbound stream, the slot holds
its sender. -/
def PointsAtNewest (side : SlotSide In Out) : Prop :=
  ∀ session, newest side.log = some session →
    (side.streams session).inboundOpen = true →
    side.lock.value = some session

/-- The action is the final unregistration of a session, and the newest session
has not ended its inbound stream. -/
def UnregistersBesideOpen (side : SlotSide In Out) (i : StreamId)
    (action : StreamAction In) : Prop :=
  action = .task ∧ (side.streams i).task = .unregistering ∧
    ∃ session, newest side.log = some session ∧
      (side.streams session).inboundOpen = true

/-- A session that registered has connected. -/
def NewestConnected (side : SlotSide In Out) : Prop :=
  ∀ session, newest side.log = some session →
    (side.streams session).task ≠ .idle

/-- What a step does to the slot: a registration makes its session the newest
and the slot's own, an unregistration clears the slot, and every other step
leaves it. -/
theorem slot_step
    (stepped : SessionStep service central side i action central' side') :
    (newest side'.log = some i ∧ side'.lock.value = some i ∧
      (side.streams i).task = .registering) ∨
    (newest side'.log = newest side.log ∧ side'.lock.value = none ∧
      action = .task ∧ (side.streams i).task = .unregistering) ∨
    (newest side'.log = newest side.log ∧ side'.lock.value = side.lock.value ∧
      ¬(action = .task ∧ (side.streams i).task = .unregistering)) := by
  cases stepped with
  | register lock task written =>
      rcases RwLock.write_eq_some.mp written with ⟨_, _, _, rfl⟩
      exact Or.inl ⟨newest_registered _ _, service.register_eq i _, task⟩
  | unregister lock task written =>
      rcases RwLock.write_eq_some.mp written with ⟨_, _, _, rfl⟩
      exact Or.inr (Or.inl
        ⟨newest_unregistered _ _, service.unregister_eq _, rfl, task⟩)
  | connect | abort | client => exact Or.inr (Or.inr ⟨rfl, rfl, by simp⟩)
  | read msg rest task inbound =>
      exact Or.inr (Or.inr ⟨rfl, rfl, by simp [task]⟩)
  | leave task inbound ended =>
      exact Or.inr (Or.inr ⟨rfl, rfl, by simp [task]⟩)
  | forward message central' task sent =>
      exact Or.inr (Or.inr ⟨rfl, rfl, by simp [task]⟩)
  | discard message task closed =>
      exact Or.inr (Or.inr ⟨rfl, rfl, by simp [task]⟩)

theorem newestConnected_step
    (stepped : SessionStep service central side i action central' side')
    (connected : NewestConnected side) : NewestConnected side' := by
  intro session latest
  by_cases own : session = i
  · subst own
    exact stepped.task_ne_idle
  · rw [stepped.streams_of_ne own]
    rcases slot_step stepped with ⟨fresh, _⟩ | ⟨same, _⟩ | ⟨same, _⟩
    · exact absurd (Option.some.inj (latest.symm.trans fresh)) own
    · exact connected session (same ▸ latest)
    · exact connected session (same ▸ latest)

/-- A task never closes or reopens its client's direction. -/
theorem inboundOpen_task
    (stepped : SessionStep service central side i .task central' side')
    (session : StreamId) :
    (side'.streams session).inboundOpen =
      (side.streams session).inboundOpen := by
  by_cases own : session = i
  · subst own
    cases stepped <;> simp
  · rw [stepped.streams_of_ne own]

/-- An open direction of a connected session was open before the step. -/
theorem inboundOpen_step
    (stepped : SessionStep service central side i action central' side')
    {session : StreamId} (live : (side.streams session).task ≠ .idle)
    (opened : (side'.streams session).inboundOpen = true) :
    (side.streams session).inboundOpen = true := by
  by_cases own : session = i
  · subst own
    cases stepped with
    | connect idle => exact absurd idle live
    | client act stream _ acted =>
        rw [Side.setStream_self] at opened
        exact (Stream.client_frame acted).2.2 opened
    | abort | register | read | leave | forward | discard | unregister =>
        simpa [Side.setStream] using opened
  · rwa [stepped.streams_of_ne own] at opened

/-- A step keeps the slot at the newest session exactly if it is not an
unregistration beside an open newest session. -/
theorem pointsAtNewest_step
    (stepped : SessionStep service central side i action central' side')
    (connected : NewestConnected side) (current : PointsAtNewest side) :
    PointsAtNewest side' ↔ ¬UnregistersBesideOpen side i action := by
  rcases slot_step stepped with
    ⟨fresh, value, registering⟩ | ⟨same, value, rfl, ending⟩ |
      ⟨same, value, other⟩
  · constructor
    · intro _ ends
      rcases ends with ⟨_, ending, _⟩
      rw [registering] at ending
      cases ending
    · intro _ session latest _
      rw [value, ← latest, fresh]
  · constructor
    · intro points ends
      rcases ends with ⟨_, _, session, latest, opened⟩
      have held := points session (same.trans latest)
        ((inboundOpen_task stepped session).trans opened)
      rw [value] at held
      cases held
    · intro alone session latest opened
      exact absurd ⟨rfl, ending, session, same ▸ latest,
        (inboundOpen_task stepped session) ▸ opened⟩ alone
  · constructor
    · intro _ ends
      rcases ends with ⟨acts, ending, _⟩
      exact other ⟨acts, ending⟩
    · intro _ session latest opened
      rw [same] at latest
      rw [value]
      exact current session latest
        (inboundOpen_step stepped (connected session latest) opened)

/-- Service by the dispatcher changes neither the slot nor the sessions. -/
theorem pointsAtNewest_served (served : Side.Served side side') :
    PointsAtNewest side' ↔ PointsAtNewest side := by
  simp only [PointsAtNewest, served.log, served.value, served.inboundOpen]

theorem newestConnected_served (served : Side.Served side side') :
    NewestConnected side' ↔ NewestConnected side := by
  simp only [NewestConnected, served.log, served.task]

end SlotSide

/-! ## The whole router -/

namespace State

/-- Every newest session has connected. -/
theorem newestConnected {state : State} (reachable : system.Reachable state) :
    SlotSide.NewestConnected state.manager ∧
      SlotSide.NewestConnected state.data := by
  apply System.invariant (fun state : State =>
    SlotSide.NewestConnected state.manager ∧
      SlotSide.NewestConnected state.data) ?_ ?_ reachable
  · constructor <;> simp [SlotSide.NewestConnected, system, start]
  · intro state next action _ connected stepped
    constructor
    · rcases step_manager stepped with ⟨i, act, _, inner⟩ | ⟨_, served⟩
      · exact SlotSide.newestConnected_step inner connected.1
      · exact (SlotSide.newestConnected_served served).mpr connected.1
    · rcases step_data stepped with ⟨i, act, _, inner⟩ | ⟨_, served⟩
      · exact SlotSide.newestConnected_step inner connected.2
      · exact (SlotSide.newestConnected_served served).mpr connected.2

/-- Both slots follow their newest session. -/
def SlotsCurrent (state : State) : Prop :=
  SlotSide.PointsAtNewest state.manager ∧ SlotSide.PointsAtNewest state.data

/-- No session of either service runs its final unregistration at this step
while the newest session of that service has its inbound stream open. -/
def EndsAlone (state : State) (action : Action) : Prop :=
  (∀ i act, action = .manager i act →
    ¬SlotSide.UnregistersBesideOpen state.manager i act) ∧
  ∀ i act, action = .data i act →
    ¬SlotSide.UnregistersBesideOpen state.data i act

theorem slotsCurrent_step {state next : State} {action : Action}
    (reachable : system.Reachable state) (current : SlotsCurrent state)
    (stepped : system.step state action = some next) :
    SlotsCurrent next ↔ EndsAlone state action := by
  have connected := newestConnected reachable
  apply and_congr
  · rcases step_manager stepped with ⟨i, act, rfl, inner⟩ | ⟨other, served⟩
    · rw [SlotSide.pointsAtNewest_step inner connected.1 current.1]
      constructor
      · intro alone j act' equal
        cases equal
        exact alone
      · intro alone
        exact alone i act rfl
    · rw [SlotSide.pointsAtNewest_served served]
      exact ⟨fun _ i act equal => absurd equal (other i act),
        fun _ => current.1⟩
  · rcases step_data stepped with ⟨i, act, rfl, inner⟩ | ⟨other, served⟩
    · rw [SlotSide.pointsAtNewest_step inner connected.2 current.2]
      constructor
      · intro alone j act' equal
        cases equal
        exact alone
      · intro alone
        exact alone i act rfl
    · rw [SlotSide.pointsAtNewest_served served]
      exact ⟨fun _ i act equal => absurd equal (other i act),
        fun _ => current.2⟩

/-- A run keeps both slots at their newest session in every state it visits
exactly if none of its steps unregisters a session beside an open newest one. -/
theorem slotsCurrent_iff_endsAlone {schedule : List Action} {last : State}
    (ran : system.runFrom State.start schedule = some last) :
    system.StatesMeet SlotsCurrent State.start schedule ↔
      system.StepsMeet EndsAlone State.start schedule := by
  refine System.statesMeet_iff_stepsMeet slotsCurrent_step
    System.Reachable.start ?_ ran
  constructor <;> simp [SlotSide.PointsAtNewest, start]

/-- A Manager session that ends before the next one registers. -/
def orderlyReconnection : List Action :=
  [.manager 0 .connect, .manager 0 .task, .manager 0 (.client .close),
    .manager 0 .task, .manager 0 .task, .manager 1 .connect, .manager 1 .task]

theorem slotsCurrent_orderlyReconnection :
    ∃ last, system.runFrom State.start orderlyReconnection = some last ∧
      (system.StatesMeet SlotsCurrent State.start orderlyReconnection ↔
        system.StepsMeet EndsAlone State.start orderlyReconnection) :=
  ⟨_, rfl, slotsCurrent_iff_endsAlone rfl⟩

/-- A Manager session that ends after the next one has registered. -/
def overlappingReconnection : List Action :=
  [.manager 0 .connect, .manager 0 .task, .manager 1 .connect,
    .manager 1 .task, .manager 0 (.client .close), .manager 0 .task,
    .manager 0 .task]

/-- The end of the older session clears the slot of the newer one. -/
theorem not_slotsCurrent :
    ¬∀ {state : State}, system.Reachable state → SlotsCurrent state := by
  intro current
  obtain ⟨last, ran, latest, opened, cleared⟩ : ∃ last,
      system.runFrom State.start overlappingReconnection = some last ∧
      SlotSide.newest last.manager.log = some 1 ∧
      (last.manager.streams 1).inboundOpen = true ∧
      last.manager.lock.value = none := ⟨_, rfl, rfl, rfl, rfl⟩
  have held := (current ⟨_, ran⟩).1 1 latest opened
  rw [cleared] at held
  cases held

end State

end IotRouter.Router
