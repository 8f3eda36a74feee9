import IotRouter.Router.Backlog
import IotRouter.Router.Progress

/-!
# Backpressure

The dispatcher works on one message at a time and keeps its read guard while it
waits for room in an outbound channel. So a client that stops draining holds back
everything behind the message for it: the waiting messages, whatever their
destination, and the writes that need the same lock. It holds them back no
longer than until it drains: with the steps of the server and the drains of the
clients the dispatcher waits for, every write and every message is served.
-/

namespace IotRouter.Router

open IotRouter.Grpc IotRouter.Https IotRouter.Runtime

namespace State

variable {state next : State}

/-- A step of the server, or a drain by the client that the dispatcher waits for
while it holds the lock. -/
def Assists (lock : TableLock) (state : State) (action : Action) : Prop :=
  action.isServer = true ∨ ∃ client, action = .drain client ∧
    state.SuspendedOn client ∧ state.dispatcher.Holds lock

/-- A dispatcher that holds a lock can be led to the end of its sends. -/
theorem finish_sending (reachable : system.Reachable state) {lock : TableLock}
    (holds : state.dispatcher.Holds lock) :
    ∃ last, system.Leads (Assists lock) state last ∧
      last.dispatcher = .receiving ∧ Undisturbed state last := by
  induction steps : state.dispatcher.remaining using Nat.strong_induction_on
    generalizing state with
  | _ steps ih =>
      -- One send, once the channel in front of the dispatcher has room.
      have send : ∀ ready, system.Leads (Assists lock) state ready →
          ready.dispatcher = state.dispatcher → Undisturbed state ready →
          (∀ client, ready.dispatcher.target = some client →
            ¬ready.Full client) →
          ∃ last, system.Leads (Assists lock) state last ∧
            last.dispatcher = .receiving ∧ Undisturbed state last := by
        intro ready leads same undisturbed room
        have holdsReady : ready.dispatcher.Holds lock := same ▸ holds
        rcases (dispatch_enabled holdsReady []).mpr room with ⟨next, stepped⟩
        have onward : system.Leads (Assists lock) state next :=
          leads.trans (.single stepped (Or.inl rfl))
        cases step_cases stepped with
        | dispatcher order next inner =>
            rcases inner.sends holdsReady with ⟨calm, fewer, where_⟩
            rw [same, steps] at fewer
            have calmer := undisturbed.trans calm
            rcases where_ with holdsNext | done
            · rcases ih _ fewer (onward.reachable reachable) holdsNext rfl with
                ⟨last, leadsOn, done, rest⟩
              exact ⟨last, onward.trans leadsOn, done, calmer.trans rest⟩
            · exact ⟨next, onward, done, calmer⟩
      by_cases waits : ∃ client, state.SuspendedOn client
      · rcases waits with ⟨client, suspended⟩
        rcases drain_of_suspended reachable suspended with
          ⟨ready, stepped, drained⟩
        apply send ready
          (.single stepped (Or.inr ⟨client, rfl, suspended, holds⟩))
          drained.dispatcher drained.undisturbed ?_
        intro other target
        rw [drained.dispatcher, suspended.1] at target
        cases target
        exact drained.not_full
      · apply send state (.refl _ _) rfl (.refl state)
        intro client target full
        exact waits ⟨client, target, full⟩

/-! ## Waiting writes -/

/-- The stream at the head of the line for a free lock writes and leaves the lock
free. -/
theorem writer_leads (reachable : system.Reachable state) {lock : TableLock}
    (free : ¬state.dispatcher.Holds lock) {i : StreamId} {write : PendingWrite}
    (pending : state.pending lock i = some write)
    {rest : List (Party × Access)}
    (line : state.waiters lock = (.stream i, .write) :: rest) :
    ∃ next, system.Leads (Assists lock) state next ∧
      ¬next.dispatcher.Holds lock ∧ Written state next lock i rest := by
  rcases write_step reachable free pending line with ⟨next, stepped, written⟩
  refine ⟨next, .single stepped (Or.inl (Action.isServer_ofTask lock i)), ?_,
    written⟩
  rw [written.dispatcher]
  exact free

/-- A waiting write can be brought to the head of the lock while nobody holds
it. -/
theorem write_leads_to_head (reachable : system.Reachable state)
    {lock : TableLock} {i : StreamId} {write : PendingWrite}
    (pending : state.pending lock i = some write) :
    ∃ last rest, system.Leads (Assists lock) state last ∧
      (system.Reachable last ∧ last.pending lock i = some write) ∧
      ¬last.dispatcher.Holds lock ∧
      last.waiters lock = (.stream i, .write) :: rest := by
  have released : ∀ state : State,
      (system.Reachable state ∧ state.pending lock i = some write) →
      state.dispatcher.Holds lock →
      ∃ last, system.Leads (Assists lock) state last ∧
        (system.Reachable last ∧ last.pending lock i = some write) ∧
        ¬last.dispatcher.Holds lock ∧ last.waiters lock = state.waiters lock := by
    intro state ⟨reached, still⟩ holds
    rcases finish_sending reached holds with ⟨last, leads, done, calm⟩
    refine ⟨last, leads, ⟨leads.reachable reached, ?_⟩, by simp [done], ?_⟩
    · rw [calm.pending]
      exact still
    · rw [calm.waiters]
  have served : ∀ (state : State) (waiter : Party × Access)
      (rest : List (Party × Access)),
      (system.Reachable state ∧ state.pending lock i = some write) →
      ¬state.dispatcher.Holds lock → state.waiters lock = waiter :: rest →
      waiter ≠ (.stream i, .write) →
      ∃ last, system.Leads (Assists lock) state last ∧
        (system.Reachable last ∧ last.pending lock i = some write) ∧
        ¬last.dispatcher.Holds lock ∧ last.waiters lock = rest := by
    intro state waiter rest ⟨reached, still⟩ free line ahead
    rcases first_in_line reached line with
      ⟨rfl, looks⟩ | ⟨j, other, rfl, waits⟩
    · -- The dispatcher is next: it takes the guard, sends, and drops it.
      rcases lookUp_step looks line with
        ⟨order, next, stepped, left, same, _, dispatcher⟩
      have once : system.Leads (Assists lock) state next :=
        .single stepped (Or.inl rfl)
      rcases dispatcher with holds | done
      · rcases finish_sending (once.reachable reached) holds with
          ⟨last, leads, done, calm⟩
        have onward := once.trans leads
        refine ⟨last, onward, ⟨onward.reachable reached, ?_⟩, by simp [done], ?_⟩
        · rw [calm.pending, same]
          exact still
        · rw [calm.waiters, left]
      · refine ⟨next, once, ⟨once.reachable reached, ?_⟩, by simp [done], left⟩
        rw [same]
        exact still
    · -- Another stream is next: it writes.
      rcases writer_leads reached free waits line with
        ⟨next, once, left, written⟩
      have different : i ≠ j := by
        intro equal
        subst equal
        exact ahead rfl
      refine ⟨next, once, ⟨once.reachable reached, ?_⟩, left, written.waiters⟩
      rw [written.others i different]
      exact still
  exact RwLock.leads_to_head released served ⟨reachable, pending⟩
    (waits_in_line reachable pending)

/-- Every pending write can be completed by steps of the server together with
drains of the clients that the dispatcher waits for while it holds the lock the
write needs; nobody disconnects. -/
theorem completes_with_drains (reachable : system.Reachable state)
    {lock : TableLock} {i : StreamId} {write : PendingWrite}
    (pending : state.pending lock i = some write) :
    ∃ last next, system.Leads (Assists lock) state last ∧
      last.pending lock i = some write ∧
      system.step last (.ofTask lock i) = some next ∧
      next.pending lock i = none := by
  rcases write_leads_to_head reachable pending with
    ⟨last, rest, leads, ⟨reached, still⟩, free, line⟩
  rcases write_step reached free still line with ⟨next, stepped, written⟩
  exact ⟨last, next, leads, still, stepped, written.done⟩

/-- The registrations and clean-ups that a client which stops draining might
hold back: those of the other sessions, and its own clean-up. -/
def Concerns (client : Client) (lock : TableLock) (i : StreamId) :
    PendingWrite → Prop
  | .ensureEdgeRegistered _ _ | .register => lock.client i ≠ client
  | .unregisterEdge _ => True
  | .unregister => lock.client i = client

/-- Data session 1 asks for the lock while the dispatcher holds it and waits for
session 0. -/
theorem exists_registering_behind : ∃ state, system.Reachable state ∧
    state.SuspendedOn (.data 0) ∧ state.dispatcher.Holds .data ∧
    state.pending .data 1 = some .register := by
  rcases exists_suspended with ⟨state, full, sending, suspended⟩
  have idle : (state.data.streams 1).task = .idle := by
    rw [full.other]
    rfl
  have enabled : ∃ next, system.step state (.data 1 .connect) = some next ∧
      next.pending .data 1 = some .register := by
    refine ⟨{ state with
      data := (state.data.setStream 1 (.fresh _ _ .registering)).requestWrite 1 },
      ?_, ?_⟩
    · simp [system, step, SlotSide.step, idle]
    · simp [State.pending, Stream.fresh, SessionTask.pending]
  rcases enabled with ⟨next, stepped, pending⟩
  have leaves : LeavesFull (.data 0) (.data 1 .connect) :=
    ⟨by simp [Action.drain], by simp [Action.dropReceiver]⟩
  have stalled := suspended_step full.reachable suspended leaves stepped
  refine ⟨next, full.reachable.step stepped, stalled.suspended, ?_, pending⟩
  rw [stalled.dispatcher, sending]
  rfl

theorem completes_with_drains_registering : ∃ state,
    system.Reachable state ∧ state.SuspendedOn (.data 0) ∧
    state.pending .data 1 = some .register ∧
    ∃ last next, system.Leads (Assists .data) state last ∧
      last.pending .data 1 = some .register ∧
      system.step last (.data 1 .task) = some next ∧
      next.pending .data 1 = none := by
  rcases exists_registering_behind with
    ⟨state, reachable, suspended, holds, pending⟩
  exact ⟨state, reachable, suspended, pending,
    completes_with_drains reachable pending⟩

/-- The registration of session 1 cannot be completed as long as session 0 keeps
its receiver and does not drain, even if it ends its inbound direction. -/
theorem not_completes_without_drains :
    ¬∀ (state : State) (client : Client) (lock : TableLock) (i : StreamId)
      (write : PendingWrite), system.Reachable state →
      state.pending lock i = some write → Concerns client lock i write →
      ∃ last next, system.Leads (fun _ => LeavesFull client) state last ∧
        last.pending lock i = some write ∧
        system.step last (.ofTask lock i) = some next := by
  intro completes
  rcases exists_registering_behind with
    ⟨state, reachable, suspended, holds, pending⟩
  have concerns : Concerns (.data 0) .data 1 .register := by
    simp [Concerns, TableLock.client]
  obtain ⟨last, next, leads, still, stepped⟩ :=
    completes state (.data 0) .data 1 .register reachable pending concerns
  have stalled := suspended_run reachable suspended leads
  apply not_holds_of_write (leads.reachable reachable) still stepped
  rw [stalled.dispatcher]
  exact holds

/-! ## Waiting messages -/

/-- A dispatcher that waits for a lock can be led to its grant. -/
theorem look_leads_to_head (reachable : system.Reachable state)
    {lock : TableLock} (looks : state.dispatcher.LooksAt lock) :
    ∃ last rest, system.Leads (Assists lock) state last ∧
      (system.Reachable last ∧ last.dispatcher = state.dispatcher ∧
        last.central = state.central) ∧
      ¬last.dispatcher.Holds lock ∧
      last.waiters lock = (.dispatcher, .read) :: rest := by
  have idle : ¬state.dispatcher.Holds lock := by
    cases at_ : state.dispatcher <;> simp [at_] at looks ⊢
  have released : ∀ later : State,
      (system.Reachable later ∧ later.dispatcher = state.dispatcher ∧
        later.central = state.central) →
      later.dispatcher.Holds lock →
      ∃ last, system.Leads (Assists lock) later last ∧
        (system.Reachable last ∧ last.dispatcher = state.dispatcher ∧
          last.central = state.central) ∧
        ¬last.dispatcher.Holds lock ∧ last.waiters lock = later.waiters lock := by
    intro later ⟨_, same, _⟩ holds
    exact absurd (same ▸ holds) idle
  have served : ∀ (later : State) (waiter : Party × Access)
      (rest : List (Party × Access)),
      (system.Reachable later ∧ later.dispatcher = state.dispatcher ∧
        later.central = state.central) →
      ¬later.dispatcher.Holds lock → later.waiters lock = waiter :: rest →
      waiter ≠ (.dispatcher, .read) →
      ∃ last, system.Leads (Assists lock) later last ∧
        (system.Reachable last ∧ last.dispatcher = state.dispatcher ∧
          last.central = state.central) ∧
        ¬last.dispatcher.Holds lock ∧ last.waiters lock = rest := by
    intro later waiter rest ⟨reached, same, central⟩ free line ahead
    rcases first_in_line reached line with ⟨rfl, _⟩ | ⟨j, write, rfl, waits⟩
    · exact absurd rfl ahead
    · rcases writer_leads reached free waits line with
        ⟨next, once, left, written⟩
      exact ⟨next, once, ⟨once.reachable reached, written.dispatcher.trans same,
        written.central.trans central⟩, left, written.waiters⟩
  exact RwLock.leads_to_head released served ⟨reachable, rfl, rfl⟩
    (looks_in_line reachable looks)

/-- A step of the server, or a drain by the client that the dispatcher waits
for. -/
def Helps (state : State) (action : Action) : Prop :=
  ∃ lock, Assists lock state action

/-- The dispatcher can be led to the end of the message in its hand. -/
theorem finish_message (reachable : system.Reachable state) :
    ∃ last, system.Leads Helps state last ∧ last.dispatcher = .receiving ∧
      last.central = state.central := by
  have helps : ∀ {lock} {first last : State},
      system.Leads (Assists lock) first last → system.Leads Helps first last :=
    fun leads => leads.mono fun _ _ assists => ⟨_, assists⟩
  have sends : ∀ (lock) {holding : State}, system.Reachable holding →
      holding.dispatcher.Holds lock →
      ∃ last, system.Leads Helps holding last ∧
        last.dispatcher = .receiving ∧ last.central = holding.central := by
    intro lock holding reached holds
    rcases finish_sending reached holds with ⟨last, leads, done, calm⟩
    exact ⟨last, helps leads, done, calm.central⟩
  cases at_ : state.dispatcher with
  | receiving => exact ⟨state, .refl _ _, at_, rfl⟩
  | sending message tx =>
      exact sends (tableLock message.value) reachable (by simp [at_])
  | broadcasting message heartbeat rest sentCount =>
      exact sends .edges reachable (by simp [at_])
  | lookingUp message =>
      have looks : state.dispatcher.LooksAt (tableLock message.value) := by
        simp [at_]
      rcases look_leads_to_head reachable looks with
        ⟨ready, rest, leads, ⟨reached, same, central⟩, free, line⟩
      rcases lookUp_step (same ▸ looks) line with
        ⟨order, next, stepped, _, _, kept, dispatcher⟩
      have once : system.Leads Helps state next :=
        (helps leads).trans (.single stepped ⟨.edges, Or.inl rfl⟩)
      rcases dispatcher with holds | done
      · rcases sends _ (reached.step stepped) holds with
          ⟨last, onward, done, left⟩
        exact ⟨last, once.trans onward, done,
          left.trans (kept.trans central)⟩
      · exact ⟨next, once, done, kept.trans central⟩

/-- The dispatcher can be led through everything that waits in the central
channel. -/
theorem empties_queue (reachable : system.Reachable state) :
    ∃ last, system.Leads Helps state last ∧ last.dispatcher = .receiving ∧
      last.central.queue = [] ∧
      last.central.accepted = state.central.accepted := by
  induction waiting : state.central.queue generalizing state with
  | nil =>
      rcases finish_message reachable with ⟨last, leads, done, central⟩
      exact ⟨last, leads, done, by rw [central, waiting], by rw [central]⟩
  | cons message rest ih =>
      rcases finish_message reachable with ⟨ready, leads, done, central⟩
      have reached := leads.reachable reachable
      rcases receive_step done (central.symm ▸ waiting) with
        ⟨next, stepped, _, queue, accepted⟩
      rcases ih (reached.step stepped) queue with
        ⟨last, onward, finished, empty, all⟩
      have once : system.Leads Helps ready next :=
        .single stepped ⟨.edges, Or.inl rfl⟩
      exact ⟨last, leads.trans (once.trans onward), finished, empty,
        all.trans (accepted.trans (by rw [central]))⟩

/-- While the dispatcher waits for room in a client's channel, the messages
behind stay in the central channel, in their order, and no channel takes
anything. That ends as soon as the client drains one element, which it always
can, or drops its receiver; and every message that waits can be processed. -/
theorem waits_for_drain (reachable : system.Reachable state) {client : Client}
    (suspended : state.SuspendedOn client) :
    (∀ last, system.Leads (fun _ => LeavesFull client) state last →
      Stalled state last client) ∧
    (∃ next, system.step state (.drain client) = some next) ∧
    (∀ action next, ¬LeavesFull client action →
      system.step state action = some next →
      ∀ order, ∃ last, system.step next (.dispatcher order) = some last) ∧
    ∃ last, system.Leads Helps state last ∧
      last.processed =
        state.processed ++ state.dispatcher.inHand ++ state.central.queue := by
  refine ⟨fun last => suspended_run reachable suspended, ?_, ?_, ?_⟩
  · rcases drain_of_suspended reachable suspended with ⟨next, stepped, _⟩
    exact ⟨next, stepped⟩
  · intro action next frees stepped order
    exact freed_step reachable suspended frees stepped order
  · rcases empties_queue reachable with ⟨last, leads, idle, empty, accepted⟩
    have before := (pipeline reachable).accepted
    have after := (pipeline (leads.reachable reachable)).accepted
    rw [idle, empty, accepted, before] at after
    exact ⟨last, leads, by simpa [Dispatcher.inHand] using after.symm⟩

/-- A message for a Manager session waits while the dispatcher waits for Data
session 0: edge 0 said hello in between. -/
theorem exists_waiting_behind : ∃ state, system.Reachable state ∧
    state.SuspendedOn (.data 0) ∧
    ∃ message ∈ state.central.queue,
      state.entry message.value = some (.manager 0) ∧
      state.listens (.manager 0) = true ∧ state.queueLength (.manager 0) = 0 := by
  rcases exists_suspended with ⟨state, full, _, suspended⟩
  have isOpen := (pipeline full.reachable).isOpen
  have untouchedEdges := full.edges
  have untouchedManager := full.manager
  have emptyCentral := full.empty
  have reached := full.reachable
  clear full
  rcases state with
    ⟨central, edges, manager, data, http, dispatcher, dispatched⟩
  dsimp only at untouchedEdges untouchedManager emptyCentral isOpen
  subst untouchedEdges untouchedManager
  let hello : FromEdge :=
    { edgeId := "a", payload := some (.helloWorld ⟨none, true⟩) }
  let schedule : List Action :=
    [.manager 0 .connect, .manager 0 .task, .edge 0 .connect,
      .edge 0 (.client (.send hello)), .edge 0 .task, .edge 0 .task]
  let message : Tagged RouterMessage :=
    { source := .edge 0, index := 0
      value := .toManager
        { edgeId := "a", payload := some (.helloWorld ⟨none, true⟩) } }
  obtain ⟨middle, ran, same, forwards, entry, listens, empty⟩ :
      ∃ middle, system.runFrom ⟨central, start.edges, start.manager, data, http,
          dispatcher, dispatched⟩ schedule = some middle ∧
        middle.central = central ∧
        (middle.edges.streams 0).task.pc = .forwarding message ∧
        middle.entry message.value = some (.manager 0) ∧
        middle.listens (.manager 0) = true ∧
        middle.queueLength (.manager 0) = 0 :=
    ⟨_, rfl, rfl, rfl, rfl, rfl, rfl⟩
  have leads : system.Leads (fun _ => LeavesFull (.data 0)) _ middle :=
    ⟨schedule, ran, .of_forall
      (by simp [schedule, LeavesFull, Action.drain, Action.dropReceiver]) _⟩
  have stalled := suspended_run reached suspended leads
  obtain ⟨filled, sent⟩ :
      ∃ filled, middle.central.send message = .sent filled :=
    ⟨_, Channel.send_eq_sent.mpr
      ⟨same ▸ isOpen, by simp [same, emptyCentral], rfl⟩⟩
  have waiting : message ∈ filled.queue := by
    rcases Channel.send_eq_sent.mp sent with ⟨_, _, rfl⟩
    simp
  obtain ⟨next, stepped, queue, manager⟩ :
      ∃ next, system.step middle (.edge 0 .task) = some next ∧
        next.central = filled ∧ next.manager = middle.manager := by
    let task : EdgeTask := { (middle.edges.streams 0).task with pc := .next }
    refine ⟨{ middle with
      central := filled
      edges := middle.edges.setStream 0 { middle.edges.streams 0 with task } },
      ?_, rfl, rfl⟩
    simp [system, step, EdgeSide.step, EdgeSide.runTask, forwards, sent, task]
  have stalledNext := suspended_step (leads.reachable reached)
    stalled.suspended
    ⟨by simp [Action.drain], by simp [Action.dropReceiver]⟩ stepped
  refine ⟨next, (leads.reachable reached).step stepped, stalledNext.suspended,
    message, queue.symm ▸ waiting, ?_, ?_, ?_⟩
  · simpa only [State.entry, held, message, manager] using entry
  · simpa only [State.listens, manager] using listens
  · simpa only [queueLength, manager] using empty

theorem waits_for_drain_full : ∃ state client, system.Reachable state ∧
    state.SuspendedOn client ∧ state.central.queue ≠ [] ∧
    (∀ last, system.Leads (fun _ => LeavesFull client) state last →
      Stalled state last client) ∧
    (∃ next, system.step state (.drain client) = some next) ∧
    (∀ action next, ¬LeavesFull client action →
      system.step state action = some next →
      ∀ order, ∃ last, system.step next (.dispatcher order) = some last) ∧
    ∃ last, system.Leads Helps state last ∧
      last.processed =
        state.processed ++ state.dispatcher.inHand ++ state.central.queue := by
  rcases exists_waiting_behind with
    ⟨state, reachable, suspended, message, waiting, _⟩
  exact ⟨state, .data 0, reachable, suspended, List.ne_nil_of_mem waiting,
    waits_for_drain reachable suspended⟩

/-- The Manager's channel is empty, and yet the message for it waits. -/
theorem not_free_of_head_of_line :
    ¬∀ (state : State) (client : Client), system.Reachable state →
      state.SuspendedOn client → ∀ message ∈ state.central.queue,
      ∀ other, other ≠ client → state.entry message.value = some other →
      state.listens other = true → 100 ≤ state.queueLength other := by
  intro free
  rcases exists_waiting_behind with
    ⟨state, reachable, suspended, message, waiting, entry, listens, empty⟩
  have crowded := free state (.data 0) reachable suspended message waiting
    (.manager 0) (by simp) entry listens
  omega

end State

end IotRouter.Router
