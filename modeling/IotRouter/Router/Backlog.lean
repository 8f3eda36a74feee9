import IotRouter.Router.Sending

/-!
# A Data session that stops reading

A run that fills a channel: Data session 0 registers and never drains, and alerts
are posted one after the other until its channel is full and the dispatcher is
suspended on it. The other sides of the table are untouched, so the run can be
continued with any sessions there.
-/

namespace IotRouter.Router

open IotRouter.Grpc IotRouter.Https IotRouter.Runtime

/-- A body that decodes as an air-quality alert. -/
def alertBody : Body where
  asAlertAir := some
    { metadata := { senderUserId := "", destinationId := "", timestamp := 0 }
      network := ""
      initialAirQuality := ⟨0⟩
      actualAirQuality := ⟨0⟩ }
  asAlertTh := none

/-- What Data gets for it. -/
def alertToData : ToDataSaver where
  payload := some (.alertAir
    { metadata := some { senderUserId := "", destinationId := "", timestamp := 0 }
      network := ""
      initialAirQuality := ⟨0⟩
      actualAirQuality := ⟨0⟩ })

theorem handleTelemetry_alertBody :
    handleTelemetry alertBody = .ok (.toData alertToData) := rfl

/-- The alert of request `n` in the central channel. -/
def alertMessage (n : Nat) : Tagged RouterMessage :=
  { source := .http n, index := 0, value := .toData alertToData }

namespace State

/-- Data session 0 holds the slot and its channel holds `n` messages; no Manager
or edge has connected and the requests from number `fresh` on are unused. -/
structure Backlog (n fresh : Nat) (state : State) : Prop where
  reachable : system.Reachable state
  edges : state.edges = start.edges
  manager : state.manager = start.manager
  empty : state.central.queue = []
  slot : state.data.lock.value = some 0
  line : state.data.lock.queue = []
  other : state.data.streams 1 = start.data.streams 1
  listens : state.listens (.data 0) = true
  length : state.queueLength (.data 0) = n
  http : ∀ k, fresh ≤ k → (state.http k).task = .idle

variable {state : State} {n : Nat}

theorem backlog_zero : ∃ state, Backlog 0 0 state ∧
    state.dispatcher = .receiving := by
  refine ⟨_, ⟨⟨[.data 0 .connect, .data 0 .task], rfl⟩, rfl, rfl, rfl, rfl, rfl,
    rfl, rfl, rfl, fun _ _ => rfl⟩, rfl⟩

/-- The next alert is posted, goes through the central channel, and is in the
hands of the dispatcher, which has found the sender of session 0. -/
theorem Backlog.posted (backlog : Backlog n n state)
    (idle : state.dispatcher = .receiving) :
    ∃ next, Backlog n (n + 1) next ∧
      next.dispatcher = .sending (alertMessage n) 0 := by
  have wf := pipeline backlog.reachable
  obtain ⟨central, sent⟩ : ∃ central,
      state.central.send (alertMessage n) = .sent central :=
    ⟨_, Channel.send_eq_sent.mpr ⟨wf.isOpen, by simp [backlog.empty], rfl⟩⟩
  have queue : central.queue = [alertMessage n] := by
    rcases Channel.send_eq_sent.mp sent with ⟨_, room, rfl⟩
    simp [backlog.empty]
  obtain ⟨message, emptied, received⟩ :=
    Channel.receive_isSome (by rw [queue]; exact List.cons_ne_nil _ _)
  have taken := (Channel.receive_eq_some.mp received).1
  rw [queue] at taken
  rcases List.cons.inj taken with ⟨rfl, none_left⟩
  let posted : List RouterMessage := [.toData alertToData]
  -- The request is decoded and its message sent.
  let decoded : State := { state with
    http := Function.update state.http n
      { task := .sending (.toData alertToData), posted } }
  let forwarded : State := { state with
    central
    http := Function.update state.http n { task := .replied routedReply, posted } }
  -- The dispatcher receives it, asks for the guard, and finds the entry.
  let looking : State := { forwarded with
    central := emptied
    dispatcher := .lookingUp (alertMessage n)
    data := state.data.requestRead }
  let found : State := { looking with
    dispatcher := .sending (alertMessage n) 0
    data := { state.data with
      lock := { state.data.lock with
        readers := .dispatcher :: state.data.lock.readers } } }
  have decodes : system.step state (.http n (.post alertBody)) =
      some decoded := by
    simp [system, step, HttpRequest.step, backlog.http n (Nat.le_refl n),
      handleTelemetry_alertBody, decoded, posted]
  have forwards : system.step decoded (.http n .task) = some forwarded := by
    have sends : state.central.send
        { source := .http n, index := 0, value := .toData alertToData } =
          .sent central := sent
    simp [system, step, HttpRequest.step, decoded, forwarded, sends]
  have receives : system.step forwarded (.dispatcher []) = some looking := by
    have waits : forwarded.dispatcher = .receiving := idle
    simp only [system, step, dispatch, waits]
    simp [forwarded, looking, received, route, alertMessage]
  have finds : system.step looking (.dispatcher []) = some found := by
    simp [system, step, dispatch, looking, forwarded, found, alertMessage,
      Side.lookUp, Side.requestRead, RwLock.request, RwLock.acquire,
      backlog.line, backlog.slot, finishLookUp]
  refine ⟨found, ?_, rfl⟩
  refine ⟨?_, backlog.edges, backlog.manager, none_left.symm, backlog.slot,
    backlog.line, backlog.other, backlog.listens, backlog.length, ?_⟩
  · exact (((backlog.reachable.step decodes).step forwards).step receives).step
      finds
  · intro k unused
    have different : k ≠ n := by omega
    have idleRequest := backlog.http k (by omega)
    simpa [found, looking, forwarded, different] using idleRequest

/-- While there is room, the dispatcher puts the alert into the channel. -/
theorem Backlog.delivered {fresh k : Nat} (backlog : Backlog n fresh state)
    (sending : state.dispatcher = .sending (alertMessage k) 0)
    (room : n < 100) :
    ∃ next, Backlog (n + 1) fresh next ∧ next.dispatcher = .receiving := by
  have length : (state.data.streams 0).outbound.queue.length = n :=
    backlog.length
  obtain ⟨outbound, sent⟩ : ∃ outbound, (state.data.streams 0).outbound.send
      ((alertMessage k).as alertToData) = .sent outbound :=
    ⟨_, Channel.send_eq_sent.mpr ⟨backlog.listens, length.symm ▸ room, rfl⟩⟩
  rcases Channel.send_eq_sent.mp sent with ⟨isOpen, space, pushed⟩
  let filled : SlotSide FromDataSaver ToDataSaver :=
    state.data.setStream 0 { state.data.streams 0 with outbound }
  have unicast : state.data.unicast 0 ((alertMessage k).as alertToData) =
      some (filled.release, true) :=
    Side.unicast_eq_some.mpr (Or.inl
      ⟨filled, Side.deliver_eq_sent.mpr ⟨outbound, sent, rfl⟩, rfl, rfl⟩)
  have delivers : system.step state (.dispatcher []) =
      some (({ state with data := filled.release } : State).finishSend
        (alertMessage k) true) := by
    simp only [system, step, dispatch, sending]
    change Option.map _ (state.data.unicast 0 _) = _
    rw [unicast]
    rfl
  refine ⟨_, ⟨backlog.reachable.step delivers, backlog.edges, backlog.manager,
    backlog.empty, backlog.slot, backlog.line, ?_, ?_, ?_, backlog.http⟩, rfl⟩
  · have apart : filled.streams 1 = state.data.streams 1 :=
      state.data.setStream_of_ne (by decide) _
    exact apart.trans backlog.other
  · have same : (filled.streams 0).outbound = outbound := by
      simp [filled]
    have listens : (filled.streams 0).outbound.isOpen = true := by
      rw [same, pushed, Channel.push_isOpen]
      exact isOpen
    exact listens
  · have same : (filled.streams 0).outbound = outbound := by
      simp [filled]
    have grown : (filled.streams 0).outbound.queue.length = n + 1 := by
      rw [same, pushed, Channel.push_queue, List.length_append, length,
        List.length_singleton]
    exact grown

/-- The channel of session 0 is filled, alert by alert. -/
theorem backlog : ∀ n, n ≤ 100 →
    ∃ state, Backlog n n state ∧ state.dispatcher = .receiving := by
  intro n
  induction n with
  | zero => exact fun _ => backlog_zero
  | succ n ih =>
      intro bound
      rcases ih (by omega) with ⟨state, filled, idle⟩
      rcases filled.posted idle with ⟨next, posted, sending⟩
      exact posted.delivered sending (by omega)

/-- The dispatcher is suspended on Data session 0, which never drains. -/
theorem exists_suspended : ∃ state, Backlog 100 101 state ∧
    state.dispatcher = .sending (alertMessage 100) 0 ∧
    state.SuspendedOn (.data 0) := by
  rcases backlog 100 (Nat.le_refl _) with ⟨state, filled, idle⟩
  rcases filled.posted idle with ⟨next, posted, sending⟩
  refine ⟨next, posted, sending, by rw [sending]; rfl, posted.listens, ?_⟩
  rw [posted.length]

end State

end IotRouter.Router
