import IotRouter.Router.Delivery

/-!
# From the sources to the clients

The pipeline and the deliveries put together: what the dispatcher processed of a
source is, in order, the translation of the first messages the source sent, and
every processed message that is not a heartbeat was settled at one step of the
run, by which at most one channel took it, once.
-/

namespace IotRouter.Router

open IotRouter.Grpc IotRouter.Https IotRouter.Runtime

/-- The translation keeps what a payload says and under which id: telemetry goes
to Data, control data to the Manager, commands to the edge they name, heartbeats
to all edges. A message without payload has no image. -/
structure KeepsContent : Prop where
  edge : ∀ edgeId payload,
    (payload.content.isTelemetry = true ∧ payload.content.isControl = false ∧
      ∃ out : ToDataSaver.Payload, out.content = payload.content ∧
        processFromEdge ⟨edgeId, some payload⟩ = some (.toData ⟨some out⟩)) ∨
    (payload.content.isTelemetry = false ∧ payload.content.isControl = true ∧
      ∃ out : ToManager.Payload, out.content = payload.content ∧
        processFromEdge ⟨edgeId, some payload⟩ =
          some (.toManager ⟨edgeId, some out⟩))
  manager : ∀ edgeId payload, payload.content.isCommand = true ∧
    ∃ out : ToEdge.Payload, out.content = payload.content ∧
      (⟨edgeId, some out⟩ : ToEdge).heartbeat? = none ∧
      processFromManager ⟨edgeId, some payload⟩ =
        some (.toEdge edgeId ⟨edgeId, some out⟩)
  data : ∀ heartbeat, processFromData ⟨some (.heartbeat heartbeat)⟩ =
    some (.toEdge "all" ⟨"all", some (.heartbeat heartbeat)⟩)
  empty : (∀ edgeId, processFromEdge ⟨edgeId, none⟩ = none) ∧
    (∀ edgeId, processFromManager ⟨edgeId, none⟩ = none) ∧
    processFromData ⟨none⟩ = none

theorem keepsContent : KeepsContent where
  edge := processFromEdge_some
  manager := processFromManager_some
  data := processFromData_some
  empty := ⟨fun _ => rfl, fun _ => rfl, rfl⟩

namespace State

variable {state next : State} {action : Action}

/-- The dispatcher finishes at most one message at a time. -/
theorem dispatched_grows : system.Grows State.dispatched := by
  intro state next action reachable stepped
  rcases step_effect reachable stepped with ⟨_, _, effect⟩ | ⟨_, _, same⟩
  · cases effect with
    | quiet _ same => exact Or.inl same
    | beat _ _ _ _ _ _ _ _ same => exact Or.inl same
    | unicast dispatch _ _ _ appended => exact Or.inr ⟨dispatch, appended⟩
    | broadcast dispatch _ _ _ appended => exact Or.inr ⟨dispatch, appended⟩
  · exact Or.inl same

/-- Whatever a channel took, other than heartbeats, has been processed. -/
def OutboxProcessed (state : State) : Prop :=
  ∀ client, ∀ message ∈ state.outbox client,
    heartbeatOf message.value = none → message ∈ state.processed

theorem outboxProcessed (reachable : system.Reachable state) :
    OutboxProcessed state := by
  apply System.invariant OutboxProcessed ?_ ?_ reachable
  · intro client message member
    cases client <;> cases member
  · intro state next action reached before stepped
    have keeps : ∀ {client message}, message ∈ state.outbox client →
        heartbeatOf message.value = none →
        (state.dispatched <+: next.dispatched) → message ∈ next.processed :=
      fun member plain grows =>
        (grows.map Dispatch.message).subset (before _ _ member plain)
    intro client message member plain
    rcases step_effect reached stepped with ⟨_, _, effect⟩ | ⟨_, same, records⟩
    · cases effect with
      | quiet same records =>
          rw [same] at member
          exact keeps member plain (records ▸ List.prefix_rfl)
      | beat beat heartbeat edgeId tx inHand carries entry gains records =>
          rw [gains client, List.mem_append] at member
          rcases member with earlier | this
          · exact keeps earlier plain (records ▸ List.prefix_rfl)
          · split at this
            · rw [List.mem_singleton] at this
              subst this
              cases plain
            · cases this
      | unicast dispatch inHand quiet settled records =>
          have grows : state.dispatched <+: next.dispatched :=
            records ▸ List.prefix_append _ _
          cases settled with
          | enqueued target entry listens result gains =>
              rw [gains client, List.mem_append] at member
              rcases member with earlier | this
              · exact keeps earlier plain grows
              · split at this
                · rw [List.mem_singleton] at this
                  subst this
                  simp [processed, records]
                · cases this
          | notConnected entry result same =>
              rw [same] at member
              exact keeps member plain grows
          | closed target entry listens result same =>
              rw [same] at member
              exact keeps member plain grows
      | broadcast dispatch inHand carries same records =>
          rw [same] at member
          exact keeps member plain (records ▸ List.prefix_append _ _)
    · rw [same] at member
      exact keeps member plain (records ▸ List.prefix_rfl)

/-- The message is no heartbeat, has been processed, and sits `times client`
times in what each channel took. -/
def Counted (message : Tagged RouterMessage) (times : Client → Nat)
    (state : State) : Prop :=
  heartbeatOf message.value = none ∧ message ∈ state.processed ∧
    ∀ client, (state.outbox client).count message = times client

/-- A message that has been processed is never enqueued again. -/
theorem counted_step {message : Tagged RouterMessage} {times : Client → Nat}
    (reachable : system.Reachable state) (counted : Counted message times state)
    (stepped : system.step state action = some next) :
    Counted message times next := by
  rcases counted with ⟨plain, done, count⟩
  have keeps : next.outbox = state.outbox →
      state.dispatched <+: next.dispatched → Counted message times next := by
    intro same grows
    refine ⟨plain, (grows.map Dispatch.message).subset done, fun client => ?_⟩
    rw [same]
    exact count client
  have gains_other : ∀ {client other}, Gains state next client other →
      other ≠ message → state.dispatched <+: next.dispatched →
      Counted message times next := by
    intro client other gains different grows
    refine ⟨plain, (grows.map Dispatch.message).subset done, fun target => ?_⟩
    rw [gains target, List.count_append, count target]
    split <;> simp [different]
  rcases step_effect reachable stepped with ⟨_, _, effect⟩ | ⟨_, same, records⟩
  · cases effect with
    | quiet same records => exact keeps same (records ▸ List.prefix_rfl)
    | beat beat heartbeat edgeId tx inHand carries entry gains records =>
        apply gains_other gains ?_ (records ▸ List.prefix_rfl)
        intro equal
        subst equal
        cases plain
    | unicast dispatch inHand quiet settled records =>
        have grows : state.dispatched <+: next.dispatched :=
          records ▸ List.prefix_append _ _
        cases settled with
        | enqueued client entry listens result gains =>
            apply gains_other gains ?_ grows
            intro equal
            subst equal
            exact (pipeline reachable).inHand_fresh inHand done
        | notConnected entry result same => exact keeps same grows
        | closed client entry listens result same => exact keeps same grows
    | broadcast dispatch inHand carries same records =>
        exact keeps same (records ▸ List.prefix_append _ _)
  · exact keeps same (records ▸ List.prefix_rfl)

/-- When a message is settled, the channel of its entry takes it once if it is
open, and no other channel takes it. -/
theorem counted_of_settled {dispatch : Dispatch}
    (reachable : system.Reachable state)
    (inHand : dispatch.message ∈ state.dispatcher.inHand)
    (plain : heartbeatOf dispatch.message.value = none)
    (settled : Settled state next dispatch)
    (records : next.dispatched = state.dispatched ++ [dispatch]) :
    Counted dispatch.message
      (fun client => if state.entry dispatch.message.value = some client ∧
        state.listens client = true then 1 else 0) next := by
  have absent : ∀ client,
      (state.outbox client).count dispatch.message = 0 := by
    intro client
    apply List.count_eq_zero.mpr
    intro member
    exact (pipeline reachable).inHand_fresh inHand
      (outboxProcessed reachable client _ member plain)
  refine ⟨plain, by simp [processed, records], fun client => ?_⟩
  cases settled with
  | enqueued target entry listens result gains =>
      rw [gains client, List.count_append, absent client, entry]
      by_cases here : client = target
      · subst here
        simp [listens]
      · have elsewhere : target ≠ client := fun same => here same.symm
        simp [here, elsewhere]
  | notConnected entry result same =>
      rw [same, absent client, entry]
      simp
  | closed target entry listens result same =>
      rw [same, absent client, entry]
      by_cases here : target = client
      · subst here
        simp [listens]
      · simp [here]

/-- What holds of a run from the sources to the clients. -/
structure RoutesEndToEnd (schedule : List Action) (last : State) : Prop where
  content : KeepsContent
  /-- What the dispatcher processed of a source is, in order, the image of the
  first messages the source sent. -/
  order : ∀ source,
    (part Tagged.source last.processed source).map Tagged.value <+:
      (last.sentImage source).filterMap id
  /-- What a task received and the dispatcher has not processed is in hand,
  queued, or still held by the task. -/
  kept : ∀ source, part Tagged.source
      (last.processed ++ last.dispatcher.inHand ++ last.central.queue) source ++
        last.unforwarded source = tagged source (last.image source)
  /-- Every processed message that is no heartbeat was settled at one step of
  the run, with the entry the table held at that step. In the whole run, the
  channel of that entry took it once if it was open then, and no other did. -/
  settled : ∀ position dispatch, last.dispatched[position]? = some dispatch →
    heartbeatOf dispatch.message.value = none →
    ∃ before action after state next,
      schedule = before ++ action :: after ∧
      system.runFrom start before = some state ∧
      system.step state action = some next ∧
      state.dispatched.length = position ∧
      next.dispatched = state.dispatched ++ [dispatch] ∧
      Settled state next dispatch ∧
      ∀ client, (last.outbox client).count dispatch.message =
        if state.entry dispatch.message.value = some client ∧
          state.listens client = true then 1 else 0

/-- Routing keeps order, content and multiplicity, and loses a message only
because nobody is connected or the receiver is gone. -/
theorem routesEndToEnd {schedule : List Action} {last : State}
    (ran : system.runFrom start schedule = some last) :
    RoutesEndToEnd schedule last := by
  have reachable : system.Reachable last := ⟨schedule, ran⟩
  have wf := pipeline reachable
  refine ⟨keepsContent, processed_prefix_sent reachable, fun source => ?_, ?_⟩
  · rw [← wf.accepted]
    exact wf.forwarded source
  · intro position dispatch found plain
    obtain ⟨before, action, after, state, next, split, reached, stepped, here,
        records⟩ := System.exists_step_of_log dispatched_grows
      System.Reachable.start ran (Nat.zero_le position) found
    have rest : system.runFrom next after = some last := by
      rw [split] at ran
      rcases (system.runFrom_append_eq_some).mp ran with ⟨middle, first, second⟩
      cases reached.symm.trans first
      rcases (system.runFrom_cons_eq_some).mp second with
        ⟨other, otherStepped, onward⟩
      cases stepped.symm.trans otherStepped
      exact onward
    have reachedState : system.Reachable state := ⟨before, reached⟩
    refine ⟨before, action, after, state, next, split, reached, stepped, here,
      records, ?_⟩
    rcases settled_of_recorded reachedState stepped records plain with
      ⟨inHand, settled⟩
    have counted := System.run_preserves
      (Counted dispatch.message _) counted_step (reachedState.step stepped)
      (counted_of_settled reachedState inHand plain settled records) rest
    exact ⟨settled, counted.2.2⟩

/-- Edge 0 says hello and Manager session 0 hears it. -/
def helloRun : List Action :=
  [.manager 0 .connect, .manager 0 .task, .edge 0 .connect,
    .edge 0 (.client (.send { edgeId := "a"
                              payload := some (.helloWorld ⟨none, true⟩) })),
    .edge 0 .task, .edge 0 .task, .edge 0 .task, .dispatcher [],
    .dispatcher [], .dispatcher []]

theorem routesEndToEnd_helloRun :
    ∃ last, system.runFrom start helloRun = some last ∧
      (last.outbox (.manager 0)).length = 1 ∧ RoutesEndToEnd helloRun last :=
  ⟨_, rfl, rfl, routesEndToEnd rfl⟩

end State

end IotRouter.Router
