import IotRouter.Router.Inversion

/-!
# Bookkeeping of the streams

What every inbound task keeps in order: it takes the messages of its client in
the order they were sent, and the message it is forwarding is the translation of
the one it took last. This module has what all streams share and the Manager and
Data sessions; the edge streams follow in their own module.
-/

namespace IotRouter.Router

open IotRouter.Grpc IotRouter.Runtime

/-! ## Messages on their way in -/

/-- A position of a list keeps its value while the list grows. -/
theorem getElem?_of_grows {α : Type} {before after : List α}
    (grows : before <+: after) {index : Nat} {value : α}
    (found : before[index]? = some value) : after[index]? = some value := by
  rcases grows with ⟨rest, rfl⟩
  have bound := (List.getElem?_eq_some_iff.mp found).1
  rw [List.getElem?_append_left bound]
  exact found

/-- What a task took and what waits for it were sent in this order; nothing is
missing as long as the client's direction is open. -/
structure InboundWF {Task In Out : Type} (stream : Stream Task In Out) :
    Prop where
  kept : stream.received ++ stream.inbound <+: stream.sent
  sent_eq : stream.inboundOpen = true →
    stream.received ++ stream.inbound = stream.sent

namespace InboundWF

variable {Task In Out : Type} {stream stream' : Stream Task In Out}

theorem fresh (In Out : Type) (task : Task) :
    InboundWF (Stream.fresh In Out task) where
  kept := List.prefix_rfl
  sent_eq _ := rfl

theorem client (wf : InboundWF stream) {action : ClientAction In}
    (acted : stream.client action = some stream') : InboundWF stream' := by
  cases action with
  | send msg =>
      simp only [Stream.client] at acted
      split at acted <;> cases acted
      rename_i opened
      have extended : stream.received ++ (stream.inbound ++ [msg]) =
          stream.sent ++ [msg] := by
        rw [← wf.sent_eq opened, List.append_assoc]
      exact ⟨extended ▸ List.prefix_rfl, fun _ => extended⟩
  | close =>
      simp only [Stream.client] at acted
      split at acted <;> cases acted
      exact ⟨wf.kept, by simp⟩
  | reset =>
      simp only [Stream.client] at acted
      split at acted <;> cases acted
      refine ⟨?_, by simp⟩
      rw [List.append_nil]
      exact (List.prefix_append _ _).trans wf.kept
  | drain =>
      rcases Option.map_eq_some_iff.mp acted with ⟨_, _, rfl⟩
      exact ⟨wf.kept, wf.sent_eq⟩
  | dropReceiver =>
      simp only [Stream.client] at acted
      split at acted <;> cases acted
      exact ⟨wf.kept, wf.sent_eq⟩

/-- The task takes the oldest waiting message. -/
theorem take (wf : InboundWF stream) {msg : In} {rest : List In}
    (inbound : stream.inbound = msg :: rest) (task : Task)
    (outbound : Channel 100 (Tagged Out)) :
    InboundWF { stream with
      task, outbound, inbound := rest, received := stream.received ++ [msg] } := by
  have same : stream.received ++ [msg] ++ rest =
      stream.received ++ stream.inbound := by
    rw [inbound, List.append_assoc, List.singleton_append]
  exact ⟨same ▸ wf.kept, fun opened => same.trans (wf.sent_eq opened)⟩

theorem received_prefix_sent (wf : InboundWF stream) :
    stream.received <+: stream.sent :=
  (List.prefix_append _ _).trans wf.kept

end InboundWF

/-! ## Manager and Data sessions -/

/-- The task of session `i` and the messages it took agree. -/
structure SessionStreamWF {In Out : Type} (service : SlotService In)
    (i : StreamId) (stream : Stream SessionTask In Out) : Prop where
  inbound : InboundWF stream
  idle : stream.task = .idle → stream.received = []
  forwarding : ∀ message, stream.task = .forwarding message →
    message.source = service.source i ∧
      message.index + 1 = stream.received.length ∧
      ∃ msg, stream.received[message.index]? = some msg ∧
        service.process msg = some message.value

namespace SessionStreamWF

variable {In Out : Type} {service : SlotService In} {i : StreamId}
variable {stream stream' : Stream SessionTask In Out}

theorem fresh {task : SessionTask}
    (starts : task = .idle ∨ task = .registering) :
    SessionStreamWF service i (Stream.fresh In Out task) := by
  refine ⟨InboundWF.fresh _ _ _, fun _ => rfl, ?_⟩
  rcases starts with rfl | rfl <;> simp [Stream.fresh]

/-- Only the outbound channel differs. -/
theorem withOutbound (wf : SessionStreamWF service i stream)
    (outbound : Channel 100 (Tagged Out)) :
    SessionStreamWF service i { stream with outbound } :=
  ⟨⟨wf.inbound.kept, wf.inbound.sent_eq⟩, wf.idle, wf.forwarding⟩

/-- The task moves to an await at which it neither is idle nor forwards. -/
theorem moved (wf : SessionStreamWF service i stream) {task : SessionTask}
    {outbound : Channel 100 (Tagged Out)} (live : task ≠ .idle)
    (quiet : ∀ message, task ≠ .forwarding message) :
    SessionStreamWF service i { stream with task, outbound } :=
  ⟨⟨wf.inbound.kept, wf.inbound.sent_eq⟩,
    fun idle => absurd idle live,
    fun message forwards => absurd forwards (quiet message)⟩

theorem client (wf : SessionStreamWF service i stream)
    {action : ClientAction In} (acted : stream.client action = some stream') :
    SessionStreamWF service i stream' := by
  rcases Stream.client_frame acted with ⟨task, received, _⟩
  refine ⟨wf.inbound.client acted, ?_, ?_⟩
  · rw [task, received]
    exact wf.idle
  · rw [task, received]
    exact wf.forwarding

/-- `connect_stream` and the inbound task keep their own account. -/
theorem step {central central' : Central} {side side' : SlotSide In Out}
    {action : StreamAction In}
    (stepped : SessionStep service central side i action central' side')
    (wf : SessionStreamWF service i (side.streams i)) :
    SessionStreamWF service i (side'.streams i) := by
  cases stepped with
  | connect idle =>
      rw [Side.requestWrite_streams, Side.setStream_self]
      exact fresh (Or.inr rfl)
  | abort waiting =>
      simp only [Side.setStream, Function.update_self]
      exact wf.moved (by simp) (by simp)
  | client act stream live acted =>
      rw [Side.setStream_self]
      exact wf.client acted
  | read msg rest task inbound =>
      rw [Side.setStream_self]
      refine ⟨wf.inbound.take inbound _ _, ?_, ?_⟩ <;>
        cases translated : service.process msg <;> simp [translated]
  | leave task inbound ended =>
      rw [Side.requestWrite_streams, Side.setStream_self]
      exact wf.moved (by simp) (by simp)
  | register | forward | discard | unregister =>
      rw [Side.setStream_self]
      exact wf.moved (by simp) (by simp)

end SessionStreamWF

/-! ## A whole side of sessions -/

section Side

variable {In Out : Type} {service : SlotService In}
variable {central central' : Central} {side side' : SlotSide In Out}
variable {i : StreamId} {action : StreamAction In}

/-- Every step leaves its own session connected. -/
theorem SessionStep.task_ne_idle
    (stepped : SessionStep service central side i action central' side') :
    (side'.streams i).task ≠ .idle := by
  cases stepped with
  | client act stream live acted =>
      rw [Side.setStream_self, (Stream.client_frame acted).1]
      exact live
  | read msg rest task inbound =>
      rw [Side.setStream_self]
      split <;> simp
  | connect | leave => simp [Stream.fresh]
  | abort => simp [Side.setStream]
  | register | forward | discard | unregister => simp

/-- A task never forgets what it received. -/
theorem SessionStep.received_grows
    (stepped : SessionStep service central side i action central' side')
    (wf : ∀ j, SessionStreamWF service j (side.streams j)) (j : StreamId) :
    (side.streams j).received <+: (side'.streams j).received := by
  by_cases own : j = i
  · subst own
    cases stepped with
    | connect idle =>
        rw [(wf j).idle idle]
        exact ⟨_, List.nil_append _⟩
    | client act stream live acted =>
        rw [Side.setStream_self, (Stream.client_frame acted).2.1]
    | abort => simp [Side.setStream]
    | register | read | leave | forward | discard | unregister => simp
  · rw [stepped.streams_of_ne own]

/-- A session that has registered never registers again. -/
theorem SessionStep.registered
    (stepped : SessionStep service central side i action central' side')
    (live : (side.streams i).task ≠ .idle)
    (registered : (side.streams i).task ≠ .registering) :
    (side'.streams i).task ≠ .registering := by
  cases stepped with
  | connect idle => exact absurd idle live
  | abort waiting => exact absurd waiting registered
  | client act stream _ acted =>
      rw [Side.setStream_self, (Stream.client_frame acted).1]
      exact registered
  | read msg rest task inbound =>
      rw [Side.setStream_self]
      split <;> simp
  | register | leave | forward | discard | unregister => simp

/-- The sessions keep their account and the slot holds a session that
registered. -/
structure SlotSideWF (service : SlotService In) (side : SlotSide In Out) :
    Prop where
  streams : ∀ i, SessionStreamWF service i (side.streams i)
  owned : ∀ owner, side.lock.value = some owner →
    (side.streams owner).task ≠ .idle ∧
      (side.streams owner).task ≠ .registering

namespace SlotSideWF

/-- Service by the dispatcher changes the outbound channels only. -/
theorem served (wf : SlotSideWF service side)
    (service' : Side.Served side side') : SlotSideWF service side' where
  streams i := by
    rcases service'.streams i with ⟨outbound, same, _⟩
    rw [same]
    exact (wf.streams i).withOutbound outbound
  owned := by
    simp only [service'.value, service'.task]
    exact wf.owned

theorem step (wf : SlotSideWF service side)
    (stepped : SessionStep service central side i action central' side') :
    SlotSideWF service side' := by
  have kept := stepped
  constructor
  · intro j
    by_cases own : j = i
    · subst own
      exact SessionStreamWF.step stepped (wf.streams j)
    · rw [stepped.streams_of_ne own]
      exact wf.streams j
  · intro owner found
    cases stepped with
    | register lock task written =>
        rcases RwLock.write_eq_some.mp written with ⟨_, _, _, rfl⟩
        have mine := (service.register_eq i side.lock.value).symm.trans found
        cases Option.some.inj mine
        simp
    | unregister lock task written =>
        rcases RwLock.write_eq_some.mp written with ⟨_, _, _, rfl⟩
        have cleared := (service.unregister_eq side.lock.value).symm.trans found
        cases cleared
    | connect | abort | client | read | leave | forward | discard =>
        rcases wf.owned owner found with ⟨live, registered⟩
        by_cases own : owner = i
        · subst own
          exact ⟨kept.task_ne_idle, kept.registered live registered⟩
        · rw [kept.streams_of_ne own]
          exact ⟨live, registered⟩

end SlotSideWF

end Side

/-- Both slot sides are well formed in every reachable state. -/
theorem State.slotSidesWF {state : State} (reachable : system.Reachable state) :
    SlotSideWF managerService state.manager ∧
      SlotSideWF dataService state.data := by
  apply System.invariant (fun state : State =>
    SlotSideWF managerService state.manager ∧
      SlotSideWF dataService state.data) ?_ ?_ reachable
  · exact ⟨⟨fun _ => .fresh (Or.inl rfl), by simp [system, start, RwLock.new]⟩,
      ⟨fun _ => .fresh (Or.inl rfl), by simp [system, start, RwLock.new]⟩⟩
  · intro state next action _ wf stepped
    constructor
    · rcases step_manager stepped with ⟨i, act, _, inner⟩ | ⟨_, served⟩
      · exact wf.1.step inner
      · exact wf.1.served served
    · rcases step_data stepped with ⟨i, act, _, inner⟩ | ⟨_, served⟩
      · exact wf.2.step inner
      · exact wf.2.served served

end IotRouter.Router
