import IotRouter.Router.EndToEnd

/-!
# Replies are routable

A message of an edge is forwarded only after its id has been registered. The log
of the writes to the map remembers the registration of every message and what
came after it: as long as no stream unregistered the id since, the id is a key of
the map, so that an answer finds the edge.
-/

namespace IotRouter.Router

open IotRouter.Grpc IotRouter.Https IotRouter.Runtime

/-! ## The map and its log -/

/-- An id that was registered is a key of the map, or has been unregistered
since. -/
def RegisteredOrEnded (side : EdgeSide) : Prop :=
  ∀ before i index edgeId after,
    side.log = before ++ .announced i index edgeId :: after →
    edgeId ∈ side.lock.value ∨ ∃ j, EdgeOp.unregistered j edgeId ∈ after

theorem mem_ensureEdgeRegistered {edges : EdgeMap} {edgeId key : String}
    {tx : StreamId} :
    key ∈ (ensureEdgeRegistered edges edgeId tx).1 ↔
      key = edgeId ∨ key ∈ edges := by
  rw [← AList.lookup_isSome, lookup_ensureEdgeRegistered]
  by_cases same : key = edgeId
  · simp [same]
  · simp [same, AList.lookup_isSome]

theorem mem_unregisterEdge {edges : EdgeMap} {edgeId key : String} :
    key ∈ unregisterEdge edges edgeId ↔ key ≠ edgeId ∧ key ∈ edges := by
  simp [unregisterEdge, AList.mem_erase]

theorem RegisteredOrEnded.step {central central' : Central}
    {side side' : EdgeSide} {i : StreamId} {action : StreamAction FromEdge}
    (kept : RegisteredOrEnded side)
    (stepped : EdgeStep central side i action central' side') :
    RegisteredOrEnded side' := by
  intro before j index edgeId after split
  rcases stepped.table with
    ⟨position, msg, _, _, value, log⟩ | ⟨ended, _, _, _, value, log⟩ |
      ⟨_, value, log⟩
  · rw [log] at split
    rw [value, mem_ensureEdgeRegistered]
    rcases System.append_cons_eq_concat split.symm with
      ⟨_, this⟩ | ⟨rest, rfl, earlier⟩
    · cases this
      exact Or.inl (Or.inl rfl)
    · rcases kept before j index edgeId rest earlier with present | ⟨k, since⟩
      · exact Or.inl (Or.inr present)
      · exact Or.inr ⟨k, List.mem_append_left _ since⟩
  · rw [log] at split
    rcases System.append_cons_eq_concat split.symm with
      ⟨_, this⟩ | ⟨rest, rfl, earlier⟩
    · cases this
    · rcases kept before j index edgeId rest earlier with present | ⟨k, since⟩
      · by_cases same : edgeId = ended
        · subst same
          exact Or.inr ⟨i, by simp⟩
        · rw [value, mem_unregisterEdge]
          exact Or.inl ⟨same, present⟩
      · exact Or.inr ⟨k, List.mem_append_left _ since⟩
  · rw [value]
    exact kept before j index edgeId after (log ▸ split)

namespace State

variable {state next : State} {action : Action}

theorem registeredOrEnded (reachable : system.Reachable state) :
    RegisteredOrEnded state.edges := by
  apply System.invariant (fun state : State => RegisteredOrEnded state.edges)
    ?_ ?_ reachable
  · intro before i index edgeId after split
    simp [system, start] at split
  · intro state next action _ kept stepped
    rcases step_edges stepped with ⟨i, act, _, inner⟩ | ⟨_, served⟩
    · exact kept.step inner
    · simp only [RegisteredOrEnded, served.value, served.log]
      exact kept

/-! ## Messages under way -/

/-- The message with this index of edge stream `i` passed
`ensure_edge_registered`. -/
def Announced (state : State) (i : StreamId) (index : Nat) : Prop :=
  ∃ msg, (state.edges.streams i).received[index]? = some msg ∧
    .announced i index msg.edgeId ∈ state.edges.log

/-- Messages of edges are announced before they are forwarded. -/
structure AnnouncedFirst (state : State) : Prop where
  forwarding : ∀ i message,
    (state.edges.streams i).task.pc = .forwarding message →
    Announced state i message.index
  accepted : ∀ i, ∀ message ∈ state.central.accepted,
    message.source = .edge i → Announced state i message.index

theorem Announced.mono {i : StreamId} {index : Nat}
    (announced : Announced state i index)
    (received : (state.edges.streams i).received <+:
      (next.edges.streams i).received)
    (log : state.edges.log <+: next.edges.log) : Announced next i index := by
  rcases announced with ⟨msg, found, logged⟩
  exact ⟨msg, getElem?_of_grows received found, log.subset logged⟩

end State

/-- The log of the writes only grows. -/
theorem EdgeStep.log_grows {central central' : Central} {side side' : EdgeSide}
    {i : StreamId} {action : StreamAction FromEdge}
    (stepped : EdgeStep central side i action central' side') :
    side.log <+: side'.log := by
  rcases stepped.table with
    ⟨_, _, _, _, _, log⟩ | ⟨_, _, _, _, _, log⟩ | ⟨_, _, log⟩
  · exact log ▸ List.prefix_append _ _
  · exact log ▸ List.prefix_append _ _
  · exact log ▸ List.prefix_rfl

/-- A task that is forwarding after its step has just registered the message, or
was forwarding it before. -/
theorem EdgeStep.forwarding {central central' : Central}
    {side side' : EdgeSide} {i : StreamId} {action : StreamAction FromEdge}
    (stepped : EdgeStep central side i action central' side')
    {message : Tagged RouterMessage}
    (forwards : (side'.streams i).task.pc = .forwarding message) :
    (side.streams i).task.pc = .forwarding message ∨
      ∃ msg, (side.streams i).task.pc = .registering message.index msg ∧
        .announced i message.index msg.edgeId ∈ side'.log := by
  cases stepped with
  | client act stream live acted =>
      rw [Side.setStream_self, (Stream.client_frame acted).1] at forwards
      exact Or.inl forwards
  | register index msg lock pc written =>
      rw [Side.setStream_self] at forwards
      cases translated : processFromEdge msg with
      | none => simp [translated] at forwards
      | some value =>
          simp only [translated, EdgePc.forwarding.injEq] at forwards
          subst forwards
          exact Or.inr ⟨msg, pc, by simp⟩
  | skip msg rest pc => simp [pc] at forwards
  | connect | read | leave | vanish | forward | discard | unregister =>
      simp [Stream.fresh] at forwards

/-- What a step adds to the central channel is the message the task was
forwarding. -/
theorem EdgeStep.accepted_new {central central' : Central}
    {side side' : EdgeSide} {i : StreamId} {action : StreamAction FromEdge}
    (stepped : EdgeStep central side i action central' side')
    {message : Tagged RouterMessage} (member : message ∈ central'.accepted) :
    message ∈ central.accepted ∨
      (side.streams i).task.pc = .forwarding message := by
  cases stepped with
  | forward other central' pc sent =>
      rcases Channel.send_eq_sent.mp sent with ⟨_, _, rfl⟩
      rw [Channel.push_accepted, List.mem_append, List.mem_singleton] at member
      rcases member with earlier | rfl
      · exact Or.inl earlier
      · exact Or.inr pc
  | connect | client | skip | read | leave | vanish | register | discard
  | unregister => exact Or.inl member

namespace State

variable {state next : State} {action : Action}

/-- What a step of another source adds to the central channel is not an edge's
message. -/
theorem accepted_of_other (reachable : system.Reachable state)
    (stepped : system.step state action = some next)
    (other : ∀ i act, action ≠ .edge i act) {i : StreamId}
    {message : Tagged RouterMessage} (source : message.source = .edge i)
    (member : message ∈ next.central.accepted) :
    message ∈ state.central.accepted := by
  have wf := pipeline reachable
  have own : ∀ {origin unforwarded unforwarded' image image'},
      Advances origin state.central next.central unforwarded unforwarded' image
        image' → origin ≠ .edge i → message ∈ state.central.accepted := by
    intro origin _ _ _ _ advances different
    rcases advances with ⟨forwarded, _, _, accepted, _, sources, _⟩
    rw [accepted, List.mem_append] at member
    rcases member with earlier | new
    · exact earlier
    · exact absurd ((sources message new).symm.trans source) different
  cases step_cases stepped with
  | edge i act => exact absurd rfl (other i act)
  | manager j act central manager inner =>
      exact own (inner.advances ((slotSidesWF reachable).1.streams j) wf.isOpen)
        (by simp [managerService])
  | data j act central data inner =>
      exact own (inner.advances ((slotSidesWF reachable).2.streams j) wf.isOpen)
        (by simp [dataService])
  | http j act central request inner =>
      exact own (inner.advances (wf.http j) wf.isOpen) (by simp)
  | dispatcher order next inner => rwa [inner.carries.1] at member

theorem announcedFirst (reachable : system.Reachable state) :
    AnnouncedFirst state := by
  apply System.invariant AnnouncedFirst ?_ ?_ reachable
  · constructor
    · intro i message forwards
      cases forwards
    · intro i message member
      cases member
  · intro state next action reached before stepped
    rcases step_edges stepped with ⟨i, act, rfl, inner⟩ | ⟨other, served⟩
    · have wf := (edgeSideWF reached).streams
      have keeps : ∀ {j index}, Announced state j index →
          Announced next j index :=
        fun announced =>
          announced.mono (inner.received_grows wf _) inner.log_grows
      constructor
      · intro j message forwards
        by_cases own : j = i
        · subst own
          rcases inner.forwarding forwards with same | ⟨msg, pc, logged⟩
          · exact keeps (before.forwarding j message same)
          · rcases (wf j).registering _ msg pc with ⟨found, _⟩
            exact ⟨msg, getElem?_of_grows (inner.received_grows wf j) found,
              logged⟩
        · rw [inner.streams_of_ne own] at forwards
          exact keeps (before.forwarding j message forwards)
      · intro j message member source
        rcases inner.accepted_new member with earlier | forwards
        · exact keeps (before.accepted j message earlier source)
        · have mine := ((wf i).forwarding message forwards).1
          cases mine.symm.trans source
          exact keeps (before.forwarding i message forwards)
    · have keeps : ∀ {j index}, Announced state j index →
          Announced next j index := by
        intro j index announced
        apply announced.mono
        · rw [served.received]
        · rw [served.log]
      constructor
      · intro j message forwards
        rw [served.task] at forwards
        exact keeps (before.forwarding j message forwards)
      · intro j message member source
        exact keeps (before.accepted j message
          (accepted_of_other reached stepped other source member) source)

/-! ## Replies -/

/-- Some stream whose last announced id was `edgeId` ran its final
`unregister_edge`, at one of the writes `since`. -/
def EndedSince (state : State) (edgeId : String) (since : List EdgeOp) : Prop :=
  ∃ j, .unregistered j edgeId ∈ since ∧
    (state.edges.streams j).task.pc = .done ∧
    (announcedIds (state.edges.streams j).received).getLast? = some edgeId

theorem endedSince_of_unregistered (reachable : system.Reachable state)
    {before since : List EdgeOp} {op : EdgeOp} {edgeId : String}
    (split : state.edges.log = before ++ op :: since) {j : StreamId}
    (member : .unregistered j edgeId ∈ since) :
    EndedSince state edgeId since := by
  have wf := edgeSideWF reachable
  have logged : .unregistered j edgeId ∈ state.edges.log := by
    rw [split]
    exact List.mem_append_right _ (List.mem_cons_of_mem _ member)
  have task := wf.unregistered j edgeId logged
  refine ⟨j, member, by rw [task], ?_⟩
  rw [← (wf.streams j).connected, task]

/-- A message of an edge for the Manager, queued or enqueued to a Manager
session, has been taken by the central channel. -/
theorem accepted_of_inFlight (reachable : system.Reachable state)
    {message : Tagged RouterMessage} {toManager : ToManager}
    (value : message.value = .toManager toManager)
    (inFlight : message ∈ state.central.queue ∨
      ∃ session, message ∈ state.outbox (.manager session)) :
    message ∈ state.central.accepted := by
  have wf := pipeline reachable
  rcases inFlight with queued | ⟨session, enqueued⟩
  · exact state.central.queue_suffix.subset queued
  · exact wf.processed_prefix_accepted.subset
      (outboxProcessed reachable _ _ enqueued (by simp [heartbeatOf, value]))

/-- The message passed `ensure_edge_registered` under its id, and every way to
find that write in the log shows the id in the map or the end of a stream with
that id since. A unicast to the id that finds no entry shows the latter. -/
structure Routable (state : State) (i index : Nat) (edgeId : String) : Prop where
  registered : .announced i index edgeId ∈ state.edges.log
  present : ∀ before since,
    state.edges.log = before ++ .announced i index edgeId :: since →
    edgeId ∈ state.edges.lock.value ∨ EndedSince state edgeId since
  notFound : ∀ order next command toEdge,
    state.dispatcher = .lookingUp command →
    command.value = .toEdge edgeId toEdge →
    system.step state (.dispatcher order) = some next →
    next.dispatched = state.dispatched ++ [{
      message := command
      result := .unicast (.error (notConnectedError command.value)) }] →
    ∀ before since,
      state.edges.log = before ++ .announced i index edgeId :: since →
      EndedSince state edgeId since

/-- A unicast that fails at its lookup finds no entry. -/
theorem absent_of_notFound {order : List (String × StreamId)}
    {command : Tagged RouterMessage} {edgeId : String} {toEdge : ToEdge}
    (at_ : state.dispatcher = .lookingUp command)
    (value : command.value = .toEdge edgeId toEdge)
    (stepped : system.step state (.dispatcher order) = some next)
    (failed : next.dispatched ≠ state.dispatched) :
    edgeId ∉ state.edges.lock.value := by
  cases step_cases stepped with
  | dispatcher order next inner =>
      cases inner with
      | lookUpEdge message destination other edges found here is_ plain looked =>
          cases at_.symm.trans here
          cases value.symm.trans is_
          rcases Side.accepted_lookUp looked with ⟨entry, _⟩
          cases found with
          | none => exact AList.lookup_eq_none.mp entry.symm
          | some tx => exact absurd rfl failed
      | lookUpManager message toManager manager found here is_ =>
          cases at_.symm.trans here
          cases value.symm.trans is_
      | lookUpData message toData data found here is_ =>
          cases at_.symm.trans here
          cases value.symm.trans is_
      | startBroadcast => exact absurd rfl failed
      | receive message central here | sendEdge _ _ _ _ _ _ here
      | sendManager _ _ _ _ _ here | sendData _ _ _ _ _ here
      | broadcastSent _ _ _ _ _ _ _ here | broadcastClosed _ _ _ _ _ _ here
      | finishBroadcast _ _ _ here =>
          cases at_.symm.trans here

/-- Registration precedes forwarding, so a reply is routable unless a stream for
its id ended in between. -/
theorem routable (reachable : system.Reachable state) :
    ∀ i message toManager, message.source = .edge i →
      message.value = .toManager toManager →
      (message ∈ state.central.queue ∨
        ∃ session, message ∈ state.outbox (.manager session)) →
      Routable state i message.index toManager.edgeId := by
  intro i message toManager source value inFlight
  have accepted := accepted_of_inFlight reachable value inFlight
  -- The id in the message is the id of the edge message it translates.
  have logged : .announced i message.index toManager.edgeId ∈
      state.edges.log := by
    rcases (announcedFirst reachable).accepted i message accepted source with
      ⟨msg, found, logged⟩
    have genuine := (pipeline reachable).genuine accepted
    rw [source, value] at genuine
    simp only [image, List.getElem?_map, found, Option.map_some, edgeImage,
      Option.some.injEq] at genuine
    split at genuine
    · cases genuine
    · rcases processFromEdge_eq_some genuine with ⟨_, same⟩ | ⟨_, same⟩
      · cases same
      · cases same
        exact logged
  have present : ∀ before since, state.edges.log =
      before ++ .announced i message.index toManager.edgeId :: since →
      toManager.edgeId ∈ state.edges.lock.value ∨
        EndedSince state toManager.edgeId since := by
    intro before since split
    rcases registeredOrEnded reachable _ _ _ _ _ split with present | ⟨j, member⟩
    · exact Or.inl present
    · exact Or.inr (endedSince_of_unregistered reachable split member)
  refine ⟨logged, present, ?_⟩
  intro order next command toEdge at_ addressed stepped failed before since split
  have absent := absent_of_notFound at_ addressed stepped (by simp [failed])
  exact (present before since split).resolve_left absent

/-- Edge 0 says hello; Manager session 0 has got the message. -/
theorem routable_helloRun :
    ∃ last, system.runFrom start helloRun = some last ∧
      (last.outbox (.manager 0)).length = 1 ∧
      ∀ i message toManager, message.source = .edge i →
        message.value = .toManager toManager →
        (message ∈ last.central.queue ∨
          ∃ session, message ∈ last.outbox (.manager session)) →
        Routable last i message.index toManager.edgeId :=
  ⟨_, rfl, rfl, routable ⟨helloRun, rfl⟩⟩

end State

end IotRouter.Router
