import IotRouter.Router.Broadcast
import IotRouter.Router.EdgeTraffic
import IotRouter.Router.Ownership

/-!
# What the edges are told does not depend on what edges say

The edge-bound part of the router refines a small machine: the map, which
channels are open, and what each channel took. Its events are the writes to the
map, the receivers dropped, and the moments at which the dispatcher settles a
message for an edge or serves an id in a broadcast. The contents come from the
Manager and Data sessions alone, so two runs with the same events and the same
sessions tell the edges the same, whatever payloads the edges send and whatever
alerts are posted.

One thing is left open: a broadcast goes through the map in no fixed order, so a
stream with several ids may get their copies of one heartbeat in either order.
-/

namespace IotRouter.Router

open IotRouter.Grpc IotRouter.Https IotRouter.Runtime

/-! ## The edge-bound part -/

/-- What the Manager and Data sessions said. -/
structure Inputs where
  manager : StreamId → List FromManager
  data : StreamId → List FromDataSaver

/-- The message for an edge that a session's message with this position
becomes. -/
def Inputs.toEdge (inputs : Inputs) (source : Source) (index : Nat) :
    Option ToEdge :=
  let translated :=
    match source with
    | .manager session => (inputs.manager session)[index]?.bind processFromManager
    | .data session => (inputs.data session)[index]?.bind processFromData
    | .edge _ | .http _ => none
  match translated with
  | some (.toEdge _ toEdge) => some toEdge
  | _ => none

/-- The events that matter for what the edges are told. -/
inductive EdgeEvent where
  /-- A message passed `ensure_edge_registered`. -/
  | announced (stream : StreamId) (edgeId : String)
  /-- A stream ran its final `unregister_edge`. -/
  | unregistered (stream : StreamId) (edgeId : String)
  /-- A client dropped its receiver. -/
  | dropped (stream : StreamId)
  /-- The dispatcher settled a message for one edge. -/
  | settled (source : Source) (index : Nat)
  /-- One id had its turn in the broadcast of a heartbeat. -/
  | served (source : Source) (index : Nat) (edgeId : String)
  deriving DecidableEq, Repr

/-- The map, the open channels, and what each of them took. -/
@[ext] structure EdgeView where
  edges : EdgeMap
  isOpen : StreamId → Bool
  inbox : StreamId → List (Tagged ToEdge)

namespace EdgeView

/-- What a message for the id adds to the inbox of stream `i`. -/
def arrivals (view : EdgeView) (edgeId : String) (message : Tagged ToEdge)
    (i : StreamId) : List (Tagged ToEdge) :=
  if view.edges.lookup edgeId = some i ∧ view.isOpen i = true then [message]
  else []

/-- The channel held for the id takes the message if it is open. -/
def enqueue (view : EdgeView) (edgeId : String) (message : Tagged ToEdge) :
    EdgeView :=
  { view with
    inbox := fun i => view.inbox i ++ view.arrivals edgeId message i }

/-- What an event does. -/
def apply (inputs : Inputs) (view : EdgeView) : EdgeEvent → EdgeView
  | .announced i edgeId =>
      { view with edges := (ensureEdgeRegistered view.edges edgeId i).1 }
  | .unregistered _ edgeId =>
      { view with edges := unregisterEdge view.edges edgeId }
  | .dropped i => { view with isOpen := Function.update view.isOpen i false }
  | .settled source index =>
      match inputs.toEdge source index with
      | some toEdge =>
          view.enqueue toEdge.edgeId { source, index, value := toEdge }
      | none => view
  | .served source index edgeId =>
      match (inputs.toEdge source index).bind ToEdge.heartbeat? with
      | some heartbeat => view.enqueue edgeId
          { source, index
            value := { edgeId, payload := some (.heartbeat heartbeat) } }
      | none => view

end EdgeView

namespace State

variable {state next last : State} {action : Action} {inputs : Inputs}

/-- The edge-bound part of a state. -/
def edgeView (state : State) : EdgeView where
  edges := state.edges.lock.value
  isOpen i := state.listens (.edge i)
  inbox i := (state.edges.streams i).outbound.accepted

/-- The events of a step. A message for an edge is settled when the lookup finds
no entry, or else when the send is over. -/
def edgeEvents (state : State) : Action → List EdgeEvent
  | .edge i .task =>
      match (state.edges.streams i).task.pc with
      | .registering _ msg => [.announced i msg.edgeId]
      | .unregistering edgeId => [.unregistered i edgeId]
      | _ => []
  | .edge i (.client .dropReceiver) => [.dropped i]
  | .dispatcher _ =>
      match state.dispatcher with
      | .lookingUp message =>
          if tableLock message.value = .edges ∧
              heartbeatOf message.value = none ∧
              state.held message.value = none then
            [.settled message.source message.index]
          else []
      | .sending message _ =>
          if tableLock message.value = .edges then
            [.settled message.source message.index]
          else []
      | .broadcasting message _ ((edgeId, _) :: _) _ =>
          [.served message.source message.index edgeId]
      | _ => []
  | _ => []

/-- What the tasks of the Manager and Data sessions took is part of the
inputs. -/
structure Hears (inputs : Inputs) (state : State) : Prop where
  manager : ∀ session, (state.manager.streams session).received <+:
    inputs.manager session
  data : ∀ session, (state.data.streams session).received <+:
    inputs.data session

theorem Hears.before (hears : Hears inputs next)
    (reachable : system.Reachable state)
    (stepped : system.step state action = some next) : Hears inputs state where
  manager session :=
    ((received_grows reachable stepped).2.1 session).trans (hears.manager session)
  data session :=
    ((received_grows reachable stepped).2.2 session).trans (hears.data session)

/-- The message in hand is what the inputs have at its position. -/
theorem Hears.toEdge (hears : Hears inputs state)
    (reachable : system.Reachable state) {message : Tagged RouterMessage}
    (inHand : message ∈ state.dispatcher.inHand) {destination : String}
    {toEdge : ToEdge} (value : message.value = .toEdge destination toEdge) :
    inputs.toEdge message.source message.index = some toEdge ∧
      toEdge.edgeId = destination := by
  have wf := pipeline reachable
  have accepted := wf.inHand_accepted inHand
  refine ⟨?_, wf.addressed accepted value⟩
  rcases wf.toEdge_translated accepted value with
    ⟨session, msg, source, said, translated⟩ |
      ⟨session, msg, source, said, translated⟩
  · have found := getElem?_of_grows (hears.manager session) said
    simp [Inputs.toEdge, source, found, translated]
  · have found := getElem?_of_grows (hears.data session) said
    simp [Inputs.toEdge, source, found, translated]

/-- The heartbeat that is being broadcast is what the inputs have at its
position. -/
theorem Hears.broadcasts (hears : Hears inputs state)
    (reachable : system.Reachable state) {message : Tagged RouterMessage}
    {heartbeat : Heartbeat} {rest : List (String × StreamId)} {sentCount : Nat}
    (at_ : state.dispatcher = .broadcasting message heartbeat rest sentCount) :
    ∃ toEdge, inputs.toEdge message.source message.index = some toEdge ∧
      toEdge.heartbeat? = some heartbeat := by
  have inHand : message ∈ state.dispatcher.inHand := by
    simp [at_, Dispatcher.inHand]
  have route := routed reachable
  simp only [Routed, at_] at route
  cases value : message.value with
  | toEdge destination toEdge =>
      refine ⟨toEdge, (hears.toEdge reachable inHand value).1, ?_⟩
      simpa [heartbeatOf, value] using route.1
  | toManager | toData =>
      rw [value] at route
      cases route.1

/-! ## The refinement -/

theorem edgeView_same (map : next.edges.lock.value = state.edges.lock.value)
    (streams : ∀ i, (next.edges.streams i).outbound =
      (state.edges.streams i).outbound) : next.edgeView = state.edgeView := by
  ext1
  · exact map
  · funext i
    simp only [edgeView, listens, streams]
  · funext i
    simp only [edgeView, streams]

/-- A channel held for the id took the message, or it was closed. -/
theorem edgeView_enqueue {edgeId : String} {tx : StreamId}
    {message : Tagged ToEdge} {delivered : Bool}
    (entry : state.edges.lock.value.lookup edgeId = some tx)
    (isOpen : (state.edges.streams tx).outbound.isOpen = delivered)
    (served : Side.Served state.edges next.edges)
    (accepted : ∀ j, (next.edges.streams j).outbound.accepted =
      (state.edges.streams j).outbound.accepted ++
        if delivered = true ∧ j = tx then [message] else []) :
    next.edgeView = state.edgeView.enqueue edgeId message := by
  ext1
  · exact served.value
  · funext i
    rcases served.streams i with ⟨outbound, same, isOpen, _⟩
    simp only [edgeView, listens, same, EdgeView.enqueue]
    exact isOpen
  · funext i
    simp only [edgeView, listens, EdgeView.enqueue, EdgeView.arrivals, accepted]
    congr 1
    apply if_congr ?_ rfl rfl
    rw [entry]
    constructor
    · intro both
      rcases both with ⟨arrives, rfl⟩
      exact ⟨rfl, isOpen.trans arrives⟩
    · intro both
      rcases both with ⟨same, opened⟩
      cases same
      exact ⟨isOpen.symm.trans opened, rfl⟩

/-- A step of an edge stream that neither writes nor drops its receiver is
silent. -/
theorem edgeEvents_quiet {i : StreamId} {act : StreamAction FromEdge}
    (quiet : ¬(act = .task ∧ (state.edges.streams i).task.Waits))
    (keeps : act ≠ .client .dropReceiver) :
    state.edgeEvents (.edge i act) = [] := by
  simp only [edgeEvents]
  split
  · rename_i equal
    cases equal
    split
    · rename_i pc
      exact absurd ⟨rfl, by simp [EdgeTask.Waits, pc]⟩ quiet
    · rename_i pc
      exact absurd ⟨rfl, by simp [EdgeTask.Waits, pc]⟩ quiet
    · rfl
  · rename_i equal
    cases equal
    exact absurd rfl keeps
  · rename_i equal
    cases equal
  · rfl

/-- A step of an edge stream writes to the map, drops a receiver, or is silent. -/
theorem edgeView_edge {i : StreamId} {act : StreamAction FromEdge}
    (reachable : system.Reachable state)
    (stepped : system.step state (.edge i act) = some next) :
    next.edgeView = (state.edgeEvents (.edge i act)).foldl
      (EdgeView.apply inputs) state.edgeView := by
  rcases step_edges stepped with ⟨_, _, equal, inner⟩ | ⟨other, _⟩
  swap
  · exact absurd rfl (other i act)
  cases equal
  have opens : (fun j => next.listens (.edge j)) = fun j =>
      if act = .client .dropReceiver ∧ j = i then false
      else state.listens (.edge j) := by
    funext j
    exact inner.isOpen (idle_isOpen reachable i) j
  have inboxes : (fun j => (next.edges.streams j).outbound.accepted) =
      fun j => (state.edges.streams j).outbound.accepted := by
    funext j
    exact inner.accepted (fun idle => List.map_eq_nil_iff.mp
      (unused reachable (.edge i) (fun connected => connected idle))) j
  have agree : ∀ view : EdgeView, next.edges.lock.value = view.edges →
      (fun j => next.listens (.edge j)) = view.isOpen →
      state.edgeView.inbox = view.inbox → next.edgeView = view := by
    intro view map isOpen inbox
    ext1
    · exact map
    · exact isOpen
    · exact inboxes.trans inbox
  rcases inner.table with
    ⟨index, msg, rfl, pc, map, _⟩ | ⟨edgeId, rfl, pc, _, map, _⟩ | ⟨quiet, map, _⟩
  · simp only [edgeEvents, pc, List.foldl_cons, List.foldl_nil, EdgeView.apply]
    exact agree _ map (by simpa [edgeView] using opens) rfl
  · simp only [edgeEvents, pc, List.foldl_cons, List.foldl_nil, EdgeView.apply]
    exact agree _ map (by simpa [edgeView] using opens) rfl
  · by_cases drops : act = .client .dropReceiver
    · subst drops
      simp only [edgeEvents, List.foldl_cons, List.foldl_nil, EdgeView.apply]
      refine agree _ map ?_ rfl
      rw [opens]
      funext j
      simp [edgeView, Function.update_apply]
    · rw [edgeEvents_quiet quiet drops]
      exact agree _ map (by simpa [edgeView, drops] using opens) rfl

/-- What the dispatcher does for Manager and Data is silent. -/
theorem edgeEvents_elsewhere {message : Tagged RouterMessage}
    {order : List (String × StreamId)}
    (elsewhere : tableLock message.value ≠ .edges)
    (at_ : state.dispatcher = .lookingUp message ∨
      ∃ tx, state.dispatcher = .sending message tx) :
    state.edgeEvents (.dispatcher order) = [] := by
  rcases at_ with at_ | ⟨tx, at_⟩ <;> simp [edgeEvents, at_, elsewhere]

/-- A message for an edge is looked up: without an entry it is settled at once. -/
theorem edgeView_lookUp {message : Tagged RouterMessage} {destination : String}
    {toEdge : ToEdge} {edges : EdgeSide} {found : Option StreamId}
    {order : List (String × StreamId)}
    (reachable : system.Reachable state) (hears : Hears inputs state)
    (at_ : state.dispatcher = .lookingUp message)
    (value : message.value = .toEdge destination toEdge)
    (plain : toEdge.heartbeat? = none)
    (looked : state.edges.lookUp (·.lookup destination) = some (edges, found))
    (map : edges.lock.value = state.edges.lock.value) :
    (State.finishLookUp { state with edges } message found).edgeView =
      (state.edgeEvents (.dispatcher order)).foldl (EdgeView.apply inputs)
        state.edgeView := by
  rcases Side.accepted_lookUp looked with ⟨entry, streams⟩
  have inHand : message ∈ state.dispatcher.inHand := by
    simp [at_, Dispatcher.inHand]
  rcases hears.toEdge reachable inHand value with ⟨said, rfl⟩
  have quiet : heartbeatOf message.value = none := by
    simp [heartbeatOf, value, plain]
  have holds : state.held message.value = found := by
    rw [entry, value]
    rfl
  have same : (State.finishLookUp { state with edges } message found).edgeView =
      state.edgeView := by
    apply edgeView_same
    · cases found <;> exact map
    · intro i
      cases found <;> simp [finishLookUp, finish, streams]
  rw [same]
  cases found with
  | some tx => simp [edgeEvents, at_, holds]
  | none =>
      have absent : state.edges.lock.value.lookup toEdge.edgeId = none :=
        entry.symm
      have events : state.edgeEvents (.dispatcher order) =
          [.settled message.source message.index] := by
        simp only [edgeEvents, at_]
        rw [if_pos ⟨by rw [value]; rfl, quiet, holds⟩]
      rw [events]
      simp only [List.foldl_cons, List.foldl_nil, EdgeView.apply, said,
        EdgeView.enqueue]
      ext1
      · rfl
      · rfl
      · funext i
        simp [edgeView, EdgeView.arrivals, absent]

/-- An id has its turn in a broadcast. -/
theorem edgeView_turn {message : Tagged RouterMessage} {heartbeat : Heartbeat}
    {edgeId : String} {tx : StreamId} {rest order : List (String × StreamId)}
    {sentCount : Nat} {delivered : Bool}
    (reachable : system.Reachable state) (hears : Hears inputs state)
    (at_ : state.dispatcher =
      .broadcasting message heartbeat ((edgeId, tx) :: rest) sentCount)
    (isOpen : (state.edges.streams tx).outbound.isOpen = delivered)
    (served : Side.Served state.edges next.edges)
    (accepted : ∀ j, (next.edges.streams j).outbound.accepted =
      (state.edges.streams j).outbound.accepted ++
        if delivered = true ∧ j = tx then
          [message.as { edgeId, payload := some (.heartbeat heartbeat) }]
        else []) :
    next.edgeView = (state.edgeEvents (.dispatcher order)).foldl
      (EdgeView.apply inputs) state.edgeView := by
  have route := routed reachable
  rcases hears.broadcasts reachable at_ with ⟨toEdge, said, carries⟩
  simp only [Routed, at_] at route
  simp only [edgeEvents, at_, List.foldl_cons, List.foldl_nil, EdgeView.apply,
    said, Option.bind_some, carries]
  apply edgeView_enqueue _ isOpen served accepted
  exact route.2 (edgeId, tx) List.mem_cons_self

/-- A step of the dispatcher settles one message for an edge, serves one id, or
is silent. -/
theorem edgeView_dispatch {order : List (String × StreamId)}
    (reachable : system.Reachable state) (hears : Hears inputs state)
    (stepped : DispatchStep state order next) :
    next.edgeView = (state.edgeEvents (.dispatcher order)).foldl
      (EdgeView.apply inputs) state.edgeView := by
  have route := routed reachable
  have served := stepped.served.1
  cases stepped with
  | receive message central idle received =>
      simp only [edgeEvents, idle, List.foldl_nil]
      apply edgeView_same served.value
      intro i
      simp only [State.route]
      split <;> rfl
  | lookUpEdge message destination toEdge edges found at_ value plain looked =>
      apply edgeView_lookUp reachable hears at_ value plain looked
      have map := served.value
      cases found <;> exact map
  | lookUpManager message toManager manager found at_ value looked =>
      rw [edgeEvents_elsewhere (by simp [value, tableLock]) (Or.inl at_)]
      apply edgeView_same served.value
      intro i
      cases found <;> rfl
  | lookUpData message toData data found at_ value looked =>
      rw [edgeEvents_elsewhere (by simp [value, tableLock]) (Or.inl at_)]
      apply edgeView_same served.value
      intro i
      cases found <;> rfl
  | startBroadcast message destination toEdge heartbeat lock at_ value beat
      acquired iterates =>
      simp only [edgeEvents, at_, value, heartbeatOf, beat, reduceCtorEq,
        false_and, and_false, if_false, List.foldl_nil]
      exact edgeView_same served.value (fun _ => rfl)
  | sendEdge message destination toEdge tx edges delivered at_ value sent =>
      rcases Side.accepted_unicast sent with ⟨isOpen, accepted⟩
      have inHand : message ∈ state.dispatcher.inHand := by
        simp [at_, Dispatcher.inHand]
      rcases hears.toEdge reachable inHand value with ⟨said, address⟩
      simp only [Routed, at_, value] at route
      simp only [edgeEvents, at_, value, tableLock, if_true, List.foldl_cons,
        List.foldl_nil, EdgeView.apply, said, address]
      exact edgeView_enqueue route.2 isOpen served accepted
  | sendManager message toManager tx manager delivered at_ value sent =>
      rw [edgeEvents_elsewhere (by simp [value, tableLock]) (Or.inr ⟨tx, at_⟩)]
      exact edgeView_same served.value (fun _ => rfl)
  | sendData message toData tx data delivered at_ value sent =>
      rw [edgeEvents_elsewhere (by simp [value, tableLock]) (Or.inr ⟨tx, at_⟩)]
      exact edgeView_same served.value (fun _ => rfl)
  | broadcastSent message heartbeat edgeId tx rest sentCount edges at_ sent =>
      rcases Side.accepted_deliver sent with ⟨isOpen, accepted⟩
      apply edgeView_turn reachable hears at_ isOpen served
      simpa using accepted
  | broadcastClosed message heartbeat edgeId tx rest sentCount at_ closed =>
      apply edgeView_turn reachable hears at_ closed served
      simp
  | finishBroadcast message heartbeat sentCount at_ =>
      simp only [edgeEvents, at_, List.foldl_nil]
      exact edgeView_same served.value (fun _ => rfl)

/-- One step of the router is what its events do to the edge-bound part. -/
theorem edgeView_step (reachable : system.Reachable state)
    (hears : Hears inputs state)
    (stepped : system.step state action = some next) :
    next.edgeView = (state.edgeEvents action).foldl (EdgeView.apply inputs)
      state.edgeView := by
  cases step_cases stepped with
  | edge i act => exact edgeView_edge reachable stepped
  | manager | data | http => exact edgeView_same rfl (fun _ => rfl)
  | dispatcher order next inner =>
      exact edgeView_dispatch reachable hears inner

/-- A run of the router refines the run of its events. -/
theorem edgeView_run {schedule : List Action}
    (ran : system.runFrom start schedule = some last)
    (hears : Hears inputs last) :
    last.edgeView = (system.trace edgeEvents start schedule).foldl
      (EdgeView.apply inputs) start.edgeView := by
  have refined := System.run_traces edgeEvents
    (fun state events => Hears inputs state →
      state.edgeView = events.foldl (EdgeView.apply inputs) start.edgeView)
    ?_ System.Reachable.start (fun _ => rfl) ran
  · exact refined hears
  · intro state next action events reached refines stepped hearsNext
    have hears := hearsNext.before reached stepped
    rw [List.foldl_append, ← refines hears]
    exact edgeView_step reached hears stepped

end State

/-! ## Two runs -/

/-- Neighbours whose order is left open: the turns of one broadcast, which follow
the iteration order of the map, and a dropped receiver next to another one or to
a write. -/
def EdgeEvent.Independent : EdgeEvent → EdgeEvent → Prop
  | .served source index _, .served source' index' _ =>
      source = source' ∧ index = index'
  | .dropped _, .dropped _ | .dropped _, .announced _ _
  | .dropped _, .unregistered _ _ | .announced _ _, .dropped _
  | .unregistered _ _, .dropped _ => True
  | _, _ => False

/-- The turn of an id in a broadcast. -/
def EdgeEvent.isServed : EdgeEvent → Bool
  | .served _ _ _ => true
  | _ => false

/-- The turns of broadcasts change places among themselves only. -/
theorem EdgeEvent.Independent.isServed_eq {event other : EdgeEvent}
    (independent : event.Independent other) :
    event.isServed = other.isServed := by
  cases event <;> cases other <;> first | rfl | cases independent

/-- Two messages that come from the same message of the same session: two copies
of one heartbeat. -/
def SameDispatch (left right : Tagged ToEdge) : Prop :=
  left.source = right.source ∧ left.index = right.index

namespace EdgeView

/-- The same routes and open channels, and inboxes that differ in the order of
the copies of a heartbeat at most. -/
structure Similar (left right : EdgeView) : Prop where
  edges : left.edges = right.edges
  isOpen : left.isOpen = right.isOpen
  inbox : ∀ i, Reordered SameDispatch (left.inbox i) (right.inbox i)

variable {view left right : EdgeView} {inputs : Inputs}

theorem Similar.refl (view : EdgeView) : Similar view view :=
  ⟨rfl, rfl, fun _ => .refl _⟩

theorem Similar.trans {middle : EdgeView} (first : Similar left middle)
    (second : Similar middle right) : Similar left right where
  edges := first.edges.trans second.edges
  isOpen := first.isOpen.trans second.isOpen
  inbox i := .trans (first.inbox i) (second.inbox i)

theorem Similar.enqueue (similar : Similar left right) (edgeId : String)
    (message : Tagged ToEdge) :
    Similar (left.enqueue edgeId message) (right.enqueue edgeId message) where
  edges := similar.edges
  isOpen := similar.isOpen
  inbox i := by
    simp only [EdgeView.enqueue, arrivals, similar.edges, similar.isOpen]
    exact (similar.inbox i).append _

theorem Similar.apply (similar : Similar left right) (event : EdgeEvent) :
    Similar (left.apply inputs event) (right.apply inputs event) := by
  cases event with
  | announced i edgeId =>
      exact ⟨by simp only [EdgeView.apply, similar.edges], similar.isOpen,
        similar.inbox⟩
  | unregistered i edgeId =>
      exact ⟨by simp only [EdgeView.apply, similar.edges], similar.isOpen,
        similar.inbox⟩
  | dropped i =>
      exact ⟨similar.edges, by simp only [EdgeView.apply, similar.isOpen],
        similar.inbox⟩
  | settled source index =>
      simp only [EdgeView.apply]
      split
      · exact similar.enqueue _ _
      · exact similar
  | served source index edgeId =>
      simp only [EdgeView.apply]
      split
      · exact similar.enqueue _ _
      · exact similar

theorem arrivals_eq (view : EdgeView) (edgeId : String)
    (message : Tagged ToEdge) (i : StreamId) :
    view.arrivals edgeId message i = [message] ∨
      view.arrivals edgeId message i = [] := by
  simp only [arrivals]
  split
  · exact Or.inl rfl
  · exact Or.inr rfl

/-- The order of two copies of one heartbeat is all that changes. -/
theorem similar_enqueue {first second : String} {message other : Tagged ToEdge}
    (same : SameDispatch message other) :
    Similar ((view.enqueue first message).enqueue second other)
      ((view.enqueue second other).enqueue first message) where
  edges := rfl
  isOpen := rfl
  inbox i := by
    change Reordered SameDispatch
      ((view.inbox i ++ view.arrivals first message i) ++
        view.arrivals second other i)
      ((view.inbox i ++ view.arrivals second other i) ++
        view.arrivals first message i)
    rcases view.arrivals_eq first message i with here | none
    · rcases view.arrivals_eq second other i with also | none
      · rw [here, also, List.append_assoc, List.append_assoc]
        exact .swap (view.inbox i) [] same
      · rw [none, List.append_nil, List.append_nil]
        exact .refl _
    · rw [none, List.append_nil, List.append_nil]
      exact .refl _

/-- The order of a dropped receiver and of a write next to it changes nothing. -/
theorem apply_comm {event other : EdgeEvent}
    (independent : event.Independent other) (single : event.isServed = false) :
    (view.apply inputs event).apply inputs other =
      (view.apply inputs other).apply inputs event := by
  cases event with
  | dropped i =>
      cases other with
      | dropped j =>
          simp only [EdgeView.apply]
          by_cases same : i = j
          · rw [same]
          · rw [Function.update_comm same]
      | announced | unregistered => rfl
      | settled | served => cases independent
  | announced i edgeId | unregistered i edgeId =>
      cases other with
      | dropped => rfl
      | _ => cases independent
  | settled source index => cases other <;> cases independent
  | served source index edgeId => cases single

theorem similar_of_independent {event other : EdgeEvent}
    (independent : event.Independent other) :
    Similar ((view.apply inputs event).apply inputs other)
      ((view.apply inputs other).apply inputs event) := by
  cases event with
  | served source index edgeId =>
      cases other with
      | served source' index' edgeId' =>
          rcases independent with ⟨rfl, rfl⟩
          simp only [EdgeView.apply]
          split
          · exact similar_enqueue ⟨rfl, rfl⟩
          · exact .refl _
      | _ => cases independent
  | dropped | announced | unregistered | settled =>
      rw [apply_comm independent rfl]
      exact .refl _

/-- Every message has the payload of the session's message it comes from. -/
def Genuine (inputs : Inputs) (view : EdgeView) : Prop :=
  ∀ i, ∀ message ∈ view.inbox i, ∃ toEdge,
    inputs.toEdge message.source message.index = some toEdge ∧
      message.value.payload = toEdge.payload

theorem Genuine.enqueue (genuine : Genuine inputs view) (edgeId : String)
    {message : Tagged ToEdge} {toEdge : ToEdge}
    (said : inputs.toEdge message.source message.index = some toEdge)
    (payload : message.value.payload = toEdge.payload) :
    Genuine inputs (view.enqueue edgeId message) := by
  intro i other member
  simp only [EdgeView.enqueue, List.mem_append] at member
  rcases member with earlier | this
  · exact genuine i other earlier
  · rcases view.arrivals_eq edgeId message i with here | none
    · rw [here, List.mem_singleton] at this
      subst this
      exact ⟨toEdge, said, payload⟩
    · rw [none] at this
      cases this

theorem Genuine.apply (genuine : Genuine inputs view) (event : EdgeEvent) :
    Genuine inputs (view.apply inputs event) := by
  cases event with
  | announced | unregistered | dropped => exact genuine
  | settled source index =>
      simp only [EdgeView.apply]
      split
      · rename_i toEdge said
        exact genuine.enqueue _ said rfl
      · exact genuine
  | served source index edgeId =>
      simp only [EdgeView.apply]
      split
      · rename_i heartbeat carries
        rcases Option.bind_eq_some_iff.mp carries with ⟨toEdge, said, beat⟩
        apply genuine.enqueue _ said
        rcases toEdge with ⟨destination, payload⟩
        simp only [ToEdge.heartbeat?] at beat
        split at beat <;> cases beat
        rfl
      · exact genuine

theorem Genuine.foldl (genuine : Genuine inputs view)
    (events : List EdgeEvent) :
    Genuine inputs (events.foldl (EdgeView.apply inputs) view) := by
  induction events generalizing view with
  | nil => exact genuine
  | cons event events ih => exact ih (genuine.apply event)

end EdgeView

namespace State

variable {schedule schedule' : List Action} {last last' : State}

/-- Everything that a session sent by the end of a run. -/
def said (state : State) : Inputs where
  manager session := (state.manager.streams session).sent
  data session := (state.data.streams session).sent

theorem hears_said {state : State} (reachable : system.Reachable state) :
    Hears state.said state where
  manager session :=
    ((slotSidesWF reachable).1.streams session).inbound.received_prefix_sent
  data session :=
    ((slotSidesWF reachable).2.streams session).inbound.received_prefix_sent

/-- Two runs that may differ in the payloads of the edges, in the alerts posted,
and in everything that is neither a write to the edge map, nor a dropped receiver
of an edge, nor the settling of a message for an edge. -/
structure SameEnvironment (schedule schedule' : List Action)
    (last last' : State) : Prop where
  manager : ∀ session, (last.manager.streams session).sent =
    (last'.manager.streams session).sent
  data : ∀ session, (last.data.streams session).sent =
    (last'.data.streams session).sent
  edgeIds : ∀ i, (last.edges.streams i).sent.map FromEdge.edgeId =
    (last'.edges.streams i).sent.map FromEdge.edgeId
  order : Reordered EdgeEvent.Independent
    (system.trace edgeEvents start schedule)
    (system.trace edgeEvents start schedule')

theorem SameEnvironment.said_eq
    (same : SameEnvironment schedule schedule' last last') :
    last.said = last'.said := by
  simp only [said, Inputs.mk.injEq]
  exact ⟨funext same.manager, funext same.data⟩

/-- Two copies of one heartbeat under one id are the same message. -/
theorem eq_of_sameDispatch (ran : system.runFrom start schedule = some last)
    {i : StreamId}
    (single : ∀ edgeId ∈ announcedIds (last.edges.streams i).received,
      ∀ other ∈ announcedIds (last.edges.streams i).received, edgeId = other)
    {left right : Tagged ToEdge}
    (first : left ∈ (last.edges.streams i).outbound.accepted)
    (second : right ∈ (last.edges.streams i).outbound.accepted)
    (same : SameDispatch left right) : left = right := by
  have reachable : system.Reachable last := ⟨schedule, ran⟩
  have genuine : EdgeView.Genuine last.said last.edgeView := by
    rw [edgeView_run ran (hears_said reachable)]
    exact EdgeView.Genuine.foldl (fun _ _ member => by cases member) _
  rcases genuine i left first with ⟨toEdge, said, payload⟩
  rcases genuine i right second with ⟨toEdge', said', payload'⟩
  rw [same.1, same.2, said'] at said
  cases said
  have ids := single _ (edgeTraffic reachable i left first).announced
    _ (edgeTraffic reachable i right second).announced
  rcases left with ⟨source, index, edgeId, content⟩
  rcases right with ⟨source', index', edgeId', content'⟩
  rcases same with ⟨rfl, rfl⟩
  cases ids
  cases payload.trans payload'.symm
  rfl

/-- Steps of the dispatcher alone change neither what was sent nor what is
told to whom. -/
theorem served_of_dispatches {state last : State}
    {orders : List (List (String × StreamId))}
    (ran : system.runFrom state (orders.map .dispatcher) = some last) :
    Side.Served state.edges last.edges ∧
      Side.Served state.manager last.manager ∧
      Side.Served state.data last.data := by
  induction orders generalizing state with
  | nil =>
      cases ran
      exact ⟨.refl _, .refl _, .refl _⟩
  | cons order orders ih =>
      rcases (system.runFrom_cons_eq_some).mp ran with ⟨next, stepped, ran⟩
      cases step_cases stepped with
      | dispatcher _ _ inner =>
          rcases inner.served with ⟨edges, manager, data, _⟩
          rcases ih ran with ⟨edges', manager', data'⟩
          exact ⟨edges.trans edges', manager.trans manager', data.trans data'⟩

theorem sameEnvironment_of_dispatches {state : State}
    {orders orders' : List (List (String × StreamId))}
    (ran : system.runFrom state (orders.map .dispatcher) = some last)
    (ran' : system.runFrom state (orders'.map .dispatcher) = some last')
    (order : Reordered EdgeEvent.Independent
      (system.trace edgeEvents start schedule)
      (system.trace edgeEvents start schedule')) :
    SameEnvironment schedule schedule' last last' := by
  rcases served_of_dispatches ran with ⟨edges, manager, data⟩
  rcases served_of_dispatches ran' with ⟨edges', manager', data'⟩
  refine ⟨fun i => ?_, fun i => ?_, fun i => ?_, order⟩
  · rw [manager.sent, manager'.sent]
  · rw [data.sent, data'.sent]
  · rw [edges.sent, edges'.sent]

/-- Stream 0 has registered two ids, and the dispatcher has a heartbeat of Data
session 0. -/
def twoIds : List Action :=
  [.edge 0 .connect, .edge 0 (.client (.send (announcement "a"))),
    .edge 0 .task, .edge 0 .task,
    .edge 0 (.client (.send (announcement "b"))), .edge 0 .task,
    .edge 0 .task, .data 0 .connect, .data 0 .task,
    .data 0 (.client (.send ⟨some (.heartbeat ⟨none, true⟩)⟩)), .data 0 .task,
    .data 0 .task, .dispatcher []]

/-- The two turns of the broadcast, in either order. -/
def turnsInOrder (order : List (String × StreamId)) : List Action :=
  [order, [], []].map .dispatcher

/-- The two runs have the same environment and serve stream 0 in the two
orders. -/
theorem sameEnvironment_twoIds :
    ∃ last last',
      system.runFrom start (twoIds ++ turnsInOrder [("a", 0), ("b", 0)]) =
        some last ∧
      system.runFrom start (twoIds ++ turnsInOrder [("b", 0), ("a", 0)]) =
        some last' ∧
      SameEnvironment (twoIds ++ turnsInOrder [("a", 0), ("b", 0)])
        (twoIds ++ turnsInOrder [("b", 0), ("a", 0)]) last last' ∧
      (last.edges.streams 0).outbound.accepted.map
        (fun message => message.value.edgeId) = ["a", "b"] ∧
      (last'.edges.streams 0).outbound.accepted.map
        (fun message => message.value.edgeId) = ["b", "a"] := by
  obtain ⟨state, last, last', ran, ran', full, full', events, events', told,
      told'⟩ : ∃ state last last',
      system.runFrom state (turnsInOrder [("a", 0), ("b", 0)]) = some last ∧
      system.runFrom state (turnsInOrder [("b", 0), ("a", 0)]) = some last' ∧
      system.runFrom start (twoIds ++ turnsInOrder [("a", 0), ("b", 0)]) =
        some last ∧
      system.runFrom start (twoIds ++ turnsInOrder [("b", 0), ("a", 0)]) =
        some last' ∧
      system.trace edgeEvents start
          (twoIds ++ turnsInOrder [("a", 0), ("b", 0)]) =
        [.announced 0 "a", .announced 0 "b", .served (.data 0) 0 "a",
          .served (.data 0) 0 "b"] ∧
      system.trace edgeEvents start
          (twoIds ++ turnsInOrder [("b", 0), ("a", 0)]) =
        [.announced 0 "a", .announced 0 "b", .served (.data 0) 0 "b",
          .served (.data 0) 0 "a"] ∧
      (last.edges.streams 0).outbound.accepted.map
        (fun message => message.value.edgeId) = ["a", "b"] ∧
      (last'.edges.streams 0).outbound.accepted.map
        (fun message => message.value.edgeId) = ["b", "a"] :=
    ⟨(system.runFrom start twoIds).get rfl, _, _, rfl, rfl, rfl, rfl, rfl, rfl,
      rfl, rfl⟩
  refine ⟨last, last', full, full', ?_, told, told'⟩
  apply sameEnvironment_of_dispatches ran ran'
  rw [events, events']
  exact Reordered.swap
    [EdgeEvent.announced 0 "a", EdgeEvent.announced 0 "b"] [] ⟨rfl, rfl⟩

/-- What the edges are told is the same in both runs, up to the order in which
one heartbeat reaches the ids of one stream. It is exactly the same for a stream
that announced one id at most, and for all streams if the broadcasts serve the ids
in the same order. -/
theorem edgesUnaffected (ran : system.runFrom start schedule = some last)
    (ran' : system.runFrom start schedule' = some last')
    (same : SameEnvironment schedule schedule' last last') (i : StreamId) :
    Reordered SameDispatch (last.edges.streams i).outbound.accepted
        (last'.edges.streams i).outbound.accepted ∧
      ((∀ edgeId ∈ announcedIds (last.edges.streams i).received,
          ∀ other ∈ announcedIds (last.edges.streams i).received,
          edgeId = other) →
        (last.edges.streams i).outbound.accepted =
          (last'.edges.streams i).outbound.accepted) ∧
      ((system.trace edgeEvents start schedule).filter EdgeEvent.isServed =
          (system.trace edgeEvents start schedule').filter EdgeEvent.isServed →
        (last.edges.streams i).outbound.accepted =
          (last'.edges.streams i).outbound.accepted) := by
  have view := edgeView_run ran (hears_said ⟨schedule, ran⟩)
  have view' := edgeView_run ran' (hears_said ⟨schedule', ran'⟩)
  rw [← same.said_eq] at view'
  have similar : EdgeView.Similar last.edgeView last'.edgeView := by
    rw [view, view']
    exact same.order.foldl EdgeView.Similar.refl EdgeView.Similar.trans
      (fun event similar => similar.apply event)
      (fun _ independent => EdgeView.similar_of_independent independent) _
  have reordered := similar.inbox i
  refine ⟨reordered, fun single => ?_, fun turns => ?_⟩
  · exact reordered.eq_of_rigid fun left first right second =>
      eq_of_sameDispatch ran single first second
  · have order := same.order.outside
      (fun _ _ independent => independent.isServed_eq) turns
    have views : last.edgeView = last'.edgeView := by
      rw [view, view']
      exact order.foldl (fun _ => rfl) Eq.trans (fun _ same => by rw [same])
        (fun _ independent => EdgeView.apply_comm independent.1 independent.2) _
    exact congrFun (congrArg EdgeView.inbox views) i

theorem edgesUnaffected_twoIds :
    ∃ last last',
      system.runFrom start (twoIds ++ turnsInOrder [("a", 0), ("b", 0)]) =
        some last ∧
      system.runFrom start (twoIds ++ turnsInOrder [("b", 0), ("a", 0)]) =
        some last' ∧
      Reordered SameDispatch (last.edges.streams 0).outbound.accepted
        (last'.edges.streams 0).outbound.accepted := by
  rcases sameEnvironment_twoIds with ⟨last, last', ran, ran', same, _⟩
  exact ⟨last, last', ran, ran', (edgesUnaffected ran ran' same 0).1⟩

/-- Two runs that differ only in the order in which the broadcast went through
the map: stream 0 gets its two copies in that order. -/
theorem not_edgesUnaffected :
    ¬∀ {schedule schedule' : List Action} {last last' : State},
      system.runFrom start schedule = some last →
      system.runFrom start schedule' = some last' →
      SameEnvironment schedule schedule' last last' →
      ∀ i, (last.edges.streams i).outbound.accepted =
        (last'.edges.streams i).outbound.accepted := by
  intro unaffected
  rcases sameEnvironment_twoIds with ⟨last, last', ran, ran', same, told, told'⟩
  rw [unaffected ran ran' same 0, told'] at told
  exact absurd told (by decide)

end State

end IotRouter.Router
