import IotRouter.Runtime.Broker
import IotRouter.Router.Noninterference

/-!
# The router is a broker

What the whole router is for, with its tasks, awaits and locks left out: a
broker with one queue. The table has a key for every edge, one for the Manager
and one for Data; a heartbeat is for every edge of the table. Every run of the
router, seen through the events of its steps, is a run of that broker, and the
state of the broker at its end is what the state of the router amounts to.

The broker's queue holds the message the dispatcher works on until it is done
with it. A message counts as delivered when its lookup finds no entry, or else
when its send is over: the read guard keeps the entry until then.
-/

namespace IotRouter.Router

open IotRouter.Grpc IotRouter.Https IotRouter.Runtime

/-! ## The directory -/

/-- The contents of the three locks. -/
structure Table where
  edges : EdgeMap
  manager : Slot
  data : Slot

inductive Key where
  | edge (edgeId : String)
  | manager
  | data
  deriving DecidableEq, Repr

/-- A write to the table. -/
inductive Change where
  | announced (stream : StreamId) (edgeId : String)
  | unregistered (edgeId : String)
  | manager (slot : Slot)
  | data (slot : Slot)
  deriving DecidableEq, Repr

abbrev RouterEvent := BrokerEvent Change Key Client (Tagged RouterMessage)
abbrev RouterBroker := Broker Table Key Client (Tagged RouterMessage)

def directory : Directory Table Change Key Client (Tagged RouterMessage) where
  alter table
    | .announced i edgeId =>
        { table with edges := (ensureEdgeRegistered table.edges edgeId i).1 }
    | .unregistered edgeId =>
        { table with edges := unregisterEdge table.edges edgeId }
    | .manager slot => { table with manager := slot }
    | .data slot => { table with data := slot }
  holder table
    | .edge edgeId => (table.edges.lookup edgeId).map .edge
    | .manager => table.manager.map .manager
    | .data => table.data.map .data
  keys table := table.edges.keys.map .edge
  target message :=
    match State.heartbeatOf message.value, message.value with
    | some _, _ => none
    | none, .toEdge destination _ => some (.edge destination)
    | none, .toManager _ => some .manager
    | none, .toData _ => some .data
  copy message key :=
    match State.heartbeatOf message.value, key with
    | some heartbeat, .edge edgeId => message.as
        (.toEdge edgeId { edgeId, payload := some (.heartbeat heartbeat) })
    | _, _ => message

theorem target_of_heartbeat {message : Tagged RouterMessage}
    {heartbeat : Heartbeat}
    (carries : State.heartbeatOf message.value = some heartbeat) :
    directory.target message = none := by
  simp [directory, carries]

/-- Two of the locks can be written while the third is read. -/
theorem spares_manager (table : Table) (slot : Slot) :
    directory.Spares table (.manager slot) :=
  ⟨rfl, fun key member => by
    rcases List.mem_map.mp member with ⟨_, _, rfl⟩
    rfl⟩

theorem spares_data (table : Table) (slot : Slot) :
    directory.Spares table (.data slot) :=
  ⟨rfl, fun key member => by
    rcases List.mem_map.mp member with ⟨_, _, rfl⟩
    rfl⟩

/-! ## Open channels of sessions -/

section Sessions

variable {In Out : Type} {service : SlotService In} {central central' : Central}
variable {side side' : SlotSide In Out} {i : StreamId} {action : StreamAction In}

/-- The channel of a session that has not connected is open. -/
def IdleOpen (side : SlotSide In Out) : Prop :=
  ∀ i, (side.streams i).task = .idle →
    (side.streams i).outbound.isOpen = true

theorem IdleOpen.step (opened : IdleOpen side)
    (stepped : SessionStep service central side i action central' side') :
    IdleOpen side' := by
  intro j idle
  by_cases own : j = i
  · subst own
    exact absurd idle stepped.task_ne_idle
  · rw [stepped.streams_of_ne own] at idle ⊢
    exact opened j idle

theorem IdleOpen.served (opened : IdleOpen side)
    (served : Side.Served side side') : IdleOpen side' := by
  intro j idle
  rcases served.streams j with ⟨outbound, same, isOpen, _⟩
  rw [served.task] at idle
  rw [same]
  exact isOpen.trans (opened j idle)

/-- The step takes the receiver of the session's channel away: its client drops
it, or the handler that owns it is cancelled. -/
def TakesReceiver : StreamAction In → Bool
  | .client .dropReceiver | .abort => true
  | _ => false

theorem SessionStep.isOpen [DecidableEq In] (opened : IdleOpen side)
    (stepped : SessionStep service central side i action central' side')
    (j : StreamId) :
    (side'.streams j).outbound.isOpen =
      if TakesReceiver action = true ∧ j = i then false
      else (side.streams j).outbound.isOpen := by
  by_cases own : j = i
  · subst own
    cases stepped with
    | connect idle =>
        simp [Stream.fresh, Channel.empty, opened _ idle, TakesReceiver]
    | abort waiting => simp [TakesReceiver, Side.setStream]
    | client act stream live acted =>
        rw [Side.setStream_self, Stream.client_isOpen acted]
        cases act <;> simp [TakesReceiver]
    | register | read | leave | forward | discard | unregister =>
        simp [TakesReceiver]
  · rw [stepped.streams_of_ne own, if_neg (fun both => own both.2)]

end Sessions

namespace State

variable {state next last : State} {action : Action}

theorem idleOpen (reachable : system.Reachable state) :
    IdleOpen state.manager ∧ IdleOpen state.data := by
  apply System.invariant
    (fun state : State => IdleOpen state.manager ∧ IdleOpen state.data)
    ?_ ?_ reachable
  · exact ⟨fun _ _ => rfl, fun _ _ => rfl⟩
  · intro state next action _ opened stepped
    constructor
    · rcases step_manager stepped with ⟨_, _, _, inner⟩ | ⟨_, served⟩
      · exact opened.1.step inner
      · exact opened.1.served served
    · rcases step_data stepped with ⟨_, _, _, inner⟩ | ⟨_, served⟩
      · exact opened.2.step inner
      · exact opened.2.served served

/-! ## What the router amounts to -/

def table (state : State) : Table where
  edges := state.edges.lock.value
  manager := state.manager.lock.value
  data := state.data.lock.value

/-- The keys a broadcast has still to serve. -/
def turns (state : State) : Option (List Key) :=
  match state.dispatcher with
  | .broadcasting _ _ rest _ => some (rest.map fun entry => .edge entry.1)
  | _ => none

def broker (state : State) : RouterBroker where
  table := state.table
  isOpen := state.listens
  settled := state.processed
  waiting := state.dispatcher.inHand ++ state.central.queue
  turns := state.turns
  inbox := state.outbox

/-- The events of a session's step. -/
def sessionEvents {In Out : Type} (client : StreamId → Client)
    (change : Slot → Change) (side : SlotSide In Out) (i : StreamId) :
    StreamAction In → List RouterEvent
  | .task =>
      match (side.streams i).task with
      | .registering => [.altered (change (some i))]
      | .forwarding message => [.published message]
      | .unregistering => [.altered (change none)]
      | _ => []
  | .client .dropReceiver | .abort =>
      if (side.streams i).outbound.isOpen then [.dropped (client i)] else []
  | _ => []

/-- The events of the dispatcher's step. -/
def dispatchEvents (state : State) (order : List (String × StreamId)) :
    List RouterEvent :=
  match state.dispatcher with
  | .receiving => []
  | .lookingUp message =>
      match heartbeatOf message.value, state.held message.value with
      | some _, _ => [.began message (order.map fun entry => .edge entry.1)]
      | none, none => [.delivered message]
      | none, some _ => []
  | .sending message _ => [.delivered message]
  | .broadcasting message _ ((edgeId, _) :: _) _ =>
      [.served message (.edge edgeId)]
  | .broadcasting message _ [] _ => [.finished message]

/-- The events of a step. -/
def brokerEvents (state : State) : Action → List RouterEvent
  | .edge i .task =>
      match (state.edges.streams i).task.pc with
      | .registering _ msg => [.altered (.announced i msg.edgeId)]
      | .forwarding message => [.published message]
      | .unregistering edgeId => [.altered (.unregistered edgeId)]
      | _ => []
  | .edge i (.client .dropReceiver) => [.dropped (.edge i)]
  | .edge _ _ => []
  | .manager i act => sessionEvents .manager .manager state.manager i act
  | .data i act => sessionEvents .data .data state.data i act
  | .http i .task =>
      match (state.http i).task with
      | .sending message =>
          [.published { source := .http i, index := 0, value := message }]
      | _ => []
  | .http _ _ => []
  | .dispatcher order => state.dispatchEvents order

/-- A message for one key is for the key whose holder `send_to_*` looks up. -/
theorem exists_target {message : Tagged RouterMessage}
    (plain : heartbeatOf message.value = none) (state : State) :
    ∃ key, directory.target message = some key ∧
      directory.holder state.table key = state.entry message.value := by
  simp only [directory, plain]
  cases value : message.value with
  | toEdge destination toEdge => exact ⟨.edge destination, rfl, rfl⟩
  | toManager toManager => exact ⟨.manager, rfl, rfl⟩
  | toData toData => exact ⟨.data, rfl, rfl⟩

/-- The broker, started with an empty table. -/
def brokerSystem : System RouterBroker RouterEvent :=
  directory.broker { edges := ∅, manager := none, data := none }

/-! ## Steps of the sources -/

/-- What a step of a source is to the broker: nothing, or one event. -/
inductive SourceEffect (state next : State) : List RouterEvent → Prop where
  | quiet (table : next.table = state.table)
      (listens : next.listens = state.listens)
      (queue : next.central.queue = state.central.queue) :
      SourceEffect state next []
  | altered (change : Change)
      (spares : state.turns = none ∨ directory.Spares state.table change)
      (table : next.table = directory.alter state.table change)
      (listens : next.listens = state.listens)
      (queue : next.central.queue = state.central.queue) :
      SourceEffect state next [.altered change]
  | dropped (client : Client) (open_ : state.listens client = true)
      (table : next.table = state.table)
      (listens : next.listens = Function.update state.listens client false)
      (queue : next.central.queue = state.central.queue) :
      SourceEffect state next [.dropped client]
  | published (message : Tagged RouterMessage)
      (table : next.table = state.table)
      (listens : next.listens = state.listens)
      (queue : next.central.queue = state.central.queue ++ [message]) :
      SourceEffect state next [.published message]

/-- A step that leaves the dispatcher and the outbound channels alone. -/
theorem SourceEffect.broker {events : List RouterEvent}
    (effect : SourceEffect state next events)
    (outbox : next.outbox = state.outbox)
    (dispatched : next.dispatched = state.dispatched)
    (dispatcher : next.dispatcher = state.dispatcher) :
    brokerSystem.runFrom state.broker events = some next.broker := by
  have processed : next.processed = state.processed :=
    congrArg (List.map Dispatch.message) dispatched
  have turns : next.turns = state.turns := by
    simp only [State.turns, dispatcher]
  have same : next.broker = { state.broker with
      table := next.table
      isOpen := next.listens
      waiting := state.dispatcher.inHand ++ next.central.queue } := by
    simp only [State.broker, outbox, processed, turns, dispatcher]
  rw [same]
  cases effect with
  | quiet table listens queue =>
      rw [table, listens, queue]
      rfl
  | altered change spares table listens queue =>
      rw [table, listens, queue, System.runFrom_singleton]
      exact if_pos spares
  | dropped client open_ table listens queue =>
      rw [table, listens, queue, System.runFrom_singleton]
      exact if_pos open_
  | published message table listens queue =>
      rw [table, listens, queue, System.runFrom_singleton,
        ← List.append_assoc]
      rfl

/-- While nobody reads the map, no broadcast is under way. -/
theorem turns_of_free (reachable : system.Reachable state)
    (free : state.edges.lock.readers = []) : state.turns = none := by
  simp only [turns]
  split
  · rename_i message heartbeat rest sentCount at_
    have holds : state.dispatcher.Holds .edges := by simp [at_]
    exact absurd free ((locked reachable).edges.readers_ne_nil holds)
  · rfl

theorem effect_edge {i : StreamId} {act : StreamAction FromEdge}
    {central : Central} {edges : EdgeSide} (reachable : system.Reachable state)
    (inner : EdgeStep state.central state.edges i act central edges) :
    SourceEffect state { state with central, edges }
      (state.brokerEvents (.edge i act)) := by
  have isOpen := inner.isOpen (idle_isOpen reachable i)
  have opens : act ≠ .client .dropReceiver →
      State.listens { state with central, edges } = state.listens := by
    intro keeps
    funext client
    cases client with
    | edge j => simpa [listens, keeps] using isOpen j
    | manager | data => rfl
  cases inner with
  | connect => exact .quiet rfl (opens (by simp)) rfl
  | client act stream live acted =>
      cases act with
      | dropReceiver =>
          have open_ : (state.edges.streams i).outbound.isOpen = true := by
            simp only [Stream.client, Option.ite_none_right_eq_some] at acted
            exact acted.1
          refine .dropped (.edge i) open_ rfl ?_ rfl
          funext client
          cases client with
          | edge j =>
              simpa [listens, Function.update_apply] using isOpen j
          | manager | data => simp [listens]
      | send | close | reset | drain =>
          exact .quiet rfl (opens (by simp)) rfl
  | register index msg lock pc written =>
      simp only [brokerEvents, pc]
      rcases RwLock.write_eq_some.mp written with ⟨free, _, _, rfl⟩
      exact .altered _ (Or.inl (turns_of_free reachable free)) rfl
        (opens (by simp)) rfl
  | unregister edgeId lock pc written =>
      simp only [brokerEvents, pc]
      rcases RwLock.write_eq_some.mp written with ⟨free, _, _, rfl⟩
      exact .altered _ (Or.inl (turns_of_free reachable free)) rfl
        (opens (by simp)) rfl
  | forward message central pc sent =>
      simp only [brokerEvents, pc]
      rcases Channel.send_eq_sent.mp sent with ⟨_, room, rfl⟩
      exact .published message rfl (opens (by simp)) rfl
  | discard message pc closed =>
      have isOpen := (pipeline reachable).isOpen
      rw [(Channel.send_eq_closed message).mp closed] at isOpen
      cases isOpen
  | skip msg rest pc =>
      simp only [brokerEvents, pc]
      exact .quiet rfl (opens (by simp)) rfl
  | read msg rest pc =>
      simp only [brokerEvents, pc]
      exact .quiet rfl (opens (by simp)) rfl
  | leave edgeId pc =>
      simp only [brokerEvents, pc]
      exact .quiet rfl (opens (by simp)) rfl
  | vanish pc =>
      simp only [brokerEvents, pc]
      exact .quiet rfl (opens (by simp)) rfl

/-- How the router shows one of its two sessions' sides to the broker. -/
structure Shows {In Out : Type} (state : State) (client : StreamId → Client)
    (side : SlotSide In Out) (next : State) (side' : SlotSide In Out)
    (change : Slot → Change) : Prop where
  injective : Function.Injective client
  listens : ∀ j, state.listens (client j) = (side.streams j).outbound.isOpen
  listens' : ∀ j, next.listens (client j) = (side'.streams j).outbound.isOpen
  others : ∀ other, (∀ j, other ≠ client j) →
    next.listens other = state.listens other
  spares : ∀ slot, directory.Spares state.table (change slot)
  altered : next.table = directory.alter state.table (change side'.lock.value)
  same : side'.lock.value = side.lock.value → next.table = state.table

theorem effect_session {In Out : Type} [DecidableEq In]
    {service : SlotService In} {side side' : SlotSide In Out}
    {client : StreamId → Client} {change : Slot → Change} {i : StreamId}
    {act : StreamAction In} {central : Central}
    (reachable : system.Reachable state) (opened : IdleOpen side)
    (inner : SessionStep service state.central side i act central side')
    (goesOn : next.central = central)
    (shows : Shows state client side next side' change) :
    SourceEffect state next (sessionEvents client change side i act) := by
  have isOpen := inner.isOpen opened
  have opens : TakesReceiver act = false → next.listens = state.listens := by
    intro keeps
    funext other
    by_cases here : ∃ j, other = client j
    · rcases here with ⟨j, rfl⟩
      rw [shows.listens, shows.listens', isOpen j, keeps]
      simp
    · exact shows.others other fun j same => here ⟨j, same⟩
  -- The receiver is gone at the end, whether or not it was there before.
  have closes : TakesReceiver act = true → next.table = state.table →
      next.central.queue = state.central.queue →
      SourceEffect state next (if (side.streams i).outbound.isOpen
        then [.dropped (client i)] else []) := by
    intro takes table queue
    have updated : next.listens =
        Function.update state.listens (client i) false := by
      funext other
      by_cases here : ∃ j, other = client j
      · rcases here with ⟨j, rfl⟩
        rw [shows.listens', isOpen j, takes]
        by_cases own : j = i
        · subst own
          simp
        · rw [if_neg (fun both => own both.2), Function.update_of_ne
            (fun same => own (shows.injective same)), shows.listens]
      · have apart : other ≠ client i := fun same => here ⟨i, same⟩
        rw [Function.update_of_ne apart]
        exact shows.others other fun j same => here ⟨j, same⟩
    split
    · rename_i open_
      exact .dropped (client i) ((shows.listens i).trans open_) table updated
        queue
    · rename_i gone
      refine .quiet table ?_ queue
      rw [updated, Function.update_eq_self_iff, shows.listens i]
      simpa using gone
  cases inner with
  | connect =>
      exact .quiet (shows.same rfl) (opens rfl) (congrArg _ goesOn)
  | abort => exact closes rfl (shows.same rfl) (congrArg _ goesOn)
  | client act stream live acted =>
      cases act with
      | dropReceiver => exact closes rfl (shows.same rfl) (congrArg _ goesOn)
      | send | close | reset | drain =>
          exact .quiet (shows.same rfl) (opens rfl) (congrArg _ goesOn)
  | register lock task written =>
      simp only [sessionEvents, task]
      rcases RwLock.write_eq_some.mp written with ⟨_, _, _, rfl⟩
      have table := shows.altered
      simp only [Side.setStream, service.register_eq] at table
      exact .altered _ (Or.inr (shows.spares _)) table (opens rfl)
        (congrArg _ goesOn)
  | unregister lock task written =>
      simp only [sessionEvents, task]
      rcases RwLock.write_eq_some.mp written with ⟨_, _, _, rfl⟩
      have table := shows.altered
      simp only [Side.setStream, service.unregister_eq] at table
      exact .altered _ (Or.inr (shows.spares _)) table (opens rfl)
        (congrArg _ goesOn)
  | forward message central task sent =>
      simp only [sessionEvents, task]
      rcases Channel.send_eq_sent.mp sent with ⟨_, room, rfl⟩
      exact .published message (shows.same rfl) (opens rfl) (congrArg _ goesOn)
  | discard message task closed =>
      have isOpen := (pipeline reachable).isOpen
      rw [(Channel.send_eq_closed message).mp closed] at isOpen
      cases isOpen
  | read msg rest task =>
      simp only [sessionEvents, task]
      exact .quiet (shows.same rfl) (opens rfl) (congrArg _ goesOn)
  | leave task =>
      simp only [sessionEvents, task]
      exact .quiet (shows.same rfl) (opens rfl) (congrArg _ goesOn)

theorem effect_http {i : Nat} {act : HttpAction} {central : Central}
    {request : HttpRequest} (reachable : system.Reachable state)
    (inner : HttpStep state.central (state.http i) i act central request) :
    SourceEffect state
      { state with central, http := Function.update state.http i request }
      (state.brokerEvents (.http i act)) := by
  cases inner with
  | accept | reject | timeout => exact .quiet rfl rfl rfl
  | send message central task sent =>
      simp only [brokerEvents, task]
      rcases Channel.send_eq_sent.mp sent with ⟨_, room, rfl⟩
      exact .published _ rfl rfl rfl
  | discard message task closed =>
      have isOpen := (pipeline reachable).isOpen
      rw [(Channel.send_eq_closed _).mp closed] at isOpen
      cases isOpen

/-- The step of a source is one event of the broker at most. -/
theorem broker_source (reachable : system.Reachable state)
    (stepped : system.step state action = some next)
    (other : ∀ order, action ≠ .dispatcher order) :
    brokerSystem.runFrom state.broker (state.brokerEvents action) =
      some next.broker := by
  rcases outbox_of_source (unused reachable) stepped other with
    ⟨outbox, dispatched⟩
  cases step_cases stepped with
  | edge i act central edges inner =>
      exact (effect_edge reachable inner).broker outbox dispatched rfl
  | manager i act central manager inner =>
      have shows : Shows state .manager state.manager
          { state with central, manager } manager .manager := by
        refine ⟨fun _ _ => Client.manager.inj, fun _ => rfl, fun _ => rfl, ?_,
          spares_manager _, rfl, fun same => ?_⟩
        · intro other elsewhere
          cases other with
          | manager j => exact absurd rfl (elsewhere j)
          | edge | data => rfl
        · simp only [State.table, same]
      exact (effect_session reachable (idleOpen reachable).1 inner rfl
        shows).broker outbox dispatched rfl
  | data i act central data inner =>
      have shows : Shows state .data state.data { state with central, data }
          data .data := by
        refine ⟨fun _ _ => Client.data.inj, fun _ => rfl, fun _ => rfl, ?_,
          spares_data _, rfl, fun same => ?_⟩
        · intro other elsewhere
          cases other with
          | data j => exact absurd rfl (elsewhere j)
          | edge | manager => rfl
        · simp only [State.table, same]
      exact (effect_session reachable (idleOpen reachable).2 inner rfl
        shows).broker outbox dispatched rfl
  | http i act central request inner =>
      exact (effect_http reachable inner).broker outbox dispatched rfl
  | dispatcher order => exact absurd rfl (other order)

/-! ## Steps of the dispatcher -/

/-- The client held for the key took the message. -/
theorem Gains.tell {client : Client} {message : Tagged RouterMessage}
    (gains : Gains state next client message) {key : Key}
    (held : directory.holder state.table key = some client)
    (hears : state.listens client = true) :
    next.outbox = (directory.tell state.broker key message).inbox := by
  funext other
  rw [gains other]
  by_cases here : other = client
  · subst here
    simp [Directory.tell, State.broker, held, hears]
  · have apart : client ≠ other := fun same => here same.symm
    simp [Directory.tell, State.broker, held, here, apart]

/-- Nobody is held for the key, or nobody who listens. -/
theorem tell_silent {key : Key} {message : Tagged RouterMessage}
    (same : next.outbox = state.outbox)
    (deaf : ∀ client, directory.holder state.table key = some client →
      state.listens client = false) :
    next.outbox = (directory.tell state.broker key message).inbox := by
  funext other
  rw [same]
  by_cases held : directory.holder state.table key = some other
  · simp [Directory.tell, State.broker, held, deaf other held]
  · simp [Directory.tell, State.broker, held]

/-- A settled message has been told under its key. -/
theorem Settled.tell {dispatch : Dispatch} {key : Key}
    (settled : Settled state next dispatch)
    (held : directory.holder state.table key =
      state.entry dispatch.message.value) :
    next.outbox =
      (directory.tell state.broker key dispatch.message).inbox := by
  cases settled with
  | enqueued client entry hears result gains =>
      exact gains.tell (held.trans entry) hears
  | notConnected entry result same =>
      apply tell_silent same
      intro client found
      cases (found.symm.trans held).trans entry
  | closed client entry deaf result same =>
      apply tell_silent same
      intro other found
      cases (found.symm.trans held).trans entry
      exact deaf

/-- The dispatcher changes neither the table nor who listens. -/
theorem DispatchStep.broker {order : List (String × StreamId)}
    (stepped : DispatchStep state order next) :
    next.broker = { state.broker with
      settled := next.processed
      waiting := next.dispatcher.inHand ++ next.central.queue
      turns := next.turns
      inbox := next.outbox } := by
  rcases stepped.served with ⟨edges, manager, data, _⟩
  have table : next.table = state.table := by
    simp only [State.table, edges.value, manager.value, data.value]
  have listens : next.listens = state.listens := by
    funext client
    cases client with
    | edge i =>
        rcases edges.streams i with ⟨outbound, same, isOpen, _⟩
        simp only [State.listens, same]
        exact isOpen
    | manager i =>
        rcases manager.streams i with ⟨outbound, same, isOpen, _⟩
        simp only [State.listens, same]
        exact isOpen
    | data i =>
        rcases data.streams i with ⟨outbound, same, isOpen, _⟩
        simp only [State.listens, same]
        exact isOpen
  simp only [State.broker, table, listens]

/-- The dispatcher is done with a message that is no heartbeat. -/
theorem broker_delivered {order : List (String × StreamId)}
    {message : Tagged RouterMessage} {result : DispatchResult}
    (reachable : system.Reachable state)
    (inner : DispatchStep state order next)
    (stepped : system.step state (.dispatcher order) = some next)
    (inHand : state.dispatcher.inHand = [message])
    (plain : heartbeatOf message.value = none) (idle : state.turns = none)
    (records : next.dispatched = state.dispatched ++ [⟨message, result⟩])
    (receives : next.dispatcher = .receiving)
    (central : next.central = state.central) :
    brokerSystem.runFrom state.broker [.delivered message] =
      some next.broker := by
  rcases exists_target plain state with ⟨key, target, held⟩
  have inbox := (settled_of_recorded reachable stepped records plain).2.tell held
  have oldest : state.broker.waiting.head? = some message := by
    simp [State.broker, inHand]
  rw [System.runFrom_singleton, inner.broker]
  change directory.step state.broker (.delivered message) = _
  simp only [Directory.step, target]
  have empty : next.dispatcher.inHand = [] := by rw [receives]; rfl
  have noTurns : next.turns = none := by simp only [State.turns, receives]
  rw [if_pos ⟨oldest, idle⟩, inbox]
  simp [Broker.settle, Directory.tell, State.broker, processed, records, inHand,
    empty, noTurns, central]

/-- The dispatcher has looked up a message that is no heartbeat. -/
theorem broker_lookUp {order : List (String × StreamId)} {after : State}
    {message : Tagged RouterMessage} {found : Option StreamId}
    (reachable : system.Reachable state)
    (inner : DispatchStep state order (after.finishLookUp message found))
    (stepped : system.step state (.dispatcher order) =
      some (after.finishLookUp message found))
    (at_ : state.dispatcher = .lookingUp message)
    (plain : heartbeatOf message.value = none)
    (entry : found = state.held message.value)
    (same : after.outbox = state.outbox)
    (records : after.dispatched = state.dispatched)
    (central : after.central = state.central) :
    brokerSystem.runFrom state.broker (state.dispatchEvents order) =
      some (after.finishLookUp message found).broker := by
  cases found with
  | some tx =>
      have silent : state.dispatchEvents order = [] := by
        simp [dispatchEvents, at_, plain, ← entry]
      have outbox : (after.finishLookUp message (some tx)).outbox =
        state.outbox := same
      rw [silent, inner.broker, outbox]
      simp [State.broker, finishLookUp, processed, records, central,
        Dispatcher.inHand, State.turns, at_]
  | none =>
      have settles : state.dispatchEvents order = [.delivered message] := by
        simp [dispatchEvents, at_, plain, ← entry]
      rw [settles]
      apply broker_delivered reachable inner stepped (by rw [at_]; rfl) plain
        (by simp only [State.turns, at_]) ?_ rfl central
      · exact .unicast (.error (notConnectedError message.value))
      · rw [← records]
        rfl

/-- The dispatcher has sent a message that is no heartbeat. -/
theorem broker_send {order : List (String × StreamId)} {after : State}
    {message : Tagged RouterMessage} {tx : StreamId} {delivered : Bool}
    (reachable : system.Reachable state)
    (inner : DispatchStep state order (after.finishSend message delivered))
    (stepped : system.step state (.dispatcher order) =
      some (after.finishSend message delivered))
    (at_ : state.dispatcher = .sending message tx)
    (records : after.dispatched = state.dispatched)
    (central : after.central = state.central) :
    brokerSystem.runFrom state.broker (state.dispatchEvents order) =
      some (after.finishSend message delivered).broker := by
  have route := routed reachable
  simp only [Routed, at_] at route
  have settles : state.dispatchEvents order = [.delivered message] := by
    simp [dispatchEvents, at_]
  rw [settles]
  apply broker_delivered reachable inner stepped (by rw [at_]; rfl) route.1
    (by simp only [State.turns, at_]) ?_ rfl central
  · exact .unicast
      (if delivered then .ok () else .error (closedError message.value))
  · rw [← records]
    rfl

/-- One key has its turn in a broadcast. -/
theorem broker_served {order : List (String × StreamId)}
    {message : Tagged RouterMessage} {heartbeat : Heartbeat} {edgeId : String}
    {tx : StreamId} {rest : List (String × StreamId)}
    {sentCount sentCount' : Nat} (inner : DispatchStep state order next)
    (at_ : state.dispatcher =
      .broadcasting message heartbeat ((edgeId, tx) :: rest) sentCount)
    (goesOn : next.dispatcher = .broadcasting message heartbeat rest sentCount')
    (records : next.dispatched = state.dispatched)
    (central : next.central = state.central)
    (outbox : next.outbox = (directory.tell state.broker (.edge edgeId)
      (directory.copy message (.edge edgeId))).inbox) :
    brokerSystem.runFrom state.broker (state.dispatchEvents order) =
      some next.broker := by
  have serves : state.dispatchEvents order =
      [.served message (.edge edgeId)] := by
    simp [dispatchEvents, at_]
  have turns : state.broker.turns =
      some (.edge edgeId :: rest.map fun entry => .edge entry.1) := by
    simp [State.broker, State.turns, at_]
  have oldest : state.broker.waiting.head? = some message := by
    simp [State.broker, at_, Dispatcher.inHand]
  rw [serves, System.runFrom_singleton, inner.broker, outbox]
  change directory.step state.broker (.served message (.edge edgeId)) = _
  simp only [Directory.step, turns]
  rw [if_pos ⟨oldest, trivial⟩]
  simp [Directory.tell, State.broker, processed, records, central, goesOn,
    State.turns, Dispatcher.inHand, at_]

/-- A message that was received is looked up next. -/
theorem route_fields (state : State) (message : Tagged RouterMessage) :
    (state.route message).dispatched = state.dispatched ∧
      (state.route message).dispatcher = .lookingUp message ∧
      (state.route message).central = state.central ∧
      (state.route message).outbox = state.outbox := by
  simp only [route]
  split <;> exact ⟨rfl, rfl, rfl, rfl⟩

theorem broker_dispatcher {order : List (String × StreamId)}
    (reachable : system.Reachable state)
    (stepped : system.step state (.dispatcher order) = some next)
    (inner : DispatchStep state order next) :
    brokerSystem.runFrom state.broker (state.dispatchEvents order) =
      some next.broker := by
  have routes := routed reachable
  have known := inner
  cases inner with
  | receive message central idle received =>
      rcases Channel.receive_eq_some.mp received with ⟨queue, _, _⟩
      rcases route_fields { state with central } message with
        ⟨dispatched, looksUp, rest, outbox⟩
      generalize State.route { state with central } message = next at *
      have silent : state.dispatchEvents order = [] := by
        simp [dispatchEvents, idle]
      have same : next.outbox = state.outbox := outbox
      rw [silent, known.broker, same]
      simp [State.broker, processed, dispatched, looksUp, rest, queue, idle,
        State.turns, Dispatcher.inHand]
  | lookUpEdge message destination toEdge edges found at_ value plain looked =>
      rcases Side.accepted_lookUp looked with ⟨entry, streams⟩
      refine broker_lookUp reachable known stepped at_
        (by simp [heartbeatOf, value, plain]) (by rw [entry, value]; rfl)
        (outbox_same (fun j => by rw [streams]) (fun _ => rfl) (fun _ => rfl))
        rfl rfl
  | lookUpManager message toManager manager found at_ value looked =>
      rcases Side.accepted_lookUp looked with ⟨entry, streams⟩
      refine broker_lookUp reachable known stepped at_
        (by simp [heartbeatOf, value]) (by rw [entry, value]; rfl)
        (outbox_same (fun _ => rfl) (fun j => by rw [streams]) (fun _ => rfl))
        rfl rfl
  | lookUpData message toData data found at_ value looked =>
      rcases Side.accepted_lookUp looked with ⟨entry, streams⟩
      refine broker_lookUp reachable known stepped at_
        (by simp [heartbeatOf, value]) (by rw [entry, value]; rfl)
        (outbox_same (fun _ => rfl) (fun _ => rfl) (fun j => by rw [streams]))
        rfl rfl
  | startBroadcast message destination toEdge heartbeat lock at_ value beat
      acquired iterates =>
      rcases RwLock.acquire_eq_some.mp acquired with ⟨_, _, rfl⟩
      have carries : heartbeatOf message.value = some heartbeat := by
        simp [heartbeatOf, value, beat]
      have begins : state.dispatchEvents order =
          [.began message (order.map fun entry => .edge entry.1)] := by
        simp [dispatchEvents, at_, carries]
      have waiting : state.broker.waiting = [message] ++ state.central.queue := by
        simp [State.broker, at_, Dispatcher.inHand]
      have oldest : state.broker.waiting.head? = some message := by
        rw [waiting]
        rfl
      have idle : state.broker.turns = none := by
        simp [State.broker, State.turns, at_]
      have keys : (order.map fun entry => Key.edge entry.1).Perm
          (directory.keys state.broker.table) := by
        have all := iterates.map fun entry => Key.edge entry.1
        have same : (state.edges.lock.value.pairs.map
            fun entry => Key.edge entry.1) =
              state.edges.lock.value.keys.map .edge := by
          rw [← map_fst_pairs, List.map_map]
          rfl
        rwa [same] at all
      rw [begins, System.runFrom_singleton, known.broker]
      change directory.step state.broker (.began message _) = _
      simp only [Directory.step]
      rw [if_pos ⟨oldest, idle, target_of_heartbeat carries, keys⟩]
      exact congrArg some (Broker.ext rfl rfl rfl waiting rfl rfl)
  | sendEdge message destination toEdge tx edges delivered at_ =>
      exact broker_send reachable known stepped at_ rfl rfl
  | sendManager message toManager tx manager delivered at_ =>
      exact broker_send reachable known stepped at_ rfl rfl
  | sendData message toData tx data delivered at_ =>
      exact broker_send reachable known stepped at_ rfl rfl
  | broadcastSent message heartbeat edgeId tx rest sentCount edges at_ sent =>
      rcases Side.accepted_deliver sent with ⟨open_, accepted⟩
      simp only [Routed, at_] at routes
      have gains : Gains state { state with edges } (.edge tx) (message.as
          (.toEdge edgeId { edgeId, payload := some (.heartbeat heartbeat) })) :=
        gains_edge { edgeId, payload := some (.heartbeat heartbeat) } accepted
          rfl rfl
      have copied : directory.copy message (.edge edgeId) = message.as
          (.toEdge edgeId { edgeId, payload := some (.heartbeat heartbeat) }) := by
        simp [directory, routes.1]
      have held : directory.holder state.table (.edge edgeId) =
          some (.edge tx) := by
        simp [directory, State.table, routes.2 (edgeId, tx) List.mem_cons_self]
      refine broker_served known at_ rfl rfl rfl ?_
      rw [copied]
      exact Gains.tell gains held open_
  | broadcastClosed message heartbeat edgeId tx rest sentCount at_ closed =>
      simp only [Routed, at_] at routes
      refine broker_served known at_ rfl rfl rfl (tell_silent rfl ?_)
      intro client held
      have found := routes.2 (edgeId, tx) List.mem_cons_self
      simp only [directory, State.table, found, Option.map_some,
        Option.some.injEq] at held
      subst held
      exact closed
  | finishBroadcast message heartbeat sentCount at_ =>
      have finishes : state.dispatchEvents order = [.finished message] := by
        simp [dispatchEvents, at_]
      have waiting : state.broker.waiting = [message] ++ state.central.queue := by
        simp [State.broker, at_, Dispatcher.inHand]
      have oldest : state.broker.waiting.head? = some message := by
        rw [waiting]
        rfl
      have spent : state.broker.turns = some [] := by
        simp [State.broker, State.turns, at_]
      rw [finishes, System.runFrom_singleton, known.broker]
      change directory.step state.broker (.finished message) = _
      simp only [Directory.step]
      rw [if_pos ⟨oldest, spent⟩]
      refine congrArg some (Broker.ext rfl rfl ?_ ?_ rfl rfl)
      · simp only [Broker.settle, oldest]
        simp [State.broker, processed, finish]
      · simp [Broker.settle, waiting, finish, Dispatcher.inHand]

/-! ## Runs -/

theorem broker_step (reachable : system.Reachable state)
    (stepped : system.step state action = some next) :
    brokerSystem.runFrom state.broker (state.brokerEvents action) =
      some next.broker := by
  cases step_cases stepped with
  | edge | manager | data | http =>
      exact broker_source reachable stepped (by simp)
  | dispatcher order next inner =>
      exact broker_dispatcher reachable stepped inner

theorem broker_start : start.broker = brokerSystem.start := by
  refine Broker.ext rfl (funext fun client => ?_) rfl rfl rfl
    (funext fun client => ?_)
  · cases client <;> rfl
  · cases client <;> rfl

theorem broker_run {schedule : List Action} (reachable : system.Reachable state)
    (ran : system.runFrom state schedule = some last) :
    brokerSystem.runFrom state.broker
      (system.trace brokerEvents state schedule) = some last.broker :=
  System.trace_refines broker
    (fun reachable stepped => broker_step reachable stepped) reachable ran

theorem broker_reachable (reachable : system.Reachable state) :
    brokerSystem.Reachable state.broker := by
  rcases reachable with ⟨schedule, ran⟩
  refine ⟨system.trace brokerEvents start schedule, ?_⟩
  rw [← broker_start]
  exact broker_run System.Reachable.start ran

/-- Every run of the router is a run of the broker. The broker ends in what the
router's state amounts to with its tasks, awaits and locks left out. -/
theorem refinesBroker {schedule : List Action}
    (ran : system.runFrom start schedule = some last) :
    brokerSystem.runFrom brokerSystem.start
      (system.trace brokerEvents start schedule) = some last.broker := by
  rw [← broker_start]
  exact broker_run System.Reachable.start ran

/-- The two turns of a broadcast, and its end. -/
theorem refinesBroker_twoIds :
    ∃ last, system.runFrom start
        (twoIds ++ turnsInOrder [("a", 0), ("b", 0)] ++ [.dispatcher []]) =
          some last ∧
      (last.broker.inbox (.edge 0)).length = 2 ∧
      last.broker.settled.length = 1 ∧
      brokerSystem.runFrom brokerSystem.start (system.trace brokerEvents start
        (twoIds ++ turnsInOrder [("a", 0), ("b", 0)] ++ [.dispatcher []])) =
          some last.broker :=
  ⟨_, rfl, rfl, rfl, refinesBroker rfl⟩

end State

end IotRouter.Router
