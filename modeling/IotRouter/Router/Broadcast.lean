import IotRouter.Runtime.Trace
import IotRouter.Router.EndToEnd
import IotRouter.Router.Sending

/-!
# The broadcast as one step

`broadcast_heartbeat_to_edges` awaits at every entry of the map, and the whole
router moves in between. The read guard keeps the map and its log as they were,
so the broadcast is a walk through a snapshot: each entry has one turn, and the
turn enqueues one copy of the heartbeat exactly if the channel is open then.
-/

namespace IotRouter.Router

open IotRouter.Grpc IotRouter.Https IotRouter.Runtime

/-! ## Open channels -/

theorem Stream.client_isOpen {Task In Out : Type} [DecidableEq In]
    {stream stream' : Stream Task In Out} {action : ClientAction In}
    (acted : stream.client action = some stream') :
    stream'.outbound.isOpen =
      if action = .dropReceiver then false else stream.outbound.isOpen := by
  cases action with
  | dropReceiver => exact dropReceiver_eq_some acted
  | drain =>
      rcases Option.map_eq_some_iff.mp acted with
        ⟨⟨value, outbound⟩, received, rfl⟩
      exact (Channel.receive_eq_some.mp received).2.2
  | send | close | reset =>
      rw [client_outbound acted (by simp) (by simp)]
      rfl

/-- Only its client closes the channel of a stream. -/
theorem EdgeStep.isOpen {central central' : Central} {side side' : EdgeSide}
    {i : StreamId} {action : StreamAction FromEdge}
    (stepped : EdgeStep central side i action central' side')
    (unused : (side.streams i).task.pc = .idle →
      (side.streams i).outbound.isOpen = true) (j : StreamId) :
    (side'.streams j).outbound.isOpen =
      if action = .client .dropReceiver ∧ j = i then false
      else (side.streams j).outbound.isOpen := by
  by_cases own : j = i
  · subst own
    cases stepped with
    | connect idle => simp [Stream.fresh, Channel.empty, unused idle]
    | client act stream live acted =>
        rw [Side.setStream_self, Stream.client_isOpen acted]
        simp
    | skip | read | leave | vanish | register | forward | discard
    | unregister => simp
  · rw [stepped.streams_of_ne own, if_neg (fun both => own both.2)]

/-- Under a read guard nothing is written to the log. -/
theorem EdgeStep.log_of_readers {central central' : Central}
    {side side' : EdgeSide} {i : StreamId} {action : StreamAction FromEdge}
    (stepped : EdgeStep central side i action central' side')
    (held : side.lock.readers ≠ []) : side'.log = side.log := by
  cases stepped with
  | register index msg lock pc written =>
      exact absurd (RwLock.write_eq_some.mp written).1 held
  | unregister edgeId lock pc written =>
      exact absurd (RwLock.write_eq_some.mp written).1 held
  | _ => rfl

namespace State

variable {state next begun last : State} {action : Action}
variable {message : Tagged RouterMessage} {heartbeat : Heartbeat}
variable {order : List (String × StreamId)}

/-- The channel of a stream that has not connected is open. -/
theorem idle_isOpen (reachable : system.Reachable state) (i : StreamId) :
    (state.edges.streams i).task.pc = .idle →
      (state.edges.streams i).outbound.isOpen = true := by
  apply System.invariant (fun state : State => ∀ i,
    (state.edges.streams i).task.pc = .idle →
      (state.edges.streams i).outbound.isOpen = true) ?_ ?_ reachable
  · intro j _
    rfl
  · intro state next action _ opened stepped j idle
    rcases step_edges stepped with ⟨i, act, _, inner⟩ | ⟨_, served⟩
    · by_cases own : j = i
      · subst own
        exact absurd idle inner.pc_ne_idle
      · rw [inner.streams_of_ne own] at idle ⊢
        exact opened j idle
    · rcases served.streams j with ⟨outbound, same, isOpen, _⟩
      rw [served.task] at idle
      rw [same]
      exact isOpen.trans (opened j idle)

/-- A step closes the channel of an edge stream exactly if its client drops the
receiver. -/
theorem listens_step (reachable : system.Reachable state)
    (stepped : system.step state action = some next) (i : StreamId) :
    next.listens (.edge i) =
      if action = .dropReceiver (.edge i) then false
      else state.listens (.edge i) := by
  simp only [listens]
  rcases step_edges stepped with ⟨j, act, rfl, inner⟩ | ⟨other, served⟩
  · rw [inner.isOpen (idle_isOpen reachable j) i]
    simp only [Action.dropReceiver, Action.edge.injEq]
    apply if_congr ?_ rfl rfl
    constructor
    · intro both
      exact ⟨both.2.symm, both.1⟩
    · intro both
      exact ⟨both.2, both.1.symm⟩
  · rcases served.streams i with ⟨outbound, same, isOpen, _⟩
    have apart : action ≠ .dropReceiver (.edge i) :=
      other i (.client .dropReceiver)
    rw [if_neg apart, same]
    exact isOpen

/-! ## Turns -/

theorem map_fst_pairs (edges : EdgeMap) :
    edges.pairs.map Prod.fst = edges.keys := by
  rw [EdgeMap.pairs, List.map_map]
  rfl

/-- The steps of a broadcast under way. -/
inductive BroadcastStep (state : State) (message : Tagged RouterMessage)
    (heartbeat : Heartbeat) (sentCount : Nat) :
    List (String × StreamId) → State → Prop where
  | sent (edgeId : String) (tx : StreamId) (rest : List (String × StreamId))
      (edges : EdgeSide)
      (sent : state.edges.deliver tx
        (message.as { edgeId, payload := some (.heartbeat heartbeat) }) =
          .sent edges) :
      BroadcastStep state message heartbeat sentCount ((edgeId, tx) :: rest)
        { state with
          edges
          dispatcher := .broadcasting message heartbeat rest (sentCount + 1) }
  | closed (edgeId : String) (tx : StreamId) (rest : List (String × StreamId))
      (closed : state.listens (.edge tx) = false) :
      BroadcastStep state message heartbeat sentCount ((edgeId, tx) :: rest)
        { state with
          dispatcher := .broadcasting message heartbeat rest sentCount }
  | finish :
      BroadcastStep state message heartbeat sentCount []
        ({ state with edges := state.edges.release }.finish message
          (.broadcast sentCount))

theorem DispatchStep.broadcasts {iteration ahead : List (String × StreamId)}
    {sentCount : Nat} (stepped : DispatchStep state iteration next)
    (at_ : state.dispatcher =
      .broadcasting message heartbeat ahead sentCount) :
    BroadcastStep state message heartbeat sentCount ahead next := by
  cases stepped with
  | broadcastSent _ _ edgeId tx rest _ edges here sent =>
      cases at_.symm.trans here
      exact .sent edgeId tx rest edges sent
  | broadcastClosed _ _ edgeId tx rest _ here closed =>
      cases at_.symm.trans here
      exact .closed edgeId tx rest closed
  | finishBroadcast _ _ _ here =>
      cases at_.symm.trans here
      exact .finish
  | receive _ _ here => cases at_.symm.trans here
  | lookUpEdge _ _ _ _ _ here | lookUpManager _ _ _ _ here
  | lookUpData _ _ _ _ here | startBroadcast _ _ _ _ _ here =>
      cases at_.symm.trans here
  | sendEdge _ _ _ _ _ _ here | sendManager _ _ _ _ _ here
  | sendData _ _ _ _ _ here =>
      cases at_.symm.trans here

/-- What the dispatcher does when it acquires the read guard for a heartbeat. -/
structure Begins (state begun : State) (message : Tagged RouterMessage)
    (heartbeat : Heartbeat) (order : List (String × StreamId)) : Prop where
  dispatcher : begun.dispatcher = .broadcasting message heartbeat order 0
  snapshot : order.Perm state.edges.lock.value.pairs
  map : begun.edges.lock.value = state.edges.lock.value
  outbox : begun.outbox = state.outbox
  dispatched : begun.dispatched = state.dispatched
  listens : ∀ i, begun.listens (.edge i) = state.listens (.edge i)

theorem DispatchStep.begins {destination : String} {toEdge : ToEdge}
    (stepped : DispatchStep state order begun)
    (at_ : state.dispatcher = .lookingUp message)
    (value : message.value = .toEdge destination toEdge)
    (carries : toEdge.heartbeat? = some heartbeat) :
    Begins state begun message heartbeat order := by
  cases stepped with
  | startBroadcast other _ _ _ lock here same beat locked iterates =>
      cases at_.symm.trans here
      cases value.symm.trans same
      cases carries.symm.trans beat
      rcases RwLock.acquire_eq_some.mp locked with ⟨_, _, rfl⟩
      exact ⟨rfl, iterates, rfl, rfl, rfl, fun _ => rfl⟩
  | lookUpEdge other _ _ _ _ here same plain =>
      cases at_.symm.trans here
      cases value.symm.trans same
      cases carries.symm.trans plain
  | lookUpManager other _ _ _ here same | lookUpData other _ _ _ here same =>
      cases at_.symm.trans here
      cases value.symm.trans same
  | receive _ _ here => cases at_.symm.trans here
  | sendEdge _ _ _ _ _ _ here | sendManager _ _ _ _ _ here
  | sendData _ _ _ _ _ here | broadcastSent _ _ _ _ _ _ _ here
  | broadcastClosed _ _ _ _ _ _ here | finishBroadcast _ _ _ here =>
      cases at_.symm.trans here

/-- The turn of one entry of the map in a broadcast. -/
structure Turn where
  edgeId : String
  tx : StreamId
  /-- The channel was open when the turn came. -/
  isOpen : Bool
  deriving DecidableEq, Repr

def Turn.entry (turn : Turn) : String × StreamId := (turn.edgeId, turn.tx)

/-- The turn the dispatcher takes at a step. -/
def turnOf (state : State) : Action → List Turn
  | .dispatcher _ =>
      match state.dispatcher with
      | .broadcasting _ _ ((edgeId, tx) :: _) _ =>
          [{ edgeId, tx, isOpen := state.listens (.edge tx) }]
      | _ => []
  | _ => []

/-- The copy of a heartbeat that goes out under an id. -/
def copy (message : Tagged RouterMessage) (heartbeat : Heartbeat)
    (edgeId : String) : Tagged RouterMessage :=
  message.as (.toEdge edgeId { edgeId, payload := some (.heartbeat heartbeat) })

/-- What the turns enqueue for a client. -/
def enqueued (message : Tagged RouterMessage) (heartbeat : Heartbeat)
    (turns : List Turn) (client : Client) : List (Tagged RouterMessage) :=
  (turns.filter fun turn => turn.isOpen && decide (Client.edge turn.tx = client)).map
    fun turn => copy message heartbeat turn.edgeId

/-- How far a broadcast has come since it acquired the read guard in state
`begun`: the turns it took, and nothing else, went out; the entries that had no
turn yet are still ahead; the map and its log are as they were. -/
structure Fanout (begun : State) (message : Tagged RouterMessage)
    (heartbeat : Heartbeat) (order : List (String × StreamId)) (state : State)
    (turns : List Turn) : Prop where
  ahead : ∃ rest, order = turns.map Turn.entry ++ rest ∧
    state.dispatcher =
      .broadcasting message heartbeat rest (turns.countP Turn.isOpen)
  outbox : ∀ client, state.outbox client =
    begun.outbox client ++ enqueued message heartbeat turns client
  map : state.edges.lock.value = begun.edges.lock.value
  log : state.edges.log = begun.edges.log

theorem Fanout.start (at_ : begun.dispatcher =
    .broadcasting message heartbeat order 0) :
    Fanout begun message heartbeat order begun [] where
  ahead := ⟨order, rfl, at_⟩
  outbox _ := (List.append_nil _).symm
  map := rfl
  log := rfl

/-- A step that is not the dispatcher's takes no turn. -/
theorem Fanout.other {turns : List Turn}
    (fanout : Fanout begun message heartbeat order state turns)
    (reachable : system.Reachable state)
    (other : ∀ order, action ≠ .dispatcher order)
    (stepped : system.step state action = some next) :
    Fanout begun message heartbeat order next turns := by
  rcases fanout.ahead with ⟨rest, split, at_⟩
  have holds : state.dispatcher.Holds .edges := by
    rw [at_]
    rfl
  have readers := (locked reachable).edges.readers_ne_nil holds
  have outbox := (outbox_of_source (unused reachable) stepped other).1
  have keep : next.dispatcher = state.dispatcher →
      next.edges.lock.value = state.edges.lock.value →
      next.edges.log = state.edges.log →
      Fanout begun message heartbeat order next turns := by
    intro dispatcher map log
    refine ⟨⟨rest, split, dispatcher.trans at_⟩, ?_, map.trans fanout.map,
      log.trans fanout.log⟩
    intro client
    rw [outbox]
    exact fanout.outbox client
  cases step_cases stepped with
  | edge i act central edges inner =>
      exact keep rfl (inner.value_of_readers readers)
        (inner.log_of_readers readers)
  | manager | data | http => exact keep rfl rfl rfl
  | dispatcher order => exact absurd rfl (other order)

/-- A channel that is open takes its copy. -/
theorem Fanout.sent {turns : List Turn} {edgeId : String} {tx : StreamId}
    {rest : List (String × StreamId)} {edges : EdgeSide}
    (fanout : Fanout begun message heartbeat order state turns)
    (split : order = turns.map Turn.entry ++ (edgeId, tx) :: rest)
    (sent : state.edges.deliver tx
      (message.as { edgeId, payload := some (.heartbeat heartbeat) }) =
        .sent edges) :
    Fanout begun message heartbeat order
      { state with
        edges
        dispatcher := .broadcasting message heartbeat rest
          (turns.countP Turn.isOpen + 1) }
      (turns ++ [{ edgeId, tx, isOpen := true }]) := by
  rcases Side.accepted_deliver sent with ⟨_, accepted⟩
  have gains : Gains state { state with edges } (.edge tx)
      (copy message heartbeat edgeId) :=
    gains_edge { edgeId, payload := some (.heartbeat heartbeat) }
      accepted rfl rfl
  refine ⟨⟨rest, by simp [split, Turn.entry], by simp⟩, ?_, ?_, ?_⟩
  · intro client
    have grows : State.outbox { state with
        edges
        dispatcher := .broadcasting message heartbeat rest
          (turns.countP Turn.isOpen + 1) } client =
        state.outbox client ++ if client = .edge tx then
          [copy message heartbeat edgeId] else [] := gains client
    rw [grows, fanout.outbox client, List.append_assoc]
    simp only [enqueued, List.filter_append, List.map_append]
    by_cases target : client = .edge tx
    · simp [target]
    · have apart : Client.edge tx ≠ client := fun same => target same.symm
      simp [target, apart]
  · exact (Side.served_deliver sent).value.trans fanout.map
  · exact (Side.served_deliver sent).log.trans fanout.log

/-- A channel that is closed is passed over. -/
theorem Fanout.closed {turns : List Turn} {edgeId : String} {tx : StreamId}
    {rest : List (String × StreamId)}
    (fanout : Fanout begun message heartbeat order state turns)
    (split : order = turns.map Turn.entry ++ (edgeId, tx) :: rest) :
    Fanout begun message heartbeat order
      { state with
        dispatcher := .broadcasting message heartbeat rest
          (turns.countP Turn.isOpen) }
      (turns ++ [{ edgeId, tx, isOpen := false }]) := by
  refine ⟨⟨rest, by simp [split, Turn.entry], by simp⟩, ?_, fanout.map,
    fanout.log⟩
  intro client
  have same : State.outbox { state with
      dispatcher := .broadcasting message heartbeat rest
        (turns.countP Turn.isOpen) } = state.outbox := rfl
  have quiet : enqueued message heartbeat
      (turns ++ [{ edgeId, tx, isOpen := false }]) client =
      enqueued message heartbeat turns client := by
    simp [enqueued]
  rw [quiet, same]
  exact fanout.outbox client

/-- A step of the dispatcher takes the next turn, or the broadcast returns. -/
theorem Fanout.turn {turns : List Turn}
    (fanout : Fanout begun message heartbeat order state turns)
    {iteration : List (String × StreamId)}
    (stepped : system.step state (.dispatcher iteration) = some next)
    (during : next.dispatched = state.dispatched) :
    Fanout begun message heartbeat order next
      (turns ++ turnOf state (.dispatcher iteration)) := by
  rcases fanout.ahead with ⟨ahead, split, at_⟩
  cases step_cases stepped with
  | dispatcher _ _ inner =>
      cases inner.broadcasts at_ with
      | sent edgeId tx rest edges sent =>
          have listening : state.listens (.edge tx) = true :=
            (Side.accepted_deliver sent).1
          have turned : turnOf state (.dispatcher iteration) =
              [{ edgeId, tx, isOpen := true }] := by
            simp only [turnOf, at_, listening]
          rw [turned]
          exact fanout.sent split sent
      | closed edgeId tx rest silent =>
          have turned : turnOf state (.dispatcher iteration) =
              [{ edgeId, tx, isOpen := false }] := by
            simp only [turnOf, at_, silent]
          rw [turned]
          exact fanout.closed split
      | finish => simp [finish] at during

/-- Until the broadcast returns, every run of the router is its walk through the
snapshot. -/
theorem fanout_run (reachable : system.Reachable begun)
    (at_ : begun.dispatcher = .broadcasting message heartbeat order 0)
    {schedule : List Action} (ran : system.runFrom begun schedule = some last)
    (during : last.dispatched = begun.dispatched) :
    Fanout begun message heartbeat order last
      (system.trace turnOf begun schedule) := by
  have walked := System.run_traces turnOf
    (fun state turns => begun.dispatched <+: state.dispatched ∧
      (state.dispatched = begun.dispatched →
        Fanout begun message heartbeat order state turns))
    ?_ reachable ⟨List.prefix_rfl, fun _ => Fanout.start at_⟩ ran
  · exact walked.2 during
  · intro state next action turns reached walk stepped
    have grows : state.dispatched <+: next.dispatched := by
      rcases dispatched_grows reached stepped with same | ⟨dispatch, more⟩
      · exact same ▸ List.prefix_rfl
      · exact more ▸ List.prefix_append _ _
    refine ⟨walk.1.trans grows, fun still => ?_⟩
    have before : state.dispatched = begun.dispatched := by
      rw [still] at grows
      exact grows.eq_of_length_le walk.1.length_le
    have fanout := walk.2 before
    cases action with
    | dispatcher iteration => exact fanout.turn stepped (still.trans before.symm)
    | edge | manager | data | http =>
        simp only [turnOf, List.append_nil]
        exact fanout.other reached (by simp) stepped

/-- While no edge drops its receiver, the channels found open are those that were
open at the start. -/
theorem turns_of_listening (reachable : system.Reachable begun)
    {schedule : List Action} (ran : system.runFrom begun schedule = some last)
    (keep : system.StepsMeet
      (fun _ action => ∀ i, action ≠ .dropReceiver (.edge i)) begun schedule) :
    ∀ turn ∈ system.trace turnOf begun schedule,
      turn.isOpen = begun.listens (.edge turn.tx) := by
  have kept := System.run_traces_while turnOf
    (fun state turns =>
      (∀ i, state.listens (.edge i) = begun.listens (.edge i)) ∧
        ∀ turn ∈ turns, turn.isOpen = begun.listens (.edge turn.tx))
    (fun _ action => ∀ i, action ≠ .dropReceiver (.edge i))
    ?_ reachable ⟨fun _ => rfl, fun _ member => by cases member⟩ keep ran
  · exact kept.2
  · intro state next action turns reached held keeps stepped
    refine ⟨fun i => ?_, fun turn member => ?_⟩
    · rw [listens_step reached stepped i, if_neg (keeps i)]
      exact held.1 i
    · rcases List.mem_append.mp member with earlier | this
      · exact held.2 turn earlier
      · simp only [turnOf] at this
        split at this
        · split at this
          · rw [List.mem_singleton] at this
            rw [this]
            exact held.1 _
          · cases this
        · cases this

/-! ## The whole broadcast -/

/-- What the return of a broadcast reports, and what the broadcast has done since
it acquired the read guard in state `begun`. -/
structure Returned (begun : State) (message : Tagged RouterMessage)
    (heartbeat : Heartbeat) (turns : List Turn) (after : State) : Prop where
  once : (turns.map Turn.edgeId).Perm begun.edges.lock.value.keys
  count : after.dispatched = begun.dispatched ++
    [{ message, result := .broadcast (turns.countP Turn.isOpen) }]
  outbox : ∀ client, after.outbox client =
    begun.outbox client ++ enqueued message heartbeat turns client
  map : after.edges.lock.value = begun.edges.lock.value
  log : after.edges.log = begun.edges.log

/-- A broadcast is an exact fan-out over the map it found. -/
structure ExactFanout (begun : State) (message : Tagged RouterMessage)
    (heartbeat : Heartbeat) (order : List (String × StreamId)) (last : State)
    (turns : List Turn) : Prop where
  fanout : Fanout begun message heartbeat order last turns
  entries : ∀ turn ∈ turns,
    begun.edges.lock.value.lookup turn.edgeId = some turn.tx
  nodup : (turns.map Turn.edgeId).Nodup
  /-- A closed channel does not stop the rest. -/
  skips : ∀ edgeId tx rest sentCount iteration,
    last.dispatcher =
      .broadcasting message heartbeat ((edgeId, tx) :: rest) sentCount →
    last.listens (.edge tx) = false →
    ∃ next, system.step last (.dispatcher iteration) = some next ∧
      next.dispatcher = .broadcasting message heartbeat rest sentCount ∧
      next.outbox = last.outbox
  returns : ∀ iteration after,
    system.step last (.dispatcher iteration) = some after →
    after.dispatched ≠ last.dispatched →
    Returned begun message heartbeat turns after

/-- The step after which something was dispatched is the return, and every entry
had its turn. -/
theorem Fanout.returned {turns : List Turn}
    (fanout : Fanout begun message heartbeat order state turns)
    (during : state.dispatched = begun.dispatched)
    (snapshot : order.Perm begun.edges.lock.value.pairs)
    {iteration : List (String × StreamId)}
    (stepped : system.step state (.dispatcher iteration) = some next)
    (done : next.dispatched ≠ state.dispatched) :
    Returned begun message heartbeat turns next := by
  rcases fanout.ahead with ⟨ahead, split, at_⟩
  cases step_cases stepped with
  | dispatcher _ _ inner =>
      cases inner.broadcasts at_ with
      | finish =>
          rw [List.append_nil] at split
          have ids : turns.map Turn.edgeId = order.map Prod.fst := by
            rw [split, List.map_map]
            rfl
          refine ⟨?_, ?_, fanout.outbox, fanout.map, fanout.log⟩
          · rw [ids, ← map_fst_pairs]
            exact snapshot.map Prod.fst
          · simp only [finish, during]
      | sent | closed => exact absurd rfl done

/-- Every turn is that of an entry of the map. -/
theorem Fanout.entries {turns : List Turn}
    (fanout : Fanout begun message heartbeat order state turns)
    (snapshot : order.Perm begun.edges.lock.value.pairs) :
    ∀ turn ∈ turns, begun.edges.lock.value.lookup turn.edgeId = some turn.tx := by
  rcases fanout.ahead with ⟨ahead, split, _⟩
  intro turn member
  apply (mem_pairs _ _ _).mp
  apply snapshot.subset
  rw [split]
  exact List.mem_append_left _ (List.mem_map_of_mem member)

/-- No id has two turns. -/
theorem Fanout.nodup {turns : List Turn}
    (fanout : Fanout begun message heartbeat order state turns)
    (snapshot : order.Perm begun.edges.lock.value.pairs) :
    (turns.map Turn.edgeId).Nodup := by
  rcases fanout.ahead with ⟨ahead, split, _⟩
  have keys : (order.map Prod.fst).Nodup := by
    apply (snapshot.map Prod.fst).nodup_iff.mpr
    rw [map_fst_pairs]
    exact begun.edges.lock.value.keys_nodup
  rw [split, List.map_append, List.map_map] at keys
  exact keys.of_append_left

/-- The dispatcher does not wait for a closed channel. -/
theorem skip_step {edgeId : String} {tx : StreamId}
    {rest iteration : List (String × StreamId)} {sentCount : Nat}
    (at_ : state.dispatcher =
      .broadcasting message heartbeat ((edgeId, tx) :: rest) sentCount)
    (silent : state.listens (.edge tx) = false) :
    system.step state (.dispatcher iteration) = some { state with
      dispatcher := .broadcasting message heartbeat rest sentCount } := by
  have attempt : state.edges.deliver tx (message.as
      { edgeId, payload := some (.heartbeat heartbeat) }) = .closed :=
    Side.deliver_eq_closed.mpr silent
  simp only [system, State.step, dispatch, at_, attempt]

/-- The dispatcher acquires the read guard for a heartbeat. Whatever runs until
the broadcast returns, it is an exact fan-out over the map of that moment; and if
no edge drops its receiver meanwhile, the ids it reaches are those whose channel
was open at that moment, whatever the order of the iteration. -/
theorem broadcast_exact {destination : String} {toEdge : ToEdge}
    {schedule : List Action}
    (reachable : system.Reachable state)
    (at_ : state.dispatcher = .lookingUp message)
    (value : message.value = .toEdge destination toEdge)
    (carries : toEdge.heartbeat? = some heartbeat)
    (acquired : system.step state (.dispatcher order) = some begun)
    (ran : system.runFrom begun schedule = some last)
    (during : last.dispatched = begun.dispatched) :
    ExactFanout begun message heartbeat order last
        (system.trace turnOf begun schedule) ∧
      (begun.edges.lock.value = state.edges.lock.value ∧
        begun.outbox = state.outbox ∧
        begun.dispatched = state.dispatched) ∧
      (system.StepsMeet
          (fun _ action => ∀ i, action ≠ .dropReceiver (.edge i))
          begun schedule →
        last.dispatcher = .broadcasting message heartbeat []
          ((system.trace turnOf begun schedule).countP Turn.isOpen) →
        (((system.trace turnOf begun schedule).filter Turn.isOpen).map
            Turn.entry).Perm
          (state.edges.lock.value.pairs.filter fun entry =>
            state.listens (.edge entry.2))) := by
  have reachedBegun := reachable.step acquired
  have begins : Begins state begun message heartbeat order := by
    cases step_cases acquired with
    | dispatcher _ _ inner => exact inner.begins at_ value carries
  have snapshot : order.Perm begun.edges.lock.value.pairs := by
    rw [begins.map]
    exact begins.snapshot
  have fanout := fanout_run reachedBegun begins.dispatcher ran during
  refine ⟨⟨fanout, fanout.entries snapshot, fanout.nodup snapshot, ?_, ?_⟩,
    ⟨begins.map, begins.outbox, begins.dispatched⟩, ?_⟩
  · intro edgeId tx rest sentCount iteration turning silent
    exact ⟨_, skip_step turning silent, rfl, rfl⟩
  · intro iteration after returned done
    exact fanout.returned during snapshot returned done
  · intro keep finished
    rcases fanout.ahead with ⟨ahead, split, here⟩
    cases here.symm.trans finished
    rw [List.append_nil] at split
    have turns := turns_of_listening reachedBegun ran keep
    have reached : ((system.trace turnOf begun schedule).filter Turn.isOpen).map
        Turn.entry = order.filter fun entry => state.listens (.edge entry.2) := by
      rw [split, List.filter_map]
      congr 1
      apply List.filter_congr
      intro turn member
      rw [turns turn member, begins.listens]
      rfl
    rw [reached]
    exact begins.snapshot.filter _

/-- Edges 0 and 1 have registered and a heartbeat of Data session 0 has been
received by the dispatcher. -/
def beforeBroadcast : List Action :=
  [.edge 0 .connect, .edge 0 (.client (.send ⟨"a", none⟩)), .edge 0 .task,
    .edge 0 .task, .edge 1 .connect, .edge 1 (.client (.send ⟨"b", none⟩)),
    .edge 1 .task, .edge 1 .task, .data 0 .connect, .data 0 .task,
    .data 0 (.client (.send ⟨some (.heartbeat ⟨none, true⟩)⟩)), .data 0 .task,
    .data 0 .task, .dispatcher []]

/-- Edge 1 drops its receiver during the broadcast: edge 0 is served. -/
theorem broadcast_exact_beforeBroadcast :
    ∃ state begun last message,
      system.runFrom start beforeBroadcast = some state ∧
      system.step state (.dispatcher [("b", 1), ("a", 0)]) = some begun ∧
      system.runFrom begun [.edge 1 (.client .dropReceiver), .dispatcher [],
        .dispatcher []] = some last ∧
      ExactFanout begun message ⟨none, true⟩ [("b", 1), ("a", 0)] last
        [⟨"b", 1, false⟩, ⟨"a", 0, true⟩] := by
  obtain ⟨state, begun, last, message, reached, at_, value, acquired, ran,
      during, turns⟩ : ∃ state begun last message,
      system.runFrom start beforeBroadcast = some state ∧
      state.dispatcher = .lookingUp message ∧
      message.value =
        .toEdge "all" ⟨"all", some (.heartbeat ⟨none, true⟩)⟩ ∧
      system.step state (.dispatcher [("b", 1), ("a", 0)]) = some begun ∧
      system.runFrom begun [.edge 1 (.client .dropReceiver), .dispatcher [],
        .dispatcher []] = some last ∧
      last.dispatched = begun.dispatched ∧
      system.trace turnOf begun [.edge 1 (.client .dropReceiver),
        .dispatcher [], .dispatcher []] =
        [⟨"b", 1, false⟩, ⟨"a", 0, true⟩] :=
    ⟨_, _, _, _, rfl, rfl, rfl, rfl, rfl, rfl, rfl⟩
  refine ⟨state, begun, last, message, reached, acquired, ran, ?_⟩
  rw [← turns]
  exact (broadcast_exact ⟨_, reached⟩ at_ value rfl acquired ran during).1

end State

end IotRouter.Router
