import IotRouter.Router.Work

/-!
# The router comes to rest

The server's own steps and the drains of the clients cannot go on for ever,
whatever their order, and where none of them is left nothing waits: the channels
are empty, the locks are free, and every inbound task is done or waits for its
client. So without any assumption about the scheduler every message that was sent
is processed, unless the transport lost it or its request was cancelled.
-/

namespace IotRouter.Router

open IotRouter.Grpc IotRouter.Https IotRouter.Runtime

namespace State

variable {state next last : State} {action : Action} {ids : Finset Nat}

/-! ## Finitely many streams and requests -/

/-- A client connects by a step of its own stream only. -/
theorem connected_before (stepped : system.step state action = some next)
    {client : Client} (connected : next.Connected client) :
    state.Connected client ∨
      match client with
      | .edge i => ∃ act, action = .edge i act
      | .manager i => ∃ act, action = .manager i act
      | .data i => ∃ act, action = .data i act := by
  cases client with
  | edge j =>
      rcases step_edges stepped with ⟨i, act, rfl, inner⟩ | ⟨_, served⟩
      · by_cases own : j = i
        · exact Or.inr ⟨act, by rw [own]⟩
        · exact Or.inl (by
            simpa only [Connected, inner.streams_of_ne own] using connected)
      · exact Or.inl (by simpa only [Connected, served.task] using connected)
  | manager j =>
      rcases step_manager stepped with ⟨i, act, rfl, inner⟩ | ⟨_, served⟩
      · by_cases own : j = i
        · exact Or.inr ⟨act, by rw [own]⟩
        · exact Or.inl (by
            simpa only [Connected, inner.streams_of_ne own] using connected)
      · exact Or.inl (by simpa only [Connected, served.task] using connected)
  | data j =>
      rcases step_data stepped with ⟨i, act, rfl, inner⟩ | ⟨_, served⟩
      · by_cases own : j = i
        · exact Or.inr ⟨act, by rw [own]⟩
        · exact Or.inl (by
            simpa only [Connected, inner.streams_of_ne own] using connected)
      · exact Or.inl (by simpa only [Connected, served.task] using connected)

/-- A request begins by a step of its own only. -/
theorem begun_before (stepped : system.step state action = some next) {i : Nat}
    (begun : (next.http i).task ≠ .idle) :
    (state.http i).task ≠ .idle ∨ ∃ act, action = .http i act := by
  cases step_cases stepped with
  | edge | manager | data => exact Or.inl begun
  | http j act central request inner =>
      by_cases own : i = j
      · exact Or.inr ⟨act, by rw [own]⟩
      · exact Or.inl (by simpa [own] using begun)
  | dispatcher order next inner =>
      rw [inner.served.2.2.2] at begun
      exact Or.inl begun

/-- In every reachable state finitely many streams and requests have begun. -/
theorem exists_covers (reachable : system.Reachable state) :
    ∃ ids, Covers ids state := by
  apply System.invariant (fun state : State => ∃ ids, Covers ids state) ?_ ?_
    reachable
  · refine ⟨∅, ?_, ?_, ?_, ?_⟩ <;> intro i begun <;> exact absurd rfl begun
  · intro state next action _ before stepped
    rcases before with ⟨ids, covers⟩
    let acting : Nat :=
      match action with
      | .edge i _ | .manager i _ | .data i _ | .http i _ => i
      | .dispatcher _ => 0
    refine ⟨insert acting ids, ?_, ?_, ?_, ?_⟩ <;> intro i begun
    · rcases connected_before stepped begun with earlier | ⟨act, rfl⟩
      · exact Finset.mem_insert_of_mem (covers.edges i earlier)
      · exact Finset.mem_insert_self _ _
    · rcases connected_before stepped begun with earlier | ⟨act, rfl⟩
      · exact Finset.mem_insert_of_mem (covers.manager i earlier)
      · exact Finset.mem_insert_self _ _
    · rcases connected_before stepped begun with earlier | ⟨act, rfl⟩
      · exact Finset.mem_insert_of_mem (covers.data i earlier)
      · exact Finset.mem_insert_self _ _
    · rcases begun_before stepped begun with earlier | ⟨act, rfl⟩
      · exact Finset.mem_insert_of_mem (covers.http i earlier)
      · exact Finset.mem_insert_self _ _

/-- The server's own steps and the drains begin nothing. -/
theorem Covers.step (covers : Covers ids state) (onward : action.Onward)
    (stepped : system.step state action = some next) : Covers ids next := by
  rcases onward.own with ⟨ownEdge, ownManager, ownData, ownHttp⟩
  refine ⟨?_, ?_, ?_, ?_⟩ <;> intro i begun
  · rcases connected_before stepped begun with earlier | ⟨act, rfl⟩
    · exact covers.edges i earlier
    · rcases step_edges stepped with ⟨_, _, equal, inner⟩ | ⟨other, _⟩
      · cases equal
        exact covers.edges i (inner.spends (ownEdge i act rfl)).1
      · exact absurd rfl (other i act)
  · rcases connected_before stepped begun with earlier | ⟨act, rfl⟩
    · exact covers.manager i earlier
    · rcases step_manager stepped with ⟨_, _, equal, inner⟩ | ⟨other, _⟩
      · cases equal
        exact covers.manager i (inner.spends (ownManager i act rfl)).1
      · exact absurd rfl (other i act)
  · rcases connected_before stepped begun with earlier | ⟨act, rfl⟩
    · exact covers.data i earlier
    · rcases step_data stepped with ⟨_, _, equal, inner⟩ | ⟨other, _⟩
      · cases equal
        exact covers.data i (inner.spends (ownData i act rfl)).1
      · exact absurd rfl (other i act)
  · rcases begun_before stepped begun with earlier | ⟨act, rfl⟩
    · exact covers.http i earlier
    · cases ownHttp i act rfl
      cases step_cases stepped with
      | http i act central request inner => exact covers.http i inner.spends.1

/-- The work left is a rank for the server's own steps and the drains. -/
theorem ranked_workLeft (ids : Finset Nat) :
    system.Ranked (fun _ action => action.Onward)
      (fun state => system.Reachable state ∧ Covers ids state)
      (workLeft ids) where
  keeps holds onward stepped :=
    ⟨holds.1.step stepped, holds.2.step onward stepped⟩
  lowers holds onward stepped :=
    (step_lowers holds.1 holds.2 onward stepped).workLeft

end State

/-! ## Where nothing is left to do -/

namespace Stream

variable {Task In Out : Type}

/-- The task waits for its client, which has not closed its direction. -/
def Listens (stream : Stream Task In Out) : Prop :=
  stream.inbound = [] ∧ stream.inboundOpen = true

/-- There is nothing to read and no end of the stream. -/
theorem listens_of_pending {stream : Stream Task In Out}
    (pending : stream.next = .pending) : stream.Listens := by
  simp only [next] at pending
  split at pending
  · cases pending
  · rename_i empty
    split at pending
    · rename_i opened
      exact ⟨empty, opened⟩
    · cases pending

end Stream

/-- A task that cannot go on, and neither waits for the lock nor forwards, waits
for its client, unless it has not begun or is done. -/
theorem EdgeSide.rests {central : Central} {side : EdgeSide} {i : StreamId}
    (stuck : EdgeSide.step central side i .task = none)
    (waits : (side.streams i).task.pending = none)
    (forwards : ∀ message, (side.streams i).task.pc ≠ .forwarding message) :
    (side.streams i).task.pc = .idle ∨ (side.streams i).task.pc = .done ∨
      (side.streams i).task.pc = .next ∧ (side.streams i).Listens := by
  cases pc : (side.streams i).task.pc with
  | idle => exact Or.inl rfl
  | done => exact Or.inr (Or.inl rfl)
  | registering | unregistering => simp [EdgeTask.pending, pc] at waits
  | forwarding message => exact absurd pc (forwards message)
  | next =>
      refine Or.inr (Or.inr ⟨rfl, ?_⟩)
      simp only [EdgeSide.step, runTask, pc] at stuck
      split at stuck
      · exact Stream.listens_of_pending ‹_›
      · split at stuck <;> cases stuck
      · split at stuck <;> cases stuck

theorem SlotSide.rests {In Out : Type} {service : SlotService In}
    {central : Central} {side : SlotSide In Out} {i : StreamId}
    (stuck : SlotSide.step service central side i .task = none)
    (waits : (side.streams i).task.pending = none)
    (forwards : ∀ message, (side.streams i).task ≠ .forwarding message) :
    (side.streams i).task = .idle ∨ (side.streams i).task = .done ∨
      (side.streams i).task = .next ∧ (side.streams i).Listens := by
  cases task : (side.streams i).task with
  | idle => exact Or.inl rfl
  | done => exact Or.inr (Or.inl rfl)
  | registering | unregistering => simp [SessionTask.pending, task] at waits
  | forwarding message => exact absurd task (forwards message)
  | next =>
      refine Or.inr (Or.inr ⟨rfl, ?_⟩)
      simp only [SlotSide.step, runTask, task] at stuck
      split at stuck
      · exact Stream.listens_of_pending ‹_›
      · cases stuck
      · cases stuck

namespace State

variable {state next last : State} {action : Action} {ids : Finset Nat}

/-- Every channel is empty, every lock is free and without waiters, and every
task is done or waits for its client. -/
structure AtRest (state : State) : Prop where
  dispatcher : state.dispatcher = .receiving
  central : state.central.queue = []
  outbound : ∀ client, state.queueLength client = 0
  locks : ∀ lock, state.waiters lock = [] ∧ state.readers lock = []
  edges : ∀ i, (state.edges.streams i).task.pc = .idle ∨
    (state.edges.streams i).task.pc = .done ∨
    (state.edges.streams i).task.pc = .next ∧ (state.edges.streams i).Listens
  manager : ∀ i, (state.manager.streams i).task = .idle ∨
    (state.manager.streams i).task = .done ∨
    (state.manager.streams i).task = .next ∧ (state.manager.streams i).Listens
  data : ∀ i, (state.data.streams i).task = .idle ∨
    (state.data.streams i).task = .done ∨
    (state.data.streams i).task = .next ∧ (state.data.streams i).Listens
  http : ∀ i message, (state.http i).task ≠ .sending message

theorem not_busy_of_rests (reachable : system.Reachable state)
    (rests : system.Rests (fun _ action => action.Onward) state) :
    ¬Busy state := by
  intro busy
  rcases canMove_of_busy reachable busy with
    ⟨action, next, stepped, server | ⟨client, drains, _⟩⟩
  · exact rests action next (Or.inl server) stepped
  · exact rests action next (Or.inr ⟨client, drains⟩) stepped

/-- No task of the server can go on. -/
theorem stuck_of_rests
    (rests : system.Rests (fun _ action => action.Onward) state)
    (server : action.isServer = true) : system.step state action = none := by
  cases stepped : system.step state action with
  | none => rfl
  | some next => exact absurd stepped (rests action next (Or.inl server))

theorem queueLength_of_rests (reachable : system.Reachable state)
    (rests : system.Rests (fun _ action => action.Onward) state)
    (client : Client) : state.queueLength client = 0 := by
  by_cases connected : state.Connected client
  · by_contra queued
    rcases drain_step connected (Nat.pos_of_ne_zero queued) with
      ⟨next, stepped, _⟩
    exact rests _ next (Or.inr ⟨client, rfl⟩) stepped
  · have unused := unused reachable client connected
    cases client <;>
      exact List.length_eq_zero_iff.mpr
        (Channel.queue_eq_nil (List.map_eq_nil_iff.mp unused))

/-- Where no onward step is left, the router is at rest. -/
theorem atRest_of_rests (reachable : system.Reachable state)
    (rests : system.Rests (fun _ action => action.Onward) state) :
    AtRest state := by
  have calm := not_busy_of_rests reachable rests
  have idle : state.dispatcher = .receiving := by
    by_contra busy
    exact calm (.dispatches busy)
  have waits : ∀ lock i, state.pending lock i = none := by
    intro lock i
    by_contra waiting
    rcases Option.ne_none_iff_exists'.mp waiting with ⟨write, pending⟩
    exact calm (.awaitsLock lock i write pending)
  refine ⟨idle, ?_, queueLength_of_rests reachable rests, fun lock => ⟨?_, ?_⟩,
    fun i => ?_, fun i => ?_, fun i => ?_, fun i message task =>
      calm (.httpSends i message task)⟩
  · by_contra waiting
    exact calm (.queued waiting)
  · by_contra line
    rcases List.exists_cons_of_ne_nil line with ⟨waiter, rest, waiting⟩
    rcases first_in_line reachable waiting with
      ⟨_, looks⟩ | ⟨i, write, _, pending⟩
    · simp [idle] at looks
    · rw [waits lock i] at pending
      cases pending
  · exact readers_of_free reachable (by simp [idle])
  · have stuck := stuck_of_rests rests
      (show (Action.edge i .task).isServer = true from rfl)
    exact EdgeSide.rests (Option.map_eq_none_iff.mp stuck) (waits .edges i)
      (fun message pc => calm (.edgeForwards i message pc))
  · have stuck := stuck_of_rests rests
      (show (Action.manager i .task).isServer = true from rfl)
    exact SlotSide.rests (Option.map_eq_none_iff.mp stuck) (waits .manager i)
      (fun message task => calm (.managerForwards i message task))
  · have stuck := stuck_of_rests rests
      (show (Action.data i .task).isServer = true from rfl)
    exact SlotSide.rests (Option.map_eq_none_iff.mp stuck) (waits .data i)
      (fun message task => calm (.dataForwards i message task))

/-- No schedule of onward steps is longer than a bound fixed at the start, each
can be continued until no such step is left, and then the router is at rest. -/
def ComesToRest (state : State) : Prop :=
  ∃ bound, ∀ schedule last, system.runFrom state schedule = some last →
    (∀ action ∈ schedule, action.Onward) →
    schedule.length ≤ bound ∧
    (∃ rest, system.Leads (fun _ action => action.Onward) last rest ∧
      AtRest rest) ∧
    (system.Rests (fun _ action => action.Onward) last → AtRest last)

/-- The server's own steps and the drains come to an end, in whatever order they
are taken. -/
theorem comesToRest (reachable : system.Reachable state) :
    ComesToRest state := by
  rcases exists_covers reachable with ⟨ids, covers⟩
  refine ⟨state.workLeft ids, fun schedule last ran onward => ?_⟩
  have met := (System.stepsMeet_actions ran).mpr onward
  rcases (ranked_workLeft ids).length_add_rank_le ⟨reachable, covers⟩ ran met
    with ⟨⟨reached, coversLast⟩, bound⟩
  refine ⟨by omega, ?_, atRest_of_rests reached⟩
  rcases (ranked_workLeft ids).leads_to_rest ⟨reached, coversLast⟩ with
    ⟨rest, leads, rests⟩
  exact ⟨rest, leads, atRest_of_rests (leads.reachable reached) rests⟩

/-- Edge 0 says hello while Manager session 0 registers. -/
def spokenRun : List Action :=
  [.manager 0 .connect, .edge 0 .connect,
    .edge 0 (.client (.send { edgeId := "a"
                              payload := some (.helloWorld ⟨none, true⟩) }))]

theorem comesToRest_spokenRun :
    ∃ state, system.runFrom start spokenRun = some state ∧
      (state.edges.streams 0).inbound.length = 1 ∧ ComesToRest state :=
  ⟨_, rfl, rfl, comesToRest ⟨spokenRun, rfl⟩⟩

end State

/-! ## Nothing is lost -/

/-- The task has seen the end of its inbound stream. -/
def EdgeTask.Leaves (task : EdgeTask) : Prop :=
  match task.pc with
  | .unregistering _ | .done => True
  | _ => False

def SessionTask.Leaves : SessionTask → Prop
  | .unregistering | .done => True
  | _ => False

/-- The transport has lost nothing: what the client sent has been taken or waits,
and a task leaves only when all of it has been taken. -/
structure Stream.Whole {Task In Out : Type} (stream : Stream Task In Out)
    (idles leaves : Prop) : Prop where
  kept : stream.received ++ stream.inbound = stream.sent
  idle : idles → stream.inbound = []
  left : leaves → stream.inbound = [] ∧ stream.inboundOpen = false

namespace Stream.Whole

variable {Task In Out : Type} {stream stream' : Stream Task In Out}
  {idles leaves idles' leaves' : Prop}

/-- A client that does not reset the stream loses nothing. -/
theorem client (whole : stream.Whole idles leaves) (live : ¬idles)
    {action : ClientAction In} (orderly : action ≠ .reset)
    (acted : stream.client action = some stream') :
    stream'.Whole idles leaves := by
  cases action with
  | send msg =>
      simp only [Stream.client] at acted
      split at acted <;> cases acted
      rename_i opened
      refine ⟨?_, fun idle => absurd idle live, fun left => ?_⟩
      · rw [← whole.kept, List.append_assoc]
      · simp [(whole.left left).2] at opened
  | close =>
      simp only [Stream.client] at acted
      split at acted <;> cases acted
      exact ⟨whole.kept, whole.idle, fun left => ⟨(whole.left left).1, rfl⟩⟩
  | reset => exact absurd rfl orderly
  | drain =>
      rcases Option.map_eq_some_iff.mp acted with ⟨_, _, rfl⟩
      exact ⟨whole.kept, whole.idle, whole.left⟩
  | dropReceiver =>
      simp only [Stream.client] at acted
      split at acted <;> cases acted
      exact ⟨whole.kept, whole.idle, whole.left⟩

/-- The task takes the oldest waiting message. -/
theorem take (whole : stream.Whole idles leaves) {msg : In} {rest : List In}
    (inbound : stream.inbound = msg :: rest) {task : Task} (live : ¬idles')
    (stays : ¬leaves') :
    Whole { stream with
      task, inbound := rest, received := stream.received ++ [msg] }
      idles' leaves' where
  kept := by
    rw [← whole.kept, inbound, List.append_assoc, List.singleton_append]
  idle idle := absurd idle live
  left left := absurd left stays

/-- The task moves on without taking a message, and leaves only if it did before
or has seen the end. -/
theorem move (whole : stream.Whole idles leaves) {task : Task} (live : ¬idles')
    (leaving : leaves' → leaves ∨
      stream.inbound = [] ∧ stream.inboundOpen = false) :
    Whole { stream with task } idles' leaves' where
  kept := whole.kept
  idle idle := absurd idle live
  left left := (leaving left).elim whole.left id

/-- A task that has not begun, has left or has an empty stream before it has taken
all that was sent. -/
theorem taken (whole : stream.Whole idles leaves)
    (rests : idles ∨ leaves ∨ stream.inbound = []) :
    stream.received = stream.sent := by
  have empty : stream.inbound = [] := by
    rcases rests with idle | left | empty
    · exact whole.idle idle
    · exact (whole.left left).1
    · exact empty
  rw [← whole.kept, empty, List.append_nil]

/-- What has been sent and not taken waits. -/
theorem waits (whole : stream.Whole idles leaves)
    (untaken : stream.received.length < stream.sent.length) :
    stream.inbound ≠ [] := by
  intro empty
  rw [← whole.kept, empty, List.append_nil] at untaken
  exact Nat.lt_irrefl _ untaken

end Stream.Whole

/-- Nothing an edge stream's client sent is lost. -/
def EdgeSide.Whole (side : EdgeSide) (i : StreamId) : Prop :=
  (side.streams i).Whole ((side.streams i).task.pc = .idle)
    (side.streams i).task.Leaves

def SlotSide.Whole {In Out : Type} (side : SlotSide In Out) (i : StreamId) :
    Prop :=
  (side.streams i).Whole ((side.streams i).task = .idle)
    (side.streams i).task.Leaves

theorem EdgeStep.whole {central central' : Central} {side side' : EdgeSide}
    {i : StreamId} {action : StreamAction FromEdge}
    (stepped : EdgeStep central side i action central' side')
    (orderly : action ≠ .client .reset) (whole : side.Whole i) :
    side'.Whole i := by
  rw [EdgeSide.Whole] at whole ⊢
  cases stepped with
  | connect idle =>
      rw [Side.setStream_self]
      exact ⟨rfl, by simp [Stream.fresh],
        by simp [Stream.fresh, EdgeTask.Leaves]⟩
  | client act stream live acted =>
      have task := (Stream.client_frame acted).1
      rw [Side.setStream_self, task]
      exact whole.client live (fun same => orderly (same ▸ rfl)) acted
  | skip msg rest pc inbound anonymous =>
      rw [Side.setStream_self]
      exact whole.take inbound (by simp [pc]) (by simp [EdgeTask.Leaves, pc])
  | read msg rest pc inbound named =>
      rw [Side.requestWrite_streams, Side.setStream_self]
      exact whole.take inbound (by simp) (by simp [EdgeTask.Leaves])
  | leave edgeId pc inbound ended connected =>
      rw [Side.requestWrite_streams, Side.setStream_self]
      exact whole.move (by simp) (fun _ => Or.inr ⟨inbound, ended⟩)
  | vanish pc inbound ended anonymous =>
      rw [Side.setStream_self]
      exact whole.move (by simp) (fun _ => Or.inr ⟨inbound, ended⟩)
  | register index msg lock pc written =>
      rw [Side.setStream_self]
      apply whole.move
      · cases processFromEdge msg <;> simp
      · cases processFromEdge msg <;> simp [EdgeTask.Leaves]
  | forward message central' pc sent =>
      rw [Side.setStream_self]
      exact whole.move (by simp) (by simp [EdgeTask.Leaves])
  | discard message pc closed =>
      rw [Side.setStream_self]
      exact whole.move (by simp) (by simp [EdgeTask.Leaves])
  | unregister edgeId lock pc written =>
      rw [Side.setStream_self]
      exact whole.move (by simp)
        (fun _ => Or.inl (by simp [EdgeTask.Leaves, pc]))

theorem SessionStep.whole {In Out : Type} {service : SlotService In}
    {central central' : Central} {side side' : SlotSide In Out} {i : StreamId}
    {action : StreamAction In}
    (stepped : SessionStep service central side i action central' side')
    (orderly : action ≠ .client .reset) (stays : action ≠ .abort)
    (whole : side.Whole i) : side'.Whole i := by
  rw [SlotSide.Whole] at whole ⊢
  cases stepped with
  | connect idle =>
      rw [Side.requestWrite_streams, Side.setStream_self]
      exact ⟨rfl, by simp [Stream.fresh],
        by simp [Stream.fresh, SessionTask.Leaves]⟩
  | abort => exact absurd rfl stays
  | client act stream live acted =>
      have task := (Stream.client_frame acted).1
      rw [Side.setStream_self, task]
      exact whole.client live (fun same => orderly (same ▸ rfl)) acted
  | read msg rest task inbound =>
      rw [Side.setStream_self]
      apply whole.take inbound
      · cases service.process msg <;> simp
      · cases service.process msg <;> simp [SessionTask.Leaves]
  | leave task inbound ended =>
      rw [Side.requestWrite_streams, Side.setStream_self]
      exact whole.move (by simp) (fun _ => Or.inr ⟨inbound, ended⟩)
  | register lock task written =>
      rw [Side.setStream_self]
      exact whole.move (by simp) (by simp [SessionTask.Leaves])
  | forward message central' task sent =>
      rw [Side.setStream_self]
      exact whole.move (by simp) (by simp [SessionTask.Leaves])
  | discard message task closed =>
      rw [Side.setStream_self]
      exact whole.move (by simp) (by simp [SessionTask.Leaves])
  | unregister lock task written =>
      rw [Side.setStream_self]
      exact whole.move (by simp)
        (fun _ => Or.inl (by simp [SessionTask.Leaves, task]))

namespace SlotSide

variable {In Out : Type} {side side' : SlotSide In Out} {i : StreamId}

/-- Another stream's step loses nothing of this one, nor does its own unless it is
reset or aborted. -/
theorem Whole.session {service : SlotService In} {central central' : Central}
    {j : StreamId} {action : StreamAction In}
    (stepped : SessionStep service central side j action central' side')
    (whole : side.Whole i) (orderly : i = j → action ≠ .client .reset)
    (stays : i = j → action ≠ .abort) : side'.Whole i := by
  by_cases own : i = j
  · subst own
    exact stepped.whole (orderly rfl) (stays rfl) whole
  · rw [SlotSide.Whole, stepped.streams_of_ne own]
    exact whole

theorem Whole.served (served : Side.Served side side') (whole : side.Whole i) :
    side'.Whole i := by
  rcases served.streams i with ⟨outbound, same, _⟩
  rw [SlotSide.Whole, same]
  exact ⟨whole.kept, whole.idle, whole.left⟩

/-- A session at rest has taken all that was sent and forwarded what it took. -/
theorem Whole.rests (whole : side.Whole i)
    (rests : (side.streams i).task = .idle ∨ (side.streams i).task = .done ∨
      (side.streams i).task = .next ∧ (side.streams i).Listens) :
    (side.streams i).received = (side.streams i).sent ∧
      (side.streams i).task.unforwarded = [] := by
  rw [SlotSide.Whole] at whole
  rcases rests with task | task | ⟨task, listens⟩ <;> rw [task] at whole ⊢
  · exact ⟨whole.taken (Or.inl rfl), rfl⟩
  · exact ⟨whole.taken (Or.inr (Or.inl trivial)), rfl⟩
  · exact ⟨whole.taken (Or.inr (Or.inr listens.1)), rfl⟩

end SlotSide

namespace State

variable {state next last : State} {schedule : List Action}

/-- Everything a source sent has been processed, in order, if the transport did
not lose it: a stream that was not reset, a session whose registration was not
cancelled, a request that did not time out. -/
structure ProcessesAll (schedule : List Action) (last : State) : Prop where
  edge : ∀ i, .edge i (.client .reset) ∉ schedule →
    (part Tagged.source last.processed (.edge i)).map Tagged.value =
      (last.sentImage (.edge i)).filterMap id
  manager : ∀ i, .manager i (.client .reset) ∉ schedule →
    .manager i .abort ∉ schedule →
    (part Tagged.source last.processed (.manager i)).map Tagged.value =
      (last.sentImage (.manager i)).filterMap id
  data : ∀ i, .data i (.client .reset) ∉ schedule →
    .data i .abort ∉ schedule →
    (part Tagged.source last.processed (.data i)).map Tagged.value =
      (last.sentImage (.data i)).filterMap id
  http : ∀ i, .http i .timeout ∉ schedule →
    (part Tagged.source last.processed (.http i)).map Tagged.value =
      (last.sentImage (.http i)).filterMap id

section Runs

variable (ran : system.runFrom start schedule = some last)
include ran

theorem whole_edge {i : StreamId}
    (orderly : .edge i (.client .reset) ∉ schedule) : last.edges.Whole i := by
  apply System.run_preserves_while (fun state => state.edges.Whole i)
    (fun _ action => action ≠ .edge i (.client .reset)) ?_ System.Reachable.start
    ?_ ((System.stepsMeet_actions ran).mpr ?_) ran
  · intro state next action _ whole permitted stepped
    rcases step_edges stepped with ⟨j, act, rfl, inner⟩ | ⟨_, served⟩
    · by_cases own : i = j
      · subst own
        exact inner.whole (fun same => permitted (same ▸ rfl)) whole
      · rw [EdgeSide.Whole, inner.streams_of_ne own]
        exact whole
    · rcases served.streams i with ⟨outbound, same, _⟩
      rw [EdgeSide.Whole, same]
      exact ⟨whole.kept, whole.idle, whole.left⟩
  · exact ⟨rfl, fun _ => rfl, False.elim⟩
  · intro action member same
    exact orderly (same ▸ member)

theorem whole_manager {i : StreamId}
    (orderly : .manager i (.client .reset) ∉ schedule)
    (stays : .manager i .abort ∉ schedule) : last.manager.Whole i := by
  apply System.run_preserves_while (fun state => state.manager.Whole i)
    (fun _ action => action ≠ .manager i (.client .reset) ∧
      action ≠ .manager i .abort) ?_ System.Reachable.start
    ?_ ((System.stepsMeet_actions ran).mpr ?_) ran
  · intro state next action _ whole permitted stepped
    rcases step_manager stepped with ⟨j, act, rfl, inner⟩ | ⟨_, served⟩
    · exact whole.session inner
        (fun own same => permitted.1 (by rw [own, same]))
        (fun own same => permitted.2 (by rw [own, same]))
    · exact whole.served served
  · exact ⟨rfl, fun _ => rfl, False.elim⟩
  · intro action member
    exact ⟨fun same => orderly (same ▸ member), fun same => stays (same ▸ member)⟩

theorem whole_data {i : StreamId}
    (orderly : .data i (.client .reset) ∉ schedule)
    (stays : .data i .abort ∉ schedule) : last.data.Whole i := by
  apply System.run_preserves_while (fun state => state.data.Whole i)
    (fun _ action => action ≠ .data i (.client .reset) ∧
      action ≠ .data i .abort) ?_ System.Reachable.start
    ?_ ((System.stepsMeet_actions ran).mpr ?_) ran
  · intro state next action _ whole permitted stepped
    rcases step_data stepped with ⟨j, act, rfl, inner⟩ | ⟨_, served⟩
    · exact whole.session inner
        (fun own same => permitted.1 (by rw [own, same]))
        (fun own same => permitted.2 (by rw [own, same]))
    · exact whole.served served
  · exact ⟨rfl, fun _ => rfl, False.elim⟩
  · intro action member
    exact ⟨fun same => orderly (same ▸ member), fun same => stays (same ▸ member)⟩

theorem not_timedOut {i : Nat} (patient : .http i .timeout ∉ schedule) :
    (last.http i).task ≠ .timedOut := by
  apply System.run_preserves_while (fun state => (state.http i).task ≠ .timedOut)
    (fun _ action => action ≠ .http i .timeout) ?_ System.Reachable.start
    ?_ ((System.stepsMeet_actions ran).mpr ?_) ran
  · intro state next action _ before permitted stepped
    cases step_cases stepped with
    | edge | manager | data => exact before
    | http j act central request inner =>
        by_cases own : i = j
        · subst own
          cases inner with
          | timeout => exact absurd rfl permitted
          | accept | reject | send | discard => simp
        · simpa [own] using before
    | dispatcher order next inner =>
        rw [inner.served.2.2.2]
        exact before
  · simp [system, start]
  · intro action member same
    exact patient (same ▸ member)

end Runs

/-- At rest the dispatcher has processed everything the tasks took. -/
theorem AtRest.processed (rest : AtRest state)
    (reachable : system.Reachable state) {source : Source}
    (handed : state.unforwarded source = []) :
    (part Tagged.source state.processed source).map Tagged.value =
      (state.image source).filterMap id := by
  have wf := pipeline reachable
  have forwarded := wf.forwarded source
  rw [wf.accepted, rest.dispatcher, rest.central, handed] at forwarded
  simp only [Dispatcher.inHand, List.append_nil] at forwarded
  rw [forwarded, map_value_tagged]

/-- At rest nothing has been lost inside the router. -/
theorem processesAll (ran : system.runFrom start schedule = some last)
    (rest : AtRest last) : ProcessesAll schedule last := by
  have reachable : system.Reachable last := ⟨schedule, ran⟩
  refine ⟨fun i orderly => ?_, fun i orderly stays => ?_,
    fun i orderly stays => ?_, fun i patient => ?_⟩
  · have taken := (whole_edge ran orderly).taken (by
      rcases rest.edges i with idle | done | ⟨_, listens⟩
      · exact Or.inl idle
      · exact Or.inr (Or.inl (by simp [EdgeTask.Leaves, done]))
      · exact Or.inr (Or.inr listens.1))
    rw [sentImage, ← taken]
    apply rest.processed reachable
    rcases rest.edges i with idle | done | ⟨next, _⟩ <;>
      simp [unforwarded, EdgeTask.unforwarded, *]
  · rcases (whole_manager ran orderly stays).rests (rest.manager i) with
      ⟨taken, forwarded⟩
    rw [sentImage, ← taken]
    exact rest.processed reachable forwarded
  · rcases (whole_data ran orderly stays).rests (rest.data i) with
      ⟨taken, forwarded⟩
    rw [sentImage, ← taken]
    exact rest.processed reachable forwarded
  · have patience := not_timedOut ran patient
    apply rest.processed reachable
    cases task : (last.http i).task with
    | timedOut => exact absurd task patience
    | sending message => exact absurd task (rest.http i message)
    | idle | replied => simp [unforwarded, HttpRequest.unforwarded, task]

/-- What edge 0 says is forwarded, and Manager session 0 takes it. -/
def heardRun : List Action :=
  spokenRun ++ [.manager 0 .task, .edge 0 .task, .edge 0 .task, .edge 0 .task,
    .dispatcher [], .dispatcher [], .dispatcher [],
    .manager 0 (.client .drain)]

theorem processesAll_heardRun :
    ∃ last, system.runFrom start heardRun = some last ∧
      last.processed.length = 1 ∧ ProcessesAll heardRun last := by
  refine ⟨_, rfl, rfl, processesAll rfl ⟨rfl, rfl, fun client => ?_,
    fun lock => ?_, fun i => ?_, fun i => ?_, fun i => Or.inl rfl,
    fun i message => nofun⟩⟩
  · rcases client with (_ | i) | (_ | i) | i <;> rfl
  · cases lock <;> exact ⟨rfl, rfl⟩
  · cases i with
    | zero => exact Or.inr (Or.inr ⟨rfl, rfl, rfl⟩)
    | succ i => exact Or.inl rfl
  · cases i with
    | zero => exact Or.inr (Or.inr ⟨rfl, rfl, rfl⟩)
    | succ i => exact Or.inl rfl

end State

end IotRouter.Router
