import IotRouter.Router.Broker

/-!
# One order for everybody, and services that do not hear each other

Two consequences of the router being a broker. All clients get what they get in
the order of the central channel, so no two of them see two messages in
different orders, and a source's messages arrive everywhere in the order it sent
them. And what the clients of one service are told depends on the events of that
service alone.
-/

namespace IotRouter.Router

open IotRouter.Grpc IotRouter.Https IotRouter.Runtime

/-! ## Kinds -/

/-- The service a client belongs to, named by the lock that guards its entry. -/
def Client.service : Client → TableLock
  | .edge _ => .edges
  | .manager _ => .manager
  | .data _ => .data

def Key.service : Key → TableLock
  | .edge _ => .edges
  | .manager => .manager
  | .data => .data

def Change.service : Change → TableLock
  | .announced _ _ | .unregistered _ => .edges
  | .manager _ => .manager
  | .data _ => .data

/-- Maps that hold the same streams are changed alike. -/
theorem lookup_of_holder {table table' : Table}
    (same : ∀ key, Key.service key = .edges →
      directory.holder table key = directory.holder table' key)
    (edgeId : String) :
    table.edges.lookup edgeId = table'.edges.lookup edgeId :=
  Option.map_injective (fun _ _ => Client.edge.inj) (same (.edge edgeId) rfl)

/-- The three services do not mix. -/
def services : Kinds directory TableLock where
  ofKey := Key.service
  ofClient := Client.service
  ofChange := Change.service
  holder_kind := by
    intro table key client held
    cases key <;> rcases Option.map_eq_some_iff.mp held with ⟨_, _, rfl⟩ <;> rfl
  holder_other := by
    intro change key table different
    cases change <;> cases key <;> first | rfl | exact absurd rfl different
  holder_own := by
    intro table table' change same key own
    cases change with
    | announced i edgeId =>
        cases key with
        | edge other =>
            simp only [directory, lookup_ensureEdgeRegistered,
              lookup_of_holder same]
        | manager | data => cases own
    | unregistered edgeId =>
        cases key with
        | edge other =>
            simp only [directory, lookup_unregisterEdge, lookup_of_holder same]
        | manager | data => cases own
    | manager slot =>
        cases key with
        | manager => rfl
        | edge | data => cases own
    | data slot =>
        cases key with
        | data => rfl
        | edge | manager => cases own

namespace State

variable {state last last' : State} {schedule schedule' : List Action}

/-! ## Everybody sees one order -/

/-- Where a message comes from. -/
def origin (message : Tagged RouterMessage) : Source × Nat :=
  (message.source, message.index)

/-- The origins of what a client's channel took, in order. -/
def origins (state : State) (client : Client) : List (Source × Nat) :=
  (state.outbox client).map origin

theorem origin_copy (message : Tagged RouterMessage) (key : Key) :
    origin (directory.copy message key) = origin message := by
  simp only [directory]
  split <;> rfl

/-- What everybody sees of one state. -/
structure OneOrder (state : State) : Prop where
  /-- What a client gets first left the central channel first. -/
  queue : ∀ client first second,
    Precedes first second (state.origins client) →
    first = second ∨ Precedes first second (state.central.accepted.map origin)
  /-- No two clients see two messages in different orders. -/
  agree : ∀ client other first second,
    Precedes first second (state.origins client) →
    Precedes second first (state.origins other) → first = second
  /-- The messages of one source arrive in the order it sent them. -/
  fifo : ∀ client first second,
    Precedes first second (state.origins client) →
    first.1 = second.1 → first.2 ≤ second.2

/-- What passed the central channel keeps its order up to every client. -/
theorem follows_accepted (reachable : system.Reachable state)
    (client : Client) : ∃ bound, Follows (state.origins client)
      (state.central.accepted.map origin) bound := by
  have ordered := Directory.inOrder origin_copy (broker_reachable reachable)
    client
  have published : state.broker.published = state.central.accepted := by
    rw [(pipeline reachable).accepted]
    simp [Broker.published, broker]
  rw [published] at ordered
  exact ⟨_, ordered⟩

theorem nodup_origins (reachable : system.Reachable state) :
    (state.central.accepted.map origin).Nodup := by
  have wf := pipeline reachable
  apply List.Nodup.map_on ?_ wf.nodup
  intro message member other otherMember same
  have genuine := wf.genuine member
  have genuine' := wf.genuine otherMember
  rcases message with ⟨source, index, value⟩
  rcases other with ⟨source', index', value'⟩
  cases same
  rw [genuine'] at genuine
  cases genuine
  rfl

/-- Of two messages of one source in the central channel the first was sent
first. -/
theorem fifo_accepted (reachable : system.Reachable state)
    {first second : Source × Nat}
    (precedes : Precedes first second (state.central.accepted.map origin))
    (same : first.1 = second.1) : first.2 ≤ second.2 := by
  have wf := pipeline reachable
  rcases List.sublist_map_iff.mp precedes with ⟨chosen, inside, equal⟩
  rcases List.map_eq_cons_iff.mp equal.symm with ⟨left, rest, rfl, rfl, single⟩
  rcases List.map_eq_singleton_iff.mp single with ⟨right, rfl, rfl⟩
  have both := inside.filter fun message => message.source = left.source
  have same : right.source = left.source := same.symm
  rw [List.filter_cons_of_pos (by simp), List.filter_cons_of_pos (by simp [same])]
    at both
  have ascending : (tagged left.source (state.image left.source)).Pairwise
      fun earlier later => earlier.index < later.index := by
    apply List.Pairwise.map _ ?_ (pairwise_present _)
    exact fun _ _ less => less
  have pair := ascending.sublist (both.trans (wf.part_mono left.source).sublist)
  exact Nat.le_of_lt ((List.pairwise_cons.mp pair).1 right List.mem_cons_self)

/-- In every reachable state, whoever the clients are, when they connected and
when they drain. -/
theorem oneOrder (reachable : system.Reachable state) : OneOrder state where
  queue client first second precedes := by
    rcases follows_accepted reachable client with ⟨bound, follows⟩
    exact follows.pair precedes
  agree client other first second before after := by
    rcases follows_accepted reachable client with ⟨bound, here⟩
    rcases follows_accepted reachable other with ⟨bound', there⟩
    exact here.agree (nodup_origins reachable) there before after
  fifo client first second precedes same := by
    rcases follows_accepted reachable client with ⟨bound, follows⟩
    rcases follows.pair precedes with rfl | inQueue
    · exact Nat.le_refl _
    · exact fifo_accepted reachable inQueue same

/-! ## Once, and by whom -/

/-- A message that is no heartbeat is told to one client at most, once. -/
def ToldOnce (message : Tagged RouterMessage) (state : State) : Prop :=
  ∃ told : Option Client, ∀ client,
    (state.outbox client).count message = if told = some client then 1 else 0

theorem ToldOnce.of_same {next : State} {message : Tagged RouterMessage}
    (once : ToldOnce message state) (same : next.outbox = state.outbox) :
    ToldOnce message next := by
  rcases once with ⟨told, count⟩
  exact ⟨told, fun client => by rw [same, count client]⟩

theorem ToldOnce.of_other {next : State} {client : Client}
    {message other : Tagged RouterMessage} (once : ToldOnce message state)
    (gains : Gains state next client other) (different : other ≠ message) :
    ToldOnce message next := by
  rcases once with ⟨told, count⟩
  refine ⟨told, fun target => ?_⟩
  rw [gains target, List.count_append, count target]
  split <;> split <;> simp [different]

theorem toldOnce (reachable : system.Reachable state)
    {message : Tagged RouterMessage}
    (plain : heartbeatOf message.value = none) : ToldOnce message state := by
  apply System.invariant (ToldOnce message) ?_ ?_ reachable
  · exact ⟨none, fun client => by cases client <;> rfl⟩
  · intro state next action reached once stepped
    rcases step_effect reached stepped with ⟨_, _, effect⟩ | ⟨_, same, _⟩
    · cases effect with
      | quiet same | broadcast _ _ _ same => exact once.of_same same
      | beat beat heartbeat edgeId tx inHand carries entry gains =>
          apply once.of_other gains
          intro equal
          subst equal
          cases plain
      | unicast dispatch inHand quiet settled =>
          cases settled with
          | notConnected _ _ same | closed _ _ _ _ same =>
              exact once.of_same same
          | enqueued client entry listens result gains =>
              by_cases here : dispatch.message = message
              · -- It had not been processed, so nobody has been told yet.
                subst here
                refine ⟨some client, fun target => ?_⟩
                have absent : (state.outbox target).count dispatch.message =
                    0 := by
                  apply List.count_eq_zero.mpr
                  intro member
                  exact (pipeline reached).inHand_fresh inHand
                    (outboxProcessed reached target _ member quiet)
                rw [gains target, List.count_append, absent]
                by_cases same : target = client
                · subst same
                  simp
                · have apart : client ≠ target := fun equal => same equal.symm
                  simp [same, apart]
              · exact once.of_other gains here
    · exact once.of_same same

/-- What a client was told of a posted alert: the client is a Data session, and
the alert has been processed. -/
theorem told_http (reachable : system.Reachable state) {client : Client}
    {message : Tagged RouterMessage} (member : message ∈ state.outbox client)
    {i : Nat} (source : message.source = .http i) :
    (∃ session, client = .data session) ∧
      heartbeatOf message.value = none ∧ message ∈ state.processed := by
  have wf := pipeline reachable
  cases client with
  | edge j =>
      rcases rightful reachable j message member with ⟨_, _, _, origin⟩
      cases origin with
      | command session _ _ _ from_ =>
          rw [source] at from_
          cases from_
      | heartbeat session _ _ from_ =>
          rw [source] at from_
          cases from_
  | manager j =>
      obtain ⟨inner, _, rfl⟩ := List.mem_map.mp member
      have done := outboxProcessed reachable _ _ member rfl
      have genuine := wf.genuine (wf.processed_prefix_accepted.subset done)
      rw [source] at genuine
      simp only [image, List.getElem?_map, Option.map_eq_some_iff] at genuine
      rcases genuine with ⟨value, found, same⟩
      rcases (wf.http i).toData value (List.mem_of_getElem? found) with
        ⟨alert, rfl⟩
      cases Option.some.inj same
  | data j =>
      obtain ⟨inner, _, rfl⟩ := List.mem_map.mp member
      exact ⟨⟨j, rfl⟩, rfl, outboxProcessed reachable _ _ member rfl⟩

/-- Two edges are told two heartbeats. -/
def twoHeartbeats : List Action :=
  [.edge 0 .connect, .edge 0 (.client (.send (announcement "a"))),
    .edge 0 .task, .edge 0 .task, .edge 1 .connect,
    .edge 1 (.client (.send (announcement "b"))), .edge 1 .task, .edge 1 .task,
    .data 0 .connect, .data 0 .task,
    .data 0 (.client (.send ⟨some (.heartbeat ⟨none, true⟩)⟩)),
    .data 0 (.client (.send ⟨some (.heartbeat ⟨none, false⟩)⟩)),
    .data 0 .task, .data 0 .task, .data 0 .task, .data 0 .task] ++
  [[], [("a", 0), ("b", 1)], [], [], [], [], [("b", 1), ("a", 0)], [], [],
    []].map .dispatcher

theorem oneOrder_twoHeartbeats :
    ∃ last, system.runFrom start twoHeartbeats = some last ∧
      last.origins (.edge 0) = [(.data 0, 0), (.data 0, 1)] ∧
      last.origins (.edge 1) = [(.data 0, 0), (.data 0, 1)] ∧
      OneOrder last :=
  ⟨_, rfl, rfl, rfl, oneOrder ⟨twoHeartbeats, rfl⟩⟩

/-! ## Services do not hear each other -/

/-- Two states look the same to the clients of one service: what each of them
was told, who still listens, and whom the table holds for them. -/
structure SameFor (service : TableLock) (state state' : State) : Prop where
  outbox : ∀ client, client.service = service →
    state.outbox client = state'.outbox client
  listens : ∀ client, client.service = service →
    state.listens client = state'.listens client
  holder : ∀ key, key.service = service →
    directory.holder state.table key = directory.holder state'.table key

/-- The events of a run that concern one service: writes to its entries, its
receivers dropped, and the messages told under its keys. -/
def heard (service : TableLock) (schedule : List Action) : List RouterEvent :=
  (system.trace brokerEvents start schedule).filter (services.concerns service)

/-- Two runs in which the same happens to a service look the same to its
clients, whatever happens to the other two. -/
theorem servicesApart (service : TableLock)
    (ran : system.runFrom start schedule = some last)
    (ran' : system.runFrom start schedule' = some last')
    (same : heard service schedule = heard service schedule') :
    SameFor service last last' := by
  have alike : services.Alike service last.broker last'.broker :=
    (Kinds.Alike.refl start.broker).run same
      (broker_run System.Reachable.start ran)
      (broker_run System.Reachable.start ran')
  exact ⟨alike.inbox, alike.isOpen, alike.holder⟩

/-- Data comes and goes around a hello. -/
def helloBesideData : List Action :=
  [.data 0 .connect, .data 0 .task] ++ helloRun ++
    [.data 0 (.client .close), .data 0 .task, .data 0 .task,
      .data 0 (.client .dropReceiver)]

theorem servicesApart_helloRun :
    ∃ last last',
      system.runFrom start helloRun = some last ∧
      system.runFrom start helloBesideData = some last' ∧
      (last.outbox (.manager 0)).length = 1 ∧
      SameFor .manager last last' := by
  obtain ⟨last, last', ran, ran', told⟩ : ∃ last last',
      system.runFrom start helloRun = some last ∧
      system.runFrom start helloBesideData = some last' ∧
      (last.outbox (.manager 0)).length = 1 := ⟨_, _, rfl, rfl, rfl⟩
  have same : heard .manager helloRun = heard .manager helloBesideData := rfl
  exact ⟨last, last', ran, ran', told, servicesApart .manager ran ran' same⟩

end State

end IotRouter.Router
