import IotRouter.Router.EdgeStreams

/-!
# Who owns the entries of the edge map

An entry is made by one stream and removed by name. Two things can go wrong at
the final `unregister_edge` of a stream: it remembers one id only, so entries it
made under other ids stay behind, and it removes whatever entry it finds under
that id, so the entry of another stream goes with it. Each of the two laws below
holds of a run exactly as long as no final unregistration goes wrong that way.
-/

namespace IotRouter.Router

open IotRouter.Grpc IotRouter.Runtime

namespace EdgeSide

variable {central central' : Central} {side side' : EdgeSide} {i : StreamId}
variable {action : StreamAction FromEdge}

/-! ## Entries of ended streams -/

/-- Some sender of the stream's outbound channel is left: the clone its task
keeps until it is done, or one in the map. -/
def SenderAlive (side : EdgeSide) (i : StreamId) : Prop :=
  ((side.streams i).task.pc ≠ .idle ∧ (side.streams i).task.pc ≠ .done) ∨
    ∃ edgeId, side.lock.value.lookup edgeId = some i

/-- No route outlives its stream. -/
structure NoStaleRoutes (side : EdgeSide) : Prop where
  /-- Every entry holds the sender of a stream whose task is not done. -/
  owners : ∀ edgeId owner, side.lock.value.lookup edgeId = some owner →
    (side.streams owner).task.pc ≠ .done
  /-- Once every stream has ended the map is empty. -/
  empty : (∀ i, (side.streams i).task.pc = .idle ∨
    (side.streams i).task.pc = .done) → side.lock.value = ∅
  /-- An ended stream has no sender left. -/
  senders : ∀ i, (side.streams i).task.pc = .done → ¬SenderAlive side i

/-- The stream runs its final unregistration while the map holds its sender
under another id. -/
def LeavesRoutes (side : EdgeSide) (i : StreamId)
    (action : StreamAction FromEdge) : Prop :=
  action = .task ∧ ∃ edgeId, (side.streams i).task.pc = .unregistering edgeId ∧
    ∃ other, other ≠ edgeId ∧ side.lock.value.lookup other = some i

theorem eq_empty_of_lookup {edges : EdgeMap}
    (absent : ∀ edgeId, edges.lookup edgeId = none) : edges = ∅ := by
  have entries : edges.entries = [] := by
    rw [List.eq_nil_iff_forall_not_mem]
    intro entry member
    rcases entry with ⟨edgeId, owner⟩
    have found := AList.mem_lookup_iff.mpr member
    rw [absent edgeId] at found
    cases found
  exact AList.ext entries

/-- Every entry holds the sender of a stream whose task is not done. -/
def OwnersLive (side : EdgeSide) : Prop :=
  ∀ edgeId owner, side.lock.value.lookup edgeId = some owner →
    (side.streams owner).task.pc ≠ .done

/-- The two other laws follow from the first. -/
theorem noStaleRoutes_iff (wf : EdgeSideWF side) :
    NoStaleRoutes side ↔ OwnersLive side := by
  refine ⟨NoStaleRoutes.owners, fun owners => ⟨owners, fun ended => ?_, ?_⟩⟩
  · apply eq_empty_of_lookup
    intro edgeId
    cases found : side.lock.value.lookup edgeId with
    | none => rfl
    | some owner =>
        rcases ended owner with idle | done
        · exact absurd idle (wf.owner_connected found)
        · exact absurd done (owners edgeId owner found)
  · intro i done alive
    rcases alive with ⟨_, live⟩ | ⟨edgeId, found⟩
    · exact live done
    · exact owners edgeId i found done

/-- A task that is done after a step that writes nothing was done before, or
never announced an id. -/
theorem done_of_quiet
    (stepped : EdgeStep central side i action central' side')
    (quiet : ¬(action = .task ∧ (side.streams i).task.Waits))
    (ended : (side'.streams i).task.pc = .done) :
    (side.streams i).task.pc = .done ∨
      (side.streams i).task.connectedEdgeId = none := by
  cases stepped with
  | client act stream live acted =>
      rw [Side.setStream_self, (Stream.client_frame acted).1] at ended
      exact Or.inl ended
  | vanish pc inbound closed anonymous => exact Or.inr anonymous
  | register index msg lock pc =>
      exact absurd ⟨rfl, by simp [EdgeTask.Waits, pc]⟩ quiet
  | unregister edgeId lock pc =>
      exact absurd ⟨rfl, by simp [EdgeTask.Waits, pc]⟩ quiet
  | skip msg rest pc => simp [pc] at ended
  | connect | read | leave | forward | discard => simp [Stream.fresh] at ended

/-- A registration: the only new owner is the stream itself, which goes on. -/
theorem ownersLive_register
    (stepped : EdgeStep central side i .task central' side')
    {index : Nat} {msg : FromEdge}
    (pc : (side.streams i).task.pc = .registering index msg)
    (value : side'.lock.value =
      (ensureEdgeRegistered side.lock.value msg.edgeId i).1)
    (owners : OwnersLive side) : OwnersLive side' := by
  have live : (side'.streams i).task.pc ≠ .done := by
    cases stepped with
    | register index msg lock pc written =>
        rw [Side.setStream_self]
        split <;> simp
    | skip _ _ other | read _ _ other | leave _ other | vanish other
    | forward _ _ other | discard _ other | unregister _ _ other =>
        rw [other] at pc
        cases pc
  intro key owner found
  by_cases own : owner = i
  · rw [own]
    exact live
  · rw [stepped.streams_of_ne own]
    rw [value, lookup_ensureEdgeRegistered] at found
    split at found
    · cases before : side.lock.value.lookup msg.edgeId with
      | none =>
          rw [before] at found
          exact absurd (Option.some.inj found).symm own
      | some other =>
          rw [before] at found
          cases found
          exact owners _ _ before
    · exact owners key owner found

/-- The final unregistration: what is left of the stream's own entries. -/
theorem ownersLive_unregister
    (stepped : EdgeStep central side i .task central' side')
    {edgeId : String} (ended : (side'.streams i).task.pc = .done)
    (value : side'.lock.value = unregisterEdge side.lock.value edgeId)
    (owners : OwnersLive side) :
    OwnersLive side' ↔
      ¬∃ other, other ≠ edgeId ∧ side.lock.value.lookup other = some i := by
  constructor
  · intro after left
    rcases left with ⟨other, different, found⟩
    apply after other i _ ended
    rw [value, lookup_unregisterEdge, if_neg different]
    exact found
  · intro tidy key owner found
    rw [value, lookup_unregisterEdge] at found
    split at found
    · cases found
    · rename_i different
      by_cases own : owner = i
      · subst own
        exact absurd ⟨key, different, found⟩ tidy
      · rw [stepped.streams_of_ne own]
        exact owners key owner found

/-- Any other step: a stream that vanishes owns nothing. -/
theorem ownersLive_quiet (wf : EdgeSideWF side)
    (stepped : EdgeStep central side i action central' side')
    (quiet : ¬(action = .task ∧ (side.streams i).task.Waits))
    (value : side'.lock.value = side.lock.value) (owners : OwnersLive side) :
    OwnersLive side' := by
  intro key owner found ended
  rw [value] at found
  by_cases own : owner = i
  · subst own
    rcases done_of_quiet stepped quiet ended with done | anonymous
    · exact owners key owner found done
    · have announced := wf.owned key owner found
      rw [(wf.streams owner).connected, List.getLast?_eq_none_iff] at anonymous
      rw [anonymous] at announced
      cases announced
  · rw [stepped.streams_of_ne own] at ended
    exact owners key owner found ended

/-- A step keeps the law exactly if it leaves no route behind. -/
theorem noStaleRoutes_step (wf : EdgeSideWF side)
    (stepped : EdgeStep central side i action central' side')
    (current : NoStaleRoutes side) :
    NoStaleRoutes side' ↔ ¬LeavesRoutes side i action := by
  have owners : OwnersLive side := current.owners
  rw [noStaleRoutes_iff (wf.step stepped)]
  rcases stepped.table with
    ⟨index, msg, rfl, pc, value, _⟩ | ⟨edgeId, rfl, pc, task, value, _⟩ |
      ⟨quiet, value, _⟩
  · constructor
    · intro _ leaves
      rcases leaves with ⟨_, edgeId, ending, _⟩
      rw [pc] at ending
      cases ending
    · intro _
      exact ownersLive_register stepped pc value owners
  · have ended : (side'.streams i).task.pc = .done := by
      rw [task]
    apply (ownersLive_unregister stepped ended value owners).trans
    apply not_congr
    constructor
    · intro left
      exact ⟨rfl, edgeId, pc, left⟩
    · intro leaves
      rcases leaves with ⟨_, other, ending, left⟩
      cases pc.symm.trans ending
      exact left
  · constructor
    · intro _ leaves
      rcases leaves with ⟨acts, edgeId, ending, _⟩
      exact quiet ⟨acts, by simp [EdgeTask.Waits, ending]⟩
    · intro _
      exact ownersLive_quiet wf stepped quiet value owners

theorem noStaleRoutes_served (served : Side.Served side side') :
    NoStaleRoutes side' ↔ NoStaleRoutes side := by
  have alive : ∀ i, SenderAlive side' i ↔ SenderAlive side i := by
    intro i
    simp only [SenderAlive, served.task, served.value]
  constructor
  · intro current
    rcases current with ⟨owners, empty, senders⟩
    simp only [served.task, served.value, alive] at owners empty senders
    exact ⟨owners, empty, senders⟩
  · intro current
    rcases current with ⟨owners, empty, senders⟩
    refine ⟨?_, ?_, ?_⟩ <;> simp only [served.task, served.value, alive]
    · exact owners
    · exact empty
    · exact senders

/-! ## Entries of other streams -/

/-- Every entry of another stream that has not ended is still there. -/
def KeepsOthers (side side' : EdgeSide) (i : StreamId) : Prop :=
  ∀ edgeId owner, side.lock.value.lookup edgeId = some owner → owner ≠ i →
    (side.streams owner).task.pc ≠ .done →
    side'.lock.value.lookup edgeId = some owner

/-- The entry under the id, if there is one, is the stream's own or that of an
ended stream. -/
def OwnsOrEnded (side : EdgeSide) (i : StreamId) (edgeId : String) : Prop :=
  ∀ owner, side.lock.value.lookup edgeId = some owner →
    owner = i ∨ (side.streams owner).task.pc = .done

theorem keepsOthers_iff {edgeId : String}
    (value : side'.lock.value = unregisterEdge side.lock.value edgeId) :
    KeepsOthers side side' i ↔ OwnsOrEnded side i edgeId := by
  constructor
  · intro keeps owner found
    by_contra foreign
    rw [not_or] at foreign
    have kept := keeps edgeId owner found foreign.1 foreign.2
    rw [value, lookup_unregisterEdge, if_pos rfl] at kept
    cases kept
  · intro owned key owner found foreign live
    rw [value, lookup_unregisterEdge, if_neg]
    · exact found
    · intro equal
      subst equal
      rcases owned owner found with own | ended
      · exact foreign own
      · exact live ended

end EdgeSide

/-! ## The whole router -/

namespace State

/-- At this step no edge stream unregisters while the map holds its sender under
an id other than the one it announced last. -/
def LeavesNoRoutes (state : State) (action : Action) : Prop :=
  ∀ i act, action = .edge i act → ¬EdgeSide.LeavesRoutes state.edges i act

theorem noStaleRoutes_step {state next : State} {action : Action}
    (reachable : system.Reachable state)
    (current : EdgeSide.NoStaleRoutes state.edges)
    (stepped : system.step state action = some next) :
    EdgeSide.NoStaleRoutes next.edges ↔ LeavesNoRoutes state action := by
  rcases step_edges stepped with ⟨i, act, rfl, inner⟩ | ⟨other, served⟩
  · rw [EdgeSide.noStaleRoutes_step (edgeSideWF reachable) inner current]
    constructor
    · intro tidy j act' equal
      cases equal
      exact tidy
    · intro tidy
      exact tidy i act rfl
  · rw [EdgeSide.noStaleRoutes_served served]
    exact ⟨fun _ i act equal => absurd equal (other i act), fun _ => current⟩

/-- A run has no stale route in any state it visits exactly if no stream
unregisters at one of its steps while the map holds its sender under another
id. -/
theorem noStaleRoutes_iff_leavesNoRoutes {schedule : List Action} {last : State}
    (ran : system.runFrom State.start schedule = some last) :
    system.StatesMeet (fun state => EdgeSide.NoStaleRoutes state.edges)
        State.start schedule ↔
      system.StepsMeet LeavesNoRoutes State.start schedule := by
  apply System.statesMeet_iff_stepsMeet noStaleRoutes_step
    System.Reachable.start ?_ ran
  apply (EdgeSide.noStaleRoutes_iff EdgeSideWF.start).mpr
  intro edgeId owner found
  simp [start, RwLock.new] at found

/-- A message that only announces an id. -/
def announcement (edgeId : String) : FromEdge :=
  { edgeId, payload := none }

/-- A stream announces its ids one after the other and ends. -/
def lifeOf (i : StreamId) (edgeIds : List String) : List Action :=
  .edge i .connect ::
    (edgeIds.flatMap fun edgeId =>
      [.edge i (.client (.send (announcement edgeId))), .edge i .task,
        .edge i .task]) ++
    [.edge i (.client .close), .edge i .task, .edge i .task]

theorem noStaleRoutes_lifeOf_one :
    ∃ last, system.runFrom State.start (lifeOf 0 ["a"]) = some last ∧
      (system.StatesMeet (fun state => EdgeSide.NoStaleRoutes state.edges)
          State.start (lifeOf 0 ["a"]) ↔
        system.StepsMeet LeavesNoRoutes State.start (lifeOf 0 ["a"])) :=
  ⟨_, rfl, noStaleRoutes_iff_leavesNoRoutes rfl⟩

/-- A stream that used two ids leaves the first one behind. -/
theorem not_noStaleRoutes :
    ¬∀ {state : State}, system.Reachable state →
      EdgeSide.NoStaleRoutes state.edges := by
  intro fresh
  obtain ⟨last, ran, found, ended⟩ : ∃ last,
      system.runFrom State.start (lifeOf 0 ["a", "b"]) = some last ∧
      last.edges.lock.value.lookup "a" = some 0 ∧
      (last.edges.streams 0).task.pc = .done := ⟨_, rfl, rfl, rfl⟩
  exact (fresh ⟨_, ran⟩).owners "a" 0 found ended

/-- If the step is the final unregistration of an edge stream, every entry of
another stream that has not ended survives it. -/
def TakesOnlyItsOwn (state : State) (action : Action) : Prop :=
  ∀ i edgeId next, action = .edge i .task →
    (state.edges.streams i).task.pc = .unregistering edgeId →
    system.step state action = some next →
    EdgeSide.KeepsOthers state.edges next.edges i

/-- If the step is the final unregistration of an edge stream, the entry under
the id it announced last is absent, its own, or that of an ended stream. -/
def UnregistersItsOwn (state : State) (action : Action) : Prop :=
  ∀ i edgeId, action = .edge i .task →
    (state.edges.streams i).task.pc = .unregistering edgeId →
    EdgeSide.OwnsOrEnded state.edges i edgeId

theorem takesOnlyItsOwn_iff {state next : State} {action : Action}
    (stepped : system.step state action = some next) :
    TakesOnlyItsOwn state action ↔ UnregistersItsOwn state action := by
  have exact_here : ∀ i edgeId, action = .edge i .task →
      (state.edges.streams i).task.pc = .unregistering edgeId →
      (EdgeSide.KeepsOthers state.edges next.edges i ↔
        EdgeSide.OwnsOrEnded state.edges i edgeId) := by
    intro i edgeId equal ending
    subst equal
    rcases step_edges stepped with ⟨j, act, equal, inner⟩ | ⟨other, _⟩
    · cases equal
      rcases inner.table with
        ⟨_, _, _, pc, _⟩ | ⟨ended, _, pc, _, value, _⟩ | ⟨quiet, _⟩
      · rw [ending] at pc
        cases pc
      · cases ending.symm.trans pc
        exact EdgeSide.keepsOthers_iff value
      · exact absurd ⟨rfl, by simp [EdgeTask.Waits, ending]⟩ quiet
    · exact absurd rfl (other i .task)
  constructor
  · intro takes i edgeId acts ending
    exact (exact_here i edgeId acts ending).mp
      (takes i edgeId next acts ending stepped)
  · intro owned i edgeId after acts ending otherStepped
    cases stepped.symm.trans otherStepped
    exact (exact_here i edgeId acts ending).mpr (owned i edgeId acts ending)

/-- The ends of a run take away their own entries only, exactly if each of them
finds its own entry, none, or that of an ended stream. -/
theorem takesOnlyItsOwn_iff_unregistersItsOwn {schedule : List Action}
    {last : State} (ran : system.runFrom State.start schedule = some last) :
    system.StepsMeet TakesOnlyItsOwn State.start schedule ↔
      system.StepsMeet UnregistersItsOwn State.start schedule :=
  System.stepsMeet_iff (fun _ stepped => takesOnlyItsOwn_iff stepped)
    System.Reachable.start ran

theorem takesOnlyItsOwn_lifeOf :
    ∃ last, system.runFrom State.start (lifeOf 0 ["a", "b"]) = some last ∧
      (system.StepsMeet TakesOnlyItsOwn State.start (lifeOf 0 ["a", "b"]) ↔
        system.StepsMeet UnregistersItsOwn State.start
          (lifeOf 0 ["a", "b"])) :=
  ⟨_, rfl, takesOnlyItsOwn_iff_unregistersItsOwn rfl⟩

/-- Stream 0 registers `"a"`; stream 1 announces the same id and is about to
unregister. -/
def sharedId : List Action :=
  [.edge 0 .connect, .edge 0 (.client (.send (announcement "a"))),
    .edge 0 .task, .edge 0 .task, .edge 1 .connect,
    .edge 1 (.client (.send (announcement "a"))), .edge 1 .task, .edge 1 .task,
    .edge 1 (.client .close), .edge 1 .task]

/-- The end of stream 1 removes the entry of stream 0, which is still open. -/
theorem not_takesOnlyItsOwn :
    ¬∀ {state : State} {action : Action}, system.Reachable state →
      TakesOnlyItsOwn state action := by
  intro takes
  obtain ⟨state, next, ran, stepped, ending, found, live, removed⟩ :
      ∃ state next, system.runFrom State.start sharedId = some state ∧
      system.step state (.edge 1 .task) = some next ∧
      (state.edges.streams 1).task.pc = .unregistering "a" ∧
      state.edges.lock.value.lookup "a" = some 0 ∧
      (state.edges.streams 0).task.pc = .next ∧
      next.edges.lock.value.lookup "a" = none :=
    ⟨_, _, rfl, rfl, rfl, rfl, rfl, rfl⟩
  have kept := takes ⟨_, ran⟩ 1 "a" next rfl ending stepped "a" 0 found
    (by decide) (by rw [live]; decide)
  rw [removed] at kept
  cases kept

end State

end IotRouter.Router
