import IotRouter.Runtime.Transition
import IotRouter.Connections.Registry

/-!
# The reaper among its clients

The registry under concurrent `register` and `touch`, with the steps of a sweep
in between: read the clock, inspect the entries one by one, then remove the
collected ids one by one. Every step is one operation on the map. The removal
does not look at the entry again, so what happens between an inspection and the
removal goes unnoticed.
-/

namespace IotRouter.Connections

open IotRouter.Runtime

/-- The progress of `start_reaper`. -/
inductive Reaper where
  /-- `ticker.tick().await` -/
  | waiting
  /-- The iteration that collects the dead ids: the time it goes by, the keys
  that were there when it began, those it has inspected, and the dead so far. -/
  | inspecting (now : Int) (ahead seen dead : List String)
  /-- The loop over the dead ids: those still to be removed. -/
  | removing (now : Int) (dead : List String)
  deriving DecidableEq, Repr

/-- The registry, its reaper, and the clock both read. -/
structure State where
  clock : Int
  registry : ConnectionRegistry
  reaper : Reaper

/-- `register` inserts under a fresh id an entry with a time read before; `touch`
reads the clock while it holds the entry. The iteration visits the entries in any
order, and an entry that was inserted meanwhile if it comes across it. -/
inductive Action where
  | elapse (nanos : Nat)
  | register (id clientCn remoteAddr : String) (now : Int)
  | touch (id : String)
  | wake
  | inspect (id : String)
  | collect
  | remove
  | finish
  deriving DecidableEq, Repr

namespace State

def start (idleTimeout : Duration) (clock : Int) : State where
  clock
  registry := .new idleTimeout
  reaper := .waiting

def step (state : State) : Action → Option State
  | .elapse nanos => some { state with clock := state.clock + nanos }
  | .register id clientCn remoteAddr now =>
      if id ∉ state.registry.inner ∧ now ≤ state.clock then
        some { state with
          registry := state.registry.register id clientCn remoteAddr now }
      else none
  | .touch id =>
      some { state with registry := state.registry.touch id state.clock }
  | .wake =>
      match state.reaper with
      | .waiting =>
          some { state with
            reaper :=
              .inspecting state.clock state.registry.inner.keys [] [] }
      | _ => none
  | .inspect id =>
      match state.reaper with
      | .inspecting now ahead seen dead =>
          if id ∈ seen then none
          else (state.registry.inner.lookup id).map fun conn =>
            { state with
              reaper := .inspecting now ahead (id :: seen)
                (if state.registry.isDead now conn then dead ++ [id]
                else dead) }
      | _ => none
  | .collect =>
      match state.reaper with
      | .inspecting now ahead seen dead =>
          if ∀ id ∈ ahead, id ∈ seen then
            some { state with reaper := .removing now dead }
          else none
      | _ => none
  | .remove =>
      match state.reaper with
      | .removing now (id :: rest) =>
          some { state with
            registry := state.registry.remove id
            reaper := .removing now rest }
      | _ => none
  | .finish =>
      match state.reaper with
      | .removing _ [] => some { state with reaper := .waiting }
      | _ => none

end State

/-- The registry as a transition system. -/
def system (idleTimeout : Duration) (clock : Int) : System State Action where
  start := .start idleTimeout clock
  step := State.step

/-- The steps, with what they check and what they change. -/
inductive Step (state : State) : Action → State → Prop where
  | elapse (nanos : Nat) :
      Step state (.elapse nanos) { state with clock := state.clock + nanos }
  | register (id clientCn remoteAddr : String) (now : Int)
      (fresh : id ∉ state.registry.inner) (read : now ≤ state.clock) :
      Step state (.register id clientCn remoteAddr now)
        { state with
          registry := state.registry.register id clientCn remoteAddr now }
  | touch (id : String) :
      Step state (.touch id)
        { state with registry := state.registry.touch id state.clock }
  | wake (waiting : state.reaper = .waiting) :
      Step state .wake { state with
        reaper := .inspecting state.clock state.registry.inner.keys [] [] }
  | inspect (id : String) (now : Int) (ahead seen dead : List String)
      (conn : ConnectionInfo)
      (at_ : state.reaper = .inspecting now ahead seen dead)
      (unseen : id ∉ seen)
      (found : state.registry.inner.lookup id = some conn) :
      Step state (.inspect id) { state with
        reaper := .inspecting now ahead (id :: seen)
          (if state.registry.isDead now conn then dead ++ [id] else dead) }
  | collect (now : Int) (ahead seen dead : List String)
      (at_ : state.reaper = .inspecting now ahead seen dead)
      (all : ∀ id ∈ ahead, id ∈ seen) :
      Step state .collect { state with reaper := .removing now dead }
  | remove (now : Int) (id : String) (rest : List String)
      (at_ : state.reaper = .removing now (id :: rest)) :
      Step state .remove { state with
        registry := state.registry.remove id, reaper := .removing now rest }
  | finish (now : Int) (at_ : state.reaper = .removing now []) :
      Step state .finish { state with reaper := .waiting }

theorem State.step_cases {state next : State} {action : Action}
    (stepped : state.step action = some next) : Step state action next := by
  cases action with
  | elapse nanos =>
      cases stepped
      exact .elapse nanos
  | register id clientCn remoteAddr now =>
      simp only [step] at stepped
      split at stepped <;> cases stepped
      rename_i allowed
      exact .register id clientCn remoteAddr now allowed.1 allowed.2
  | touch id =>
      cases stepped
      exact .touch id
  | wake =>
      simp only [step] at stepped
      split at stepped <;> cases stepped
      exact .wake ‹_›
  | inspect id =>
      simp only [step] at stepped
      split at stepped
      · rename_i now ahead seen dead at_
        split at stepped
        · cases stepped
        · rename_i unseen
          rcases Option.map_eq_some_iff.mp stepped with ⟨conn, found, rfl⟩
          exact .inspect id now ahead seen dead conn at_ unseen found
      · cases stepped
  | collect =>
      simp only [step] at stepped
      split at stepped
      · split at stepped <;> cases stepped
        exact .collect _ _ _ _ ‹_› ‹_›
      · cases stepped
  | remove =>
      simp only [step] at stepped
      split at stepped <;> cases stepped
      exact .remove _ _ _ ‹_›
  | finish =>
      simp only [step] at stepped
      split at stepped <;> cases stepped
      exact .finish _ ‹_›

/-- The timeout is fixed when the registry is made. -/
theorem Step.idleTimeout {state next : State} {action : Action}
    (stepped : Step state action next) :
    next.registry.idleTimeout = state.registry.idleTimeout := by
  cases stepped with
  | touch id => exact ConnectionRegistry.touch_idleTimeout _ _ _
  | _ => rfl

/-- Every entry is kept under its own id, with times that do not contradict each
other. -/
def EntriesWF (state : State) : Prop :=
  ∀ id conn, state.registry.inner.lookup id = some conn →
    conn.id = id ∧ conn.connectedAt ≤ conn.lastSeen ∧
      conn.lastSeen ≤ state.clock

theorem EntriesWF.step {state next : State} {action : Action}
    (wf : EntriesWF state) (stepped : Step state action next) :
    EntriesWF next := by
  intro key conn found
  cases stepped with
  | elapse nanos =>
      have before := wf key conn found
      refine ⟨before.1, before.2.1, ?_⟩
      simp only
      omega
  | register id clientCn remoteAddr now fresh read =>
      rw [ConnectionRegistry.lookup_register] at found
      split at found
      · rename_i same
        cases found
        exact ⟨same.symm, Int.le_refl _, read⟩
      · exact wf key conn found
  | touch id =>
      rw [ConnectionRegistry.lookup_touch] at found
      split at found
      · rename_i same
        rcases Option.map_eq_some_iff.mp found with ⟨before, earlier, rfl⟩
        have entry := wf id before earlier
        refine ⟨entry.1.trans same.symm, ?_, Int.le_refl _⟩
        exact Int.le_trans entry.2.1 entry.2.2
      · exact wf key conn found
  | remove now id rest at_ =>
      rw [ConnectionRegistry.lookup_remove] at found
      split at found
      · cases found
      · exact wf key conn found
  | _ => exact wf key conn found

theorem reachable_entriesWF {idleTimeout : Duration} {clock : Int}
    {state : State} (reachable : (system idleTimeout clock).Reachable state) :
    EntriesWF state := by
  apply System.invariant EntriesWF ?_ ?_ reachable
  · intro id conn found
    cases found
  · intro state next action _ wf stepped
    exact wf.step (State.step_cases stepped)

/-! ## An undisturbed sweep -/

section Alone

variable (idleTimeout : Duration) (clock : Int)

/-- The verdict of the sweep on an id. -/
def State.verdict (state : State) (now : Int) (id : String) : Bool :=
  (state.registry.inner.lookup id).any (state.registry.isDead now)

theorem run_inspect (state : State) (now : Int)
    (ahead ids seen dead : List String) (nodup : ids.Nodup)
    (unseen : ∀ id ∈ ids, id ∉ seen)
    (present : ∀ id ∈ ids, id ∈ state.registry.inner) :
    (system idleTimeout clock).runFrom
        { state with reaper := .inspecting now ahead seen dead }
        (ids.map .inspect) =
      some { state with
        reaper := .inspecting now ahead (ids.reverse ++ seen)
          (dead ++ ids.filter (state.verdict now)) } := by
  induction ids generalizing seen dead with
  | nil => simp
  | cons id ids ih =>
      rcases List.nodup_cons.mp nodup with ⟨new, nodup⟩
      rcases Option.isSome_iff_exists.mp
        (AList.lookup_isSome.mpr (present id List.mem_cons_self)) with
        ⟨conn, found⟩
      have stepped : State.step
          { state with reaper := .inspecting now ahead seen dead }
          (.inspect id) = some { state with
            reaper := .inspecting now ahead (id :: seen)
              (if state.registry.isDead now conn then dead ++ [id]
              else dead) } := by
        simp only [State.step, if_neg (unseen id List.mem_cons_self), found,
          Option.map_some]
      rw [List.map_cons, System.runFrom_cons]
      simp only [system, stepped, Option.bind_some]
      have onward := ih (id :: seen)
        (if state.registry.isDead now conn then dead ++ [id] else dead) nodup
        ?_ (fun other member => present other (List.mem_cons_of_mem _ member))
      · simp only [system] at onward
        rw [onward]
        have verdict : state.verdict now id = state.registry.isDead now conn := by
          simp [State.verdict, found]
        by_cases dies : state.registry.isDead now conn = true
        · simp [verdict, dies]
        · simp [verdict, dies]
      · intro other member
        rw [List.mem_cons, not_or]
        constructor
        · intro same
          exact new (same ▸ member)
        · exact unseen other (List.mem_cons_of_mem _ member)

theorem run_remove (state : State) (now : Int) (dead : List String) :
    (system idleTimeout clock).runFrom
        { state with reaper := .removing now dead }
        (dead.map fun _ => .remove) =
      some { state with
        registry := dead.foldl ConnectionRegistry.remove state.registry
        reaper := .removing now [] } := by
  induction dead generalizing state with
  | nil => rfl
  | cons id dead ih =>
      rw [List.map_cons, System.runFrom_cons]
      exact ih { state with registry := state.registry.remove id }

/-- The ids collected by the steps are those of the sweep. -/
theorem filter_verdict (state : State) (now : Int) :
    state.registry.inner.keys.filter (state.verdict now) =
      state.registry.dead now := by
  rw [ConnectionRegistry.dead, AList.keys, List.keys, List.filter_map]
  congr 1
  apply List.filter_congr
  intro entry member
  have found : state.registry.inner.lookup entry.1 = some entry.2 :=
    AList.mem_lookup_iff.mpr member
  simp [State.verdict, found]

/-- The steps of a sweep that nothing interferes with. -/
def sweepAlone (registry : ConnectionRegistry) (now : Int) : List Action :=
  .wake :: registry.inner.keys.map .inspect ++ .collect ::
    (registry.dead now).map (fun _ => .remove) ++ [.finish]

/-- Alone, the steps of the reaper are the sweep. -/
theorem run_sweepAlone (state : State) (waiting : state.reaper = .waiting) :
    (system idleTimeout clock).runFrom state
        (sweepAlone state.registry state.clock) =
      some { state with registry := state.registry.sweep state.clock } := by
  have inspected := run_inspect idleTimeout clock state state.clock
    state.registry.inner.keys state.registry.inner.keys [] []
    state.registry.inner.keys_nodup (fun _ _ => List.not_mem_nil)
    (fun _ member => AList.mem_keys.mp member)
  rw [List.nil_append, List.append_nil, filter_verdict] at inspected
  have removed := run_remove idleTimeout clock state state.clock
    (state.registry.dead state.clock)
  have woken : (system idleTimeout clock).step state .wake = some { state with
      reaper :=
        .inspecting state.clock state.registry.inner.keys [] [] } := by
    simp only [system, State.step, waiting]
  have collected : (system idleTimeout clock).step { state with
      reaper := .inspecting state.clock state.registry.inner.keys
        state.registry.inner.keys.reverse
        (state.registry.dead state.clock) } .collect = some { state with
      reaper := .removing state.clock (state.registry.dead state.clock) } := by
    simp [system, State.step]
  rw [sweepAlone, List.append_assoc, List.cons_append, System.runFrom_cons,
    woken, Option.bind_some, System.runFrom_append, inspected, Option.bind_some,
    List.cons_append, System.runFrom_cons, collected, Option.bind_some,
    System.runFrom_append, removed, Option.bind_some, System.runFrom_singleton]
  simp only [system, State.step, ConnectionRegistry.sweep, ← waiting]

end Alone


/-! ## Ids that wait for their removal -/

/-- The time a sweep goes by and the ids it has collected. -/
def Reaper.collected : Reaper → Option (Int × List String)
  | .waiting => none
  | .inspecting now _ _ dead | .removing now dead => some (now, dead)

section Sweeping

variable (verdict : Int → ConnectionInfo → Prop)

/-- A collected id is still there, with an entry that satisfies `verdict` at the
time the sweep goes by. -/
def Collected (registry : ConnectionRegistry) (now : Int) (id : String) : Prop :=
  ∃ conn, registry.inner.lookup id = some conn ∧ verdict now conn

/-- What holds of a sweep that goes by `now` and has collected `dead`. -/
structure Sweeping (registry : ConnectionRegistry) (clock now : Int)
    (dead : List String) : Prop where
  past : now ≤ clock
  nodup : dead.Nodup
  collected : ∀ id ∈ dead, Collected verdict registry now id

/-- What a sweep knows while it is under way. -/
structure SweepWF (state : State) : Prop where
  sweeping : ∀ now dead, state.reaper.collected = some (now, dead) →
    Sweeping verdict state.registry state.clock now dead
  inspected : ∀ now ahead seen dead,
    state.reaper = .inspecting now ahead seen dead → ∀ id ∈ dead, id ∈ seen

end Sweeping

section

variable {verdict : Int → ConnectionInfo → Prop}

theorem Collected.mem {registry : ConnectionRegistry} {now : Int} {id : String}
    (collected : Collected verdict registry now id) : id ∈ registry.inner := by
  rcases collected with ⟨conn, found, _⟩
  rw [← AList.lookup_isSome, found]
  rfl

namespace Sweeping

variable {registry : ConnectionRegistry} {clock now : Int} {dead : List String}

/-- Another id whose entry satisfies the verdict is collected. -/
theorem collect (sweeping : Sweeping verdict registry clock now dead)
    {id : String} (new : id ∉ dead) (found : Collected verdict registry now id) :
    Sweeping verdict registry clock now (dead ++ [id]) where
  past := sweeping.past
  nodup := by
    apply List.Nodup.append sweeping.nodup (List.nodup_singleton id)
    rw [List.disjoint_singleton]
    exact new
  collected other member := by
    rcases List.mem_append.mp member with earlier | this
    · exact sweeping.collected other earlier
    · rw [List.mem_singleton.mp this]
      exact found

/-- The removal of a collected id leaves the others. -/
theorem remove {id : String}
    (sweeping : Sweeping verdict registry clock now (id :: dead)) :
    Sweeping verdict (registry.remove id) clock now dead where
  past := sweeping.past
  nodup := sweeping.nodup.of_cons
  collected other member := by
    rcases sweeping.collected other (List.mem_cons_of_mem _ member) with
      ⟨conn, found, holds⟩
    refine ⟨conn, ?_, holds⟩
    rw [ConnectionRegistry.lookup_remove, if_neg]
    · exact found
    · intro same
      exact (List.nodup_cons.mp sweeping.nodup).1 (same ▸ member)

end Sweeping

namespace SweepWF

variable {state : State}

/-- While the reaper does nothing, the entries of the collected ids may change
and do not go away. -/
theorem keep (wf : SweepWF verdict state) (registry : ConnectionRegistry)
    (clock : Int) (later : state.clock ≤ clock)
    (entries : ∀ now dead, state.reaper.collected = some (now, dead) →
      now ≤ state.clock → ∀ id ∈ dead, Collected verdict state.registry now id →
        Collected verdict registry now id) :
    SweepWF verdict { clock, registry, reaper := state.reaper } where
  sweeping now dead under := by
    have sweeping := wf.sweeping now dead under
    constructor
    · exact Int.le_trans sweeping.past later
    · exact sweeping.nodup
    · intro id member
      exact entries now dead under sweeping.past id member
        (sweeping.collected id member)
  inspected := wf.inspected

/-- A fresh id is none of the collected ones. -/
theorem register (wf : SweepWF verdict state) {id clientCn remoteAddr : String}
    {read : Int} (fresh : id ∉ state.registry.inner) :
    SweepWF verdict { state with
      registry := state.registry.register id clientCn remoteAddr read } := by
  apply wf.keep _ _ (Int.le_refl _)
  intro now dead _ _ key _ collected
  have present := collected.mem
  rcases collected with ⟨conn, found, holds⟩
  refine ⟨conn, ?_, holds⟩
  rw [ConnectionRegistry.lookup_register, if_neg]
  · exact found
  · intro same
    exact fresh (same ▸ present)

/-- A touched entry keeps its verdict if the verdict does not mind. -/
theorem touch (wf : SweepWF verdict state) (id : String)
    (spared : ∀ now dead, state.reaper.collected = some (now, dead) →
      now ≤ state.clock → id ∈ dead → ∀ conn, verdict now conn →
        verdict now { conn with
          lastSeen := state.clock, requestsCount := conn.requestsCount + 1 }) :
    SweepWF verdict { state with
      registry := state.registry.touch id state.clock } := by
  apply wf.keep _ _ (Int.le_refl _)
  intro now dead under past key member collected
  rcases collected with ⟨conn, found, holds⟩
  by_cases same : key = id
  · subst same
    refine ⟨_, ?_, spared now dead under past member conn holds⟩
    rw [ConnectionRegistry.lookup_touch, if_pos rfl, found]
    rfl
  · refine ⟨conn, ?_, holds⟩
    rw [ConnectionRegistry.lookup_touch, if_neg same]
    exact found

/-- With no sweep under way there is nothing to know. -/
theorem of_waiting (waiting : state.reaper = .waiting) :
    SweepWF verdict state where
  sweeping _ _ under := by
    rw [waiting] at under
    cases under
  inspected _ _ _ _ at_ := by
    rw [waiting] at at_
    cases at_

/-- An entry is inspected that was not before. -/
theorem inspect (wf : SweepWF verdict state) {id : String} {now : Int}
    {ahead seen dead : List String} {conn : ConnectionInfo}
    (at_ : state.reaper = .inspecting now ahead seen dead)
    (unseen : id ∉ seen)
    (found : state.registry.inner.lookup id = some conn)
    (dies : state.registry.isDead now conn = true → verdict now conn) :
    SweepWF verdict { state with
      reaper := .inspecting now ahead (id :: seen)
        (if state.registry.isDead now conn then dead ++ [id] else dead) } := by
  have inspected := wf.inspected now ahead seen dead at_
  have sweeping : Sweeping verdict state.registry state.clock now dead := by
    apply wf.sweeping
    rw [at_]
    rfl
  constructor
  · intro _ _ under
    cases under
    split
    · rename_i isDead
      apply sweeping.collect
      · intro member
        exact unseen (inspected id member)
      · exact ⟨conn, found, dies isDead⟩
    · exact sweeping
  · intro _ _ _ _ here other member
    cases here
    split at member
    · rcases List.mem_append.mp member with earlier | this
      · exact List.mem_cons_of_mem _ (inspected other earlier)
      · rw [List.mem_singleton.mp this]
        exact List.mem_cons_self
    · exact List.mem_cons_of_mem _ (inspected other member)

/-- A step leaves what the sweep under way knows, if the dead entries satisfy the
verdict and a touched one keeps it. -/
theorem step {next : State} {action : Action} (wf : SweepWF verdict state)
    (stepped : Step state action next)
    (dies : ∀ now conn, state.registry.isDead now conn = true →
      verdict now conn)
    (touched : ∀ id, action = .touch id → SweepWF verdict { state with
      registry := state.registry.touch id state.clock }) :
    SweepWF verdict next := by
  cases stepped with
  | elapse nanos =>
      apply wf.keep
      · omega
      · intro _ _ _ _ _ _ collected
        exact collected
  | register id clientCn remoteAddr now fresh => exact wf.register fresh
  | touch id => exact touched id rfl
  | wake waiting =>
      constructor
      · intro now dead under
        cases under
        constructor
        · exact Int.le_refl _
        · exact List.nodup_nil
        · intro id member
          cases member
      · intro now ahead seen dead at_ id member
        cases at_
        cases member
  | inspect id now ahead seen dead conn at_ unseen found =>
      exact wf.inspect at_ unseen found (dies now conn)
  | collect now ahead seen dead at_ all =>
      constructor
      · intro _ _ under
        cases under
        apply wf.sweeping
        rw [at_]
        rfl
      · intro _ _ _ _ here
        cases here
  | remove now id rest at_ =>
      have sweeping : Sweeping verdict state.registry state.clock now
          (id :: rest) := by
        apply wf.sweeping
        rw [at_]
        rfl
      constructor
      · intro _ _ under
        cases under
        exact sweeping.remove
      · intro _ _ _ _ here
        cases here
  | finish now at_ => exact .of_waiting rfl

/-- The next id to be removed still satisfies the verdict. -/
theorem removing (wf : SweepWF verdict state) {now : Int} {id : String}
    {rest : List String} (at_ : state.reaper = .removing now (id :: rest)) :
    now ≤ state.clock ∧ Collected verdict state.registry now id := by
  have sweeping : Sweeping verdict state.registry state.clock now
      (id :: rest) := by
    apply wf.sweeping
    rw [at_]
    rfl
  exact ⟨sweeping.past, sweeping.collected id List.mem_cons_self⟩

end SweepWF

end

/-! ## What the removal does not look at -/

/-- Only the removal takes an entry away, the one that is next. -/
theorem Step.removed {state next : State} {action : Action} {id : String}
    {conn : ConnectionInfo} (stepped : Step state action next)
    (found : state.registry.inner.lookup id = some conn)
    (gone : id ∉ next.registry.inner) :
    action = .remove ∧ ∃ now rest, state.reaper = .removing now (id :: rest) := by
  have present : id ∈ state.registry.inner := by
    rw [← AList.lookup_isSome, found]
    rfl
  cases stepped with
  | register key clientCn remoteAddr now =>
      exact absurd ((AList.mem_insert _).mpr (Or.inr present)) gone
  | touch key =>
      exact absurd ((ConnectionRegistry.mem_touch _ _ _ _).mpr present) gone
  | remove now key rest at_ =>
      have same : id = key := by
        by_contra other
        exact gone (AList.mem_erase.mpr ⟨other, present⟩)
      subst same
      exact ⟨rfl, now, rest, at_⟩
  | _ => exact absurd present gone

/-- From one state to the next, a sweep takes away only an entry that has by then
been idle for longer than the timeout. -/
def RemovesIdle (state next : State) : Prop :=
  ∀ id conn, state.registry.inner.lookup id = some conn →
    id ∉ next.registry.inner →
    state.registry.idleTimeout.length < state.clock - conn.lastSeen

/-- A removal does not meet an entry that has been seen since the sweep read the
clock, unless the timeout has passed once more. -/
def SparesTouched (state : State) (action : Action) : Prop :=
  action = .remove → ∀ now id rest conn,
    state.reaper = .removing now (id :: rest) →
    state.registry.inner.lookup id = some conn → now ≤ conn.lastSeen →
    state.registry.idleTimeout.length < state.clock - conn.lastSeen

theorem reachable_idleTimeout {idleTimeout : Duration} {clock : Int}
    {state : State} (reachable : (system idleTimeout clock).Reachable state) :
    state.registry.idleTimeout = idleTimeout := by
  apply System.invariant
    (fun state : State => state.registry.idleTimeout = idleTimeout) rfl ?_
    reachable
  intro state next action _ holds stepped
  rw [(State.step_cases stepped).idleTimeout, holds]

/-- The entry has been idle for too long at the time the sweep goes by, or it has
been seen again since. -/
def IdleOrTouched (idleTimeout : Duration) (now : Int) (conn : ConnectionInfo) :
    Prop :=
  now ≤ conn.lastSeen ∨ idleTimeout.length < now - conn.lastSeen

theorem reachable_idleOrTouched {idleTimeout : Duration} {clock : Int}
    (bounded : idleTimeout.secs.toNat < 2 ^ 63) {state : State}
    (reachable : (system idleTimeout clock).Reachable state) :
    SweepWF (IdleOrTouched idleTimeout) state := by
  apply System.invariant (SweepWF (IdleOrTouched idleTimeout))
    (SweepWF.of_waiting rfl) ?_ reachable
  intro state next action reachable wf stepped
  have timeout := reachable_idleTimeout reachable
  apply wf.step (State.step_cases stepped)
  · intro now conn dead
    rw [← timeout] at bounded
    have idle := ConnectionRegistry.idle_of_isDead bounded dead
    rw [timeout] at idle
    exact Or.inr idle
  · intro id _
    apply wf.touch
    intro _ _ _ past _ _ _
    exact Or.inl past

/-- An entry that was not seen again has been idle for too long when it is
removed: the removals go wrong exactly where they meet one that was. -/
theorem removesIdle_iff_sparesTouched {idleTimeout : Duration} {clock : Int}
    (bounded : idleTimeout.secs.toNat < 2 ^ 63) {schedule : List Action}
    {last : State}
    (ran : (system idleTimeout clock).runFrom (.start idleTimeout clock)
      schedule = some last) :
    (system idleTimeout clock).StepsMeet
        ((system idleTimeout clock).Across RemovesIdle)
        (.start idleTimeout clock) schedule ↔
      (system idleTimeout clock).StepsMeet SparesTouched
        (.start idleTimeout clock) schedule := by
  apply System.stepsMeet_iff ?_ .start ran
  intro state next action reachable stepped
  rw [System.across_iff stepped]
  have inner : Step state action next := State.step_cases stepped
  have timeout := reachable_idleTimeout reachable
  constructor
  · intro removes removal now id rest conn at_ found _
    apply removes id conn found
    subst removal
    cases inner with
    | remove _ _ _ here =>
        cases at_.symm.trans here
        intro stays
        exact (AList.mem_erase.mp stays).1 rfl
  · intro spares id conn found gone
    rcases inner.removed found gone with ⟨removal, now, rest, at_⟩
    rcases (reachable_idleOrTouched bounded reachable).removing at_ with
      ⟨past, other, same, verdict⟩
    cases found.symm.trans same
    rcases verdict with touched | idle
    · exact spares removal now id rest conn at_ found touched
    · rw [timeout]
      omega

/-- A session that falls silent. -/
def silent : List Action :=
  [.register "id" "client" "addr" 0, .elapse 61000000000, .wake, .inspect "id",
    .collect, .remove, .finish]

theorem removesIdle_silent :
    ∃ last, (system (.fromSecs 60) 0).runFrom (.start (.fromSecs 60) 0) silent =
        some last ∧
      ((system (.fromSecs 60) 0).StepsMeet
          ((system (.fromSecs 60) 0).Across RemovesIdle)
          (.start (.fromSecs 60) 0) silent ↔
        (system (.fromSecs 60) 0).StepsMeet SparesTouched
          (.start (.fromSecs 60) 0) silent) :=
  ⟨_, rfl, removesIdle_iff_sparesTouched (by decide) rfl⟩

/-- A session that sends again after the sweep has collected it. -/
def lateTouch : List Action :=
  [.register "id" "client" "addr" 0, .elapse 61000000000, .wake, .inspect "id",
    .collect, .touch "id"]

/-- The session is removed although it has been seen at that very moment. -/
theorem not_removesIdle :
    ¬∀ (idleTimeout : Duration) (clock : Int) {state next : State}
      {action : Action}, idleTimeout.secs.toNat < 2 ^ 63 →
      (system idleTimeout clock).Reachable state →
      (system idleTimeout clock).step state action = some next →
      RemovesIdle state next := by
  intro removes
  obtain ⟨state, ran, at_, found, clock, timeout⟩ : ∃ state,
      (system (.fromSecs 60) 0).runFrom (.start (.fromSecs 60) 0) lateTouch =
        some state ∧
      state.reaper = .removing 61000000000 ["id"] ∧
      state.registry.inner.lookup "id" = some
        { id := "id", clientCn := "client", connectedAt := 0
          lastSeen := 61000000000, remoteAddr := "addr", requestsCount := 1 } ∧
      state.clock = 61000000000 ∧
      state.registry.idleTimeout.length = 60000000000 :=
    ⟨_, rfl, rfl, rfl, rfl, rfl⟩
  have stepped : (system (.fromSecs 60) 0).step state .remove = some
      { state with
        registry := state.registry.remove "id"
        reaper := .removing 61000000000 [] } := by
    simp only [system, State.step, at_]
  have gone : "id" ∉ (state.registry.remove "id").inner := by
    intro stays
    exact (AList.mem_erase.mp stays).1 rfl
  have idle := removes (.fromSecs 60) 0 (by decide) ⟨_, ran⟩ stepped "id" _
    found gone
  rw [timeout, clock] at idle
  exact absurd idle (by decide)

end IotRouter.Connections
