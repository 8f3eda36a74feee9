import IotRouter.Runtime.Interval
import IotRouter.Connections.Reaper

/-!
# The ticks of the reaper

`start_reaper` sweeps at the ticks of an interval. A sweep leaves no session that
was dead when its tick was due, and until the next one is done a session cannot
grow older than what it leaves by more than the period and the delay of the
ticks.
-/

namespace IotRouter.Connections

open IotRouter.Runtime

/-- For how long a session is spared by every sweep. -/
def Duration.spared (idleTimeout : Duration) : Int :=
  (idleTimeout.secs.toNat + 1) * 1000000000

/-- What a sweep spares was seen shortly before. -/
theorem ConnectionRegistry.recent_of_isDead_eq_false
    {registry : ConnectionRegistry} {now : Int} {conn : ConnectionInfo}
    (alive : registry.isDead now conn = false) :
    now - registry.idleTimeout.spared < conn.lastSeen := by
  by_contra late
  simp only [Duration.spared] at late
  have dead : registry.isDead now conn = true := by
    apply ConnectionRegistry.isDead_of_idle <;> omega
  rw [dead] at alive
  cases alive

/-- A sweep is under way. -/
def Reaper.sweeps (reaper : Reaper) : Bool :=
  reaper.collected.isSome

/-- The iteration will come across the id. -/
def Reaper.WillInspect : Reaper → String → Prop
  | .inspecting _ ahead seen _, id => id ∈ ahead ∧ id ∉ seen
  | _, _ => False

/-- The deadline of the sweep under way or, if there is none, of the next. -/
def State.due (state : State) (interval : Interval) : Int :=
  interval.due state.reaper.sweeps

/-- The session was last seen after `since`, or before it by less than the time for
which it is spared. -/
def SeenSince (registry : ConnectionRegistry) (since : Int)
    (conn : ConnectionInfo) : Prop :=
  since - registry.idleTimeout.spared < conn.lastSeen

/-- What the sweeps leave behind. -/
structure Swept (state : State) (interval : Interval) : Prop where
  passed : interval.deadline - interval.period ≤ state.clock
  /-- What was dead when the last finished sweep was due is gone. -/
  settled : ∀ id conn, state.registry.inner.lookup id = some conn →
    SeenSince state.registry (state.due interval - interval.period) conn
  prompt : ∀ now dead, state.reaper.collected = some (now, dead) →
    state.due interval ≤ now ∧ now ≤ state.clock
  /-- What is dead to the sweep under way has been collected or is still to be
  inspected. -/
  sweeping : ∀ now dead, state.reaper.collected = some (now, dead) →
    ∀ id conn, state.registry.inner.lookup id = some conn →
      id ∈ dead ∨ state.reaper.WillInspect id ∨
        SeenSince state.registry now conn

namespace Swept

variable {state : State} {interval : Interval}

theorem start (idleTimeout : Duration) {clock : Int} {interval : Interval}
    (begins : interval.deadline = clock) :
    Swept (.start idleTimeout clock) interval where
  passed := by
    have positive := interval.positive
    simp only [State.start]
    omega
  settled id conn found := by cases found
  prompt now dead under := by cases under
  sweeping now dead under := by cases under

/-- While the reaper does nothing, entries may come and go and be seen again. -/
theorem keep (swept : Swept state interval) (registry : ConnectionRegistry)
    (clock : Int) (later : state.clock ≤ clock)
    (timeout : registry.idleTimeout = state.registry.idleTimeout)
    (entries : ∀ id conn, registry.inner.lookup id = some conn →
      state.registry.inner.lookup id = some conn ∨
        SeenSince state.registry state.clock conn) :
    Swept { clock, registry, reaper := state.reaper } interval where
  passed := Int.le_trans swept.passed later
  settled id conn found := by
    simp only [SeenSince, timeout]
    rcases entries id conn found with before | seen
    · exact swept.settled id conn before
    · have due := interval.due_le state.reaper.sweeps
      have passed := swept.passed
      simp only [SeenSince] at seen
      simp only [State.due]
      omega
  prompt now dead under := by
    have prompt := swept.prompt now dead under
    exact ⟨prompt.1, Int.le_trans prompt.2 later⟩
  sweeping now dead under id conn found := by
    simp only [SeenSince, timeout]
    rcases entries id conn found with before | seen
    · exact swept.sweeping now dead under id conn before
    · have prompt := swept.prompt now dead under
      simp only [SeenSince] at seen
      exact Or.inr (Or.inr (by omega))

theorem elapse (swept : Swept state interval) (nanos : Nat) :
    Swept { state with clock := state.clock + nanos } interval := by
  apply swept.keep _ _ (by omega) rfl
  intro id conn found
  exact Or.inl found

/-- A session that is seen now is spared. -/
theorem seenSince_clock {registry : ConnectionRegistry} {clock : Int}
    {conn : ConnectionInfo} (now : conn.lastSeen = clock) :
    SeenSince registry clock conn := by
  simp only [SeenSince, Duration.spared]
  omega

theorem register (swept : Swept state interval)
    (id clientCn remoteAddr : String) :
    Swept { state with
      registry := state.registry.register id clientCn remoteAddr state.clock }
      interval := by
  apply swept.keep (state.registry.register id clientCn remoteAddr state.clock)
    _ (Int.le_refl _) rfl
  intro key conn found
  rw [ConnectionRegistry.lookup_register] at found
  split at found
  · cases found
    exact Or.inr (seenSince_clock rfl)
  · exact Or.inl found

theorem touch (swept : Swept state interval) (id : String) :
    Swept { state with registry := state.registry.touch id state.clock }
      interval := by
  apply swept.keep _ _ (Int.le_refl _)
    (ConnectionRegistry.touch_idleTimeout _ _ _)
  intro key conn found
  rw [ConnectionRegistry.lookup_touch] at found
  split at found
  · rcases Option.map_eq_some_iff.mp found with ⟨before, _, rfl⟩
    exact Or.inr (seenSince_clock rfl)
  · exact Or.inl found

/-- A tick begins a sweep: every entry will be inspected. -/
theorem wake (swept : Swept state interval)
    (waiting : state.reaper = .waiting)
    (due : interval.deadline ≤ state.clock) :
    Swept { state with
        reaper := .inspecting state.clock state.registry.inner.keys [] [] }
      { interval with deadline := interval.deadline + interval.period } where
  passed := by
    simp only
    omega
  settled id conn found := by
    have settled := swept.settled id conn found
    simp only [State.due, waiting] at settled
    simpa [State.due, Reaper.sweeps, Reaper.collected, Interval.due] using settled
  prompt now dead under := by
    cases under
    simp only [State.due, Reaper.sweeps, Reaper.collected, Interval.due,
      Option.isSome_some, if_true]
    omega
  sweeping now dead under id conn found := by
    right
    left
    have present : id ∈ state.registry.inner :=
      AList.lookup_isSome.mp (Option.isSome_iff_exists.mpr ⟨conn, found⟩)
    exact ⟨AList.mem_keys.mp present, List.not_mem_nil⟩

/-- The reaper goes on with its sweep at `now`. -/
theorem onward (swept : Swept state interval) (registry : ConnectionRegistry)
    {now : Int} {dead dead' : List String} {reaper : Reaper}
    (under : state.reaper.collected = some (now, dead))
    (under' : reaper.collected = some (now, dead'))
    (timeout : registry.idleTimeout = state.registry.idleTimeout)
    (entries : ∀ id conn, registry.inner.lookup id = some conn →
      state.registry.inner.lookup id = some conn)
    (sweeping : ∀ id conn, registry.inner.lookup id = some conn →
      id ∈ dead ∨ state.reaper.WillInspect id →
      id ∈ dead' ∨ reaper.WillInspect id ∨ SeenSince state.registry now conn) :
    Swept { clock := state.clock, registry, reaper } interval := by
  have same : ({ clock := state.clock, registry, reaper } : State).due interval =
      state.due interval := by
    simp [State.due, Reaper.sweeps, under, under']
  constructor
  · exact swept.passed
  · intro id conn found
    simp only [SeenSince, same, timeout]
    exact swept.settled id conn (entries id conn found)
  · intro now' dead'' under''
    cases under'.symm.trans under''
    rw [same]
    exact swept.prompt now dead under
  · intro now' dead'' under'' id conn found
    cases under'.symm.trans under''
    simp only [SeenSince, timeout]
    rcases swept.sweeping now dead under id conn (entries id conn found) with
      collected | ahead | seen
    · exact sweeping id conn found (Or.inl collected)
    · exact sweeping id conn found (Or.inr ahead)
    · exact Or.inr (Or.inr seen)

theorem inspect (swept : Swept state interval) {id : String} {now : Int}
    {ahead seen dead : List String} {conn : ConnectionInfo}
    (at_ : state.reaper = .inspecting now ahead seen dead)
    (found : state.registry.inner.lookup id = some conn) :
    Swept { state with
      reaper := .inspecting now ahead (id :: seen)
        (if state.registry.isDead now conn then dead ++ [id] else dead) }
      interval := by
  have under : state.reaper.collected = some (now, dead) := by
    rw [at_]
    rfl
  apply swept.onward _ under rfl rfl (fun _ _ found => found)
  intro other entry here before
  by_cases this : other = id
  · subst this
    cases found.symm.trans here
    cases verdict : state.registry.isDead now conn with
    | true => simp
    | false =>
        exact Or.inr (Or.inr
          (ConnectionRegistry.recent_of_isDead_eq_false verdict))
  · rcases before with collected | inspects
    · left
      split
      · exact List.mem_append_left _ collected
      · exact collected
    · rw [at_] at inspects
      exact Or.inr (Or.inl ⟨inspects.1, by simp [this, inspects.2]⟩)

theorem collect (swept : Swept state interval) {now : Int}
    {ahead seen dead : List String}
    (at_ : state.reaper = .inspecting now ahead seen dead)
    (all : ∀ id ∈ ahead, id ∈ seen) :
    Swept { state with reaper := .removing now dead } interval := by
  have under : state.reaper.collected = some (now, dead) := by
    rw [at_]
    rfl
  apply swept.onward _ under rfl rfl (fun _ _ found => found)
  intro id conn _ before
  rcases before with collected | inspects
  · exact Or.inl collected
  · rw [at_] at inspects
    exact absurd (all id inspects.1) inspects.2

theorem remove (swept : Swept state interval) {now : Int} {id : String}
    {rest : List String} (at_ : state.reaper = .removing now (id :: rest)) :
    Swept { state with
      registry := state.registry.remove id, reaper := .removing now rest }
      interval := by
  have under : state.reaper.collected = some (now, id :: rest) := by
    rw [at_]
    rfl
  have stays : ∀ key conn,
      (state.registry.remove id).inner.lookup key = some conn →
      key ≠ id ∧ state.registry.inner.lookup key = some conn := by
    intro key conn found
    rw [ConnectionRegistry.lookup_remove] at found
    split at found
    · cases found
    · exact ⟨‹_›, found⟩
  apply swept.onward (state.registry.remove id) under rfl rfl
    (fun key conn found => (stays key conn found).2)
  intro key conn found before
  rcases before with collected | inspects
  · left
    rcases List.mem_cons.mp collected with same | member
    · exact absurd same (stays key conn found).1
    · exact member
  · rw [at_] at inspects
    exact inspects.elim

/-- A finished sweep has left no session that was dead when it was due. -/
theorem finish (swept : Swept state interval) {now : Int}
    (at_ : state.reaper = .removing now []) :
    Swept { state with reaper := .waiting } interval where
  passed := swept.passed
  settled id conn found := by
    have under : state.reaper.collected = some (now, []) := by
      rw [at_]
      rfl
    have prompt := swept.prompt now [] under
    rcases swept.sweeping now [] under id conn found with
      collected | inspects | seen
    · cases collected
    · rw [at_] at inspects
      exact inspects.elim
    · simp only [State.due, Reaper.sweeps, under, Interval.due,
        Option.isSome_some, if_true] at prompt
      simp only [SeenSince, State.due, Reaper.sweeps, Reaper.collected,
        Interval.due, Option.isSome_none] at seen ⊢
      simp only [Bool.false_eq_true, if_false]
      omega
  prompt _ _ under := by cases under
  sweeping _ _ under := by cases under

/-- A step of a sweep that has begun. -/
theorem step (swept : Swept state interval) {next : State} {action : Action}
    (stepped : Step state action next) (begun : action ≠ .wake)
    (read : ∀ id clientCn remoteAddr now,
      action = .register id clientCn remoteAddr now → now = state.clock) :
    Swept next interval := by
  cases stepped with
  | elapse nanos => exact swept.elapse nanos
  | register id clientCn remoteAddr now _ _ =>
      cases read id clientCn remoteAddr now rfl
      exact swept.register id clientCn remoteAddr
  | touch id => exact swept.touch id
  | wake waiting => exact absurd rfl begun
  | inspect id now ahead seen dead conn at_ _ found =>
      exact swept.inspect at_ found
  | collect now ahead seen dead at_ all => exact swept.collect at_ all
  | remove now id rest at_ => exact swept.remove at_
  | finish now at_ => exact swept.finish at_

/-- If the sweeps are done in time, no session is older than a sweep may find
it and a period more. -/
theorem age_lt (swept : Swept state interval) {delay : Int}
    (inTime : state.clock ≤ state.due interval + delay) {conn : ConnectionInfo}
    (listed : conn ∈ state.registry.snapshot) :
    state.clock - conn.lastSeen <
      state.registry.idleTimeout.spared + interval.period + delay := by
  simp only [ConnectionRegistry.snapshot, List.mem_map] at listed
  rcases listed with ⟨⟨id, entry⟩, member, rfl⟩
  have settled := swept.settled id entry (AList.mem_lookup_iff.mpr member)
  simp only [SeenSince] at settled ⊢
  omega

end Swept

end IotRouter.Connections
