import Mathlib.Data.List.Infix
import Mathlib.Tactic.Common

/-!
# Runs of an executable transition system

A system is a start state and a partial step function: `step state action` is
`none` when the action is not enabled. The scheduler is the list of actions, so
a statement about every schedule is a statement about every interleaving.

The rules below are the ones an invariant proof uses: preservation over every
reachable state, preservation while each step meets a condition, the exact
condition under which a property survives a run, and the step at which an entry
of a growing log was written.
-/

namespace IotRouter.Runtime

universe u v

/-- A start state together with a deterministic, partially enabled step. -/
structure System (State : Type u) (Action : Type v) where
  start : State
  step : State → Action → Option State

namespace System

variable {State : Type u} {Action : Type v} (system : System State Action)

/-- Execute a schedule; `none` as soon as one of its actions is not enabled. -/
def runFrom : State → List Action → Option State
  | state, [] => some state
  | state, action :: rest =>
      (system.step state action).bind fun next => runFrom next rest

/-- States some schedule leads to from the start state. -/
def Reachable (state : State) : Prop :=
  ∃ schedule, system.runFrom system.start schedule = some state

@[simp] theorem runFrom_nil (state : State) :
    system.runFrom state [] = some state := rfl

theorem runFrom_cons (state : State) (action : Action) (rest : List Action) :
    system.runFrom state (action :: rest) =
      (system.step state action).bind fun next => system.runFrom next rest := rfl

/-- The first step of a nonempty run. -/
theorem runFrom_cons_eq_some {state last : State} {action : Action}
    {rest : List Action} :
    system.runFrom state (action :: rest) = some last ↔
      ∃ next, system.step state action = some next ∧
        system.runFrom next rest = some last := by
  simp [runFrom_cons, Option.bind_eq_some_iff]

theorem runFrom_append (state : State) (before after : List Action) :
    system.runFrom state (before ++ after) =
      (system.runFrom state before).bind fun middle =>
        system.runFrom middle after := by
  induction before generalizing state with
  | nil => rfl
  | cons action before ih =>
      simp only [List.cons_append, runFrom_cons, Option.bind_assoc]
      congr 1
      funext next
      exact ih next

theorem runFrom_append_eq_some {state last : State} {before after : List Action} :
    system.runFrom state (before ++ after) = some last ↔
      ∃ middle, system.runFrom state before = some middle ∧
        system.runFrom middle after = some last := by
  simp [runFrom_append, Option.bind_eq_some_iff]

theorem runFrom_singleton (state : State) (action : Action) :
    system.runFrom state [action] = system.step state action := by
  simp [runFrom_cons]

variable {system}

theorem Reachable.start : system.Reachable system.start :=
  ⟨[], rfl⟩

theorem Reachable.run {state last : State} {schedule : List Action}
    (reachable : system.Reachable state)
    (ran : system.runFrom state schedule = some last) :
    system.Reachable last := by
  rcases reachable with ⟨before, reached⟩
  exact ⟨before ++ schedule,
    (system.runFrom_append_eq_some).mpr ⟨state, reached, ran⟩⟩

theorem Reachable.step {state next : State} {action : Action}
    (reachable : system.Reachable state)
    (stepped : system.step state action = some next) :
    system.Reachable next := by
  have ran : system.runFrom state [action] = some next := by
    rw [runFrom_singleton, stepped]
  exact reachable.run ran

/-- A property survives a run whose every step preserves it. The step may use
that the state it starts from is reachable. -/
theorem run_preserves (property : State → Prop)
    (preserved : ∀ {state next action}, system.Reachable state →
      property state → system.step state action = some next → property next)
    {schedule : List Action} {state last : State}
    (reachable : system.Reachable state) (holds : property state)
    (ran : system.runFrom state schedule = some last) : property last := by
  induction schedule generalizing state with
  | nil =>
      cases ran
      exact holds
  | cons action rest ih =>
      rcases (system.runFrom_cons_eq_some).mp ran with ⟨next, stepped, ran⟩
      exact ih (reachable.step stepped) (preserved reachable holds stepped) ran

/-- The invariant rule. -/
theorem invariant (property : State → Prop) (initial : property system.start)
    (preserved : ∀ {state next action}, system.Reachable state →
      property state → system.step state action = some next → property next)
    {state : State} (reachable : system.Reachable state) : property state := by
  rcases reachable with ⟨schedule, ran⟩
  exact run_preserves property preserved Reachable.start initial ran

/-! ## Conditions on the states and on the steps of one run -/

variable (system)

/-- Every state the schedule visits, the first and the last included, has the
property. -/
def StatesMeet (property : State → Prop) : State → List Action → Prop
  | state, [] => property state
  | state, action :: rest => property state ∧
      ∀ next, system.step state action = some next →
        StatesMeet property next rest

/-- Every step of the schedule meets a condition on the action and on the state
it is taken from. -/
def StepsMeet (condition : State → Action → Prop) : State → List Action → Prop
  | _, [] => True
  | state, action :: rest => condition state action ∧
      ∀ next, system.step state action = some next →
        StepsMeet condition next rest

/-- A condition on where a step leads from where, as one on the step. -/
def Across (condition : State → State → Prop) (state : State)
    (action : Action) : Prop :=
  ∀ next, system.step state action = some next → condition state next

variable {system}

theorem across_iff {condition : State → State → Prop} {state next : State}
    {action : Action} (stepped : system.step state action = some next) :
    system.Across condition state action ↔ condition state next := by
  constructor
  · intro across
    exact across next stepped
  · intro holds other otherStepped
    cases stepped.symm.trans otherStepped
    exact holds

theorem StepsMeet.mono {weak strong : State → Action → Prop}
    (weaker : ∀ state action, strong state action → weak state action)
    {schedule : List Action} {state : State}
    (met : system.StepsMeet strong state schedule) :
    system.StepsMeet weak state schedule := by
  induction schedule generalizing state with
  | nil => trivial
  | cons action rest ih =>
      exact ⟨weaker _ _ met.1, fun next stepped => ih (met.2 next stepped)⟩

theorem StepsMeet.of_forall {condition : State → Action → Prop}
    {schedule : List Action}
    (all : ∀ action ∈ schedule, ∀ state, condition state action)
    (state : State) : system.StepsMeet condition state schedule := by
  induction schedule generalizing state with
  | nil => trivial
  | cons action rest ih =>
      refine ⟨all action List.mem_cons_self state, fun next _ => ?_⟩
      exact ih (fun other member => all other (List.mem_cons_of_mem _ member)) next

theorem stepsMeet_append {condition : State → Action → Prop}
    {before after : List Action} {state middle : State}
    (ran : system.runFrom state before = some middle)
    (first : system.StepsMeet condition state before)
    (second : system.StepsMeet condition middle after) :
    system.StepsMeet condition state (before ++ after) := by
  induction before generalizing state with
  | nil =>
      cases ran
      exact second
  | cons action before ih =>
      rcases (system.runFrom_cons_eq_some).mp ran with ⟨next, stepped, ran⟩
      refine ⟨first.1, fun other otherStepped => ?_⟩
      cases stepped.symm.trans otherStepped
      exact ih ran (first.2 next stepped)

/-- A condition that another one implies, on every step from a reachable state,
is met wherever the other is. -/
theorem stepsMeet_imp {first second : State → Action → Prop}
    (implies : ∀ {state next action}, system.Reachable state →
      system.step state action = some next →
      first state action → second state action)
    {schedule : List Action} {state last : State}
    (reachable : system.Reachable state)
    (ran : system.runFrom state schedule = some last)
    (met : system.StepsMeet first state schedule) :
    system.StepsMeet second state schedule := by
  induction schedule generalizing state with
  | nil => trivial
  | cons action rest ih =>
      rcases (system.runFrom_cons_eq_some).mp ran with ⟨next, stepped, ran⟩
      refine ⟨implies reachable stepped met.1, ?_⟩
      intro other otherStepped
      cases stepped.symm.trans otherStepped
      exact ih (reachable.step stepped) ran (met.2 next stepped)

/-- Two conditions that agree on every step from a reachable state agree on every
run. -/
theorem stepsMeet_iff {first second : State → Action → Prop}
    (agree : ∀ {state next action}, system.Reachable state →
      system.step state action = some next →
      (first state action ↔ second state action))
    {schedule : List Action} {state last : State}
    (reachable : system.Reachable state)
    (ran : system.runFrom state schedule = some last) :
    system.StepsMeet first state schedule ↔
      system.StepsMeet second state schedule := by
  constructor
  · apply stepsMeet_imp ?_ reachable ran
    intro state next action reachable stepped
    exact (agree reachable stepped).mp
  · apply stepsMeet_imp ?_ reachable ran
    intro state next action reachable stepped
    exact (agree reachable stepped).mpr

/-- A condition of every step from a reachable state is one of every run. -/
theorem stepsMeet_of_reachable {condition : State → Action → Prop}
    (meets : ∀ {state next action}, system.Reachable state →
      system.step state action = some next → condition state action)
    {schedule : List Action} {state last : State}
    (reachable : system.Reachable state)
    (ran : system.runFrom state schedule = some last) :
    system.StepsMeet condition state schedule := by
  apply stepsMeet_imp ?_ reachable ran
  · exact StepsMeet.of_forall (fun _ _ _ => trivial) state
  · intro state next action reachable stepped _
    exact meets reachable stepped

/-- A property of all reachable states is one of all states of a run. -/
theorem statesMeet_of_reachable {property : State → Prop}
    (holds : ∀ {state}, system.Reachable state → property state)
    {schedule : List Action} {state : State}
    (reachable : system.Reachable state) :
    system.StatesMeet property state schedule := by
  induction schedule generalizing state with
  | nil => exact holds reachable
  | cons action rest ih =>
      exact ⟨holds reachable, fun next stepped => ih (reachable.step stepped)⟩

/-- A condition on the actions alone is met if all actions of the run meet it. -/
theorem stepsMeet_actions {condition : Action → Prop}
    {schedule : List Action} {state last : State}
    (ran : system.runFrom state schedule = some last) :
    system.StepsMeet (fun _ action => condition action) state schedule ↔
      ∀ action ∈ schedule, condition action := by
  constructor
  · intro met
    induction schedule generalizing state with
    | nil =>
        intro action member
        cases member
    | cons action rest ih =>
        rcases (system.runFrom_cons_eq_some).mp ran with ⟨next, stepped, ran⟩
        rw [List.forall_mem_cons]
        exact ⟨met.1, ih ran (met.2 next stepped)⟩
  · intro all
    exact StepsMeet.of_forall (fun action member _ => all action member) state

/-- A property that survives every step meeting `condition` survives a run of
such steps. -/
theorem run_preserves_while (property : State → Prop)
    (condition : State → Action → Prop)
    (preserved : ∀ {state next action}, system.Reachable state →
      property state → condition state action →
      system.step state action = some next → property next)
    {schedule : List Action} {state last : State}
    (reachable : system.Reachable state) (holds : property state)
    (met : system.StepsMeet condition state schedule)
    (ran : system.runFrom state schedule = some last) : property last := by
  induction schedule generalizing state with
  | nil =>
      cases ran
      exact holds
  | cons action rest ih =>
      rcases (system.runFrom_cons_eq_some).mp ran with ⟨next, stepped, ran⟩
      exact ih (reachable.step stepped)
        (preserved reachable holds met.1 stepped) (met.2 next stepped) ran

/-- When a step keeps a property exactly if it meets `condition`, a run keeps
the property in every state exactly if each of its steps meets `condition`. -/
theorem statesMeet_iff_stepsMeet {property : State → Prop}
    {condition : State → Action → Prop}
    (exact : ∀ {state next action}, system.Reachable state →
      property state → system.step state action = some next →
      (property next ↔ condition state action))
    {schedule : List Action} {state last : State}
    (reachable : system.Reachable state) (holds : property state)
    (ran : system.runFrom state schedule = some last) :
    system.StatesMeet property state schedule ↔
      system.StepsMeet condition state schedule := by
  induction schedule generalizing state with
  | nil => exact ⟨fun _ => trivial, fun _ => holds⟩
  | cons action rest ih =>
      rcases (system.runFrom_cons_eq_some).mp ran with ⟨next, stepped, ran⟩
      have next_of : ∀ other, system.step state action = some other →
          other = next := fun other otherStepped =>
        Option.some.inj (otherStepped.symm.trans stepped)
      have stepExact := exact reachable holds stepped
      constructor
      · intro states
        have holdsNext : property next := by
          have visited := states.2 next stepped
          cases rest with
          | nil => exact visited
          | cons => exact visited.1
        refine ⟨stepExact.mp holdsNext, fun other otherStepped => ?_⟩
        rw [next_of other otherStepped]
        exact (ih (reachable.step stepped) holdsNext ran).mp
          (states.2 next stepped)
      · intro steps
        have holdsNext := stepExact.mpr steps.1
        refine ⟨holds, fun other otherStepped => ?_⟩
        rw [next_of other otherStepped]
        exact (ih (reachable.step stepped) holdsNext ran).mpr
          (steps.2 next stepped)

/-! ## Logs that only grow -/

variable (system)

/-- A step from a reachable state leaves the log alone or appends one entry to
it. -/
def Grows {Entry : Type*} (log : State → List Entry) : Prop :=
  ∀ {state next action}, system.Reachable state →
    system.step state action = some next →
    log next = log state ∨ ∃ entry, log next = log state ++ [entry]

variable {system}

/-- An entry of a log that gained one more is the new one, or an earlier one that
now has the new one after it. -/
theorem append_cons_eq_concat {Entry : Type*} {before after log : List Entry}
    {entry last : Entry} (split : before ++ entry :: after = log ++ [last]) :
    (after = [] ∧ entry = last) ∨
      ∃ rest, after = rest ++ [last] ∧ log = before ++ entry :: rest := by
  cases after using List.reverseRecOn with
  | nil =>
      exact Or.inl ⟨rfl, (List.append_inj' split rfl).2 |> List.singleton_inj.mp⟩
  | append_singleton rest final =>
      have shifted : (before ++ entry :: rest) ++ [final] = log ++ [last] := by
        rw [← split, List.append_assoc, List.cons_append]
      rcases List.append_inj' shifted rfl with ⟨same, final_eq⟩
      exact Or.inr ⟨rest, by rw [List.singleton_inj.mp final_eq], same.symm⟩

/-- Every entry of a growing log was appended by exactly one step of the run:
the schedule splits there. -/
theorem exists_step_of_log {Entry : Type*} {log : State → List Entry}
    (grows : system.Grows log)
    {schedule : List Action} {state last : State}
    (reachable : system.Reachable state)
    (ran : system.runFrom state schedule = some last)
    {position : Nat} (after : (log state).length ≤ position)
    {entry : Entry} (found : (log last)[position]? = some entry) :
    ∃ before action rest before' after',
      schedule = before ++ action :: rest ∧
      system.runFrom state before = some before' ∧
      system.step before' action = some after' ∧
      (log before').length = position ∧
      log after' = log before' ++ [entry] := by
  induction schedule using List.reverseRecOn generalizing last with
  | nil =>
      cases ran
      rw [List.getElem?_eq_none after] at found
      cases found
  | append_singleton before action ih =>
      rcases (system.runFrom_append_eq_some).mp ran with
        ⟨middle, reached, stepped⟩
      rw [runFrom_singleton] at stepped
      have recurse : (log middle)[position]? = some entry →
          ∃ first act rest before' after',
            before ++ [action] = first ++ act :: rest ∧
            system.runFrom state first = some before' ∧
            system.step before' act = some after' ∧
            (log before').length = position ∧
            log after' = log before' ++ [entry] := by
        intro earlier
        rcases ih reached earlier with
          ⟨first, act, rest, before', after', split, others⟩
        exact ⟨first, act, rest ++ [action], before', after', by simp [split],
          others⟩
      rcases grows (reachable.run reached) stepped with same | ⟨appended, extended⟩
      · exact recurse (same ▸ found)
      · rcases Nat.lt_or_ge position (log middle).length with early | late
        · apply recurse
          rwa [extended, List.getElem?_append_left early] at found
        · have here : position = (log middle).length := by
            have bound := (List.getElem?_eq_some_iff.mp found).1
            simp only [extended, List.length_append, List.length_singleton]
              at bound
            omega
          subst here
          rw [extended, List.getElem?_concat_length] at found
          cases found
          exact ⟨before, action, [], middle, last, rfl, reached, stepped, rfl,
            extended⟩

/-! ## States that allowed steps can lead to -/

variable (system)

/-- Some schedule of allowed steps leads from one state to the other. -/
def Leads (allowed : State → Action → Prop) (state last : State) : Prop :=
  ∃ schedule, system.runFrom state schedule = some last ∧
    system.StepsMeet allowed state schedule

variable {system}

theorem Leads.refl (allowed : State → Action → Prop) (state : State) :
    system.Leads allowed state state :=
  ⟨[], rfl, trivial⟩

theorem Leads.single {allowed : State → Action → Prop} {state next : State}
    {action : Action} (stepped : system.step state action = some next)
    (permitted : allowed state action) : system.Leads allowed state next :=
  ⟨[action], by rw [runFrom_singleton, stepped], permitted, fun _ _ => trivial⟩

theorem Leads.mono {weak strong : State → Action → Prop}
    (weaker : ∀ state action, strong state action → weak state action)
    {state last : State} (leads : system.Leads strong state last) :
    system.Leads weak state last := by
  rcases leads with ⟨schedule, ran, met⟩
  exact ⟨schedule, ran, met.mono weaker⟩

theorem Leads.trans {allowed : State → Action → Prop}
    {first second third : State}
    (left : system.Leads allowed first second)
    (right : system.Leads allowed second third) :
    system.Leads allowed first third := by
  rcases left with ⟨before, ranBefore, metBefore⟩
  rcases right with ⟨after, ranAfter, metAfter⟩
  exact ⟨before ++ after,
    (system.runFrom_append_eq_some).mpr ⟨second, ranBefore, ranAfter⟩,
    stepsMeet_append ranBefore metBefore metAfter⟩

theorem Leads.reachable {allowed : State → Action → Prop} {state last : State}
    (leads : system.Leads allowed state last)
    (reachable : system.Reachable state) : system.Reachable last := by
  rcases leads with ⟨schedule, ran, _⟩
  exact reachable.run ran

end System

end IotRouter.Runtime
