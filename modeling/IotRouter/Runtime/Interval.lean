import IotRouter.Runtime.Transition

/-!
# Periodic timers

The first tick of an interval is due at once, every other one a period after the
one before; a tick that is taken late does not put off the next. A system is
paced by an interval if some of its actions wait for a tick. What is proved of
a paced system relates the number of its ticks to the time that has passed.
-/

namespace IotRouter.Runtime

universe u v

/-- `tokio::time::Interval`, which cannot be made with a period of zero. -/
structure Interval where
  period : Int
  positive : 0 < period
  deadline : Int

namespace Interval

/-- `tick` completes once its deadline has come. -/
def tick (interval : Interval) (clock : Int) : Option Interval :=
  if interval.deadline ≤ clock then
    some { interval with deadline := interval.deadline + interval.period }
  else none

/-- The deadline of the tick that is attended to or, if there is none, of the
next. -/
def due (interval : Interval) (attending : Bool) : Int :=
  if attending then interval.deadline - interval.period else interval.deadline

theorem tick_eq_some {interval after : Interval} {clock : Int} :
    interval.tick clock = some after ↔
      interval.deadline ≤ clock ∧
        after = { interval with
          deadline := interval.deadline + interval.period } := by
  rw [tick, Option.ite_none_right_eq_some, Option.some.injEq,
    eq_comm (a := after)]

theorem due_le (interval : Interval) (attending : Bool) :
    interval.due attending ≤ interval.deadline := by
  have positive := interval.positive
  simp only [due]
  split <;> omega

end Interval

/-! ## Systems that wait for ticks -/

/-- A state with the interval and, as history, the times the ticks were taken. -/
structure Paced (State : Type u) where
  inner : State
  interval : Interval
  ticked : List Int

namespace Paced

variable {State : Type u} {Action : Type v}
variable (base : System State Action) (clock : State → Int)
variable (ticks : Action → Bool)

def step (paced : Paced State) (action : Action) : Option (Paced State) :=
  if ticks action then
    (paced.interval.tick (clock paced.inner)).bind fun interval =>
      (base.step paced.inner action).map fun inner =>
        { inner, interval, ticked := paced.ticked ++ [clock paced.inner] }
  else (base.step paced.inner action).map fun inner => { paced with inner }

def start (period : Int) (positive : 0 < period) : Paced State where
  inner := base.start
  interval := { period, positive, deadline := clock base.start }
  ticked := []

/-- The interval is made at the start. -/
def system (period : Int) (positive : 0 < period) :
    System (Paced State) Action where
  start := start base clock period positive
  step := step base clock ticks

/-- A step of a paced system. -/
inductive Step (paced : Paced State) (action : Action) :
    Paced State → Prop where
  | tick (inner : State) (waits : ticks action = true)
      (due : paced.interval.deadline ≤ clock paced.inner)
      (stepped : base.step paced.inner action = some inner) :
      Step paced action
        { inner
          interval := { paced.interval with
            deadline := paced.interval.deadline + paced.interval.period }
          ticked := paced.ticked ++ [clock paced.inner] }
  | other (inner : State) (free : ticks action = false)
      (stepped : base.step paced.inner action = some inner) :
      Step paced action { paced with inner }

variable {base clock ticks}

theorem step_cases {paced next : Paced State} {action : Action}
    (stepped : step base clock ticks paced action = some next) :
    Step base clock ticks paced action next := by
  simp only [step] at stepped
  split at stepped
  · rename_i waits
    rcases Option.bind_eq_some_iff.mp stepped with ⟨interval, ticked, stepped⟩
    rcases Interval.tick_eq_some.mp ticked with ⟨due, rfl⟩
    rcases Option.map_eq_some_iff.mp stepped with ⟨inner, ran, rfl⟩
    exact .tick inner waits due ran
  · rename_i free
    rcases Option.map_eq_some_iff.mp stepped with ⟨inner, ran, rfl⟩
    exact .other inner (Bool.not_eq_true _ ▸ free) ran

/-- Pacing a system takes runs away and adds none. -/
theorem Step.inner {paced next : Paced State} {action : Action}
    (stepped : Step base clock ticks paced action next) :
    base.step paced.inner action = some next.inner := by
  cases stepped with
  | tick inner _ _ stepped => exact stepped
  | other inner _ stepped => exact stepped

theorem Step.period {paced next : Paced State} {action : Action}
    (stepped : Step base clock ticks paced action next) :
    next.interval.period = paced.interval.period := by
  cases stepped <;> rfl

section Reachable

variable {period : Int} {positive : 0 < period} {paced : Paced State}

theorem reachable_inner
    (reachable : (system base clock ticks period positive).Reachable
      paced) : base.Reachable paced.inner := by
  apply System.invariant (fun paced : Paced State =>
    base.Reachable paced.inner) .start ?_ reachable
  intro state next action _ before stepped
  exact before.step (step_cases stepped).inner

theorem reachable_period
    (reachable : (system base clock ticks period positive).Reachable
      paced) : paced.interval.period = period := by
  apply System.invariant (fun paced : Paced State =>
    paced.interval.period = period) rfl ?_ reachable
  intro state next action _ before stepped
  rw [(step_cases stepped).period, before]

/-- The deadlines are a period apart, and none is ahead of the clock by more
than that. -/
structure OnSchedule (first : Int) (clock : State → Int)
    (paced : Paced State) : Prop where
  deadline : paced.interval.deadline =
    first + paced.ticked.length * paced.interval.period
  passed : paced.interval.deadline - paced.interval.period ≤ clock paced.inner

/-- If the clock never goes back, the ticks keep to their schedule. -/
theorem reachable_onSchedule
    (onward : ∀ {state next : State} {action : Action},
      base.step state action = some next → clock state ≤ clock next)
    (reachable : (system base clock ticks period positive).Reachable
      paced) : OnSchedule (clock base.start) clock paced := by
  apply System.invariant (OnSchedule (clock base.start) clock) ?_ ?_ reachable
  · constructor
    · simp [system, start]
    · simp only [system, start]
      omega
  · intro state next action _ before stepped
    have later := onward (step_cases stepped).inner
    have passed := before.passed
    cases step_cases stepped with
    | tick inner waits due stepped =>
        constructor
        · simp only [List.length_append, List.length_singleton, before.deadline]
          rw [Int.natCast_add, Int.add_mul, Int.natCast_one, Int.one_mul,
            Int.add_assoc]
        · simp only at later ⊢
          omega
    | other inner free stepped =>
        exact ⟨before.deadline, Int.le_trans passed later⟩

end Reachable

end Paced

end IotRouter.Runtime
