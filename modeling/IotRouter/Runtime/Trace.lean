import IotRouter.Runtime.Transition

/-!
# Traces of runs

What an observer sees of a run: the events of its steps, in order. An invariant
may speak about the state and the events so far; one that fixes the state's view
as a function of the events makes the system a refinement of that function.

Two traces may differ in the order of neighbours that do not depend on each
other. A function of the events that commutes independent neighbours, up to a
preorder it respects, cannot tell such traces apart.
-/

namespace IotRouter.Runtime

universe u v w

namespace System

variable {State : Type u} {Action : Type v} {Event : Type w}

/-- The events of a run, each step contributing what `observe` sees of it. -/
def trace (system : System State Action)
    (observe : State → Action → List Event) : State → List Action → List Event
  | _, [] => []
  | state, action :: rest =>
      observe state action ++
        match system.step state action with
        | some next => trace system observe next rest
        | none => []

variable {system : System State Action} {observe : State → Action → List Event}

theorem trace_cons {state next : State} {action : Action} {rest : List Action}
    (stepped : system.step state action = some next) :
    system.trace observe state (action :: rest) =
      observe state action ++ system.trace observe next rest := by
  simp only [trace, stepped]

/-- An invariant of the state and the events so far, from any events on and along
the steps that meet a condition. -/
theorem run_traces_from (property : State → List Event → Prop)
    (condition : State → Action → Prop)
    (preserved : ∀ {state next action events}, system.Reachable state →
      property state events → condition state action →
      system.step state action = some next →
      property next (events ++ observe state action))
    {schedule : List Action} {state last : State} {events : List Event}
    (reachable : system.Reachable state) (holds : property state events)
    (met : system.StepsMeet condition state schedule)
    (ran : system.runFrom state schedule = some last) :
    property last (events ++ system.trace observe state schedule) := by
  induction schedule generalizing state events with
  | nil =>
      cases ran
      rw [trace, List.append_nil]
      exact holds
  | cons action rest ih =>
      rcases (system.runFrom_cons_eq_some).mp ran with ⟨next, stepped, ran⟩
      rw [trace_cons stepped, ← List.append_assoc]
      exact ih (reachable.step stepped)
        (preserved reachable holds met.1 stepped) (met.2 next stepped) ran

variable (observe)

/-- An invariant of the state and the events so far, along the steps that meet a
condition. -/
theorem run_traces_while (property : State → List Event → Prop)
    (condition : State → Action → Prop)
    (preserved : ∀ {state next action events}, system.Reachable state →
      property state events → condition state action →
      system.step state action = some next →
      property next (events ++ observe state action))
    {schedule : List Action} {state last : State}
    (reachable : system.Reachable state) (holds : property state [])
    (met : system.StepsMeet condition state schedule)
    (ran : system.runFrom state schedule = some last) :
    property last (system.trace observe state schedule) := by
  have traced := run_traces_from property condition preserved reachable holds met
    ran
  rwa [List.nil_append] at traced

/-- An invariant of the state and the events so far. -/
theorem run_traces (property : State → List Event → Prop)
    (preserved : ∀ {state next action events}, system.Reachable state →
      property state events → system.step state action = some next →
      property next (events ++ observe state action))
    {schedule : List Action} {state last : State}
    (reachable : system.Reachable state) (holds : property state [])
    (ran : system.runFrom state schedule = some last) :
    property last (system.trace observe state schedule) :=
  run_traces_while observe property (fun _ _ => True)
    (fun reached holds _ stepped => preserved reached holds stepped)
    reachable holds (StepsMeet.of_forall (fun _ _ _ => trivial) _) ran

/-- A system that takes, for every step, the step's events from the view of one
state to the view of the next takes the whole trace. -/
theorem trace_refines {View : Type*} {abstract : System View Event}
    {observe : State → Action → List Event} (view : State → View)
    (simulates : ∀ {state next action}, system.Reachable state →
      system.step state action = some next →
      abstract.runFrom (view state) (observe state action) = some (view next))
    {schedule : List Action} {state last : State}
    (reachable : system.Reachable state)
    (ran : system.runFrom state schedule = some last) :
    abstract.runFrom (view state) (system.trace observe state schedule) =
      some (view last) := by
  induction schedule generalizing state with
  | nil =>
      cases ran
      rfl
  | cons action rest ih =>
      rcases (system.runFrom_cons_eq_some).mp ran with ⟨next, stepped, ran⟩
      rw [trace_cons stepped, abstract.runFrom_append,
        simulates reachable stepped]
      exact ih (reachable.step stepped) ran

end System

/-! ## Traces up to independent neighbours -/

section Reordered

variable {α : Type u} {β : Type v} {independent : α → α → Prop}

/-- The lists differ by exchanges of independent neighbours. -/
inductive Reordered (independent : α → α → Prop) : List α → List α → Prop where
  | refl (values : List α) : Reordered independent values values
  | swap (before after : List α) {left right : α}
      (commute : independent left right) :
      Reordered independent (before ++ left :: right :: after)
        (before ++ right :: left :: after)
  | trans {first second third : List α}
      (left : Reordered independent first second)
      (right : Reordered independent second third) :
      Reordered independent first third

namespace Reordered

variable {first second : List α}

theorem append (reordered : Reordered independent first second)
    (rest : List α) : Reordered independent (first ++ rest) (second ++ rest) := by
  induction reordered with
  | refl values => exact .refl _
  | swap before after commute =>
      simp only [List.append_assoc, List.cons_append]
      exact .swap before (after ++ rest) commute
  | trans _ _ left right => exact .trans left right

/-- Where only equal values are independent, nothing is reordered. -/
theorem eq_of_rigid (reordered : Reordered independent first second)
    (rigid : ∀ left ∈ first, ∀ right ∈ first, independent left right →
      left = right) : first = second := by
  induction reordered with
  | refl values => rfl
  | swap before after commute =>
      rw [rigid _ (by simp) _ (by simp) commute]
  | trans _ _ left right =>
      have same := left rigid
      subst same
      exact right rigid

/-- A fold that commutes independent values, up to a preorder it respects, cannot
tell reordered lists apart. -/
theorem foldl {step : β → α → β} {same : β → β → Prop}
    (reflexive : ∀ state, same state state)
    (transitive : ∀ {left middle right}, same left middle →
      same middle right → same left right)
    (respects : ∀ {left right} value, same left right →
      same (step left value) (step right value))
    (commutes : ∀ {left right} state, independent left right →
      same (step (step state left) right) (step (step state right) left))
    (reordered : Reordered independent first second) (state : β) :
    same (first.foldl step state) (second.foldl step state) := by
  have onward : ∀ (rest : List α) {left right : β}, same left right →
      same (rest.foldl step left) (rest.foldl step right) := by
    intro rest
    induction rest with
    | nil => exact id
    | cons value rest ih => exact fun related => ih (respects value related)
  induction reordered with
  | refl values => exact reflexive _
  | swap before after commute =>
      simp only [List.foldl_append, List.foldl_cons]
      exact onward after (commutes _ commute)
  | trans _ _ left right => exact transitive left right

/-! ### Exchanges within a class -/

/-- The list with the entries of a class taken from another list, in order. -/
def refill (inside : α → Bool) : List α → List α → List α
  | [], _ => []
  | value :: rest, fillers =>
      if inside value then
        match fillers with
        | filler :: fillers => filler :: refill inside rest fillers
        | [] => refill inside rest []
      else value :: refill inside rest fillers

theorem refill_filter (inside : α → Bool) (values : List α) :
    refill inside values (values.filter inside) = values := by
  induction values with
  | nil => rfl
  | cons value rest ih =>
      cases holds : inside value with
      | true => simp [refill, holds, ih]
      | false => simp [refill, holds, ih]

/-- Which of the entries of the class are where does not matter. -/
theorem refill_swap {inside : α → Bool} {left right : α}
    (first : inside left = true) (second : inside right = true)
    (before after fillers : List α) :
    refill inside (before ++ left :: right :: after) fillers =
      refill inside (before ++ right :: left :: after) fillers := by
  induction before generalizing fillers with
  | nil =>
      rcases fillers with _ | ⟨filler, _ | ⟨next, fillers⟩⟩ <;>
        simp [refill, first, second]
  | cons value before ih =>
      simp only [List.cons_append, refill]
      split
      · cases fillers with
        | nil => exact ih []
        | cons filler fillers => exact congrArg _ (ih fillers)
      · exact congrArg _ (ih fillers)

/-- Entries outside the class are exchanged as before. -/
theorem refill_exchanges {inside : α → Bool} {left right : α}
    (first : inside left = false) (second : inside right = false)
    (before after fillers : List α) :
    ∃ start rest,
      refill inside (before ++ left :: right :: after) fillers =
          start ++ left :: right :: rest ∧
        refill inside (before ++ right :: left :: after) fillers =
          start ++ right :: left :: rest := by
  induction before generalizing fillers with
  | nil => exact ⟨[], _, by simp [refill, first, second]; rfl,
      by simp [refill, first, second]⟩
  | cons value before ih =>
      simp only [List.cons_append, refill]
      split
      · cases fillers with
        | nil => exact ih []
        | cons filler fillers =>
            rcases ih fillers with ⟨start, rest, here, there⟩
            exact ⟨filler :: start, rest, by simp [here], by simp [there]⟩
      · rcases ih fillers with ⟨start, rest, here, there⟩
        exact ⟨value :: start, rest, by simp [here], by simp [there]⟩

/-- If only entries of one class are exchanged, and the order within a class is
the same in both lists, then it was never necessary to exchange entries of that
class. -/
theorem outside {inside : α → Bool}
    (alike : ∀ left right, independent left right →
      inside left = inside right)
    (reordered : Reordered independent first second)
    (same : first.filter inside = second.filter inside) :
    Reordered (fun left right => independent left right ∧ inside left = false)
      first second := by
  have refilled : ∀ fillers, Reordered
      (fun left right => independent left right ∧ inside left = false)
      (refill inside first fillers) (refill inside second fillers) := by
    clear same
    intro fillers
    induction reordered with
    | refl values => exact .refl _
    | @swap before after left right commute =>
        have alike := alike left right commute
        cases holds : inside left with
        | true =>
            rw [refill_swap holds (alike ▸ holds)]
            exact .refl _
        | false =>
            rcases refill_exchanges holds (alike ▸ holds) before after fillers
              with ⟨start, rest, here, there⟩
            rw [here, there]
            exact .swap start rest ⟨commute, holds⟩
    | trans _ _ left right => exact .trans left right
  have whole := refilled (first.filter inside)
  rw [refill_filter, same, refill_filter] at whole
  exact whole

end Reordered

end Reordered

end IotRouter.Runtime
