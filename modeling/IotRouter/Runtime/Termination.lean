import Mathlib.Algebra.BigOperators.Group.Finset.Basic
import IotRouter.Runtime.Transition

/-!
# Runs that come to rest

A rank that every allowed step lowers bounds the length of every run of allowed
steps. So each of them can be continued to a state in which no allowed step is
enabled, and what holds of such states is where all runs end that go on as long
as they can. No fairness is asked of the scheduler.
-/

namespace IotRouter.Runtime

universe u v

namespace System

variable {State : Type u} {Action : Type v} (system : System State Action)
variable (allowed : State → Action → Prop)

/-- No allowed step is enabled. -/
def Rests (state : State) : Prop :=
  ∀ action next, allowed state action → system.step state action ≠ some next

/-- Every allowed step keeps `property` and, under it, lowers `rank`. -/
structure Ranked (property : State → Prop) (rank : State → Nat) : Prop where
  keeps : ∀ {state next action}, property state → allowed state action →
    system.step state action = some next → property next
  lowers : ∀ {state next action}, property state → allowed state action →
    system.step state action = some next → rank next < rank state

namespace Ranked

variable {system} {allowed} {property : State → Prop} {rank : State → Nat}
variable {state last : State}

/-- A run spends one unit of rank for each step. -/
theorem length_add_rank_le (ranked : system.Ranked allowed property rank)
    (holds : property state) {schedule : List Action}
    (ran : system.runFrom state schedule = some last)
    (met : system.StepsMeet allowed state schedule) :
    property last ∧ schedule.length + rank last ≤ rank state := by
  induction schedule generalizing state with
  | nil =>
      cases ran
      exact ⟨holds, by simp⟩
  | cons action rest ih =>
      rcases (system.runFrom_cons_eq_some).mp ran with ⟨next, stepped, onward⟩
      have lower := ranked.lowers holds met.1 stepped
      rcases ih (ranked.keeps holds met.1 stepped) onward (met.2 next stepped)
        with ⟨holdsLast, bound⟩
      refine ⟨holdsLast, ?_⟩
      rw [List.length_cons]
      omega

/-- Every state leads to one in which nothing is left to do. -/
theorem leads_to_rest (ranked : system.Ranked allowed property rank)
    (holds : property state) :
    ∃ last, system.Leads allowed state last ∧ system.Rests allowed last := by
  induction spent : rank state using Nat.strongRecOn generalizing state with
  | ind units ih =>
      by_cases rests : system.Rests allowed state
      · exact ⟨state, .refl _ _, rests⟩
      · simp only [Rests, not_forall, not_not] at rests
        rcases rests with ⟨action, next, permitted, stepped⟩
        have lower := ranked.lowers holds permitted stepped
        rcases ih (rank next) (spent ▸ lower)
          (ranked.keeps holds permitted stepped) rfl with ⟨last, leads, rests⟩
        exact ⟨last, (Leads.single stepped permitted).trans leads, rests⟩

end Ranked

end System

/-! ## Sums over a family of components -/

/-- Of the components counted, only one changes. -/
theorem sum_change {ι : Type u} [DecidableEq ι] {ids : Finset ι}
    {before after : ι → Nat} {i : ι} (member : i ∈ ids)
    (others : ∀ j, j ≠ i → after j = before j) :
    ∑ j ∈ ids, after j + before i = ∑ j ∈ ids, before j + after i := by
  have rest : ∑ j ∈ ids.erase i, after j = ∑ j ∈ ids.erase i, before j :=
    Finset.sum_congr rfl fun j inside => others j (Finset.ne_of_mem_erase inside)
  rw [← Finset.add_sum_erase ids after member,
    ← Finset.add_sum_erase ids before member, rest]
  omega

end IotRouter.Runtime
