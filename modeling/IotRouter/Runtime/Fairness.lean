import Mathlib.Order.WellFounded
import IotRouter.Runtime.Transition

/-!
# Runs without end and fair schedulers

A run without end makes a step of the system or pauses at every instant, so a
run that stops is one that pauses for ever. Fairness is asked of families of
actions, the turns: a turn that could be taken is not passed over for ever. What
must happen is proved with a rank: as long as the goal is not reached every step
keeps the rank or lowers it, and there is always a turn that can be taken and
lowers it.
-/

namespace IotRouter.Runtime

universe u v w

namespace System

variable {State : Type u} {Action : Type v}

/-- A run from a reachable state, with pauses. -/
structure Run (system : System State Action) where
  state : Nat → State
  /-- What happens between an instant and the next; `none` is a pause. -/
  action : Nat → Option Action
  begins : system.Reachable (state 0)
  paused : ∀ n, action n = none → state (n + 1) = state n
  stepped : ∀ n act, action n = some act →
    system.step (state n) act = some (state (n + 1))

/-- Some action of a turn is enabled. -/
def Enabled (system : System State Action) (takes : Action → Prop)
    (state : State) : Prop :=
  ∃ action next, takes action ∧ system.step state action = some next

variable {system : System State Action}

namespace Run

variable (run : system.Run)

/-- A turn is taken at an instant. -/
def Taken (takes : Action → Prop) (n : Nat) : Prop :=
  ∃ action, run.action n = some action ∧ takes action

/-- A turn that stays enabled is taken. -/
def WeaklyFair (takes : Action → Prop) : Prop :=
  ∀ n, (∀ m, n ≤ m → system.Enabled takes (run.state m)) →
    ∃ m, n ≤ m ∧ run.Taken takes m

/-- A turn that is enabled again and again is taken. -/
def StronglyFair (takes : Action → Prop) : Prop :=
  ∀ n, (∀ m, n ≤ m → ∃ later, m ≤ later ∧
      system.Enabled takes (run.state later)) →
    ∃ m, n ≤ m ∧ run.Taken takes m

variable {run}

theorem StronglyFair.weaklyFair {takes : Action → Prop}
    (fair : run.StronglyFair takes) : run.WeaklyFair takes := by
  intro n enabled
  exact fair n fun m after => ⟨m, Nat.le_refl m, enabled m after⟩

variable (run)

/-! ## Safety -/

theorem reachable (n : Nat) : system.Reachable (run.state n) := by
  induction n with
  | zero => exact run.begins
  | succ n ih =>
      cases here : run.action n with
      | none => exact run.paused n here ▸ ih
      | some action => exact ih.step (run.stepped n action here)

/-- What every step keeps holds from then on. -/
theorem stays (property : State → Prop)
    (keeps : ∀ {state next action}, system.Reachable state → property state →
      system.step state action = some next → property next)
    {n m : Nat} (before : n ≤ m) (holds : property (run.state n)) :
    property (run.state m) := by
  induction m, before using Nat.le_induction with
  | base => exact holds
  | succ m _ ih =>
      cases here : run.action m with
      | none => exact run.paused m here ▸ ih
      | some action =>
          exact keeps (run.reachable m) ih (run.stepped m action here)

/-- The actions up to an instant. -/
def schedule (n : Nat) : List Action :=
  (List.range n).filterMap run.action

theorem runFrom_schedule (n : Nat) :
    system.runFrom (run.state 0) (run.schedule n) = some (run.state n) := by
  induction n with
  | zero => rfl
  | succ n ih =>
      rw [schedule, List.range_succ, List.filterMap_append]
      apply (system.runFrom_append_eq_some).mpr ⟨_, ih, ?_⟩
      cases here : run.action n with
      | none => simp [here, run.paused n here]
      | some action => simp [here, runFrom_cons, run.stepped n action here]

theorem mem_schedule {n : Nat} {action : Action}
    (member : action ∈ run.schedule n) : ∃ m, run.action m = some action := by
  rcases List.mem_filterMap.mp member with ⟨m, _, here⟩
  exact ⟨m, here⟩

/-! ## What must happen -/

section Rank

variable {α : Type w} [Preorder α] [WellFoundedLT α]
variable {Turn : Type*} {takes : Turn → Action → Prop}

/-- A step of a run towards a goal: it reaches the goal, or it leaves the
property that all states before the goal have. There the rank has not grown, and
if it is the same then so is the turn that lowers it, and it has not been
taken. -/
def Approaches (takes : Turn → Action → Prop) (property goal : State → Prop)
    (rank : State → α) (turn : State → Turn) (state : State) (action : Action)
    (next : State) : Prop :=
  goal next ∨ property next ∧ (rank next < rank state ∨
    rank next = rank state ∧ turn next = turn state ∧
      ¬takes (turn state) action)

/-- A rank that the turns lower one after the other: the goal is reached. -/
theorem eventually_of_rank {property goal : State → Prop} {rank : State → α}
    {turn : State → Turn}
    (approaches : ∀ {state action next}, system.Reachable state →
      property state → system.step state action = some next →
      Approaches takes property goal rank turn state action next)
    (enabled : ∀ {state}, system.Reachable state → property state →
      system.Enabled (takes (turn state)) state)
    (fair : ∀ some, run.WeaklyFair (takes some))
    {n : Nat} (holds : property (run.state n)) :
    ∃ m, n ≤ m ∧ goal (run.state m) := by
  induction level : rank (run.state n) using WellFoundedLT.induction
    generalizing n with
  | ind level ih =>
      subst level
      by_contra never
      have lower : ∀ m, n ≤ m → property (run.state m) →
          ¬rank (run.state m) < rank (run.state n) := by
        intro m after holds less
        rcases ih _ less holds rfl with ⟨later, onward, reached⟩
        exact never ⟨later, after.trans onward, reached⟩
      -- Without the goal and without a lower rank the turn stays the same.
      have same : ∀ m, n ≤ m → property (run.state m) ∧
          rank (run.state m) = rank (run.state n) ∧
          turn (run.state m) = turn (run.state n) := by
        intro m after
        induction m, after using Nat.le_induction with
        | base => exact ⟨holds, rfl, rfl⟩
        | succ m after before =>
            rcases before with ⟨holds, level, turns⟩
            cases here : run.action m with
            | none =>
                rw [run.paused m here]
                exact ⟨holds, level, turns⟩
            | some action =>
                rcases approaches (run.reachable m) holds
                    (run.stepped m action here) with
                  reached | ⟨keeps, less | ⟨equal, stays, _⟩⟩
                · exact absurd ⟨m + 1, Nat.le_succ_of_le after, reached⟩ never
                · rw [level] at less
                  exact absurd less (lower _ (Nat.le_succ_of_le after) keeps)
                · exact ⟨keeps, equal.trans level, stays.trans turns⟩
      obtain ⟨m, after, action, here, takes⟩ := fair (turn (run.state n)) n
        fun m after => by
          rcases same m after with ⟨holds, _, turns⟩
          rw [← turns]
          exact enabled (run.reachable m) holds
      rcases same m after with ⟨holds, level, turns⟩
      rcases approaches (run.reachable m) holds (run.stepped m action here) with
        reached | ⟨keeps, less | ⟨_, _, passed⟩⟩
      · exact never ⟨m + 1, Nat.le_succ_of_le after, reached⟩
      · rw [level] at less
        exact lower _ (Nat.le_succ_of_le after) keeps less
      · rw [turns] at passed
        exact passed takes

end Rank

/-- A turn that is enabled again and again until it is taken: it is taken, or
the goal is reached by somebody else. -/
theorem eventually_taken {takes : Action → Prop} (property goal : State → Prop)
    (fair : run.StronglyFair takes)
    (keeps : ∀ {state action next}, system.Reachable state → property state →
      system.step state action = some next →
      goal next ∨ property next ∧ ¬takes action)
    (recurs : ∀ m, property (run.state m) → ∃ later, m ≤ later ∧
      (goal (run.state later) ∨ system.Enabled takes (run.state later)))
    {n : Nat} (holds : property (run.state n)) :
    ∃ m, n ≤ m ∧ goal (run.state m) := by
  by_contra never
  have waits : ∀ m, n ≤ m → property (run.state m) := by
    intro m after
    induction m, after using Nat.le_induction with
    | base => exact holds
    | succ m after before =>
        cases here : run.action m with
        | none => exact run.paused m here ▸ before
        | some action =>
            rcases keeps (run.reachable m) before (run.stepped m action here)
              with reached | ⟨still, _⟩
            · exact absurd ⟨m + 1, Nat.le_succ_of_le after, reached⟩ never
            · exact still
  obtain ⟨m, after, action, here, taken⟩ := fair n fun m after => by
    rcases recurs m (waits m after) with ⟨later, onward, reached | enabled⟩
    · exact absurd ⟨later, after.trans onward, reached⟩ never
    · exact ⟨later, onward, enabled⟩
  rcases keeps (run.reachable m) (waits m after) (run.stepped m action here)
    with reached | ⟨_, passed⟩
  · exact never ⟨m + 1, Nat.le_succ_of_le after, reached⟩
  · exact passed taken

/-- A turn that is enabled again and again and lowers a rank each time. -/
theorem eventually_of_turns {takes : Action → Prop} {property goal : State → Prop}
    {rank : State → Nat} (fair : run.StronglyFair takes)
    (keeps : ∀ {state action next}, system.Reachable state → property state →
      system.step state action = some next →
      goal next ∨ property next ∧ (rank next < rank state ∨
        rank next = rank state ∧ ¬takes action))
    (recurs : ∀ m, property (run.state m) → ∃ later, m ≤ later ∧
      (goal (run.state later) ∨ system.Enabled takes (run.state later)))
    {n : Nat} (holds : property (run.state n)) :
    ∃ m, n ≤ m ∧ goal (run.state m) := by
  induction left : rank (run.state n) using Nat.strongRecOn generalizing n with
  | ind level ih =>
      obtain ⟨m, after, reached | ⟨still, less⟩⟩ : ∃ m, n ≤ m ∧
          (goal (run.state m) ∨
            property (run.state m) ∧ rank (run.state m) < level) := by
        apply run.eventually_taken
          (fun state => property state ∧ rank state = level)
          (fun state => goal state ∨ property state ∧ rank state < level)
          fair ?_ ?_ ⟨holds, left⟩
        · intro state action next reachable ⟨holds, left⟩ stepped
          subst left
          rcases keeps reachable holds stepped with
            reached | ⟨still, less | ⟨equal, passed⟩⟩
          · exact Or.inl (Or.inl reached)
          · exact Or.inl (Or.inr ⟨still, less⟩)
          · exact Or.inr ⟨⟨still, equal⟩, passed⟩
        · intro m ⟨holds, _⟩
          rcases recurs m holds with ⟨later, after, reached | enabled⟩
          · exact ⟨later, after, Or.inl (Or.inl reached)⟩
          · exact ⟨later, after, Or.inr enabled⟩
      · exact ⟨m, after, reached⟩
      · rcases ih _ less still rfl with ⟨later, onward, reached⟩
        exact ⟨later, after.trans onward, reached⟩

/-- What is undone at some instant was undone by a step. -/
theorem exists_step_of_change (property : State → Prop) {n m : Nat}
    (before : n ≤ m) (holds : property (run.state n))
    (ended : ¬property (run.state m)) :
    ∃ k action, n ≤ k ∧ k < m ∧ property (run.state k) ∧
      run.action k = some action ∧ ¬property (run.state (k + 1)) := by
  induction m, before using Nat.le_induction with
  | base => exact absurd holds ended
  | succ m after ih =>
      by_cases still : property (run.state m)
      · cases here : run.action m with
        | none =>
            rw [run.paused m here] at ended
            exact absurd still ended
        | some action =>
            exact ⟨m, action, after, Nat.lt_succ_self m, still, here, ended⟩
      · rcases ih still with ⟨k, action, later, sooner, rest⟩
        exact ⟨k, action, later, Nat.lt_succ_of_lt sooner, rest⟩

end Run

/-! ## Finite runs -/

variable {state last : State} {schedule : List Action}

/-- The states of a finite run, and its last state for ever after. -/
theorem exists_split (ran : system.runFrom state schedule = some last) (n : Nat) :
    ∃ middle, system.runFrom state (schedule.take n) = some middle ∧
      system.runFrom middle (schedule.drop n) = some last := by
  rw [← List.take_append_drop n schedule] at ran
  exact (system.runFrom_append_eq_some).mp ran

/-- A finite run that pauses for ever at its end. -/
def resting (reachable : system.Reachable state)
    (ran : system.runFrom state schedule = some last) : system.Run where
  state n := (system.runFrom state (schedule.take n)).getD last
  action n := schedule[n]?
  begins := reachable
  paused n ended := by
    have length := List.getElem?_eq_none_iff.mp ended
    rw [List.take_of_length_le length,
      List.take_of_length_le (Nat.le_succ_of_le length)]
  stepped n action here := by
    rcases exists_split ran n with ⟨middle, before, after⟩
    rcases List.getElem?_eq_some_iff.mp here with ⟨inside, same⟩
    rw [List.drop_eq_getElem_cons inside, same] at after
    rcases (system.runFrom_cons_eq_some).mp after with ⟨next, stepped, _⟩
    have onward : system.runFrom state (schedule.take (n + 1)) = some next := by
      rw [List.take_add_one, here]
      apply (system.runFrom_append_eq_some).mpr ⟨middle, before, ?_⟩
      rw [Option.toList, runFrom_singleton, stepped]
    rw [before, onward]
    exact stepped

theorem resting_zero (reachable : system.Reachable state)
    (ran : system.runFrom state schedule = some last) :
    (resting reachable ran).state 0 = state := rfl

theorem resting_last (reachable : system.Reachable state)
    (ran : system.runFrom state schedule = some last) {n : Nat}
    (ended : schedule.length ≤ n) : (resting reachable ran).state n = last := by
  simp [resting, List.take_of_length_le ended, ran]

/-- Where no turn is enabled any more, pausing is fair. -/
theorem resting_stronglyFair (reachable : system.Reachable state)
    (ran : system.runFrom state schedule = some last) {takes : Action → Prop}
    (rests : ¬system.Enabled takes last) :
    (resting reachable ran).StronglyFair takes := by
  intro n enabled
  rcases enabled (max n schedule.length) (Nat.le_max_left _ _) with
    ⟨later, after, can⟩
  rw [resting_last reachable ran ((Nat.le_max_right _ _).trans after)] at can
  exact absurd can rests

end System

end IotRouter.Runtime
