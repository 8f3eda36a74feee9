import IotRouter.Runtime.Transition

/-!
# A fair read-write lock

The lock serves its waiters in the order of their requests: a queued writer
holds back every reader that asks later. A read guard is held over several
steps. A write guard is taken, used and dropped without suspension, so a write
is one step here; it needs the head of the queue and no read guard.

A task that asks while the lock is free is at the head of the queue at once, so
an uncontended acquisition is a request followed by a grant.
-/

namespace IotRouter.Runtime

universe u v w

inductive Access where
  | read
  | write
  deriving DecidableEq, Repr

/-- A lock around `value`: the tasks that hold a read guard, and the tasks that
wait, oldest request first. -/
structure RwLock (Task : Type u) (Value : Type v) where
  value : Value
  readers : List Task
  queue : List (Task × Access)

namespace RwLock

variable {Task : Type u} {Value : Type v}

/-- An unlocked lock. -/
def new (value : Value) : RwLock Task Value where
  value
  readers := []
  queue := []

/-- Join the end of the queue. -/
def request (lock : RwLock Task Value) (task : Task) (access : Access) :
    RwLock Task Value :=
  { lock with queue := lock.queue ++ [(task, access)] }

section Operations

variable [DecidableEq Task]

/-- Take a read guard at the head of the queue. Other read guards do not
matter. -/
def acquire (lock : RwLock Task Value) (task : Task) :
    Option (RwLock Task Value) :=
  if lock.queue.head? = some (task, .read) then
    some { lock with readers := task :: lock.readers, queue := lock.queue.tail }
  else none

/-- Drop a read guard. -/
def release (lock : RwLock Task Value) (task : Task) : RwLock Task Value :=
  { lock with readers := lock.readers.erase task }

/-- Take the write guard at the head of the queue, apply `update` and drop the
guard. -/
def write (lock : RwLock Task Value) (task : Task) (update : Value → Value) :
    Option (RwLock Task Value) :=
  if lock.readers = [] ∧ lock.queue.head? = some (task, .write) then
    some { lock with value := update lock.value, queue := lock.queue.tail }
  else none

/-- Give up waiting. -/
def cancel (lock : RwLock Task Value) (task : Task) : RwLock Task Value :=
  { lock with queue := lock.queue.filter fun waiter => waiter.1 ≠ task }

theorem acquire_eq_some {lock lock' : RwLock Task Value} {task : Task} :
    lock.acquire task = some lock' ↔
      ∃ rest, lock.queue = (task, .read) :: rest ∧
        lock' = { lock with readers := task :: lock.readers, queue := rest } := by
  simp only [acquire]
  split <;> rename_i head
  · rcases List.head?_eq_some_iff.mp head with ⟨rest, queued⟩
    simp [queued, eq_comm]
  · constructor
    · intro acquired
      cases acquired
    · intro acquired
      rcases acquired with ⟨rest, queued, _⟩
      simp [queued] at head

theorem write_eq_some {lock lock' : RwLock Task Value} {task : Task}
    {update : Value → Value} :
    lock.write task update = some lock' ↔
      lock.readers = [] ∧ ∃ rest, lock.queue = (task, .write) :: rest ∧
        lock' = { lock with value := update lock.value, queue := rest } := by
  simp only [write]
  split <;> rename_i head
  · rcases List.head?_eq_some_iff.mp head.2 with ⟨rest, queued⟩
    simp [queued, head.1, eq_comm]
  · constructor
    · intro written
      cases written
    · intro written
      rcases written with ⟨free, rest, queued, _⟩
      simp [queued, free] at head

end Operations

/-! ## Who waits and who holds

The discipline of a lock that one reader and a family of writers use: the queue
and the read guards say exactly which of them wait and whether the reader holds
a guard. Each operation of the lock changes the account in one place. -/

variable {Index : Type w}

/-- `waits`, `looks` and `holds` describe the tasks: which writers wait, whether
the reader waits, whether it holds a guard. -/
structure Accounts (writer : Index → Task) (reader : Task)
    (lock : RwLock Task Value) (waits : Index → Prop) (looks holds : Prop) :
    Prop where
  writers : ∀ index, (writer index, Access.write) ∈ lock.queue ↔ waits index
  looking : (reader, Access.read) ∈ lock.queue ↔ looks
  queued : ∀ waiter ∈ lock.queue,
    waiter = (reader, .read) ∨ ∃ index, waiter = (writer index, .write)
  nodup : lock.queue.Nodup
  holding : holds → lock.readers = [reader]
  free : ¬holds → lock.readers = []

namespace Accounts

variable {writer : Index → Task} {reader : Task}
variable {lock lock' : RwLock Task Value}
variable {waits waits' : Index → Prop} {looks looks' holds holds' : Prop}

theorem new (value : Value) :
    Accounts writer reader (RwLock.new value) (fun _ => False) False False where
  writers := by simp [RwLock.new]
  looking := by simp [RwLock.new]
  queued := by simp [RwLock.new]
  nodup := List.nodup_nil
  holding := False.elim
  free _ := rfl

/-- Only the description of the tasks is replaced by an equivalent one. -/
theorem congr (account : Accounts writer reader lock waits looks holds)
    (sameWaits : ∀ index, waits' index ↔ waits index)
    (sameLooks : looks' ↔ looks) (sameHolds : holds' ↔ holds) :
    Accounts writer reader lock waits' looks' holds' where
  writers index := (account.writers index).trans (sameWaits index).symm
  looking := account.looking.trans sameLooks.symm
  queued := account.queued
  nodup := account.nodup
  holding held := account.holding (sameHolds.mp held)
  free idle := account.free (mt sameHolds.mpr idle)

/-- A writer that did not wait joins the queue. -/
theorem request_write (injective : Function.Injective writer)
    (account : Accounts writer reader lock waits looks holds)
    {index : Index} (fresh : ¬waits index)
    (joins : ∀ other, waits' other ↔ other = index ∨ waits other) :
    Accounts writer reader (lock.request (writer index) .write) waits' looks
      holds where
  writers other := by
    simp only [RwLock.request, List.mem_append, account.writers other,
      List.mem_singleton, Prod.mk.injEq, and_true, injective.eq_iff, joins]
    exact or_comm
  looking := by
    simp [RwLock.request, account.looking]
  queued waiter member := by
    simp only [RwLock.request, List.mem_append, List.mem_singleton] at member
    rcases member with earlier | rfl
    · exact account.queued waiter earlier
    · exact Or.inr ⟨index, rfl⟩
  nodup := by
    apply List.nodup_append.mpr ⟨account.nodup, by simp, ?_⟩
    intro waiter member other otherMember equal
    rw [List.mem_singleton] at otherMember
    subst equal otherMember
    exact fresh ((account.writers index).mp member)
  holding := account.holding
  free := account.free

/-- The reader, which did not wait, joins the queue. -/
theorem request_read (account : Accounts writer reader lock waits looks holds)
    (fresh : ¬looks) (joins : looks') :
    Accounts writer reader (lock.request reader .read) waits looks' holds where
  writers index := by
    simp [RwLock.request, account.writers index]
  looking := by
    simp [RwLock.request, joins]
  queued waiter member := by
    simp only [RwLock.request, List.mem_append, List.mem_singleton] at member
    rcases member with earlier | rfl
    · exact account.queued waiter earlier
    · exact Or.inl rfl
  nodup := by
    apply List.nodup_append.mpr ⟨account.nodup, by simp, ?_⟩
    intro waiter member other otherMember equal
    rw [List.mem_singleton] at otherMember
    subst equal otherMember
    exact fresh (account.looking.mp member)
  holding := account.holding
  free := account.free

/-- The writer at the head of the queue writes and leaves. -/
theorem write [DecidableEq Task] (injective : Function.Injective writer)
    (account : Accounts writer reader lock waits looks holds)
    {index : Index} {update : Value → Value}
    (written : lock.write (writer index) update = some lock')
    (leaves : ∀ other, waits' other ↔ other ≠ index ∧ waits other) :
    Accounts writer reader lock' waits' looks holds := by
  rcases write_eq_some.mp written with ⟨_, rest, queue, rfl⟩
  have nodup := account.nodup
  rw [queue, List.nodup_cons] at nodup
  refine ⟨fun other => ?_, ?_, fun waiter member => ?_, nodup.2,
    account.holding, account.free⟩
  · have before := account.writers other
    rw [queue, List.mem_cons, Prod.mk.injEq, injective.eq_iff] at before
    rw [leaves other, ← before]
    constructor
    · intro member
      refine ⟨?_, Or.inr member⟩
      intro equal
      subst equal
      exact nodup.1 member
    · intro remains
      rcases remains with ⟨different, same | member⟩
      · exact absurd same.1 different
      · exact member
  · have before := account.looking
    rw [queue, List.mem_cons] at before
    simpa using before
  · exact account.queued waiter (queue ▸ List.mem_cons_of_mem _ member)

/-- A waiting writer gives up. -/
theorem cancel [DecidableEq Task] (injective : Function.Injective writer)
    (distinct : ∀ index, writer index ≠ reader)
    (account : Accounts writer reader lock waits looks holds) {index : Index}
    (leaves : ∀ other, waits' other ↔ other ≠ index ∧ waits other) :
    Accounts writer reader (lock.cancel (writer index)) waits' looks holds where
  writers other := by
    simp [RwLock.cancel, account.writers other, leaves, injective.eq_iff,
      and_comm]
  looking := by
    simp [RwLock.cancel, account.looking, (distinct index).symm]
  queued waiter member :=
    account.queued waiter (List.mem_filter.mp member).1
  nodup := account.nodup.filter _
  holding := account.holding
  free := account.free

/-- The reader at the head of the queue takes its guard. -/
theorem acquire [DecidableEq Task] (account : Accounts writer reader lock waits looks holds)
    (idle : ¬holds) (acquired : lock.acquire reader = some lock')
    (leaves : ¬looks') (takes : holds') :
    Accounts writer reader lock' waits looks' holds' := by
  rcases acquire_eq_some.mp acquired with ⟨rest, queue, rfl⟩
  have nodup := account.nodup
  rw [queue, List.nodup_cons] at nodup
  refine ⟨fun index => ?_, ?_, fun waiter member => ?_, nodup.2,
    fun _ => by simp [account.free idle], fun stays => absurd takes stays⟩
  · have before := account.writers index
    rw [queue, List.mem_cons] at before
    simpa using before
  · exact ⟨fun member => absurd member nodup.1, fun looks => absurd looks leaves⟩
  · exact account.queued waiter (queue ▸ List.mem_cons_of_mem _ member)

/-- The reader drops its guard. -/
theorem release [DecidableEq Task] (account : Accounts writer reader lock waits looks holds)
    (held : holds) (drops : ¬holds') :
    Accounts writer reader (lock.release reader) waits looks holds' where
  writers := account.writers
  looking := account.looking
  queued := account.queued
  nodup := account.nodup
  holding holds := absurd holds drops
  free _ := by simp [RwLock.release, account.holding held]

/-- While nobody holds a guard, the head of the queue is a writer that waits or
the reader that waits. -/
theorem head (account : Accounts writer reader lock waits looks holds)
    {waiter : Task × Access} {rest : List (Task × Access)}
    (queue : lock.queue = waiter :: rest) :
    (waiter = (reader, .read) ∧ looks) ∨
      ∃ index, waiter = (writer index, .write) ∧ waits index := by
  have member : waiter ∈ lock.queue := queue ▸ List.mem_cons_self
  rcases account.queued waiter member with rfl | ⟨index, rfl⟩
  · exact Or.inl ⟨rfl, account.looking.mp member⟩
  · exact Or.inr ⟨index, rfl, (account.writers index).mp member⟩

end Accounts

/-! ## Those ahead -/

section Ahead

variable [DecidableEq Task] {target : Task × Access}
variable {queue queue' : List (Task × Access)}

/-- The waiters ahead of one of them. -/
def ahead (target : Task × Access) (queue : List (Task × Access)) :
    List (Task × Access) :=
  queue.takeWhile (· ≠ target)

/-- One operation: somebody joins the end of the queue, or somebody leaves. -/
def Moves (queue queue' : List (Task × Access)) : Prop :=
  queue <+: queue' ∨ queue'.Sublist queue

theorem ahead_extended (waits : target ∈ queue) (joins : queue <+: queue') :
    ahead target queue' = ahead target queue := by
  rcases joins with ⟨behind, rfl⟩
  induction queue with
  | nil => cases waits
  | cons waiter rest ih =>
      by_cases here : waiter = target
      · simp [ahead, here]
      · have later := (List.mem_cons.mp waits).resolve_left (Ne.symm here)
        simpa [ahead, here] using ih later

theorem ahead_sublist (nodup : queue.Nodup) (leaves : queue'.Sublist queue)
    (waits : target ∈ queue') :
    (ahead target queue').Sublist (ahead target queue) := by
  induction leaves with
  | slnil => cases waits
  | cons waiter leaves ih =>
      rcases List.nodup_cons.mp nodup with ⟨once, nodup⟩
      have other : waiter ≠ target := by
        intro same
        subst same
        exact once (leaves.subset waits)
      simpa [ahead, other] using (ih nodup waits).cons waiter
  | cons_cons waiter leaves ih =>
      rcases List.nodup_cons.mp nodup with ⟨_, nodup⟩
      by_cases here : waiter = target
      · simp [ahead, here]
      · have later := (List.mem_cons.mp waits).resolve_left (Ne.symm here)
        simpa [ahead, here] using ih nodup later

/-- Nobody gets ahead of a waiter that stays. -/
theorem Moves.ahead (moves : Moves queue queue') (nodup : queue.Nodup)
    (waited : target ∈ queue) (waits : target ∈ queue') :
    (RwLock.ahead target queue').Sublist (RwLock.ahead target queue) := by
  rcases moves with joins | leaves
  · rw [ahead_extended waited joins]
  · exact ahead_sublist nodup leaves waits

/-- The head of the queue is the first of those ahead, if there is one. -/
theorem head?_of_ahead (waits : target ∈ queue) :
    queue.head? = (ahead target queue ++ [target]).head? := by
  cases queue with
  | nil => cases waits
  | cons waiter rest =>
      by_cases here : waiter = target
      · simp [ahead, here]
      · simp [ahead, here]

/-- When the head of the queue leaves, a waiter that stays has one fewer ahead
of it. -/
theorem ahead_tail {waiter : Task × Access} (other : waiter ≠ target) :
    (ahead target (waiter :: queue)).length =
      (ahead target queue).length + 1 := by
  simp [ahead, other]

end Ahead

/-! ## Service in order of request -/

/-- First come, first served: if a held guard can always be dropped and the
waiter at the head of the free lock can always be served, then every waiter can
be brought to the head of the free lock. `held` and `queue` are the lock as a
part of a larger system. -/
theorem leads_to_head {State : Type*} {Action : Type*}
    {system : System State Action} {allowed : State → Action → Prop}
    {held : State → Prop} {queue : State → List (Task × Access)}
    {target : Task × Access} {property : State → Prop}
    (released : ∀ state, property state → held state →
      ∃ last, system.Leads allowed state last ∧ property last ∧ ¬held last ∧
        queue last = queue state)
    (served : ∀ state waiter rest, property state → ¬held state →
      queue state = waiter :: rest → waiter ≠ target →
      ∃ last, system.Leads allowed state last ∧ property last ∧ ¬held last ∧
        queue last = rest)
    {state : State} (holds : property state) (queued : target ∈ queue state) :
    ∃ last rest, system.Leads allowed state last ∧ property last ∧
      ¬held last ∧ queue last = target :: rest := by
  -- Once the lock is free, serve the waiters ahead of the target one by one.
  have serve : ∀ waiters state, property state → ¬held state →
      queue state = waiters → target ∈ waiters →
      ∃ last rest, system.Leads allowed state last ∧ property last ∧
        ¬held last ∧ queue last = target :: rest := by
    intro waiters
    induction waiters with
    | nil =>
        intro state _ _ _ member
        cases member
    | cons waiter rest ih =>
        intro state holds free waiting member
        by_cases arrived : waiter = target
        · exact ⟨state, rest, .refl _ _, holds, free, arrived ▸ waiting⟩
        · rcases served state waiter rest holds free waiting arrived with
            ⟨next, leads, holdsNext, freeNext, waitingNext⟩
          have behind : target ∈ rest :=
            (List.mem_cons.mp member).resolve_left (Ne.symm arrived)
          rcases ih next holdsNext freeNext waitingNext behind with
            ⟨last, remaining, leadsOn, others⟩
          exact ⟨last, remaining, leads.trans leadsOn, others⟩
  by_cases taken : held state
  · rcases released state holds taken with
      ⟨next, leads, holdsNext, freeNext, waitingNext⟩
    rcases serve _ next holdsNext freeNext waitingNext queued with
      ⟨last, rest, leadsOn, others⟩
    exact ⟨last, rest, leads.trans leadsOn, others⟩
  · exact serve _ state holds taken rfl queued

end RwLock

end IotRouter.Runtime
