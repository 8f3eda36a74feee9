import Mathlib.Data.List.AList
import IotRouter.Runtime.Cast

/-!
# The registry of connections

`ConnectionRegistry` with its operations on the map of sessions, and the sweep
of its reaper. A time, `DateTime<Utc>` in the source, is a number of nanoseconds.
Both the age of a session and the timeout are cut to whole seconds before they
are compared, and the timeout is cast to a signed integer, which turns timeouts
of `2 ^ 63` seconds and more negative.
-/

namespace IotRouter.Connections

open IotRouter.Runtime

/-- `std::time::Duration`. -/
structure Duration where
  secs : UInt64
  nanos : Nat
  bounded : nanos < 1000000000

namespace Duration

def fromSecs (secs : UInt64) : Duration := ⟨secs, 0, by decide⟩

/-- The length in nanoseconds. -/
def length (duration : Duration) : Int :=
  duration.secs.toNat * 1000000000 + duration.nanos

end Duration

structure ConnectionInfo where
  id : String
  clientCn : String
  connectedAt : Int
  lastSeen : Int
  remoteAddr : String
  requestsCount : UInt64
  deriving DecidableEq

/-- The map of sessions, keyed by their ids, and the tolerated inactivity. -/
structure ConnectionRegistry where
  inner : AList fun _ : String => ConnectionInfo
  idleTimeout : Duration

namespace ConnectionRegistry

def new (idleTimeout : Duration) : ConnectionRegistry where
  inner := ∅
  idleTimeout

/-- `register` with the id that `Uuid::new_v4` yields and the time it reads. -/
def register (registry : ConnectionRegistry) (id clientCn remoteAddr : String)
    (now : Int) : ConnectionRegistry :=
  { registry with
    inner := registry.inner.insert id
      { id, clientCn, connectedAt := now, lastSeen := now, remoteAddr
        requestsCount := 0 } }

/-- `touch` at the time it reads; an unknown id is ignored. -/
def touch (registry : ConnectionRegistry) (id : String) (now : Int) :
    ConnectionRegistry :=
  match registry.inner.lookup id with
  | some conn =>
      { registry with
        inner := registry.inner.insert id
          { conn with
            lastSeen := now
            requestsCount := conn.requestsCount + 1 } }
  | none => registry

def snapshot (registry : ConnectionRegistry) : List ConnectionInfo :=
  registry.inner.entries.map Sigma.snd

def count (registry : ConnectionRegistry) : Nat :=
  registry.inner.keys.length

/-- `self.inner.remove(id)` -/
def remove (registry : ConnectionRegistry) (id : String) : ConnectionRegistry :=
  { registry with inner := registry.inner.erase id }

/-! ## The sweep -/

/-- `now.signed_duration_since(last_seen).num_seconds()` cuts toward zero. -/
def age (now : Int) (conn : ConnectionInfo) : Int :=
  (now - conn.lastSeen).tdiv 1000000000

/-- `self.idle_timeout.as_secs() as i64` -/
def timeoutSecs (registry : ConnectionRegistry) : Int :=
  registry.idleTimeout.secs.toInt64.toInt

/-- The filter of the sweep. -/
def isDead (registry : ConnectionRegistry) (now : Int)
    (conn : ConnectionInfo) : Bool :=
  decide (age now conn > registry.timeoutSecs)

/-- The ids collected by the sweep. -/
def dead (registry : ConnectionRegistry) (now : Int) : List String :=
  (registry.inner.entries.filter fun entry => registry.isDead now entry.2).map
    Sigma.fst

/-- One round of the loop in `start_reaper` that nothing interferes with. -/
def sweep (registry : ConnectionRegistry) (now : Int) :
    ConnectionRegistry :=
  (registry.dead now).foldl remove registry

/-! ## What the operations do to one entry -/

section Lookup

variable (registry : ConnectionRegistry) (id key : String) (now : Int)

theorem lookup_register (clientCn remoteAddr : String) :
    (registry.register id clientCn remoteAddr now).inner.lookup key =
      if key = id then
        some { id, clientCn, connectedAt := now, lastSeen := now, remoteAddr
               requestsCount := 0 }
      else registry.inner.lookup key := by
  simp only [register]
  split
  · rename_i same
    rw [same, AList.lookup_insert]
  · rename_i different
    rw [AList.lookup_insert_ne different]

theorem lookup_touch :
    (registry.touch id now).inner.lookup key =
      if key = id then
        (registry.inner.lookup id).map fun conn =>
          { conn with
            lastSeen := now, requestsCount := conn.requestsCount + 1 }
      else registry.inner.lookup key := by
  simp only [touch]
  by_cases same : key = id
  · rw [same, if_pos rfl]
    cases found : registry.inner.lookup id with
    | none => exact found
    | some conn => exact AList.lookup_insert registry.inner
  · rw [if_neg same]
    cases registry.inner.lookup id with
    | none => rfl
    | some conn => exact AList.lookup_insert_ne same

theorem lookup_remove :
    (registry.remove id).inner.lookup key =
      if key = id then none else registry.inner.lookup key := by
  simp only [remove]
  split
  · rename_i same
    rw [same, AList.lookup_erase]
  · rename_i different
    rw [AList.lookup_erase_ne different]

@[simp] theorem touch_idleTimeout :
    (registry.touch id now).idleTimeout = registry.idleTimeout := by
  simp only [touch]
  split <;> rfl

/-- A registration under a fresh id adds one session. -/
theorem count_register {clientCn remoteAddr : String}
    (fresh : id ∉ registry.inner) :
    (registry.register id clientCn remoteAddr now).count =
      registry.count + 1 := by
  have absent : id ∉ registry.inner.keys := fresh
  rw [count, register, AList.keys_insert, List.length_cons,
    List.erase_of_not_mem absent, count]

theorem mem_touch :
    key ∈ (registry.touch id now).inner ↔ key ∈ registry.inner := by
  rw [← AList.lookup_isSome, ← AList.lookup_isSome, lookup_touch]
  split
  · rename_i same
    rw [same, Option.isSome_map]
  · rfl

theorem count_touch : (registry.touch id now).count = registry.count := by
  simp only [touch]
  cases found : registry.inner.lookup id with
  | none => rfl
  | some conn =>
      have present : id ∈ registry.inner.keys :=
        AList.lookup_isSome.mp (by rw [found]; rfl)
      have positive := List.length_pos_of_mem present
      simp only [count, AList.keys_insert, List.length_cons,
        List.length_erase_of_mem present]
      omega

/-- A removal takes one session if the id is there. -/
theorem count_remove :
    (registry.remove id).count +
        (if id ∈ registry.inner then [id] else []).length =
      registry.count := by
  simp only [count, remove, AList.keys_erase]
  split
  · rename_i present
    have positive := List.length_pos_of_mem (AList.mem_keys.mp present)
    rw [List.length_erase_of_mem present, List.length_singleton]
    omega
  · rename_i absent
    rw [List.erase_of_not_mem absent, List.length_nil, Nat.add_zero]

theorem count_eq_length_snapshot : registry.count = registry.snapshot.length := by
  simp [count, snapshot, AList.keys, List.keys]

theorem lookup_removeAll (ids : List String) :
    (ids.foldl remove registry).inner.lookup key =
      if key ∈ ids then none else registry.inner.lookup key := by
  induction ids generalizing registry with
  | nil => simp
  | cons id ids ih =>
      rw [List.foldl_cons, ih, lookup_remove]
      by_cases same : key = id
      · simp [same]
      · simp [same]

theorem mem_dead :
    key ∈ registry.dead now ↔
      ∃ conn, registry.inner.lookup key = some conn ∧
        registry.isDead now conn = true := by
  simp only [dead, List.mem_map, List.mem_filter, Sigma.exists,
    exists_and_right, exists_eq_right]
  apply exists_congr
  intro conn
  apply and_congr_left
  intro _
  exact AList.mem_lookup_iff.symm

/-- The sweep removes the dead entries and leaves the others as they are. -/
theorem lookup_sweep :
    (registry.sweep now).inner.lookup key =
      (registry.inner.lookup key).filter fun conn => !registry.isDead now conn := by
  rw [sweep, lookup_removeAll]
  by_cases collected : key ∈ registry.dead now
  · rcases (mem_dead registry key now).mp collected with ⟨conn, found, dead⟩
    rw [if_pos collected, found, Option.filter_some_neg (by simp [dead])]
  · rw [if_neg collected]
    cases found : registry.inner.lookup key with
    | none => rfl
    | some conn =>
        have alive : registry.isDead now conn = false := by
          by_contra dead
          exact collected ((mem_dead registry key now).mpr
            ⟨conn, found, Bool.not_eq_false _ ▸ dead⟩)
        rw [Option.filter_some_pos (by simp [alive])]

end Lookup

/-! ## Exactness of the sweep -/

variable {registry : ConnectionRegistry} {now : Int} {conn : ConnectionInfo}

/-- Below `2 ^ 63` seconds the cast of the timeout is its number of seconds. -/
theorem timeoutSecs_of_lt (lower : registry.idleTimeout.secs.toNat < 2 ^ 63) :
    registry.timeoutSecs = registry.idleTimeout.secs.toNat :=
  toInt_toInt64_of_lt lower

/-- A whole second more than the timeout, both cut to seconds. -/
theorem isDead_iff (lower : registry.idleTimeout.secs.toNat < 2 ^ 63)
    (seen : conn.lastSeen ≤ now) :
    registry.isDead now conn = true ↔
      ((registry.idleTimeout.secs.toNat : Int) + 1) * 1000000000 ≤
        now - conn.lastSeen := by
  have passed : 0 ≤ now - conn.lastSeen := Int.sub_nonneg.mpr seen
  rw [isDead, decide_eq_true_eq, timeoutSecs_of_lt lower, age,
    Int.tdiv_eq_ediv_of_nonneg passed, gt_iff_lt, Int.lt_iff_add_one_le,
    Int.le_ediv_iff_mul_le (by decide)]

/-- A dead entry has been idle for longer than the timeout. -/
theorem idle_of_isDead (lower : registry.idleTimeout.secs.toNat < 2 ^ 63)
    (dead : registry.isDead now conn = true) :
    registry.idleTimeout.length < now - conn.lastSeen := by
  have bounded := registry.idleTimeout.bounded
  have seen : conn.lastSeen ≤ now := by
    by_contra later
    rw [isDead, decide_eq_true_eq, timeoutSecs_of_lt lower, age] at dead
    have ahead : 0 ≤ (conn.lastSeen - now).tdiv 1000000000 :=
      Int.tdiv_nonneg (by omega) (by decide)
    rw [← Int.neg_sub, Int.neg_tdiv] at dead
    omega
  have whole := (isDead_iff lower seen).mp dead
  simp only [Duration.length]
  omega

/-- From `2 ^ 63` seconds on the cast is negative, and every entry is dead. -/
theorem isDead_of_le (upper : 2 ^ 63 ≤ registry.idleTimeout.secs.toNat)
    (seen : conn.lastSeen ≤ now) : registry.isDead now conn = true := by
  have passed : 0 ≤ now - conn.lastSeen := Int.sub_nonneg.mpr seen
  have negative : registry.timeoutSecs < 0 := toInt_toInt64_neg upper
  have aged : 0 ≤ age now conn := Int.tdiv_nonneg passed (by decide)
  rw [isDead, decide_eq_true_eq]
  omega

/-- Whatever the timeout, an entry that was idle for a whole second more is
dead. -/
theorem isDead_of_idle (seen : conn.lastSeen ≤ now)
    (long : ((registry.idleTimeout.secs.toNat : Int) + 1) * 1000000000 ≤
      now - conn.lastSeen) : registry.isDead now conn = true := by
  by_cases lower : registry.idleTimeout.secs.toNat < 2 ^ 63
  · exact (isDead_iff lower seen).mpr long
  · exact isDead_of_le (Nat.not_lt.mp lower) seen

/-- The sweep at `now` is exact in time. -/
structure ExactInTime (registry : ConnectionRegistry) (now : Int) :
    Prop where
  /-- No session that was idle for the timeout at most is removed. -/
  keeps : ∀ id conn, registry.inner.lookup id = some conn →
    now - conn.lastSeen ≤ registry.idleTimeout.length →
    id ∈ (registry.sweep now).inner
  /-- Every session that was idle for a whole second more is removed. -/
  removes : ∀ id conn, registry.inner.lookup id = some conn →
    ((registry.idleTimeout.secs.toNat : Int) + 1) * 1000000000 ≤
      now - conn.lastSeen →
    id ∉ (registry.sweep now).inner
  unchanged : ∀ id ∈ (registry.sweep now).inner,
    (registry.sweep now).inner.lookup id = registry.inner.lookup id

theorem mem_sweep (id : String) :
    id ∈ (registry.sweep now).inner ↔
      ∃ conn, registry.inner.lookup id = some conn ∧
        registry.isDead now conn = false := by
  rw [← AList.lookup_isSome, lookup_sweep]
  cases registry.inner.lookup id with
  | none => simp
  | some conn => cases verdict : registry.isDead now conn <;> simp [verdict]

/-- What stays is unchanged, whatever the timeout. -/
theorem sweep_unchanged (id : String)
    (stays : id ∈ (registry.sweep now).inner) :
    (registry.sweep now).inner.lookup id = registry.inner.lookup id := by
  rcases (mem_sweep id).mp stays with ⟨conn, found, alive⟩
  rw [lookup_sweep, found]
  simp [alive]

/-- The sweep is exact if the timeout is below `2 ^ 63` seconds. Otherwise it
removes every session, which is right only if each was idle for longer. -/
theorem exactInTime_iff
    (seen : ∀ id conn, registry.inner.lookup id = some conn →
      conn.lastSeen ≤ now) :
    ExactInTime registry now ↔
      registry.idleTimeout.secs.toNat < 2 ^ 63 ∨
        ∀ id conn, registry.inner.lookup id = some conn →
          registry.idleTimeout.length < now - conn.lastSeen := by
  have bounded := registry.idleTimeout.bounded
  constructor
  · intro exact_
    by_cases lower : registry.idleTimeout.secs.toNat < 2 ^ 63
    · exact Or.inl lower
    · apply Or.inr
      intro id conn found
      by_contra recent
      rcases (mem_sweep id).mp (exact_.keeps id conn found (Int.not_lt.mp recent))
        with ⟨other, same, alive⟩
      cases found.symm.trans same
      rw [isDead_of_le (Nat.not_lt.mp lower) (seen id conn found)] at alive
      cases alive
  · intro condition
    constructor
    · intro id conn found recent
      refine (mem_sweep id).mpr ⟨conn, found, ?_⟩
      rw [Bool.eq_false_iff]
      intro dead
      rcases condition with lower | idle
      · exact absurd recent (Int.not_le.mpr (idle_of_isDead lower dead))
      · exact absurd recent (Int.not_le.mpr (idle id conn found))
    · intro id conn found long stays
      rcases (mem_sweep id).mp stays with ⟨other, same, alive⟩
      cases found.symm.trans same
      rw [isDead_of_idle (seen id conn found) long] at alive
      cases alive
    · intro id
      exact sweep_unchanged id

/-- One session, registered and swept at the same moment. -/
def fresh (idleTimeout : Duration) : ConnectionRegistry :=
  (new idleTimeout).register "id" "client" "addr" 0

theorem lookup_fresh {idleTimeout : Duration} {id : String}
    {conn : ConnectionInfo}
    (found : (fresh idleTimeout).inner.lookup id = some conn) :
    conn.lastSeen = 0 := by
  rw [fresh, lookup_register] at found
  split at found
  · cases found
    rfl
  · simp [new] at found

theorem exactInTime_fresh :
    ExactInTime (fresh (.fromSecs 60)) 61000000000 := by
  apply (exactInTime_iff ?_).mpr (Or.inl (by decide))
  intro id conn found
  rw [lookup_fresh found]
  decide

/-- The largest timeout removes a session that was registered just now. -/
theorem not_exactInTime :
    ¬∀ (registry : ConnectionRegistry) (now : Int),
      (∀ id conn, registry.inner.lookup id = some conn →
        conn.lastSeen ≤ now) → ExactInTime registry now := by
  intro exact_
  have here := exact_ (fresh (.fromSecs (UInt64.ofNat (2 ^ 64 - 1)))) 0
    (fun id conn found => Int.le_of_eq (lookup_fresh found))
  have stays := here.keeps "id" _ rfl (by decide)
  exact absurd stays (by decide)

end ConnectionRegistry

end IotRouter.Connections
