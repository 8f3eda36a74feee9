import Mathlib.Data.List.Nodup
import Mathlib.Logic.Function.Basic
import IotRouter.Runtime.Trace

/-!
# A broker with one queue

The sequential service that a concurrent router is meant to be. Publishers put
messages into one queue. The oldest message goes to the client that the table
holds for its key; a message for everyone goes, under each key of the table, to
the client held for that key. A client that no longer listens gets nothing.

Two facts hold of every broker. Everybody sees the messages in the order of the
queue, so no two clients see two messages in different orders. And if keys,
clients and changes of the table fall into kinds that do not mix, the clients of
one kind see nothing of the events of the others.
-/

namespace IotRouter.Runtime

universe u

/-! ## Repeating a list in order -/

section Follows

variable {α : Type u}

/-- One value stands somewhere before the other. -/
def Precedes (first second : α) (list : List α) : Prop :=
  List.Sublist [first, second] list

/-- The values are taken from `order` going forward only, the last one before
`bound`; an entry may be taken several times, and entries may be left out. -/
def Follows (values order : List α) (bound : Nat) : Prop :=
  ∃ positions : List Nat, positions.Pairwise (· ≤ ·) ∧
    (∀ position ∈ positions, position < bound) ∧
    positions.map (fun position => order[position]?) = values.map some

namespace Follows

variable {values others order order' : List α} {bound bound' : Nat}

theorem nil (order : List α) (bound : Nat) : Follows [] order bound :=
  ⟨[], List.Pairwise.nil, by simp, rfl⟩

/-- The order may grow at its end. -/
theorem mono (follows : Follows values order bound) (grows : order <+: order')
    (onward : bound ≤ bound') : Follows values order' bound' := by
  rcases follows with ⟨positions, ascending, below, taken⟩
  refine ⟨positions, ascending,
    fun position member => Nat.lt_of_lt_of_le (below position member) onward, ?_⟩
  rw [← taken]
  apply List.map_congr_left
  intro position member
  have present : order[position]? ∈ values.map some := by
    rw [← taken]
    exact List.mem_map_of_mem member
  rcases List.mem_map.mp present with ⟨value, _, found⟩
  rcases grows with ⟨rest, rfl⟩
  rcases List.getElem?_eq_some_iff.mp found.symm with ⟨inBound, _⟩
  exact List.getElem?_append_left inBound

/-- One more value, at the front reached so far. -/
theorem push (follows : Follows values order bound) {position : Nat} {value : α}
    (found : order[position]? = some value) (front : bound ≤ position + 1) :
    Follows (values ++ [value]) order (position + 1) := by
  rcases follows with ⟨positions, ascending, below, taken⟩
  refine ⟨positions ++ [position], ?_, ?_, ?_⟩
  · rw [List.pairwise_append]
    refine ⟨ascending, List.pairwise_singleton _ _, ?_⟩
    intro earlier member later last
    rw [List.mem_singleton] at last
    have := below earlier member
    omega
  · intro other member
    rw [List.mem_append, List.mem_singleton] at member
    rcases member with earlier | rfl
    · exact Nat.lt_of_lt_of_le (below other earlier) front
    · exact Nat.lt_succ_self other
  · rw [List.map_append, List.map_append, taken, List.map_singleton,
      List.map_singleton, found]

/-- Two values one after the other come from two places in order. -/
theorem places {first second : α} (follows : Follows values order bound)
    (precedes : Precedes first second values) :
    ∃ i j : Nat, i ≤ j ∧ order[i]? = some first ∧ order[j]? = some second := by
  rcases follows with ⟨positions, ascending, _, taken⟩
  have listed : List.Sublist [some first, some second]
      (positions.map fun position => order[position]?) := by
    rw [taken]
    exact precedes.map some
  rcases List.sublist_map_iff.mp listed with ⟨chosen, inside, same⟩
  rcases List.map_eq_cons_iff.mp same.symm with ⟨i, rest, rfl, atFirst, single⟩
  rcases List.map_eq_singleton_iff.mp single with ⟨j, rfl, atSecond⟩
  exact ⟨i, j, List.pairwise_pair.mp (ascending.sublist inside), atFirst,
    atSecond⟩

/-- Of two values one after the other, the order has the first before the
second, or they are the same. -/
theorem pair {first second : α} (follows : Follows values order bound)
    (precedes : Precedes first second values) :
    first = second ∨ Precedes first second order := by
  rcases follows.places precedes with ⟨i, j, le, atFirst, atSecond⟩
  rcases Nat.eq_or_lt_of_le le with rfl | lt
  · exact Or.inl (Option.some.inj (atFirst.symm.trans atSecond))
  · right
    have early : first ∈ order.take j := by
      rw [List.mem_iff_getElem?]
      exact ⟨i, by rw [List.getElem?_take_of_lt lt, atFirst]⟩
    have late : second ∈ order.drop j := by
      rw [List.mem_iff_getElem?]
      exact ⟨0, by rw [List.getElem?_drop, Nat.add_zero, atSecond]⟩
    have split := (List.singleton_sublist.mpr early).append
      (List.singleton_sublist.mpr late)
    rwa [List.take_append_drop] at split

/-- Two that follow the same order agree on the order of what both have. -/
theorem agree (distinct : order.Nodup) {first second : α}
    (here : Follows values order bound) (there : Follows others order bound')
    (before : Precedes first second values)
    (after : Precedes second first others) : first = second := by
  rcases here.places before with ⟨i, j, le, atFirst, atSecond⟩
  rcases there.places after with ⟨i', j', le', atSecond', atFirst'⟩
  have inBound : i < order.length := (List.getElem?_eq_some_iff.mp atFirst).1
  have inBound' : j < order.length := (List.getElem?_eq_some_iff.mp atSecond).1
  have same : i = j' :=
    (List.getElem?_inj inBound distinct).mp (atFirst.trans atFirst'.symm)
  have same' : j = i' :=
    (List.getElem?_inj inBound' distinct).mp (atSecond.trans atSecond'.symm)
  have meet : i = j := by omega
  rw [meet, atSecond] at atFirst
  exact (Option.some.inj atFirst).symm

end Follows

end Follows

/-! ## The broker -/

/-- What a broker is about: a table that changes, the keys it holds clients for,
and the messages. -/
structure Directory (Table Change Key Client Message : Type u) where
  alter : Table → Change → Table
  holder : Table → Key → Option Client
  /-- Where a message for everyone goes. -/
  keys : Table → List Key
  /-- The key a message is for; `none` if it is for everyone. -/
  target : Message → Option Key
  /-- What a message for everyone becomes under a key. -/
  copy : Message → Key → Message

/-- What happens to a broker. The oldest message is delivered to the holder of
its key, or its delivery to everyone begins, serves one key after the other in
the order given, and is finished. -/
inductive BrokerEvent (Change Key Client Message : Type u) where
  | altered (change : Change)
  | dropped (client : Client)
  | published (message : Message)
  | delivered (message : Message)
  | began (message : Message) (order : List Key)
  | served (message : Message) (key : Key)
  | finished (message : Message)
  deriving DecidableEq

/-- The state of a broker; `turns` are the keys still to be served while a
message for everyone is being delivered. -/
@[ext] structure Broker (Table Key Client Message : Type u) where
  table : Table
  isOpen : Client → Bool
  settled : List Message
  waiting : List Message
  turns : Option (List Key)
  inbox : Client → List Message

namespace Broker

variable {Table Change Key Client Message : Type u}

/-- Everything ever published, in order. -/
def published (broker : Broker Table Key Client Message) : List Message :=
  broker.settled ++ broker.waiting

/-- The oldest message has been dealt with. -/
def settle (broker : Broker Table Key Client Message) :
    Broker Table Key Client Message :=
  { broker with
    settled := broker.settled ++ broker.waiting.head?.toList
    waiting := broker.waiting.tail
    turns := none }

end Broker

namespace Directory

variable {Table Change Key Client Message : Type u} [DecidableEq Client]
variable (directory : Directory Table Change Key Client Message)

/-- The client held for the key gets the message if it listens. -/
def tell (broker : Broker Table Key Client Message) (key : Key)
    (message : Message) : Broker Table Key Client Message :=
  { broker with
    inbox := fun client => broker.inbox client ++
      if directory.holder broker.table key = some client ∧
          broker.isOpen client = true then [message]
      else [] }

variable [DecidableEq Key] [DecidableEq Message]

/-- The change leaves everyone's keys and their holders as they are. -/
def Spares (table : Table) (change : Change) : Prop :=
  directory.keys (directory.alter table change) = directory.keys table ∧
    ∀ key ∈ directory.keys table,
      directory.holder (directory.alter table change) key =
        directory.holder table key

instance (table : Table) (change : Change) :
    Decidable (directory.Spares table change) :=
  inferInstanceAs (Decidable (_ ∧ _))

/-- One event; `none` if it cannot happen. While a message is delivered to
everyone the table keeps everyone's entries. -/
def step (broker : Broker Table Key Client Message) :
    BrokerEvent Change Key Client Message →
      Option (Broker Table Key Client Message)
  | .altered change =>
      if broker.turns = none ∨ directory.Spares broker.table change then
        some { broker with table := directory.alter broker.table change }
      else none
  | .dropped client =>
      if broker.isOpen client then
        some { broker with isOpen := Function.update broker.isOpen client false }
      else none
  | .published message =>
      some { broker with waiting := broker.waiting ++ [message] }
  | .delivered message =>
      match directory.target message with
      | some key =>
          if broker.waiting.head? = some message ∧ broker.turns = none then
            some (directory.tell broker key message).settle
          else none
      | none => none
  | .began message order =>
      if broker.waiting.head? = some message ∧ broker.turns = none ∧
          directory.target message = none ∧
          order.Perm (directory.keys broker.table) then
        some { broker with turns := some order }
      else none
  | .served message key =>
      match broker.turns with
      | some (turn :: rest) =>
          if broker.waiting.head? = some message ∧ turn = key then
            some { directory.tell broker key (directory.copy message key) with
              turns := some rest }
          else none
      | _ => none
  | .finished message =>
      if broker.waiting.head? = some message ∧ broker.turns = some [] then
        some broker.settle
      else none

/-- A broker that starts with this table, with everybody listening. -/
def broker (table : Table) :
    System (Broker Table Key Client Message)
      (BrokerEvent Change Key Client Message) where
  start :=
    { table
      isOpen := fun _ => true
      settled := []
      waiting := []
      turns := none
      inbox := fun _ => [] }
  step := directory.step

/-- The ways an event can happen. -/
inductive BrokerStep (broker : Broker Table Key Client Message) :
    BrokerEvent Change Key Client Message →
      Broker Table Key Client Message → Prop where
  | altered (change : Change)
      (spares : broker.turns = none ∨ directory.Spares broker.table change) :
      BrokerStep broker (.altered change)
        { broker with table := directory.alter broker.table change }
  | dropped (client : Client) (listens : broker.isOpen client = true) :
      BrokerStep broker (.dropped client)
        { broker with isOpen := Function.update broker.isOpen client false }
  | published (message : Message) :
      BrokerStep broker (.published message)
        { broker with waiting := broker.waiting ++ [message] }
  | delivered (message : Message) (key : Key)
      (oldest : broker.waiting.head? = some message)
      (idle : broker.turns = none)
      (target : directory.target message = some key) :
      BrokerStep broker (.delivered message)
        (directory.tell broker key message).settle
  | began (message : Message) (order : List Key)
      (oldest : broker.waiting.head? = some message)
      (idle : broker.turns = none)
      (everyone : directory.target message = none)
      (order_perm : order.Perm (directory.keys broker.table)) :
      BrokerStep broker (.began message order)
        { broker with turns := some order }
  | served (message : Message) (key : Key) (rest : List Key)
      (oldest : broker.waiting.head? = some message)
      (turn : broker.turns = some (key :: rest)) :
      BrokerStep broker (.served message key)
        { directory.tell broker key (directory.copy message key) with
          turns := some rest }
  | finished (message : Message)
      (oldest : broker.waiting.head? = some message)
      (spent : broker.turns = some []) :
      BrokerStep broker (.finished message) broker.settle

variable {directory} {broker next : Broker Table Key Client Message}
variable {event : BrokerEvent Change Key Client Message}

theorem step_cases (stepped : directory.step broker event = some next) :
    directory.BrokerStep broker event next := by
  cases event with
  | altered change =>
      simp only [step, Option.ite_none_right_eq_some, Option.some.injEq]
        at stepped
      rcases stepped with ⟨spares, rfl⟩
      exact .altered change spares
  | dropped client =>
      simp only [step, Option.ite_none_right_eq_some, Option.some.injEq]
        at stepped
      rcases stepped with ⟨listens, rfl⟩
      exact .dropped client listens
  | published message =>
      simp only [step, Option.some.injEq] at stepped
      subst stepped
      exact .published message
  | delivered message =>
      simp only [step] at stepped
      split at stepped
      · rename_i key target
        simp only [Option.ite_none_right_eq_some, Option.some.injEq] at stepped
        rcases stepped with ⟨⟨oldest, idle⟩, rfl⟩
        exact .delivered message key oldest idle target
      · cases stepped
  | began message order =>
      simp only [step, Option.ite_none_right_eq_some, Option.some.injEq]
        at stepped
      rcases stepped with ⟨⟨oldest, idle, everyone, order_perm⟩, rfl⟩
      exact .began message order oldest idle everyone order_perm
  | served message key =>
      simp only [step] at stepped
      split at stepped
      · rename_i turn rest turns
        simp only [Option.ite_none_right_eq_some, Option.some.injEq] at stepped
        rcases stepped with ⟨⟨oldest, rfl⟩, rfl⟩
        exact .served message turn rest oldest turns
      · cases stepped
  | finished message =>
      simp only [step, Option.ite_none_right_eq_some, Option.some.injEq]
        at stepped
      rcases stepped with ⟨⟨oldest, spent⟩, rfl⟩
      exact .finished message oldest spent

end Directory

/-! ## Everybody sees one order -/

namespace Broker

variable {Table Key Client Message : Type u}
variable {broker : Broker Table Key Client Message}

/-- How far the queue has been worked off, the message in progress included. -/
def front (broker : Broker Table Key Client Message) : Nat :=
  broker.settled.length + if broker.turns = none then 0 else 1

theorem published_settle (broker : Broker Table Key Client Message) :
    broker.settle.published = broker.published := by
  simp only [published, settle]
  cases broker.waiting <;> simp

theorem front_settle {message : Message}
    (oldest : broker.waiting.head? = some message) :
    broker.settle.front = broker.settled.length + 1 := by
  simp [front, settle, oldest]

theorem published_oldest {message : Message}
    (oldest : broker.waiting.head? = some message) :
    broker.published[broker.settled.length]? = some message := by
  rw [published, List.getElem?_append_right le_rfl, Nat.sub_self,
    ← List.head?_eq_getElem?, oldest]

end Broker

namespace Directory

variable {Table Change Key Client Message Origin : Type u}
variable [DecidableEq Client]
variable {directory : Directory Table Change Key Client Message}
variable {broker next last : Broker Table Key Client Message}
variable {event : BrokerEvent Change Key Client Message}
variable {origin : Message → Origin}

/-- Every inbox follows the publications, as far as the queue has been worked
off. -/
def InOrder (origin : Message → Origin)
    (broker : Broker Table Key Client Message) : Prop :=
  ∀ client, Follows ((broker.inbox client).map origin)
    (broker.published.map origin) broker.front

/-- The oldest message, or a copy of it, is told. -/
theorem InOrder.tell (ordered : InOrder origin broker) {key : Key}
    {oldest message : Message} (oldest_eq : broker.waiting.head? = some oldest)
    (same : origin message = origin oldest) (client : Client) :
    Follows (((directory.tell broker key message).inbox client).map origin)
      (broker.published.map origin) (broker.settled.length + 1) := by
  have front : broker.front ≤ broker.settled.length + 1 := by
    simp only [Broker.front]
    split <;> omega
  simp only [Directory.tell]
  split
  · rw [List.map_append, List.map_singleton]
    apply (ordered client).push ?_ front
    rw [List.getElem?_map, Broker.published_oldest oldest_eq, same]
    rfl
  · rw [List.append_nil]
    exact (ordered client).mono List.prefix_rfl front

variable [DecidableEq Key] [DecidableEq Message]

theorem InOrder.step (copies : ∀ message key,
      origin (directory.copy message key) = origin message)
    (ordered : InOrder origin broker)
    (stepped : directory.step broker event = some next) :
    InOrder origin next := by
  intro client
  cases step_cases stepped with
  | altered | dropped => exact ordered client
  | published message =>
      refine (ordered client).mono (List.IsPrefix.map origin ?_) le_rfl
      simp only [Broker.published, ← List.append_assoc]
      exact List.prefix_append _ _
  | delivered message key oldest =>
      rw [Broker.published_settle]
      exact (ordered.tell oldest rfl client).mono List.prefix_rfl
        (Nat.le_of_eq (Broker.front_settle oldest).symm)
  | began message order oldest idle =>
      exact (ordered client).mono List.prefix_rfl (by simp [Broker.front, idle])
  | served message key rest oldest turn =>
      exact ordered.tell oldest (copies message key) client
  | finished message oldest spent =>
      rw [Broker.published_settle, Broker.front_settle oldest]
      exact (ordered client).mono List.prefix_rfl (by simp [Broker.front, spent])

/-- In every run of a broker, every client sees the messages in the order in
which they were published. -/
theorem inOrder {table : Table} (copies : ∀ message key,
      origin (directory.copy message key) = origin message)
    (reachable : (directory.broker table).Reachable broker) :
    InOrder origin broker := by
  apply System.invariant (InOrder origin) ?_ ?_ reachable
  · exact fun client => .nil _ _
  · exact fun _ ordered stepped => ordered.step copies stepped

end Directory

/-! ## Kinds that do not mix -/

/-- Keys, clients and changes fall into kinds. A key holds clients of its own
kind, and what it holds after a change depends, if the change is of its kind, on
what the keys of that kind held, and otherwise on nothing but itself. -/
structure Kinds {Table Change Key Client Message : Type u}
    (directory : Directory Table Change Key Client Message)
    (Kind : Type u) where
  ofKey : Key → Kind
  ofClient : Client → Kind
  ofChange : Change → Kind
  holder_kind : ∀ {table key client},
    directory.holder table key = some client → ofClient client = ofKey key
  holder_other : ∀ {change key} (table), ofChange change ≠ ofKey key →
    directory.holder (directory.alter table change) key =
      directory.holder table key
  holder_own : ∀ {table table' change},
    (∀ key, ofKey key = ofChange change →
      directory.holder table key = directory.holder table' key) →
    ∀ key, ofKey key = ofChange change →
      directory.holder (directory.alter table change) key =
        directory.holder (directory.alter table' change) key

namespace Kinds

variable {Table Change Key Client Message Kind : Type u}
variable {directory : Directory Table Change Key Client Message}
variable (kinds : Kinds directory Kind) (kind : Kind)

/-- The event can matter to clients of the kind. -/
def concerns [DecidableEq Kind] : BrokerEvent Change Key Client Message → Bool
  | .altered change => kinds.ofChange change = kind
  | .dropped client => kinds.ofClient client = kind
  | .delivered message =>
      (directory.target message).map kinds.ofKey = some kind
  | .served _ key => kinds.ofKey key = kind
  | .published _ | .began _ _ | .finished _ => false

/-- Two brokers look the same to the clients of one kind. -/
structure Alike (broker broker' : Broker Table Key Client Message) : Prop where
  holder : ∀ key, kinds.ofKey key = kind →
    directory.holder broker.table key = directory.holder broker'.table key
  isOpen : ∀ client, kinds.ofClient client = kind →
    broker.isOpen client = broker'.isOpen client
  inbox : ∀ client, kinds.ofClient client = kind →
    broker.inbox client = broker'.inbox client

variable {kinds} {kind}
variable {broker broker' next next' last last' : Broker Table Key Client Message}
variable {event : BrokerEvent Change Key Client Message}

namespace Alike

theorem refl (broker : Broker Table Key Client Message) :
    kinds.Alike kind broker broker :=
  ⟨fun _ _ => rfl, fun _ _ => rfl, fun _ _ => rfl⟩

theorem symm (alike : kinds.Alike kind broker broker') :
    kinds.Alike kind broker' broker where
  holder key own := (alike.holder key own).symm
  isOpen client own := (alike.isOpen client own).symm
  inbox client own := (alike.inbox client own).symm

theorem trans {other : Broker Table Key Client Message}
    (left : kinds.Alike kind broker broker')
    (right : kinds.Alike kind broker' other) :
    kinds.Alike kind broker other where
  holder key own := (left.holder key own).trans (right.holder key own)
  isOpen client own := (left.isOpen client own).trans (right.isOpen client own)
  inbox client own := (left.inbox client own).trans (right.inbox client own)

section Tell

variable [DecidableEq Client]

/-- Both tell the same message under the same key. -/
theorem tell (alike : kinds.Alike kind broker broker') {key : Key}
    (own : kinds.ofKey key = kind) (message : Message) :
    kinds.Alike kind (directory.tell broker key message)
      (directory.tell broker' key message) where
  holder := alike.holder
  isOpen := alike.isOpen
  inbox client ofKind := by
    simp only [Directory.tell, alike.inbox client ofKind, alike.holder key own,
      alike.isOpen client ofKind]

/-- What is told under a key of another kind is not heard. -/
theorem tell_other {key : Key} (other : kinds.ofKey key ≠ kind)
    (message : Message) :
    kinds.Alike kind broker (directory.tell broker key message) where
  holder _ _ := rfl
  isOpen _ _ := rfl
  inbox client ofKind := by
    have elsewhere : directory.holder broker.table key ≠ some client := by
      intro held
      exact other ((kinds.holder_kind held).symm.trans ofKind)
    simp [Directory.tell, elsewhere]

end Tell

variable [DecidableEq Client] [DecidableEq Kind]
variable [DecidableEq Key] [DecidableEq Message]

/-- An event that does not concern the kind changes nothing for it. -/
theorem skip (quiet : kinds.concerns kind event = false)
    (stepped : directory.step broker event = some next) :
    kinds.Alike kind broker next := by
  cases Directory.step_cases stepped with
  | altered change =>
      have other : kinds.ofChange change ≠ kind := by
        simpa [concerns] using quiet
      refine ⟨fun key own => ?_, fun _ _ => rfl, fun _ _ => rfl⟩
      exact (kinds.holder_other _ (own ▸ other)).symm
  | dropped client =>
      have other : kinds.ofClient client ≠ kind := by
        simpa [concerns] using quiet
      refine ⟨fun _ _ => rfl, fun target own => ?_, fun _ _ => rfl⟩
      have apart : target ≠ client := fun same => other (same ▸ own)
      simp [apart]
  | published | began => exact ⟨fun _ _ => rfl, fun _ _ => rfl, fun _ _ => rfl⟩
  | delivered message key oldest idle target =>
      have other : kinds.ofKey key ≠ kind := by
        simpa [concerns, target] using quiet
      have told : kinds.Alike kind broker (directory.tell broker key message) :=
        tell_other other message
      exact ⟨told.holder, told.isOpen, told.inbox⟩
  | served message key rest oldest turn =>
      have other : kinds.ofKey key ≠ kind := by
        simpa [concerns] using quiet
      have told : kinds.Alike kind broker
          (directory.tell broker key (directory.copy message key)) :=
        tell_other other _
      exact ⟨told.holder, told.isOpen, told.inbox⟩
  | finished => exact ⟨fun _ _ => rfl, fun _ _ => rfl, fun _ _ => rfl⟩

/-- An event that concerns the kind does the same to both. -/
theorem step (alike : kinds.Alike kind broker broker')
    (loud : kinds.concerns kind event = true)
    (stepped : directory.step broker event = some next)
    (stepped' : directory.step broker' event = some next') :
    kinds.Alike kind next next' := by
  cases Directory.step_cases stepped with
  | altered change =>
      cases Directory.step_cases stepped' with
      | altered =>
          have own : kinds.ofChange change = kind := by
            simpa [concerns] using loud
          subst own
          exact ⟨kinds.holder_own alike.holder, alike.isOpen, alike.inbox⟩
  | dropped client =>
      cases Directory.step_cases stepped' with
      | dropped =>
          refine ⟨alike.holder, fun target own => ?_, alike.inbox⟩
          simp only [Function.update_apply, alike.isOpen target own]
  | delivered message key oldest idle target =>
      cases Directory.step_cases stepped' with
      | delivered _ key' _ _ target' =>
          cases target.symm.trans target'
          have own : kinds.ofKey key = kind := by
            simpa [concerns, target] using loud
          have told := alike.tell own message
          exact ⟨told.holder, told.isOpen, told.inbox⟩
  | served message key rest oldest turn =>
      cases Directory.step_cases stepped' with
      | served =>
          have own : kinds.ofKey key = kind := by
            simpa [concerns] using loud
          have told := alike.tell own (directory.copy message key)
          exact ⟨told.holder, told.isOpen, told.inbox⟩
  | published | began | finished => cases loud

variable {table table' : Table}
variable {events events' : List (BrokerEvent Change Key Client Message)}

theorem skip_run (quiet : ∀ event ∈ events, kinds.concerns kind event = false)
    (ran : (directory.broker table).runFrom broker events = some last) :
    kinds.Alike kind broker last := by
  induction events generalizing broker with
  | nil =>
      cases ran
      exact refl _
  | cons event events ih =>
      rcases (System.runFrom_cons_eq_some _).mp ran with ⟨next, stepped, ran⟩
      exact (skip (quiet event List.mem_cons_self) stepped).trans
        (ih (fun other member => quiet other (List.mem_cons_of_mem _ member)) ran)

/-- Two runs with the same events of one kind look the same to its clients,
whatever happens to the others. -/
theorem run (alike : kinds.Alike kind broker broker')
    (same : events.filter (kinds.concerns kind) =
      events'.filter (kinds.concerns kind))
    (ran : (directory.broker table).runFrom broker events = some last)
    (ran' : (directory.broker table').runFrom broker' events' = some last') :
    kinds.Alike kind last last' := by
  induction events generalizing broker broker' events' with
  | nil =>
      cases ran
      apply alike.trans
      apply skip_run ?_ ran'
      intro event member
      have none := List.filter_eq_nil_iff.mp same.symm event member
      simpa using none
  | cons event events ih =>
      rcases (System.runFrom_cons_eq_some _).mp ran with ⟨next, stepped, ran⟩
      cases loud : kinds.concerns kind event with
      | false =>
          rw [List.filter_cons_of_neg (by simp [loud])] at same
          exact ih ((skip loud stepped).symm.trans alike) same ran ran'
      | true =>
          rw [List.filter_cons_of_pos loud] at same
          rcases List.filter_eq_cons_iff.mp same.symm with
            ⟨quiet, rest, rfl, none, _, remaining⟩
          rcases (System.runFrom_append_eq_some _).mp ran' with
            ⟨middle, first, second⟩
          rcases (System.runFrom_cons_eq_some _).mp second with
            ⟨next', stepped', ran'⟩
          have before : kinds.Alike kind broker middle := by
            apply alike.trans
            apply skip_run ?_ first
            intro other member
            simpa using none other member
          exact ih (before.step loud stepped stepped') remaining.symm ran ran'

end Alike

end Kinds

end IotRouter.Runtime
