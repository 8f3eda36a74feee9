import Mathlib.Data.List.Infix
import Mathlib.Tactic.Common

/-!
# Bounded channels

A bounded multi-producer channel with one receiver: a FIFO queue that never
holds more than its capacity. A send waits while the queue is full and fails
once the receiver has been dropped; dropping the receiver discards what is
queued.

`accepted` records every value the channel ever took. No operation reads it; it
is what statements about delivery are made of.
-/

namespace IotRouter.Runtime

universe u

/-- A channel that holds at most `capacity` values. -/
@[ext] structure Channel (capacity : Nat) (α : Type u) where
  queue : List α
  /-- Every value ever enqueued, in order. -/
  accepted : List α
  /-- The receiver has not been dropped. -/
  isOpen : Bool
  bounded : queue.length ≤ capacity
  queue_suffix : queue <:+ accepted

/-- What a send finds: room for the value, a dropped receiver, or a full queue
it has to wait for. -/
inductive SendResult (α : Type u) where
  | sent (channel : α)
  | closed
  | full

namespace Channel

variable {capacity : Nat} {α : Type u}

/-- A new channel. -/
def empty : Channel capacity α where
  queue := []
  accepted := []
  isOpen := true
  bounded := Nat.zero_le capacity
  queue_suffix := List.suffix_rfl

/-- Append a value for which there is room. -/
def push (channel : Channel capacity α) (value : α)
    (room : channel.queue.length < capacity) : Channel capacity α where
  queue := channel.queue ++ [value]
  accepted := channel.accepted ++ [value]
  isOpen := channel.isOpen
  bounded := by
    rw [List.length_append]
    exact room
  queue_suffix := by
    rcases channel.queue_suffix with ⟨earlier, split⟩
    exact ⟨earlier, by rw [← split, List.append_assoc]⟩

/-- One attempt to send. -/
def send (channel : Channel capacity α) (value : α) :
    SendResult (Channel capacity α) :=
  if channel.isOpen then
    if room : channel.queue.length < capacity then
      .sent (channel.push value room)
    else .full
  else .closed

/-- Take the oldest value. -/
def receive (channel : Channel capacity α) : Option (α × Channel capacity α) :=
  match queued : channel.queue with
  | [] => none
  | value :: rest => some (value, {
      queue := rest
      accepted := channel.accepted
      isOpen := channel.isOpen
      bounded := by
        have bounded := channel.bounded
        rw [queued] at bounded
        exact Nat.le_of_succ_le bounded
      queue_suffix :=
        (List.suffix_cons value rest).trans (queued ▸ channel.queue_suffix) })

/-- Drop the receiver, and with it every queued value. -/
def close (channel : Channel capacity α) : Channel capacity α where
  queue := []
  accepted := channel.accepted
  isOpen := false
  bounded := Nat.zero_le capacity
  queue_suffix := List.nil_suffix

@[simp] theorem empty_accepted :
    (empty : Channel capacity α).accepted = [] := rfl

@[simp] theorem push_queue (channel : Channel capacity α) (value : α)
    (room : channel.queue.length < capacity) :
    (channel.push value room).queue = channel.queue ++ [value] := rfl

@[simp] theorem push_accepted (channel : Channel capacity α) (value : α)
    (room : channel.queue.length < capacity) :
    (channel.push value room).accepted = channel.accepted ++ [value] := rfl

@[simp] theorem push_isOpen (channel : Channel capacity α) (value : α)
    (room : channel.queue.length < capacity) :
    (channel.push value room).isOpen = channel.isOpen := rfl

@[simp] theorem close_accepted (channel : Channel capacity α) :
    channel.close.accepted = channel.accepted := rfl
@[simp] theorem close_isOpen (channel : Channel capacity α) :
    channel.close.isOpen = false := rfl

/-- What never took anything is empty. -/
theorem queue_eq_nil {channel : Channel capacity α}
    (never : channel.accepted = []) : channel.queue = [] :=
  List.suffix_nil.mp (never ▸ channel.queue_suffix)

/-- A send succeeds exactly when the receiver lives and there is room. -/
theorem send_eq_sent {channel channel' : Channel capacity α} {value : α} :
    channel.send value = .sent channel' ↔
      channel.isOpen = true ∧ ∃ room, channel' = channel.push value room := by
  simp only [send]
  split
  · split
    · rename_i opened room
      simp [opened, room, eq_comm]
    · rename_i opened full
      simp [full]
  · rename_i closed
    simp [closed]

theorem send_eq_closed {channel : Channel capacity α} (value : α) :
    channel.send value = .closed ↔ channel.isOpen = false := by
  simp only [send]
  split
  · split <;> rename_i opened _ <;> simp [opened]
  · rename_i closed
    simpa using closed

theorem send_eq_full {channel : Channel capacity α} (value : α) :
    channel.send value = .full ↔
      channel.isOpen = true ∧ capacity ≤ channel.queue.length := by
  simp only [send]
  split
  · split
    · rename_i room
      simp [Nat.not_le.mpr room]
    · rename_i opened full
      exact ⟨fun _ => ⟨opened, Nat.not_lt.mp full⟩, fun _ => rfl⟩
  · rename_i closed
    simp [closed]

/-- Receiving removes the head of the queue and nothing else. -/
theorem receive_eq_some {channel channel' : Channel capacity α} {value : α} :
    channel.receive = some (value, channel') ↔
      channel.queue = value :: channel'.queue ∧
        channel'.accepted = channel.accepted ∧
        channel'.isOpen = channel.isOpen := by
  simp only [receive]
  split
  · rename_i queued
    simp [queued]
  · rename_i head rest queued
    constructor
    · intro received
      cases received
      exact ⟨queued, rfl, rfl⟩
    · intro received
      rcases received with ⟨heads, accepted, isOpen⟩
      rcases List.cons.inj (queued.symm.trans heads) with ⟨rfl, rfl⟩
      congr 2
      ext1
      · rfl
      · exact accepted.symm
      · exact isOpen.symm

theorem receive_isSome {channel : Channel capacity α}
    (queued : channel.queue ≠ []) :
    ∃ value channel', channel.receive = some (value, channel') := by
  simp only [receive]
  split
  · rename_i none
    exact absurd none queued
  · exact ⟨_, _, rfl⟩

end Channel

end IotRouter.Runtime
