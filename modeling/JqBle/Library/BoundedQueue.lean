import Mathlib.Data.List.Basic

/-!
# Bounded first-in-first-out queues

A producer offers items at the back and is refused when the queue is full; a consumer takes items
from the front.
-/

namespace JqBle.Library

structure BoundedQueue (α : Type*) where
  capacity : Nat
  items : List α
  bounded : items.length ≤ capacity

namespace BoundedQueue
variable {α : Type*} {queue pushed : BoundedQueue α} {item : α}

def empty (capacity : Nat) : BoundedQueue α := ⟨capacity, [], Nat.zero_le capacity⟩

def isFull (queue : BoundedQueue α) : Bool := decide (queue.items.length = queue.capacity)

def push (queue : BoundedQueue α) (item : α) : Option (BoundedQueue α) :=
  if room : queue.items.length < queue.capacity then
    some ⟨queue.capacity, queue.items ++ [item], by
      rw [List.length_append]
      exact room⟩
  else none

def drop (queue : BoundedQueue α) (count : Nat) : BoundedQueue α :=
  ⟨queue.capacity, queue.items.drop count, by
    have bounded := queue.bounded
    rw [List.length_drop]
    omega⟩

theorem isFull_drop_length (positive : 0 < queue.capacity) :
    (queue.drop queue.items.length).isFull = false := by
  unfold isFull
  rw [decide_eq_false_iff_not]
  simp only [drop, List.drop_length, List.length_nil]
  omega

theorem capacity_of_push (accepted : queue.push item = some pushed) :
    pushed.capacity = queue.capacity := by
  unfold push at accepted
  split at accepted
  · rw [← Option.some.inj accepted]
  · cases accepted

theorem items_of_push (accepted : queue.push item = some pushed) :
    pushed.items = queue.items ++ [item] := by
  unfold push at accepted
  split at accepted
  · rw [← Option.some.inj accepted]
  · cases accepted

theorem capacity_pos_of_not_full (room : queue.isFull = false) : 0 < queue.capacity := by
  have bounded := queue.bounded
  unfold isFull at room
  rw [decide_eq_false_iff_not] at room
  omega

theorem push_eq_none : queue.push item = none ↔ queue.isFull = true := by
  have bounded := queue.bounded
  unfold push isFull
  rw [decide_eq_true_eq]
  split
  · rename_i room
    simp
    omega
  · rename_i full
    simp
    omega

end BoundedQueue

end JqBle.Library
