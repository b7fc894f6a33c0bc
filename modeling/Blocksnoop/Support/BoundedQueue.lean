import Mathlib.Data.List.Basic
import Mathlib.Data.List.Induction
import Mathlib.Order.Lattice
import Mathlib.Tactic

/-!
# Bounded queues

A queue that keeps the last entries that were pushed, up to a bound, and counts the
ones it has dropped.
-/

namespace Blocksnoop.Support

/-- The queue holds at most `size` entries, and drops none before it is full. -/
structure BoundedQueue (α : Type*) (size : ℕ) where
  entries : List α := []
  dropped : ℕ := 0
  length_le : entries.length ≤ size
  full : dropped = 0 ∨ entries.length = size

namespace BoundedQueue

variable {α : Type*} {size : ℕ}

def empty : BoundedQueue α size where
  length_le := Nat.zero_le _
  full := .inl rfl

def push (q : BoundedQueue α size) (a : α) : BoundedQueue α size :=
  if h : q.entries.length < size then
    { entries := q.entries ++ [a]
      dropped := q.dropped
      length_le := by
        rw [List.length_append]
        exact h
      full := .inl (q.full.resolve_right h.ne) }
  else
    { entries := (q.entries ++ [a]).tail
      dropped := q.dropped + 1
      length_le := by simpa using q.length_le
      full := .inr (by simpa using le_antisymm q.length_le (Nat.not_lt.mp h)) }

theorem push_of_lt {q : BoundedQueue α size} (h : q.entries.length < size) (a : α) :
    (q.push a).entries = q.entries ++ [a] ∧ (q.push a).dropped = q.dropped := by
  rw [push, dif_pos h]
  exact ⟨rfl, rfl⟩

theorem push_of_full {q : BoundedQueue α size} (h : ¬ q.entries.length < size) (a : α) :
    (q.push a).entries = (q.entries ++ [a]).tail ∧ (q.push a).dropped = q.dropped + 1 := by
  rw [push, dif_neg h]
  exact ⟨rfl, rfl⟩

def pushAll (q : BoundedQueue α size) (pushed : List α) : BoundedQueue α size :=
  pushed.foldl push q

/-- A queue has kept the last entries and has dropped the others. -/
theorem pushAll_empty (pushed : List α) :
    ((empty : BoundedQueue α size).pushAll pushed).entries =
        pushed.drop (pushed.length - size) ∧
      ((empty : BoundedQueue α size).pushAll pushed).dropped = pushed.length - size := by
  induction pushed using List.reverseRecOn with
  | nil => simp [pushAll, empty]
  | append_singleton pushed a ih =>
      obtain ⟨hentries, hdropped⟩ := ih
      have hlast : (empty : BoundedQueue α size).pushAll (pushed ++ [a]) =
          (empty.pushAll pushed).push a := List.foldl_concat _ _ _ _
      have hlength := congrArg List.length hentries
      rw [List.length_drop] at hlength
      rw [hlast, List.length_append, List.length_singleton]
      by_cases hlt : (empty.pushAll pushed : BoundedQueue α size).entries.length < size
      · obtain ⟨hpush, hkept⟩ := push_of_lt hlt a
        have hshort : pushed.length + 1 - size = 0 := by omega
        have hnone : pushed.length - size = 0 := by omega
        rw [hpush, hkept, hentries, hdropped, hshort, hnone]
        exact ⟨rfl, rfl⟩
      · obtain ⟨hpush, hkept⟩ := push_of_full hlt a
        have hlong : pushed.length + 1 - size = pushed.length - size + 1 := by omega
        rw [hpush, hkept, hentries, hdropped, hlong]
        refine ⟨?_, rfl⟩
        rw [← List.drop_append_of_le_length (Nat.sub_le _ _), List.tail_drop]

end BoundedQueue

end Blocksnoop.Support
