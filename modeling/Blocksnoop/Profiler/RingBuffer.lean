import Blocksnoop.Profiler
import Blocksnoop.Support.Bisection
import Blocksnoop.Support.BoundedQueue
import Mathlib.Data.List.GetD

/-!
# The ring buffer as a bounded queue

The array with its head and its count stands for the queue of the last samples, through
the fill-up and any number of wraps.  The samples of a window are those of the queue
that lie in it.
-/

namespace Blocksnoop

open Blocksnoop.Support

/-! ## Bisection of timestamps -/

theorem bisectLoop_eq_searchLoop (goesRight : ℤ → Bool) (a : List ℤ) (fuel lo hi : ℕ) :
    bisectLoop goesRight a fuel lo hi =
      searchLoop (fun i => goesRight (a.getD i 0)) fuel lo hi := by
  induction fuel generalizing lo hi with
  | zero => rfl
  | succ fuel ih =>
      rw [bisectLoop, searchLoop]
      simp only [ih]

theorem bisectLeft_map {entries : List Entry}
    (h : entries.Pairwise fun a b => a.1 ≤ b.1) (bound : ℤ) :
    bisectLeft (entries.map (·.1)) bound = entries.countP fun e => decide (e.1 < bound) := by
  rw [bisectLeft, bisectLoop_eq_searchLoop, List.length_map]
  refine (partitioned_lt h bound).searchLoop_eq fun i hi => ?_
  rw [List.getD_eq_getElem _ _ (by simpa using hi), List.getElem_map]

theorem bisectRight_map {entries : List Entry}
    (h : entries.Pairwise fun a b => a.1 ≤ b.1) (bound : ℤ) :
    bisectRight (entries.map (·.1)) bound = entries.countP fun e => decide (e.1 ≤ bound) := by
  rw [bisectRight, bisectLoop_eq_searchLoop, List.length_map]
  refine (partitioned_le h bound).searchLoop_eq fun i hi => ?_
  rw [List.getD_eq_getElem _ _ (by simpa using hi), List.getElem_map]

namespace StackRingBuffer

/-! ## The layout of the array -/

/-- The array stands for the queue: after `k` pushes the next one goes to place `k`,
and the entry of push `k` is in place `k`, counted round the array. -/
structure Represents (b : StackRingBuffer) (q : BoundedQueue Entry b.size) : Prop where
  size_pos : 0 < b.size
  length : b.buffer.length = b.size
  head : b.head = (q.dropped + q.entries.length) % b.size
  count : b.count = q.entries.length
  overflowCount : b.overflowCount = q.dropped
  layout : ∀ i < q.entries.length,
    b.buffer[(q.dropped + i) % b.size]? = q.entries[i]?.map some

theorem represents_new {size : ℕ} (hsize : 0 < size) :
    (new size).Represents (.empty : BoundedQueue Entry size) where
  size_pos := hsize
  length := List.length_replicate
  head := (Nat.zero_mod size).symm
  count := rfl
  overflowCount := rfl
  layout i hi := absurd hi (Nat.not_lt_zero i)

/-- Two places less than a round apart are different. -/
theorem mod_ne_of_lt {size i k : ℕ} (hi : i < k) (hk : k < i + size) : i % size ≠ k % size := by
  intro h
  have hdvd : size ∣ k - i := (Nat.modEq_iff_dvd' hi.le).mp h
  have hle := Nat.le_of_dvd (Nat.sub_pos_of_lt hi) hdvd
  omega

/-- A push fills the place at the head and no other. -/
theorem Represents.getElem?_push {b : StackRingBuffer} {q : BoundedQueue Entry b.size}
    (h : b.Represents q) (entry : Entry) {i : ℕ}
    (hi : q.dropped + q.entries.length < i + b.size)
    (hle : i ≤ q.dropped + q.entries.length) :
    (b.push entry.1 entry.2).buffer[i % b.size]? =
      if i = q.dropped + q.entries.length then some (some entry) else b.buffer[i % b.size]? := by
  change (b.buffer.set b.head (some entry))[i % b.size]? = _
  rw [h.head, List.getElem?_set]
  by_cases heq : i = q.dropped + q.entries.length
  · rw [if_pos heq, heq, if_pos rfl, if_pos]
    rw [h.length]
    exact Nat.mod_lt _ h.size_pos
  · rw [if_neg heq, if_neg (mod_ne_of_lt (by omega) hi).symm]

theorem Represents.push {b : StackRingBuffer} {q : BoundedQueue Entry b.size}
    (h : b.Represents q) (entry : Entry) :
    (b.push entry.1 entry.2).Represents (q.push entry) := by
  have hsize := h.size_pos
  have hle := q.length_le
  have hhead : (b.head + 1) % b.size = (q.dropped + q.entries.length + 1) % b.size := by
    rw [h.head, Nat.mod_add_mod]
  by_cases hlt : q.entries.length < b.size
  · obtain ⟨hentries, hdropped⟩ := BoundedQueue.push_of_lt hlt entry
    have hcount : b.count < b.size := h.count.trans_lt hlt
    constructor
    · exact hsize
    · exact (List.length_set ..).trans h.length
    · rw [hentries, hdropped, List.length_append]
      exact hhead
    · rw [hentries, List.length_append]
      exact (if_pos hcount).trans (congrArg (· + 1) h.count)
    · rw [hdropped]
      exact (if_pos hcount).trans h.overflowCount
    · intro i hi
      rw [hentries, List.length_append, List.length_singleton] at hi
      rw [hentries, hdropped]
      refine (h.getElem?_push entry (by omega) (by omega)).trans ?_
      by_cases hlast : i = q.entries.length
      · rw [if_pos (by omega), hlast, List.getElem?_concat_length]
        rfl
      · rw [if_neg (by omega), List.getElem?_append_left (by omega)]
        exact h.layout i (by omega)
  · obtain ⟨hentries, hdropped⟩ := BoundedQueue.push_of_full hlt entry
    have hcount : ¬ b.count < b.size := fun hc => hlt (h.count ▸ hc)
    have hlength : (q.entries ++ [entry]).tail.length = q.entries.length := by simp
    constructor
    · exact hsize
    · exact (List.length_set ..).trans h.length
    · rw [hentries, hdropped, hlength, Nat.add_right_comm]
      exact hhead
    · rw [hentries, hlength]
      exact (if_neg hcount).trans h.count
    · rw [hdropped]
      exact (if_neg hcount).trans (congrArg (· + 1) h.overflowCount)
    · intro i hi
      rw [hentries, hlength] at hi
      rw [hentries, hdropped, List.getElem?_tail, Nat.add_assoc, Nat.add_comm 1 i]
      refine (h.getElem?_push entry (by omega) (by omega)).trans ?_
      by_cases hlast : i + 1 = q.entries.length
      · rw [if_pos (by omega), hlast, List.getElem?_concat_length]
        rfl
      · rw [if_neg (by omega), List.getElem?_append_left (by omega)]
        exact h.layout (i + 1) (by omega)

theorem filterMap_range_eq {α : Type*} {l : List α} {f : ℕ → Option α}
    (h : ∀ i < l.length, f i = l[i]?) : (List.range l.length).filterMap f = l := by
  induction l using List.reverseRecOn with
  | nil => rfl
  | append_singleton l a ih =>
      have hlast : f l.length = some a := by
        rw [h l.length (by simp), List.getElem?_concat_length]
      have hinit : (List.range l.length).filterMap f = l := by
        apply ih
        intro i hi
        rw [h i (by simp; omega), List.getElem?_append_left hi]
      rw [List.length_append, List.length_singleton, List.range_succ, List.filterMap_append,
        hinit, List.filterMap_cons_some hlast, List.filterMap_nil]

/-- The entries come out in the order of the queue. -/
theorem Represents.orderedEntries_eq {b : StackRingBuffer} {q : BoundedQueue Entry b.size}
    (h : b.Represents q) : b.orderedEntries = q.entries := by
  have hle := q.length_le
  have hentry : ∀ i < q.entries.length,
      b.buffer.getD ((q.dropped + i) % b.size) none = q.entries[i]? := by
    intro i hi
    rw [List.getD_eq_getElem?_getD, h.layout i hi, List.getElem?_eq_getElem hi]
    rfl
  unfold orderedEntries
  rw [h.count]
  by_cases hzero : q.entries.length = 0
  · rw [if_pos hzero]
    exact (List.eq_nil_of_length_eq_zero hzero).symm
  · rw [if_neg hzero]
    by_cases hlt : q.entries.length < b.size
    · rw [if_pos hlt]
      apply filterMap_range_eq
      intro i hi
      have hdropped : q.dropped = 0 := q.full.resolve_right hlt.ne
      have hplace := hentry i hi
      rw [hdropped, Nat.zero_add, Nat.mod_eq_of_lt (hi.trans hlt)] at hplace
      exact hplace
    · have hfull : q.entries.length = b.size := le_antisymm hle (Nat.not_lt.mp hlt)
      have hrange : List.range b.size = List.range q.entries.length := congrArg _ hfull.symm
      rw [if_neg hlt, hrange]
      apply filterMap_range_eq
      intro i hi
      rw [h.head, Nat.mod_add_mod, hfull, Nat.add_right_comm, Nat.add_mod_right]
      exact hentry i hi

/-- A buffer after a sequence of pushes. -/
def pushAll (b : StackRingBuffer) (pushed : List Entry) : StackRingBuffer :=
  pushed.foldl (fun b entry => b.push entry.1 entry.2) b

theorem Represents.pushAll {b : StackRingBuffer} {q : BoundedQueue Entry b.size}
    (h : b.Represents q) (pushed : List Entry) :
    ∃ q' : BoundedQueue Entry (b.pushAll pushed).size, (b.pushAll pushed).Represents q' ∧
      q'.entries = (q.pushAll pushed).entries ∧ q'.dropped = (q.pushAll pushed).dropped := by
  induction pushed generalizing b with
  | nil => exact ⟨q, h, rfl, rfl⟩
  | cons entry pushed ih => exact ih (h.push entry)

/-- What is left of the pushes. -/
def retained (size : ℕ) (pushed : List Entry) : List Entry :=
  pushed.drop (pushed.length - size)

theorem orderedEntries_pushAll {size : ℕ} (hsize : 1 ≤ size) (pushed : List Entry) :
    ((new size).pushAll pushed).orderedEntries = retained size pushed ∧
      ((new size).pushAll pushed).overflowCount = pushed.length - size := by
  obtain ⟨q, hq, hentries, hdropped⟩ := (represents_new hsize).pushAll pushed
  obtain ⟨hlast, hlost⟩ :=
    @BoundedQueue.pushAll_empty Entry size pushed
  exact ⟨hq.orderedEntries_eq.trans (hentries.trans hlast),
    hq.overflowCount.trans (hdropped.trans hlost)⟩

/-! ## Windows -/

/-- The samples of a window of entries in order. -/
theorem findAllInRange_of_sorted (b : StackRingBuffer)
    (hsorted : b.orderedEntries.Pairwise fun a c => a.1 ≤ c.1) (startNs endNs : ℤ) :
    b.findAllInRange startNs endNs =
      (b.orderedEntries.filter fun e => decide (startNs ≤ e.1 ∧ e.1 ≤ endNs)).map (·.2) := by
  unfold findAllInRange
  simp only [bisectLeft_map hsorted, bisectRight_map hsorted]
  rw [(partitioned_lt hsorted startNs).take_drop (partitioned_le hsorted endNs)]
  congr 1
  apply List.filter_congr
  intro e _
  by_cases hbefore : e.1 < startNs
  · simp [hbefore, not_le.mpr hbefore]
  · simp [hbefore, not_lt.mp hbefore]

/-- The ring buffer is a bounded queue: it keeps the last samples, counts the others,
and a window gives the samples in it. -/
theorem ringBuffer_refines (size : ℕ) (hsize : 1 ≤ size) (pushed : List Entry) :
    ((new size).pushAll pushed).orderedEntries = retained size pushed ∧
      ((new size).pushAll pushed).overflowCount = pushed.length - size ∧
      ((pushed.Pairwise fun a b => a.1 ≤ b.1) → ∀ startNs endNs : ℤ,
        ((new size).pushAll pushed).findAllInRange startNs endNs =
          ((retained size pushed).filter fun e => decide (startNs ≤ e.1 ∧ e.1 ≤ endNs)).map
            (·.2)) := by
  obtain ⟨hordered, hoverflow⟩ := orderedEntries_pushAll hsize pushed
  refine ⟨hordered, hoverflow, fun hsorted startNs endNs => ?_⟩
  rw [findAllInRange_of_sorted, hordered]
  rw [hordered]
  exact List.Pairwise.drop hsorted

/-- A stack that is told by its thread. -/
def numberedStack (n : ℤ) : PythonStackTrace where
  threadId := n
  threadName := ""
  frames := []

/-- Three samples in a buffer of two, two of them at the same time. -/
def wrappedPushes : List Entry :=
  [(1, numberedStack 1), (2, numberedStack 2), (2, numberedStack 3)]

theorem ringBuffer_refines_wrapped :
    ((new 2).pushAll wrappedPushes).findAllInRange 2 2 = [numberedStack 2, numberedStack 3] ∧
      ((new 2).pushAll wrappedPushes).overflowCount = 1 := by
  obtain ⟨_, hoverflow, hwindow⟩ := ringBuffer_refines 2 (by decide) wrappedPushes
  refine ⟨?_, hoverflow⟩
  rw [hwindow (by decide) 2 2]
  decide

end StackRingBuffer

end Blocksnoop
