import Blocksnoop.Support.Bisection
import Mathlib.Order.Bounds.Basic

/-!
# Order statistics

The value at a rank is the least entry that is at least as large as that many entries.
Ranks count from one; on a list in order the value at rank `k + 1` is the entry at `k`.
-/

namespace Blocksnoop.Support

variable {α : Type*} [LinearOrder α]

/-- `v` is the least entry that at least `rank` entries do not exceed. -/
def IsRanked (l : List α) (rank : ℕ) (v : α) : Prop :=
  IsLeast {w | w ∈ l ∧ rank ≤ l.countP fun x => decide (x ≤ w)} v

/-- The values at a rank and at the next one are equal. -/
def Tied (l : List α) (rank : ℕ) : Prop :=
  ∃ v ∈ l, (l.countP fun x => decide (x < v)) < rank ∧ rank < l.countP fun x => decide (x ≤ v)

instance (l : List α) (rank : ℕ) : Decidable (Tied l rank) :=
  inferInstanceAs (Decidable (∃ v ∈ l, _ ∧ _))

theorem isRanked_perm {l l' : List α} (h : l.Perm l') {rank : ℕ} {v : α} :
    IsRanked l rank v ↔ IsRanked l' rank v := by
  unfold IsRanked
  simp only [h.mem_iff, h.countP_eq]

theorem tied_perm {l l' : List α} (h : l.Perm l') {rank : ℕ} : Tied l rank ↔ Tied l' rank := by
  unfold Tied
  simp only [h.mem_iff, h.countP_eq]

theorem IsRanked.eq {l : List α} {rank : ℕ} {v w : α} (hv : IsRanked l rank v)
    (hw : IsRanked l rank w) : v = w :=
  IsLeast.unique hv hw

section

variable {l : List α} (h : l.Pairwise (· ≤ ·))
include h

theorem lt_countP_le_iff {i : ℕ} (hi : i < l.length) (v : α) :
    (i < l.countP fun x => decide (x ≤ v)) ↔ l[i] ≤ v := by
  have hpart : Partitioned (fun x => decide (x ≤ v)) l := partitioned_le (f := fun x => x) h v
  rw [← hpart.apply_getElem hi, decide_eq_true_iff]

theorem lt_countP_lt_iff {i : ℕ} (hi : i < l.length) (v : α) :
    (i < l.countP fun x => decide (x < v)) ↔ l[i] < v := by
  have hpart : Partitioned (fun x => decide (x < v)) l := partitioned_lt (f := fun x => x) h v
  rw [← hpart.apply_getElem hi, decide_eq_true_iff]

/-- The entry at an index has the next rank. -/
theorem isRanked_getElem {i : ℕ} (hi : i < l.length) : IsRanked l (i + 1) l[i] := by
  constructor
  · exact ⟨List.getElem_mem hi, (lt_countP_le_iff h hi _).mpr le_rfl⟩
  · rintro w ⟨-, hw⟩
    exact (lt_countP_le_iff h hi w).mp hw

/-- Two neighbours are equal exactly where their ranks are tied. -/
theorem tied_iff_getElem {i : ℕ} (hi : i + 1 < l.length) : Tied l (i + 1) ↔ l[i] = l[i + 1] := by
  have hle : l[i] ≤ l[i + 1] := List.pairwise_iff_getElem.mp h i _ _ hi (Nat.lt_succ_self i)
  constructor
  · rintro ⟨v, -, hlow, hhigh⟩
    have hvle : v ≤ l[i] := by
      rw [← not_lt, ← lt_countP_lt_iff h (Nat.lt_of_succ_lt hi)]
      omega
    have hlev := (lt_countP_le_iff h hi v).mp hhigh
    exact le_antisymm hle (hlev.trans hvle)
  · intro heq
    refine ⟨l[i], List.getElem_mem _, ?_, (lt_countP_le_iff h hi _).mpr heq.ge⟩
    have hnot := mt (lt_countP_lt_iff h (Nat.lt_of_succ_lt hi) l[i]).mp (lt_irrefl _)
    omega

end

end Blocksnoop.Support
