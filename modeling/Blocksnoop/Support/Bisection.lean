import Mathlib.Data.List.Perm.Basic
import Mathlib.Order.Lattice
import Mathlib.Tactic

/-!
# Bisection

A list is partitioned by a condition when the entries that satisfy it come first.
The loop of a binary search finds how many there are.  A list in order is partitioned
by every bound, so the entries between two bounds are a stretch of it, and an entry
that is inserted at such a point keeps the order.
-/

namespace Blocksnoop.Support

/-! ## The search -/

/-- The bounds move until they meet; `goesRight` says on which side of an index the
point lies. -/
def searchLoop (goesRight : ℕ → Bool) : ℕ → ℕ → ℕ → ℕ
  | 0, lo, _ => lo
  | fuel + 1, lo, hi =>
      if lo < hi then
        let mid := (lo + hi) / 2
        if goesRight mid then searchLoop goesRight fuel (mid + 1) hi
        else searchLoop goesRight fuel lo mid
      else lo

/-- The search ends at the point, from any bounds around it. -/
theorem searchLoop_eq {goesRight : ℕ → Bool} {point : ℕ} {fuel lo hi : ℕ}
    (hright : ∀ i, lo ≤ i → i < point → goesRight i = true)
    (hleft : ∀ i, point ≤ i → i < hi → goesRight i = false)
    (hlo : lo ≤ point) (hhi : point ≤ hi) (hfuel : hi - lo ≤ fuel) :
    searchLoop goesRight fuel lo hi = point := by
  induction fuel generalizing lo hi with
  | zero =>
      rw [searchLoop]
      omega
  | succ fuel ih =>
      rw [searchLoop]
      by_cases hlt : lo < hi
      · have hmid : lo ≤ (lo + hi) / 2 ∧ (lo + hi) / 2 < hi := by omega
        rw [if_pos hlt]
        by_cases hpoint : (lo + hi) / 2 < point
        · rw [if_pos (hright _ hmid.1 hpoint)]
          exact ih (fun i hi' => hright i (by omega)) hleft (by omega) hhi (by omega)
        · have hfalse := hleft _ (Nat.not_lt.mp hpoint) hmid.2
          rw [if_neg (by rw [hfalse]; exact Bool.false_ne_true)]
          exact ih hright (fun i hi' hmid' => hleft i hi' (by omega)) hlo (by omega) (by omega)
      · rw [if_neg hlt]
        omega

/-! ## Partitioned lists -/

section

variable {α : Type*} {p q : α → Bool} {l : List α}

/-- The entries that satisfy the condition come first. -/
def Partitioned (p : α → Bool) (l : List α) : Prop :=
  l.Pairwise fun a b => p b = true → p a = true

theorem Partitioned.countP_eq_zero {a : α} (h : Partitioned p (a :: l)) (ha : ¬ p a = true) :
    l.countP p = 0 :=
  List.countP_eq_zero.mpr fun _ hb hpb => ha (List.rel_of_pairwise_cons h hb hpb)

theorem Partitioned.take_countP (h : Partitioned p l) : l.take (l.countP p) = l.filter p := by
  induction l with
  | nil => rfl
  | cons a l ih =>
      by_cases ha : p a = true
      · rw [List.countP_cons_of_pos ha, List.filter_cons_of_pos ha, List.take_succ_cons,
          ih (List.Pairwise.of_cons h)]
      · rw [List.countP_cons_of_neg ha, List.filter_cons_of_neg ha, h.countP_eq_zero ha,
          List.take_zero]
        exact (List.filter_eq_nil_iff.mpr fun b hb hpb =>
          ha (List.rel_of_pairwise_cons h hb hpb)).symm

theorem Partitioned.drop_countP (h : Partitioned p l) :
    l.drop (l.countP p) = l.filter fun a => !p a := by
  induction l with
  | nil => rfl
  | cons a l ih =>
      by_cases ha : p a = true
      · rw [List.countP_cons_of_pos ha, List.drop_succ_cons, ih (List.Pairwise.of_cons h),
          List.filter_cons_of_neg (by simp [ha])]
      · rw [List.countP_cons_of_neg ha, h.countP_eq_zero ha, List.drop_zero]
        refine (List.filter_eq_self.mpr fun b hb => ?_).symm
        rcases List.mem_cons.mp hb with rfl | hb
        · simpa using ha
        · simpa using fun hpb : p b = true => ha (List.rel_of_pairwise_cons h hb hpb)

/-- The entries that satisfy the condition are those before the point. -/
theorem Partitioned.apply_getElem (h : Partitioned p l) {i : ℕ} (hi : i < l.length) :
    p l[i] = true ↔ i < l.countP p := by
  induction l generalizing i with
  | nil => exact absurd hi (Nat.not_lt_zero i)
  | cons a l ih =>
      by_cases ha : p a = true
      · rw [List.countP_cons_of_pos ha]
        cases i with
        | zero => simpa using ha
        | succ i =>
            rw [List.getElem_cons_succ, ih (List.Pairwise.of_cons h), Nat.succ_lt_succ_iff]
      · rw [List.countP_cons_of_neg ha, h.countP_eq_zero ha]
        cases i with
        | zero => simpa using ha
        | succ i =>
            have hlen : i < l.length := Nat.lt_of_succ_lt_succ hi
            have hnot : ¬ p l[i] = true := fun hpb =>
              ha (List.rel_of_pairwise_cons h (List.getElem_mem hlen) hpb)
            simpa using hnot

/-- The search over a partitioned list counts the entries that satisfy the condition. -/
theorem Partitioned.searchLoop_eq (h : Partitioned p l) {goesRight : ℕ → Bool}
    (hgoes : ∀ (i : ℕ) (hi : i < l.length), goesRight i = p l[i]) :
    searchLoop goesRight l.length 0 l.length = l.countP p := by
  refine Support.searchLoop_eq ?_ ?_ (Nat.zero_le _) List.countP_le_length le_rfl
  · intro i _ hi
    have hlen := hi.trans_le List.countP_le_length
    rw [hgoes i hlen]
    exact (h.apply_getElem hlen).mpr hi
  · intro i hi hlen
    rw [hgoes i hlen]
    exact Bool.eq_false_iff.mpr fun hp => Nat.not_lt.mpr hi ((h.apply_getElem hlen).mp hp)

theorem Partitioned.countP_drop (h : Partitioned p l) (n : ℕ) :
    (l.drop n).countP p = l.countP p - n := by
  induction l generalizing n with
  | nil => simp
  | cons a l ih =>
      cases n with
      | zero => rfl
      | succ n =>
          rw [List.drop_succ_cons, ih (List.Pairwise.of_cons h)]
          by_cases ha : p a = true
          · rw [List.countP_cons_of_pos ha, Nat.succ_sub_succ]
          · rw [List.countP_cons_of_neg ha, h.countP_eq_zero ha, Nat.zero_sub, Nat.zero_sub]

/-- What lies between the points of two conditions. -/
theorem Partitioned.take_drop (hp : Partitioned p l) (hq : Partitioned q l) :
    (l.drop (l.countP p)).take (l.countP q - l.countP p) =
      l.filter fun a => q a && !p a := by
  have hrest : Partitioned q (l.drop (l.countP p)) := List.Pairwise.drop hq
  rw [← hq.countP_drop, hrest.take_countP, hp.drop_countP, List.filter_filter]

end

/-! ## Lists in order -/

section

variable {α β : Type*} [LinearOrder β] {f : α → β} {l : List α}

theorem partitioned_lt (h : l.Pairwise fun a b => f a ≤ f b) (bound : β) :
    Partitioned (fun a => decide (f a < bound)) l :=
  h.imp fun hab hb => decide_eq_true (hab.trans_lt (of_decide_eq_true hb))

theorem partitioned_le (h : l.Pairwise fun a b => f a ≤ f b) (bound : β) :
    Partitioned (fun a => decide (f a ≤ bound)) l :=
  h.imp fun hab hb => decide_eq_true (hab.trans (of_decide_eq_true hb))

end

/-- `b` stands before the entry that was at `i`. -/
def insertAt {β : Type*} (l : List β) (i : ℕ) (b : β) : List β :=
  l.take i ++ b :: l.drop i

theorem insertAt_perm {β : Type*} (l : List β) (i : ℕ) (b : β) :
    (insertAt l i b).Perm (b :: l) := by
  refine List.perm_middle.trans ?_
  rw [List.take_append_drop]

section

variable {β : Type*} [LinearOrder β] {l : List β}

/-- An entry that is inserted behind those that do not exceed it keeps the order. -/
theorem pairwise_insertAt (h : l.Pairwise (· ≤ ·)) (b : β) :
    (insertAt l (l.countP fun a => decide (a ≤ b)) b).Pairwise (· ≤ ·) := by
  have hpart : Partitioned (fun a => decide (a ≤ b)) l := partitioned_le (f := fun a => a) h b
  have hbefore : ∀ a ∈ l.take (l.countP fun a => decide (a ≤ b)), a ≤ b := by
    intro a ha
    rw [hpart.take_countP] at ha
    exact of_decide_eq_true (List.mem_filter.mp ha).2
  have hafter : ∀ a ∈ l.drop (l.countP fun a => decide (a ≤ b)), b ≤ a := by
    intro a ha
    rw [hpart.drop_countP] at ha
    have hnot : ¬ a ≤ b := by simpa using (List.mem_filter.mp ha).2
    exact (not_le.mp hnot).le
  refine List.pairwise_append.mpr ⟨List.Pairwise.take h, ?_, ?_⟩
  · exact List.pairwise_cons.mpr ⟨hafter, List.Pairwise.drop h⟩
  · intro a ha c hc
    rcases List.mem_cons.mp hc with rfl | hc
    · exact hbefore a ha
    · exact (hbefore a ha).trans (hafter c hc)

end

end Blocksnoop.Support
