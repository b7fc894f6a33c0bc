import Mathlib.Data.List.Basic
import Mathlib.Order.Lattice

/-!
# The highest entries of a list

A list is sorted by insertion, highest rank first, and cut after a number of
entries.  The entries that are listed are ranked, and none that is left out
exceeds one of them.
-/

namespace Blocksnoop.Support

variable {α β : Type} [LinearOrder β]

/-- The listed entries are the highest ones, in order. -/
structure IsTop (rank : α → β) (k : ℕ) (entries listed : List α) : Prop where
  length : listed.length = min k entries.length
  ranked : listed.Pairwise fun a b => rank b ≤ rank a
  omitted : ∃ rest : List α, (listed ++ rest).Perm entries ∧
    ∀ a ∈ listed, ∀ b ∈ rest, rank b ≤ rank a

/-- Insert an entry before the first one that it outranks. -/
def insertBy (outranks : α → α → Bool) (a : α) : List α → List α
  | [] => [a]
  | b :: rest => if outranks a b then a :: b :: rest else b :: insertBy outranks a rest

def rankBy (outranks : α → α → Bool) (entries : List α) : List α :=
  entries.foldl (fun ranked a => insertBy outranks a ranked) []

omit [LinearOrder β] in
theorem insertBy_perm (outranks : α → α → Bool) (a : α) (l : List α) :
    (insertBy outranks a l).Perm (a :: l) := by
  induction l with
  | nil => exact List.Perm.refl _
  | cons b rest ih =>
      rw [insertBy]
      split
      · exact List.Perm.refl _
      · exact (ih.cons b).trans (List.Perm.swap a b rest)

theorem foldl_insertBy_perm (outranks : α → α → Bool) (entries ranked : List α) :
    (entries.foldl (fun ranked a => insertBy outranks a ranked) ranked).Perm
      (ranked ++ entries) := by
  induction entries generalizing ranked with
  | nil => simp
  | cons a rest ih =>
      have hfirst := (insertBy_perm outranks a ranked).append_right rest
      exact (ih (insertBy outranks a ranked)).trans
        (hfirst.trans List.perm_middle.symm)

theorem rankBy_perm (outranks : α → α → Bool) (entries : List α) :
    (rankBy outranks entries).Perm entries :=
  foldl_insertBy_perm outranks entries []

section

variable {rank : α → β} {outranks : α → α → Bool}
  (houtranks : ∀ a b, outranks a b = true ↔ rank b < rank a)

include houtranks

theorem insertBy_ranked (a : α) {l : List α} (h : l.Pairwise fun a b => rank b ≤ rank a) :
    (insertBy outranks a l).Pairwise fun a b => rank b ≤ rank a := by
  induction l with
  | nil => exact List.pairwise_singleton _ a
  | cons b rest ih =>
      have hb := (List.pairwise_cons.mp h).1
      rw [insertBy]
      by_cases hab : outranks a b = true
      · rw [if_pos hab, List.pairwise_cons]
        refine ⟨?_, h⟩
        have hlt := (houtranks a b).mp hab
        intro c hc
        rcases List.mem_cons.mp hc with rfl | hc
        · exact hlt.le
        · exact (hb c hc).trans hlt.le
      · rw [if_neg hab, List.pairwise_cons]
        refine ⟨?_, ih (List.pairwise_cons.mp h).2⟩
        intro c hc
        rcases List.mem_cons.mp ((insertBy_perm outranks a rest).subset hc) with rfl | hc
        · exact not_lt.mp (mt (houtranks _ _).mpr hab)
        · exact hb c hc

theorem rankBy_ranked (entries : List α) :
    (rankBy outranks entries).Pairwise fun a b => rank b ≤ rank a := by
  have hfold (ranked : List α) (h : ranked.Pairwise fun a b => rank b ≤ rank a) :
      (entries.foldl (fun ranked a => insertBy outranks a ranked) ranked).Pairwise
        fun a b => rank b ≤ rank a := by
    induction entries generalizing ranked with
    | nil => exact h
    | cons a rest ih => exact ih _ (insertBy_ranked houtranks a h)
  exact hfold [] List.Pairwise.nil

/-- The first entries of the sorted list are the highest ones. -/
theorem isTop_take_rankBy (k : ℕ) (entries : List α) :
    IsTop rank k entries ((rankBy outranks entries).take k) where
  length := by rw [List.length_take, (rankBy_perm outranks entries).length_eq]
  ranked := (rankBy_ranked houtranks entries).sublist (List.take_sublist _ _)
  omitted := by
    refine ⟨(rankBy outranks entries).drop k, ?_, ?_⟩
    · rw [List.take_append_drop]
      exact rankBy_perm outranks entries
    · have hranked := rankBy_ranked houtranks entries
      rw [← List.take_append_drop k (rankBy outranks entries), List.pairwise_append] at hranked
      exact hranked.2.2

end

end Blocksnoop.Support
