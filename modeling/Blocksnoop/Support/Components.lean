import Blocksnoop.Support.Delimited
import Mathlib.Data.List.Infix

/-!
# Components of a separated text

A text is split at every separator.  A part that has no separator occurs in the text
exactly if it occurs in a component; with a separator behind it, exactly if a component
other than the last one ends in it.
-/

namespace Blocksnoop.Support

variable {α : Type*} {sep : α} {part : List α}

/-- A part without the separator does not reach over it. -/
theorem infix_append_cons_iff {xs rest : List α} (h : sep ∉ part) :
    part <:+: xs ++ sep :: rest ↔ part <:+: xs ∨ part <:+: rest := by
  constructor
  · intro hpart
    rcases List.infix_append_iff.mp hpart with hxs | hrest | ⟨before, after, rfl, hxs, hafter⟩
    · exact Or.inl hxs
    · rcases List.infix_cons_iff.mp hrest with hprefix | hrest
      · cases part with
        | nil => exact Or.inl List.nil_infix
        | cons x part =>
            exact absurd (List.cons_prefix_cons.mp hprefix).1 fun hx => h (by simp [hx])
      · exact Or.inr hrest
    · cases after with
      | nil =>
          rw [List.append_nil]
          exact Or.inl hxs.isInfix
      | cons x after =>
          exact absurd (List.cons_prefix_cons.mp hafter).1 fun hx => h (by simp [hx])
  · rintro (hxs | hrest)
    · exact List.infix_append_of_infix_left hxs
    · apply List.infix_append_of_infix_right
      exact List.infix_cons_iff.mpr (Or.inr hrest)

/-- A part with the separator behind it ends where the first component does, or is found
behind it. -/
theorem concat_infix_append_cons_iff {xs rest : List α} (h : sep ∉ part) (hxs : sep ∉ xs) :
    part ++ [sep] <:+: xs ++ sep :: rest ↔ part <:+ xs ∨ part ++ [sep] <:+: rest := by
  constructor
  · intro hpart
    rcases List.infix_append_iff.mp hpart with hpiece | hrest | ⟨before, after, heq, hbefore, hafter⟩
    · exact absurd (hpiece.subset (by simp)) hxs
    · rcases List.infix_cons_iff.mp hrest with hprefix | hrest
      · cases part with
        | nil => exact Or.inl List.nil_suffix
        | cons x part =>
            exact absurd (List.cons_prefix_cons.mp hprefix).1 fun hx => h (by simp [hx])
      · exact Or.inr hrest
    · cases after with
      | nil =>
          rw [List.append_nil] at heq
          exact absurd (hbefore.subset (heq ▸ by simp)) hxs
      | cons x after =>
          obtain rfl : x = sep := (List.cons_prefix_cons.mp hafter).1
          have hnotMem : x ∉ before := fun hmem => hxs (hbefore.subset hmem)
          obtain ⟨rfl, -⟩ := append_cons_inj_left h hnotMem heq
          exact Or.inl hbefore
  · rintro (⟨before, rfl⟩ | hrest)
    · exact ⟨before, rest, by simp⟩
    · apply List.infix_append_of_infix_right
      exact List.infix_cons_iff.mpr (Or.inr hrest)

/-! ## Texts that are split -/

/-- A text is one component, or it goes on behind its first one. -/
theorem components_cases (sep : α) (text : List α) :
    sep ∉ text ∨ ∃ first rest, sep ∉ first ∧ text = first ++ sep :: rest := by
  by_cases h : sep ∈ text
  · obtain ⟨first, rest, htext, hfirst⟩ := List.eq_append_cons_of_mem h
    exact Or.inr ⟨first, rest, hfirst, htext⟩
  · exact Or.inl h

variable [BEq α] [LawfulBEq α]

theorem not_mem_of_mem_splitOn {text component : List α} (h : component ∈ text.splitOn sep) :
    sep ∉ component := by
  induction hlength : text.length using Nat.strong_induction_on generalizing text with
  | _ n ih =>
      rcases components_cases sep text with hone | ⟨first, rest, hfirst, rfl⟩
      · rw [List.splitOn_eq_singleton hone, List.mem_singleton] at h
        rwa [h]
      · rw [List.splitOn_append_cons_self_of_not_mem hfirst, List.mem_cons] at h
        rcases h with rfl | hrest
        · exact hfirst
        · exact ih rest.length (by simp [← hlength]; omega) hrest rfl

theorem infix_iff_mem_splitOn (h : sep ∉ part) (text : List α) :
    part <:+: text ↔ ∃ component ∈ text.splitOn sep, part <:+: component := by
  induction hlength : text.length using Nat.strong_induction_on generalizing text with
  | _ n ih =>
      rcases components_cases sep text with hone | ⟨first, rest, hfirst, rfl⟩
      · rw [List.splitOn_eq_singleton hone]
        simp
      · have hrest := ih rest.length (by simp [← hlength]; omega) rest rfl
        rw [infix_append_cons_iff h, List.splitOn_append_cons_self_of_not_mem hfirst, hrest]
        simp

theorem concat_infix_iff_mem_splitOn (h : sep ∉ part) (text : List α) :
    part ++ [sep] <:+: text ↔
      ∃ component ∈ (text.splitOn sep).dropLast, part <:+ component := by
  induction hlength : text.length using Nat.strong_induction_on generalizing text with
  | _ n ih =>
      rcases components_cases sep text with hone | ⟨first, rest, hfirst, rfl⟩
      · rw [List.splitOn_eq_singleton hone]
        constructor
        · intro hpart
          exact absurd (hpart.subset (by simp)) hone
        · rintro ⟨component, hcomponent, -⟩
          cases hcomponent
      · have hrest := ih rest.length (by simp [← hlength]; omega) rest rfl
        rw [concat_infix_append_cons_iff h hfirst, hrest,
          List.splitOn_append_cons_self_of_not_mem hfirst,
          List.dropLast_cons_of_ne_nil (List.splitOn_ne_nil sep rest)]
        simp

end Blocksnoop.Support
