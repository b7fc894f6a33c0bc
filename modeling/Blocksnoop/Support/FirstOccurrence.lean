import Blocksnoop.Support.Python

/-!
# First occurrences

The elements of a list whose key does not occur earlier, and the dictionary that
a loop over the list builds when it keeps the first value of every key.
-/

namespace Blocksnoop.Support

section

variable {κ α : Type} [DecidableEq κ]

def firstBy (key : α → κ) : List α → List α
  | [] => []
  | a :: rest => a :: (firstBy key rest).filter fun b => key b ≠ key a

theorem mem_of_mem_firstBy {key : α → κ} {l : List α} {a : α}
    (h : a ∈ firstBy key l) : a ∈ l := by
  induction l with
  | nil => exact h
  | cons b rest ih =>
      rcases List.mem_cons.mp h with rfl | h
      · simp
      · exact List.mem_cons_of_mem _ (ih (List.mem_of_mem_filter h))

/-- A first occurrence is what a search for its key finds. -/
theorem mem_firstBy_iff {key : α → κ} {l : List α} {a : α} :
    a ∈ firstBy key l ↔ l.find? (fun b => key b = key a) = some a := by
  induction l with
  | nil => simp [firstBy]
  | cons b rest ih =>
      by_cases hkey : key b = key a
      · have hfind : (b :: rest).find? (fun c => key c = key a) = some b := by simp [hkey]
        have hrest : a ∉ (firstBy key rest).filter fun c => key c ≠ key b := by
          simp [hkey]
        rw [firstBy, hfind, List.mem_cons, or_iff_left hrest, Option.some_inj]
        exact eq_comm
      · have hfind : (b :: rest).find? (fun c => key c = key a) =
            rest.find? (fun c => key c = key a) := by simp [hkey]
        have hne : a ≠ b := fun h => hkey (by rw [h])
        have hrest : a ∈ (firstBy key rest).filter (fun c => key c ≠ key b) ↔
            a ∈ firstBy key rest := by
          simp [Ne.symm hkey]
        rw [firstBy, hfind, List.mem_cons, or_iff_right hne, hrest, ih]

/-- Every key of the list has a first occurrence. -/
theorem exists_mem_firstBy {key : α → κ} {l : List α} {a : α} (h : a ∈ l) :
    ∃ first ∈ firstBy key l, key first = key a := by
  have hsome : (l.find? fun b => key b = key a).isSome := by
    rw [List.find?_isSome]
    exact ⟨a, h, by simp⟩
  obtain ⟨first, hfirst⟩ := Option.isSome_iff_exists.mp hsome
  have hkey : key first = key a := by simpa using List.find?_some hfirst
  refine ⟨first, ?_, hkey⟩
  rw [mem_firstBy_iff, hkey]
  exact hfirst

theorem pairwise_firstBy (key : α → κ) (l : List α) :
    (firstBy key l).Pairwise fun a b => key a ≠ key b := by
  induction l with
  | nil => exact List.Pairwise.nil
  | cons a rest ih =>
      rw [firstBy, List.pairwise_cons]
      constructor
      · intro b hb
        have hne := (List.mem_filter.mp hb).2
        simp only [ne_eq, decide_eq_true_eq] at hne
        exact Ne.symm hne
      · exact ih.filter _

theorem firstBy_eq_nil_iff {key : α → κ} {l : List α} : firstBy key l = [] ↔ l = [] := by
  cases l <;> simp [firstBy]

namespace Dict

theorem set_of_get_none {d : Dict κ α} {key : κ} (value : α) (h : d.get key = none) :
    d.set key value = d ++ [(key, value)] := by
  induction d with
  | nil => rfl
  | cons entry rest ih =>
      obtain ⟨k, v⟩ := entry
      have hne : key ≠ k := by
        rintro rfl
        simp [get] at h
      have hrest : Dict.get rest key = none := by
        simpa [get, List.lookup_cons, beq_false_of_ne hne] using h
      simp [set, hne, ih hrest]

theorem get_append_singleton (d : Dict κ α) (key k : κ) (value : α) :
    Dict.get (d ++ [(key, value)]) k =
      (d.get k).or (if k = key then some value else none) := by
  by_cases hk : k = key
  · simp [get, List.lookup_append, hk]
  · simp [get, List.lookup_append, List.lookup_cons, hk, beq_false_of_ne hk]

/-- The loop that keeps the first value of every key. -/
def keepFirst (key : α → κ) (d : Dict κ α) (l : List α) : Dict κ α :=
  l.foldl (fun d a => if (d.get (key a)).isSome then d else d.set (key a) a) d

/-- The loop appends the first occurrences whose keys the dictionary lacks. -/
theorem keepFirst_eq_append (key : α → κ) (d : Dict κ α) (l : List α) :
    keepFirst key d l =
      d ++ ((firstBy key l).filter fun a => (d.get (key a)).isNone).map
        fun a => (key a, a) := by
  induction l generalizing d with
  | nil => simp [keepFirst, firstBy]
  | cons a rest ih =>
      have hstep : keepFirst key d (a :: rest) =
          keepFirst key (if (d.get (key a)).isSome then d else d.set (key a) a) rest := rfl
      rw [hstep, ih]
      cases hget : d.get (key a) with
      | some value =>
          have hkeep : ∀ b ∈ firstBy key rest, (d.get (key b)).isNone =
              ((d.get (key b)).isNone && decide (key b ≠ key a)) := by
            intro b _
            by_cases hb : key b = key a
            · simp [hb, hget]
            · simp [hb]
          simp [firstBy, hget, List.filter_filter, List.filter_congr hkeep]
      | none =>
          have hkeep : ∀ b ∈ firstBy key rest,
              (Dict.get (d ++ [(key a, a)]) (key b)).isNone =
                ((d.get (key b)).isNone && decide (key b ≠ key a)) := by
            intro b _
            rw [get_append_singleton]
            by_cases hb : key b = key a
            · simp [hb]
            · simp [hb]
          simp [firstBy, hget, set_of_get_none a hget, List.filter_filter,
            List.filter_congr hkeep]

theorem values_keepFirst (key : α → κ) (l : List α) :
    values (keepFirst key [] l) = firstBy key l := by
  rw [keepFirst_eq_append]
  simp [values, get, Function.comp_def]

end Dict

end

end Blocksnoop.Support
