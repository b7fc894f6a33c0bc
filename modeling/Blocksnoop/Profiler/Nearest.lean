import Blocksnoop.Profiler.RingBuffer

/-!
# The nearest sample

`find_nearest` examines the two neighbours of the target's insertion point.  A target
outside the window has its neighbours outside too when a retained sample lies between
them, and a sample farther away than the width of the window is not taken.
-/

namespace Blocksnoop.StackRingBuffer

open Blocksnoop.Support

def InWindow (startNs endNs : ℤ) (entry : Entry) : Prop :=
  startNs ≤ entry.1 ∧ entry.1 ≤ endNs

/-- What `find_nearest` is to return: the stack of an entry of the window that is
closest to the target, and `None` when the window is empty. -/
structure IsNearest (entries : List Entry) (targetNs startNs endNs : ℤ)
    (result : Option PythonStackTrace) : Prop where
  none_iff : result = none ↔ ∀ entry ∈ entries, ¬ InWindow startNs endNs entry
  closest : ∀ stack, result = some stack → ∃ entry ∈ entries, InWindow startNs endNs entry ∧
    entry.2 = stack ∧ ∀ other ∈ entries, InWindow startNs endNs other →
      |entry.1 - targetNs| ≤ |other.1 - targetNs|

/-- The entries between the target and the window; none when it is inside. -/
def Between (targetNs startNs endNs : ℤ) (entry : Entry) : Prop :=
  (targetNs ≤ entry.1 ∧ entry.1 < startNs) ∨ (endNs < entry.1 ∧ entry.1 < targetNs)

/-- The window is empty, or the target is in it, or nothing lies between them and an
entry of the window is at most the width of the window away from the target. -/
def WithinReach (entries : List Entry) (targetNs startNs endNs : ℤ) : Prop :=
  (∀ entry ∈ entries, ¬ InWindow startNs endNs entry) ∨
    (startNs ≤ targetNs ∧ targetNs ≤ endNs) ∨
    ((∀ entry ∈ entries, ¬ Between targetNs startNs endNs entry) ∧
      ∃ entry ∈ entries, InWindow startNs endNs entry ∧
        |entry.1 - targetNs| ≤ endNs - startNs)

/-! ## The two neighbours -/

/-- The last entry before the target. -/
def below (entries : List Entry) (targetNs : ℤ) : Option Entry :=
  (entries.filter fun e => decide (e.1 < targetNs)).getLast?

/-- The first entry that is not before the target. -/
def above (entries : List Entry) (targetNs : ℤ) : Option Entry :=
  (entries.filter fun e => !decide (e.1 < targetNs)).head?

variable {entries : List Entry} {targetNs startNs endNs : ℤ}

theorem below_eq_some {entry : Entry} (hsorted : entries.Pairwise fun a b => a.1 ≤ b.1)
    (h : below entries targetNs = some entry) :
    entry ∈ entries ∧ entry.1 < targetNs ∧
      ∀ other ∈ entries, other.1 < targetNs → other.1 ≤ entry.1 := by
  obtain ⟨init, hinit⟩ := List.getLast?_eq_some_iff.mp h
  have hmem : entry ∈ entries.filter fun e => decide (e.1 < targetNs) := by
    rw [hinit]
    exact List.mem_append_right _ List.mem_cons_self
  refine ⟨List.mem_of_mem_filter hmem, of_decide_eq_true (List.mem_filter.mp hmem).2, ?_⟩
  intro other hother hlt
  have hfilter : other ∈ entries.filter fun e => decide (e.1 < targetNs) :=
    List.mem_filter.mpr ⟨hother, decide_eq_true hlt⟩
  have hpairwise := List.Pairwise.filter (fun e => decide (e.1 < targetNs)) hsorted
  rw [hinit] at hfilter hpairwise
  rcases List.mem_append.mp hfilter with hinit' | hlast
  · exact (List.pairwise_append.mp hpairwise).2.2 other hinit' entry List.mem_cons_self
  · rw [List.mem_singleton.mp hlast]

theorem below_eq_none (h : below entries targetNs = none) :
    ∀ other ∈ entries, ¬ other.1 < targetNs := by
  intro other hother hlt
  have hnil := List.getLast?_eq_none_iff.mp h
  exact List.filter_eq_nil_iff.mp hnil other hother (decide_eq_true hlt)

theorem above_eq_some {entry : Entry} (hsorted : entries.Pairwise fun a b => a.1 ≤ b.1)
    (h : above entries targetNs = some entry) :
    entry ∈ entries ∧ targetNs ≤ entry.1 ∧
      ∀ other ∈ entries, targetNs ≤ other.1 → entry.1 ≤ other.1 := by
  obtain ⟨rest, hrest⟩ := List.head?_eq_some_iff.mp h
  have hmem : entry ∈ entries.filter fun e => !decide (e.1 < targetNs) := by
    rw [hrest]
    exact List.mem_cons_self
  refine ⟨List.mem_of_mem_filter hmem, by simpa using (List.mem_filter.mp hmem).2, ?_⟩
  intro other hother hle
  have hfilter : other ∈ entries.filter fun e => !decide (e.1 < targetNs) :=
    List.mem_filter.mpr ⟨hother, by simpa using hle⟩
  have hpairwise := List.Pairwise.filter (fun e => !decide (e.1 < targetNs)) hsorted
  rw [hrest] at hfilter hpairwise
  rcases List.mem_cons.mp hfilter with rfl | hmem
  · exact le_rfl
  · exact List.rel_of_pairwise_cons hpairwise hmem

theorem above_eq_none (h : above entries targetNs = none) :
    ∀ other ∈ entries, other.1 < targetNs := by
  intro other hother
  have hnil := List.head?_eq_none_iff.mp h
  simpa using List.filter_eq_nil_iff.mp hnil other hother

/-! ## The loop over the neighbours -/

/-- A neighbour, if there is one, against the best entry so far. -/
def consider (targetNs startNs endNs : ℤ) (best : Option Entry × ℤ) :
    Option Entry → Option Entry × ℤ
  | none => best
  | some entry =>
      if startNs ≤ entry.1 ∧ entry.1 ≤ endNs ∧ |entry.1 - targetNs| < best.2 then
        (some entry, |entry.1 - targetNs|)
      else best

theorem examine_eq_consider (best : Option Entry × ℤ) (idx : ℤ) :
    examine entries targetNs startNs endNs best idx =
      consider targetNs startNs endNs best
        (if 0 ≤ idx then entries[idx.toNat]? else none) := by
  unfold examine
  by_cases hidx : 0 ≤ idx
  · rw [if_pos hidx]
    cases hentry : entries[idx.toNat]? with
    | none =>
        have hlen : ¬ (0 ≤ idx ∧ idx < entries.length) := by
          have hle := List.getElem?_eq_none_iff.mp hentry
          omega
        rw [if_neg hlen]
        rfl
    | some entry =>
        have hlen : 0 ≤ idx ∧ idx < entries.length := by
          obtain ⟨hlt, _⟩ := List.getElem?_eq_some_iff.mp hentry
          omega
        rw [if_pos hlen]
        rfl
  · rw [if_neg hidx, if_neg fun h => hidx h.1]
    rfl

/-- The candidates of the loop are the two neighbours. -/
theorem findNearest_eq {b : StackRingBuffer}
    (hsorted : b.orderedEntries.Pairwise fun a c => a.1 ≤ c.1) :
    b.findNearest targetNs startNs endNs =
      (consider targetNs startNs endNs
        (consider targetNs startNs endNs (none, endNs - startNs + 1)
          (below b.orderedEntries targetNs))
        (above b.orderedEntries targetNs)).1.map (·.2) := by
  unfold findNearest
  generalize b.orderedEntries = entries at hsorted ⊢
  have hpart := partitioned_lt hsorted targetNs
  have hbelow : (if (0 : ℤ) ≤ (entries.countP fun e => decide (e.1 < targetNs) : ℕ) - 1 then
      entries[((entries.countP fun e => decide (e.1 < targetNs) : ℕ) - 1 : ℤ).toNat]?
      else none) = below entries targetNs := by
    have hlast : below entries targetNs =
        (entries.take (entries.countP fun e => decide (e.1 < targetNs))).getLast? := by
      rw [hpart.take_countP]
      rfl
    have hlen : (entries.countP fun e => decide (e.1 < targetNs)) ≤ entries.length :=
      List.countP_le_length
    rw [hlast, List.getLast?_take]
    generalize (entries.countP fun e => decide (e.1 < targetNs)) = pos at hlen ⊢
    cases pos with
    | zero => rfl
    | succ pos =>
        have hidx : ((pos + 1 : ℕ) : ℤ) - 1 = pos := by omega
        rw [hidx, if_pos (Int.natCast_nonneg pos), Int.toNat_natCast, if_neg (Nat.succ_ne_zero pos),
          Nat.add_sub_cancel, List.getElem?_eq_getElem hlen, Option.some_or]
  have habove : (if (0 : ℤ) ≤ (entries.countP fun e => decide (e.1 < targetNs) : ℕ) then
      entries[((entries.countP fun e => decide (e.1 < targetNs) : ℕ) : ℤ).toNat]? else none) =
      above entries targetNs := by
    rw [above, ← hpart.drop_countP, List.head?_drop, if_pos (Int.natCast_nonneg _),
      Int.toNat_natCast]
  by_cases hnil : entries = []
  · rw [if_pos hnil, hnil]
    rfl
  · rw [if_neg hnil]
    simp only [bisectLeft_map hsorted, List.foldl_cons, List.foldl_nil, examine_eq_consider,
      hbelow, habove]

/-! ## What the loop finds -/

/-- The best entry of those that were considered: in the window, less than `bound` away
from the target, and none of the others is closer. -/
structure Best (targetNs startNs endNs bound : ℤ) (considered : List Entry)
    (best : Option Entry × ℤ) : Prop where
  distance_le : best.2 ≤ bound
  least : ∀ other ∈ considered, InWindow startNs endNs other → best.2 ≤ |other.1 - targetNs|
  bound_of_none : best.1 = none → best.2 = bound
  entry : ∀ entry, best.1 = some entry → entry ∈ considered ∧ InWindow startNs endNs entry ∧
    best.2 = |entry.1 - targetNs| ∧ best.2 < bound

theorem best_start (bound : ℤ) :
    Best targetNs startNs endNs bound [] (none, bound) where
  distance_le := le_rfl
  least := nofun
  bound_of_none _ := rfl
  entry := nofun

theorem Best.consider {bound : ℤ} {considered : List Entry} {best : Option Entry × ℤ}
    (h : Best targetNs startNs endNs bound considered best) (next : Option Entry) :
    Best targetNs startNs endNs bound (considered ++ next.toList)
      (consider targetNs startNs endNs best next) := by
  cases next with
  | none => simpa [StackRingBuffer.consider] using h
  | some next =>
      rw [StackRingBuffer.consider]
      by_cases hcloser : startNs ≤ next.1 ∧ next.1 ≤ endNs ∧ |next.1 - targetNs| < best.2
      · obtain ⟨hstart, hend, hlt⟩ := hcloser
        rw [if_pos ⟨hstart, hend, hlt⟩]
        constructor
        · exact (hlt.le).trans h.distance_le
        · intro other hother hwindow
          rcases List.mem_append.mp hother with hother | hother
          · exact hlt.le.trans (h.least other hother hwindow)
          · rw [List.mem_singleton.mp hother]
        · exact nofun
        · intro entry hentry
          obtain rfl := Option.some.inj hentry
          exact ⟨List.mem_append_right _ List.mem_cons_self, ⟨hstart, hend⟩, rfl,
            hlt.trans_le h.distance_le⟩
      · rw [if_neg hcloser]
        constructor
        · exact h.distance_le
        · intro other hother hwindow
          rcases List.mem_append.mp hother with hother | hother
          · exact h.least other hother hwindow
          · obtain rfl := List.mem_singleton.mp hother
            exact not_lt.mp fun hlt => hcloser ⟨hwindow.1, hwindow.2, hlt⟩
        · exact h.bound_of_none
        · intro entry hentry
          obtain ⟨hmem, hrest⟩ := h.entry entry hentry
          exact ⟨List.mem_append_left _ hmem, hrest⟩

theorem exists_best {b : StackRingBuffer}
    (hsorted : b.orderedEntries.Pairwise fun a c => a.1 ≤ c.1) :
    ∃ best, b.findNearest targetNs startNs endNs = best.1.map (·.2) ∧
      Best targetNs startNs endNs (endNs - startNs + 1)
        ((below b.orderedEntries targetNs).toList ++ (above b.orderedEntries targetNs).toList)
        best :=
  ⟨_, findNearest_eq hsorted, ((best_start _).consider _).consider _⟩

/-! ## Reach -/

theorem abs_sub_le_of_before {x y t : ℤ} (hxy : x ≤ y) (hy : y < t) : |y - t| ≤ |x - t| := by
  rw [abs_of_neg (by omega), abs_of_neg (by omega)]
  omega

theorem abs_sub_le_of_after {x y t : ℤ} (hy : t ≤ y) (hyx : y ≤ x) : |y - t| ≤ |x - t| := by
  rw [abs_of_nonneg (by omega), abs_of_nonneg (by omega)]
  omega

/-- Every entry has a neighbour of the target on its side, no farther away. -/
theorem exists_neighbour (targetNs : ℤ)
    (hsorted : entries.Pairwise fun a b => a.1 ≤ b.1) {other : Entry}
    (hother : other ∈ entries) :
    ∃ entry ∈ (below entries targetNs).toList ++ (above entries targetNs).toList,
      entry ∈ entries ∧ |entry.1 - targetNs| ≤ |other.1 - targetNs| ∧
        (other.1 ≤ entry.1 ∧ entry.1 < targetNs ∨ targetNs ≤ entry.1 ∧ entry.1 ≤ other.1) := by
  by_cases hlt : other.1 < targetNs
  · cases hbelow : below entries targetNs with
    | none => exact absurd hlt (below_eq_none hbelow other hother)
    | some entry =>
        obtain ⟨hmem, hentry, hlast⟩ := below_eq_some hsorted hbelow
        have hle := hlast other hother hlt
        exact ⟨entry, List.mem_append_left _ List.mem_cons_self, hmem,
          abs_sub_le_of_before hle hentry, .inl ⟨hle, hentry⟩⟩
  · cases habove : above entries targetNs with
    | none => exact absurd (above_eq_none habove other hother) hlt
    | some entry =>
        obtain ⟨hmem, hentry, hfirst⟩ := above_eq_some hsorted habove
        have hle := hfirst other hother (not_lt.mp hlt)
        exact ⟨entry, List.mem_append_right _ List.mem_cons_self, hmem,
          abs_sub_le_of_after hentry hle, .inr ⟨hentry, hle⟩⟩

/-- Nothing lies between a neighbour and the target. -/
theorem neighbour_first (hsorted : entries.Pairwise fun a b => a.1 ≤ b.1) {entry : Entry}
    (h : entry ∈ (below entries targetNs).toList ++ (above entries targetNs).toList) :
    entry ∈ entries ∧
      ∀ other ∈ entries, (entry.1 < targetNs → other.1 < targetNs → other.1 ≤ entry.1) ∧
        (targetNs ≤ entry.1 → targetNs ≤ other.1 → entry.1 ≤ other.1) := by
  rcases List.mem_append.mp h with hmem | hmem
  · obtain ⟨hentry, hlt, hlast⟩ := below_eq_some hsorted (Option.mem_toList.mp hmem)
    refine ⟨hentry, fun other hother => ⟨fun _ => hlast other hother, fun hle => ?_⟩⟩
    exact absurd hlt (not_lt.mpr hle)
  · obtain ⟨hentry, hle, hfirst⟩ := above_eq_some hsorted (Option.mem_toList.mp hmem)
    refine ⟨hentry, fun other hother => ⟨fun hlt => ?_, fun _ => hfirst other hother⟩⟩
    exact absurd hlt (not_lt.mpr hle)

section

variable {best : Option Entry × ℤ} {entry : Entry}
  (hsorted : entries.Pairwise fun a b => a.1 ≤ b.1)
  (hbest : Best targetNs startNs endNs (endNs - startNs + 1)
    ((below entries targetNs).toList ++ (above entries targetNs).toList) best)

include hsorted hbest

/-- No retained entry lies between the target and an entry that was found. -/
theorem not_between_of_found (hentry : best.1 = some entry) :
    ∀ other ∈ entries, ¬ Between targetNs startNs endNs other := by
  obtain ⟨hmem, ⟨hstart, hend⟩, _⟩ := hbest.entry entry hentry
  intro other hother hbetween
  obtain ⟨hbefore, hafter⟩ := (neighbour_first hsorted hmem).2 other hother
  rcases hbetween with ⟨hle, hlt⟩ | ⟨hlt, hle⟩
  · have hle' := hafter (by omega) hle
    omega
  · have hle' := hbefore (by omega) hle
    omega

theorem closest_of_found (hentry : best.1 = some entry) :
    ∀ other ∈ entries, InWindow startNs endNs other →
      |entry.1 - targetNs| ≤ |other.1 - targetNs| := by
  obtain ⟨_, _, hdistance, _⟩ := hbest.entry entry hentry
  intro other hother hwindow
  obtain ⟨neighbour, hneighbour, hmem, hcloser, hside⟩ := exists_neighbour targetNs hsorted hother
  have hbetween := not_between_of_found hsorted hbest hentry neighbour hmem
  have hinside : InWindow startNs endNs neighbour := by
    unfold Between at hbetween
    unfold InWindow at hwindow ⊢
    omega
  rw [← hdistance]
  exact (hbest.least neighbour hneighbour hinside).trans hcloser

theorem withinReach_of_found (hentry : best.1 = some entry) :
    WithinReach entries targetNs startNs endNs := by
  obtain ⟨hmem, hwindow, hdistance, hlt⟩ := hbest.entry entry hentry
  refine .inr (.inr ⟨not_between_of_found hsorted hbest hentry, entry,
    (neighbour_first hsorted hmem).1, hwindow, ?_⟩)
  omega

/-- Where nothing was found, the window is out of reach or empty. -/
theorem empty_of_not_found (hnone : best.1 = none) (h : WithinReach entries targetNs startNs endNs) :
    ∀ other ∈ entries, ¬ InWindow startNs endNs other := by
  have hfar : ∀ other ∈ entries, InWindow startNs endNs other →
      |other.1 - targetNs| ≤ endNs - startNs →
      (∀ entry ∈ entries, ¬ Between targetNs startNs endNs entry) → False := by
    intro other hother hwindow hnear hbetween
    obtain ⟨neighbour, hneighbour, hmem, hcloser, hside⟩ := exists_neighbour targetNs hsorted hother
    have hbetween' := hbetween neighbour hmem
    have hinside : InWindow startNs endNs neighbour := by
      unfold Between at hbetween'
      unfold InWindow at hwindow ⊢
      omega
    have hleast := hbest.least neighbour hneighbour hinside
    rw [hbest.bound_of_none hnone] at hleast
    omega
  rcases h with hempty | ⟨hstart, hend⟩ | ⟨hbetween, other, hother, hwindow, hnear⟩
  · exact hempty
  · intro other hother hwindow
    refine hfar other hother hwindow ?_ ?_
    · unfold InWindow at hwindow
      rw [abs_le]
      omega
    · intro entry _ hbetween
      unfold Between at hbetween
      omega
  · exact absurd (hfar other hother hwindow hnear hbetween) id

end

/-- The nearest entry is found exactly where the window is within reach of the target. -/
theorem isNearest_iff {b : StackRingBuffer}
    (hsorted : b.orderedEntries.Pairwise fun a c => a.1 ≤ c.1) :
    IsNearest b.orderedEntries targetNs startNs endNs (b.findNearest targetNs startNs endNs) ↔
      WithinReach b.orderedEntries targetNs startNs endNs := by
  obtain ⟨best, hfind, hbest⟩ := exists_best hsorted
  rw [hfind]
  generalize b.orderedEntries = entries at hsorted hbest ⊢
  cases hentry : best.1 with
  | none =>
      constructor
      · exact fun h => .inl (h.none_iff.mp rfl)
      · intro h
        refine ⟨iff_of_true rfl (empty_of_not_found hsorted hbest hentry h), ?_⟩
        exact nofun
  | some entry =>
      have hclosest := closest_of_found hsorted hbest hentry
      obtain ⟨hmem, hwindow, _⟩ := hbest.entry entry hentry
      have hin := (neighbour_first hsorted hmem).1
      refine iff_of_true ?_ (withinReach_of_found hsorted hbest hentry)
      constructor
      · exact iff_of_false nofun fun hempty => hempty entry hin hwindow
      · intro stack hstack
        exact ⟨entry, hin, hwindow, Option.some.inj hstack, hclosest⟩

/-- In a buffer that was filled in order, `find_nearest` keeps its promise exactly where
the window is within reach of the target. -/
theorem findNearest_isNearest_iff (size : ℕ) (hsize : 1 ≤ size) (pushed : List Entry)
    (hsorted : pushed.Pairwise fun a b => a.1 ≤ b.1) (targetNs startNs endNs : ℤ) :
    IsNearest (retained size pushed) targetNs startNs endNs
        (((new size).pushAll pushed).findNearest targetNs startNs endNs) ↔
      WithinReach (retained size pushed) targetNs startNs endNs := by
  have hordered := (orderedEntries_pushAll hsize pushed).1
  rw [← hordered]
  apply isNearest_iff
  rw [hordered]
  exact List.Pairwise.drop hsorted

/-- A sample between the target and the window, and one in the window. -/
def straddlingPushes : List Entry :=
  [(5, numberedStack 1), (10, numberedStack 2)]

theorem findNearest_isNearest_iff_straddling :
    IsNearest (retained 2 straddlingPushes) 7 8 20
        (((new 2).pushAll straddlingPushes).findNearest 7 8 20) ↔
      WithinReach (retained 2 straddlingPushes) 7 8 20 :=
  findNearest_isNearest_iff 2 (by decide) straddlingPushes (by decide) 7 8 20

/-- The sample at 5 hides the one at 10 from a target at 0. -/
theorem exists_not_isNearest :
    ∃ (size : ℕ) (pushed : List Entry) (targetNs startNs endNs : ℤ), 1 ≤ size ∧
      (pushed.Pairwise fun a b => a.1 ≤ b.1) ∧ startNs ≤ endNs ∧
      ¬ IsNearest (retained size pushed) targetNs startNs endNs
        (((new size).pushAll pushed).findNearest targetNs startNs endNs) := by
  refine ⟨2, straddlingPushes, 0, 8, 20, by decide, by decide, by decide, ?_⟩
  intro h
  have hnone : ((new 2).pushAll straddlingPushes).findNearest 0 8 20 = none := by decide
  exact h.none_iff.mp hnone (10, numberedStack 2) (by decide) ⟨by decide, by decide⟩

end Blocksnoop.StackRingBuffer
