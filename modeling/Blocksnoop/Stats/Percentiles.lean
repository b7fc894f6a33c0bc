import Blocksnoop.Stats.Order
import Blocksnoop.Support.OrderStatistics

/-!
# Percentiles and ranks

`_percentile` is documented as nearest-rank.  It truncates a share of the last index where
the nearest rank is a share of the length that is rounded up.  Every printed share leaves
one part in `b` above it, and for these the two agree where the length leaves at most one
over a multiple of `b`; elsewhere the entry that is read is one rank too low.
-/

namespace Blocksnoop

open Blocksnoop.Support

/-- The least of the durations that at least `⌈p * n⌉` of the `n` do not exceed. -/
def IsNearestRank (durations : List ℚ) (p v : ℚ) : Prop :=
  IsRanked durations ⌈p * durations.length⌉₊ v

/-- The durations at the nearest rank and at the one that is read are the same. -/
def RankKept (durations : List ℚ) (b : ℕ) : Prop :=
  durations.length % b ≤ 1 ∨ Tied durations (durations.length - durations.length / b - 1)

instance (durations : List ℚ) (b : ℕ) : Decidable (RankKept durations b) :=
  inferInstanceAs (Decidable (_ ∨ _))

/-! ## The two indices -/

section

variable {b : ℕ} (hb : 2 ≤ b)
include hb

theorem share_mul (n : ℕ) :
    (1 - 1 / (b : ℚ)) * n = n - (n / b : ℕ) - (n % b : ℕ) / (b : ℚ) := by
  have hpos : (b : ℚ) ≠ 0 := by
    have : b ≠ 0 := by omega
    exact_mod_cast this
  have hn : (n : ℚ) = b * (n / b : ℕ) + (n % b : ℕ) := by
    exact_mod_cast (Nat.div_add_mod n b).symm
  rw [eq_sub_iff_add_eq, sub_mul, one_mul, one_div_mul_eq_div]
  nth_rewrite 2 [hn]
  rw [add_div, mul_div_cancel_left₀ _ hpos]
  ring

theorem ceil_share (n : ℕ) : ⌈(1 - 1 / (b : ℚ)) * n⌉₊ = n - n / b := by
  have hpos : (0 : ℚ) < b := by
    have : 0 < b := by omega
    exact_mod_cast this
  have hdiv : n / b ≤ n := Nat.div_le_self n b
  have hmod : ((n % b : ℕ) : ℚ) / b < 1 := by
    rw [div_lt_one hpos]
    exact_mod_cast Nat.mod_lt n (by omega)
  have hnonneg : (0 : ℚ) ≤ ((n % b : ℕ) : ℚ) / b := by positivity
  rw [share_mul hb, ← Nat.cast_sub hdiv]
  apply le_antisymm
  · rw [Nat.ceil_le]
    linarith
  · by_contra hlt
    have hle : ⌈((n - n / b : ℕ) : ℚ) - (n % b : ℕ) / (b : ℚ)⌉₊ + 1 ≤ n - n / b := by omega
    have hcast : ((⌈((n - n / b : ℕ) : ℚ) - (n % b : ℕ) / (b : ℚ)⌉₊ : ℚ)) + 1 ≤
        ((n - n / b : ℕ) : ℚ) := by exact_mod_cast hle
    have hceil := Nat.le_ceil (((n - n / b : ℕ) : ℚ) - (n % b : ℕ) / (b : ℚ))
    linarith

theorem share_mul_pred (n : ℕ) :
    (1 - 1 / (b : ℚ)) * (((n : ℤ) - 1 : ℤ) : ℚ) =
      n - (n / b : ℕ) - 1 + (1 - (n % b : ℕ)) / (b : ℚ) := by
  rw [Int.cast_sub, Int.cast_natCast, Int.cast_one, mul_sub, share_mul hb, sub_div]
  ring

/-- The index that is read is the last one below the nearest rank, or the one before it. -/
theorem floor_share {n : ℕ} (hn : 1 ≤ n) :
    ⌊(1 - 1 / (b : ℚ)) * (((n : ℤ) - 1 : ℤ) : ℚ)⌋ =
      ((n - n / b - (if n % b ≤ 1 then 1 else 2) : ℕ) : ℤ) := by
  have hpos : (0 : ℚ) < b := by
    have : 0 < b := by omega
    exact_mod_cast this
  have hinv : 1 / (b : ℚ) < 1 := by
    rw [div_lt_one hpos]
    exact_mod_cast hb
  have hsplit := Nat.div_add_mod n b
  have hdouble : 2 * (n / b) ≤ b * (n / b) := Nat.mul_le_mul_right _ hb
  rw [Int.floor_eq_iff, share_mul_pred hb]
  by_cases hlow : n % b ≤ 1
  · have hcast : ((n - n / b - 1 : ℕ) : ℚ) = n - (n / b : ℕ) - 1 := by
      rw [Nat.cast_sub (by omega), Nat.cast_sub (by omega), Nat.cast_one]
    have hr : ((n % b : ℕ) : ℚ) ≤ 1 := by exact_mod_cast hlow
    have hr₀ : (0 : ℚ) ≤ (n % b : ℕ) := Nat.cast_nonneg _
    have hshare : 0 ≤ (1 - ((n % b : ℕ) : ℚ)) / b := div_nonneg (by linarith) hpos.le
    have hshare' : (1 - ((n % b : ℕ) : ℚ)) / b ≤ 1 / b :=
      div_le_div_of_nonneg_right (by linarith) hpos.le
    rw [if_pos hlow, Int.cast_natCast, hcast]
    constructor <;> linarith
  · have hcast : ((n - n / b - 2 : ℕ) : ℚ) = n - (n / b : ℕ) - 2 := by
      rw [Nat.cast_sub (by omega), Nat.cast_sub (by omega), Nat.cast_ofNat]
    have hmod : n % b < b := Nat.mod_lt n (by omega)
    have hr : (2 : ℚ) ≤ (n % b : ℕ) := by exact_mod_cast (by omega : 2 ≤ n % b)
    have hr' : ((n % b : ℕ) : ℚ) + 1 ≤ b := by exact_mod_cast hmod
    have hshare : (1 - ((n % b : ℕ) : ℚ)) / b < 0 := div_neg_of_neg_of_pos (by linarith) hpos
    have hshare' : -1 ≤ (1 - ((n % b : ℕ) : ℚ)) / b := by
      rw [le_div_iff₀ hpos]
      linarith
    rw [if_neg hlow, Int.cast_natCast, hcast]
    constructor <;> linarith

theorem toInt_share {n : ℕ} (hn : 1 ≤ n) :
    PyRuntime.toInt (PyRuntime.mulInt (1 - 1 / (b : ℚ)) ((n : ℤ) - 1)) =
      .ok ((n - n / b - (if n % b ≤ 1 then 1 else 2) : ℕ) : ℤ) := by
  have hfloor := floor_share hb hn
  have hnonneg : ¬ (1 - 1 / (b : ℚ)) * (((n : ℤ) - 1 : ℤ) : ℚ) < 0 := by
    rw [not_lt, ← Int.floor_nonneg, hfloor]
    exact Int.natCast_nonneg _
  exact congrArg Except.ok ((if_neg hnonneg).trans hfloor)

end

/-! ## The printed percentiles -/

theorem isNearestRank_iff {b : ℕ} (hb : 2 ≤ b) {d : List ℚ} (hd : d.Pairwise (· ≤ ·))
    (hne : d ≠ []) {v : ℚ} (hv : percentile d (1 - 1 / (b : ℚ)) = .ok v) :
    IsNearestRank d (1 - 1 / (b : ℚ)) v ↔ RankKept d b := by
  have hn : 1 ≤ d.length := List.length_pos_iff.mpr hne
  have hpos : (0 : ℚ) ≤ 1 / b := by positivity
  have hone : 1 / (b : ℚ) ≤ 1 := by
    rw [div_le_one (by positivity)]
    exact_mod_cast (by omega : 1 ≤ b)
  obtain ⟨i, hi, hindex, hvalue⟩ := percentile_eq hne (p := 1 - 1 / (b : ℚ))
    (sub_nonneg.mpr hone) (sub_le_self 1 hpos) (indexable_of_le_one zero_le_one le_rfl)
  obtain rfl : d[i] = v := Except.ok.inj (hvalue.symm.trans hv)
  have hread : i = d.length - d.length / b - (if d.length % b ≤ 1 then 1 else 2) := by
    have := Except.ok.inj (hindex.symm.trans (toInt_share hb hn))
    exact_mod_cast this
  have hsplit := Nat.div_add_mod d.length b
  have hdouble : 2 * (d.length / b) ≤ b * (d.length / b) := Nat.mul_le_mul_right _ hb
  unfold IsNearestRank RankKept
  rw [ceil_share hb]
  by_cases hlow : d.length % b ≤ 1
  · rw [if_pos hlow] at hread
    have hrank : d.length - d.length / b = i + 1 := by omega
    rw [hrank]
    exact iff_of_true (isRanked_getElem hd hi) (.inl hlow)
  · rw [if_neg hlow] at hread
    have hrank : d.length - d.length / b = i + 1 + 1 := by omega
    have hnext : i + 1 < d.length := by omega
    rw [hrank, Nat.add_sub_cancel, or_iff_right hlow, tied_iff_getElem hd hnext]
    constructor
    · intro hranked
      exact hranked.eq (isRanked_getElem hd hnext)
    · intro heq
      rw [heq]
      exact isRanked_getElem hd hnext

/-- The parts above the percentile of which there is one, the fraction, and the figure. -/
def Figures.reported (figs : Figures ℚ) : List (ℕ × ℚ × ℚ) :=
  [(2, 1 / 2, figs.p50), (10, 9 / 10, figs.p90), (20, 19 / 20, figs.p95),
    (100, 99 / 100, figs.p99)]

namespace StatsCollector

/-- The lines of a frame that show the figures. -/
def figureLines {F : Type} [StatsRuntime F] (figs : Figures F) : List String :=
  List.zipWith statLine statLabels (figs.toList.map (StatsRuntime.format 10 1))

/-- The frame that is written for some figures. -/
theorem printConsole_figureLines {F : Type} [StatsRuntime F] {percents : Percents F}
    {c : StatsCollector F} {figs : Figures F} (h : figures? percents c.durations = .ok (some figs))
    (elapsed : F) :
    ∃ above below : List String,
      let lines := above ++ figureLines figs ++ below
      c.printConsole percents elapsed = .ok { c with
        stream := c.stream ++
          [.frame (eraseFrame c.linesPrinted ++ "\n".intercalate lines ++ "\n")]
        linesPrinted := lines.length } := by
  refine ⟨[c.headline c.durations.length elapsed, ""],
    if c.warned then
      ["", "  warning: 10,000,000 events collected (~" ++
        Nat.repr (c.durations.length * 8 / 1000000) ++ " MB)"]
    else [], ?_⟩
  simp only [printConsole, h, bind, Except.bind, pure, Except.pure]
  rfl

theorem percentile_of_figures {F : Type} [StatsRuntime F] {percents : Percents F} {d : List F}
    {figs : Figures F} (h : figures percents d = .ok figs) :
    percentile d percents.p50 = .ok figs.p50 ∧ percentile d percents.p90 = .ok figs.p90 ∧
      percentile d percents.p95 = .ok figs.p95 ∧ percentile d percents.p99 = .ok figs.p99 := by
  obtain ⟨min, -, h⟩ := exists_of_bind_eq_ok h
  obtain ⟨p50, h50, h⟩ := exists_of_bind_eq_ok h
  obtain ⟨p90, h90, h⟩ := exists_of_bind_eq_ok h
  obtain ⟨p95, h95, h⟩ := exists_of_bind_eq_ok h
  obtain ⟨p99, h99, h⟩ := exists_of_bind_eq_ok h
  obtain ⟨max, -, h⟩ := exists_of_bind_eq_ok h
  obtain rfl := Except.ok.inj h
  exact ⟨h50, h90, h95, h99⟩

theorem percentile_of_reported {d : List ℚ} {figs : Figures ℚ}
    (h : figures exactPercents d = .ok figs) {b : ℕ} {p v : ℚ} (hmem : (b, p, v) ∈ figs.reported) :
    2 ≤ b ∧ p = 1 - 1 / (b : ℚ) ∧ percentile d p = .ok v := by
  obtain ⟨h50, h90, h95, h99⟩ := percentile_of_figures h
  simp only [Figures.reported, List.mem_cons, List.not_mem_nil, or_false, Prod.mk.injEq] at hmem
  rcases hmem with ⟨rfl, rfl, rfl⟩ | ⟨rfl, rfl, rfl⟩ | ⟨rfl, rfl, rfl⟩ | ⟨rfl, rfl, rfl⟩
  · exact ⟨le_rfl, by norm_num, h50⟩
  · exact ⟨by norm_num, by norm_num, h90⟩
  · exact ⟨by norm_num, by norm_num, h95⟩
  · exact ⟨by norm_num, by norm_num, h99⟩

/-- The figures of a run, and which of them are the nearest-rank ones. -/
theorem exists_figures {run : List (Call ℚ)} {durations : List ℚ}
    (hdurations : collected (run.filterMap Call.event?) = durations) (hne : durations ≠ [])
    (c₀ : StatsCollector ℚ) (hempty : c₀.durations = []) :
    ∃ figs : Figures ℚ,
      figures? exactPercents (c₀.calls exactPercents run).durations = .ok (some figs) ∧
      ∀ b p v, (b, p, v) ∈ figs.reported →
        (IsNearestRank durations p v ↔ RankKept durations b) := by
  obtain ⟨-, harray⟩ := calls_keeps exactPercents c₀ run
  rw [hempty, hdurations] at harray
  have hsorted : (c₀.calls exactPercents run).durations.Pairwise (· ≤ ·) := by
    rw [harray]
    exact foldl_insort_pairwise List.Pairwise.nil _
  have hperm : (c₀.calls exactPercents run).durations.Perm durations := by
    rw [harray]
    exact foldl_insort_perm [] _
  generalize (c₀.calls exactPercents run).durations = d at hsorted hperm
  have hlength : d.length ≠ 0 := by
    rw [hperm.length_eq]
    exact fun h => hne (List.length_eq_zero_iff.mp h)
  have hnonempty : d ≠ [] := fun h => hlength (List.length_eq_zero_iff.mpr h)
  obtain ⟨figs, hfigs, -⟩ := figures_eq exactPercents_ordered hsorted hnonempty
  refine ⟨figs, ?_, ?_⟩
  · rw [figures?, if_neg hlength, hfigs]
    rfl
  · intro b p v hmem
    obtain ⟨hb, rfl, hvalue⟩ := percentile_of_reported hfigs hmem
    have hrank := isNearestRank_iff hb hsorted hnonempty hvalue
    unfold IsNearestRank RankKept at hrank ⊢
    rw [← hperm.length_eq, ← isRanked_perm hperm, ← tied_perm hperm]
    exact hrank

/-- A percentile of any run, as a record or a frame shows it, is the nearest-rank one exactly
where the rank that is read is the nearest one or is tied with it. -/
theorem printJson_nearestRank_iff (pid : ℤ) (jsonMode : Bool) (run : List (Call ℚ)) (elapsed : ℚ)
    (hne : (collected (run.filterMap Call.event?) : List ℚ) ≠ []) :
    let durations : List ℚ := collected (run.filterMap Call.event?)
    let c : StatsCollector ℚ := (init pid jsonMode).calls exactPercents run
    ∃ (figs : Figures ℚ) (record : StatsRecord ℚ),
      figures? exactPercents c.durations = .ok (some figs) ∧
      c.printJson exactPercents elapsed = .ok { c with stream := c.stream ++ [.record record] } ∧
      record.figures = some (figs.map fun x => PyRuntime.round x 3) ∧
      (∃ above below : List String,
        let lines := above ++ figureLines figs ++ below
        c.printConsole exactPercents elapsed = .ok { c with
          stream := c.stream ++
            [.frame (eraseFrame c.linesPrinted ++ "\n".intercalate lines ++ "\n")]
          linesPrinted := lines.length }) ∧
      ∀ b p v, (b, p, v) ∈ figs.reported →
        (IsNearestRank durations p v ↔ RankKept durations b) := by
  intro durations c
  obtain ⟨figs, hprinted, hrank⟩ := exists_figures rfl hne (init pid jsonMode) rfl
  let record : StatsRecord ℚ :=
    { pid := c.pid
      elapsedS := PyRuntime.round elapsed 1
      count := c.durations.length
      rate := PyRuntime.round (rate c.durations.length elapsed) 1
      figures := some (figs.map fun x => PyRuntime.round x 3) }
  have hprinted' : figures? exactPercents c.durations = .ok (some figs) := hprinted
  refine ⟨figs, record, hprinted, ?_, rfl, printConsole_figureLines hprinted' elapsed, hrank⟩
  simp only [printJson, hprinted', bind, Except.bind, pure, Except.pure, record, Option.map_some]

/-- Gaps of 10 ms and of 20 ms. -/
def twoGaps : List (Call ℚ) :=
  [.handle { startNs := 0, endNs := 10000000, pid := 1, tid := 1 },
    .handle { startNs := 0, endNs := 20000000, pid := 1, tid := 1 }]

theorem collected_twoGaps : (collected (twoGaps.filterMap Call.event?) : List ℚ) = [10, 20] := by
  simp only [twoGaps, List.filterMap_cons, List.filterMap_nil, Call.event?, collected,
    BlockingEvent.durationMs, PyRuntime.divInt, Except.toOption]
  norm_num

theorem printJson_nearestRank_iff_two :
    let c : StatsCollector ℚ := (init 1 true).calls exactPercents twoGaps
    ∃ (figs : Figures ℚ) (record : StatsRecord ℚ),
      figures? exactPercents c.durations = .ok (some figs) ∧
      c.printJson exactPercents 2 = .ok { c with stream := c.stream ++ [.record record] } ∧
      record.figures = some (figs.map fun x => PyRuntime.round x 3) ∧
      (∃ above below : List String,
        let lines := above ++ figureLines figs ++ below
        c.printConsole exactPercents 2 = .ok { c with
          stream := c.stream ++
            [.frame (eraseFrame c.linesPrinted ++ "\n".intercalate lines ++ "\n")]
          linesPrinted := lines.length }) ∧
      ∀ b p v, (b, p, v) ∈ figs.reported →
        (IsNearestRank (collected (twoGaps.filterMap Call.event?)) p v ↔
          RankKept (collected (twoGaps.filterMap Call.event?)) b) :=
  printJson_nearestRank_iff 1 true twoGaps 2 (by rw [collected_twoGaps]; exact List.cons_ne_nil _ _)

/-- Of the two gaps the shorter one is printed as the 90th percentile. -/
theorem exists_not_isNearestRank :
    ∃ (run : List (Call ℚ)) (figs : Figures ℚ),
      (collected (run.filterMap Call.event?) : List ℚ) ≠ [] ∧
      figures? exactPercents ((init 1 true).calls exactPercents run).durations =
        .ok (some figs) ∧
      ¬ IsNearestRank (collected (run.filterMap Call.event?)) (9 / 10) figs.p90 := by
  obtain ⟨figs, hprinted, hrank⟩ :=
    exists_figures collected_twoGaps (List.cons_ne_nil _ _) (init 1 true) rfl
  refine ⟨twoGaps, figs, ?_, hprinted, ?_⟩
  · rw [collected_twoGaps]
    exact List.cons_ne_nil _ _
  · rw [collected_twoGaps, hrank 10 _ _ (by simp [Figures.reported])]
    rintro (hlength | ⟨v, hv, hlow, hhigh⟩)
    · simp at hlength
    · simp only [List.mem_cons, List.not_mem_nil, or_false] at hv
      rcases hv with rfl | rfl
      · norm_num at hhigh
      · norm_num at hlow

end StatsCollector

end Blocksnoop
