import Blocksnoop.Stats
import Mathlib.Data.List.GetD

/-!
# Statistics in any order

The array holds the collected durations in order, whatever the order they came in, so
everything that is read off it is the same for every interleaving of the callbacks.
-/

namespace Blocksnoop

open Blocksnoop.Support

/-- Numbers of a runtime that are compared, multiplied by integers, truncated and
rounded without error. -/
class ExactProducts (F : Type) [PyRuntime F] [LinearOrder F] : Prop where
  lt_iff (x y : F) : PyRuntime.lt x y = true ↔ x < y
  mulInt_le_mulInt {p q : F} (h : p ≤ q) {n : ℤ} (hn : 0 ≤ n) :
    PyRuntime.mulInt p n ≤ PyRuntime.mulInt q n
  toInt_zero_mul (n : ℤ) : PyRuntime.toInt (PyRuntime.mulInt (PyRuntime.zero : F) n) = .ok 0
  toInt_between {x y z : F} {i j : ℤ} (hxy : x ≤ y) (hyz : y ≤ z)
    (hi : PyRuntime.toInt x = .ok i) (hj : PyRuntime.toInt z = .ok j) :
    ∃ k, PyRuntime.toInt y = .ok k ∧ i ≤ k ∧ k ≤ j
  round_le_round {x y : F} (h : x ≤ y) (digits : ℕ) :
    PyRuntime.round x digits ≤ PyRuntime.round y digits

theorem roundHalfEven_mono {x y : ℚ} (h : x ≤ y) : roundHalfEven x ≤ roundHalfEven y := by
  have hfloor : ⌊x⌋ ≤ ⌊y⌋ := Int.floor_le_floor h
  have hup : ∀ z : ℚ, ⌊z⌋ ≤ roundHalfEven z ∧ roundHalfEven z ≤ ⌊z⌋ + 1 := by
    intro z
    unfold roundHalfEven
    dsimp only
    split
    · exact ⟨le_rfl, by omega⟩
    · exact ⟨by omega, le_rfl⟩
  rcases hfloor.lt_or_eq with hlt | heq
  · exact (hup x).2.trans (le_trans hlt (hup y).1)
  · unfold roundHalfEven
    dsimp only
    rw [heq]
    by_cases hx : x - (⌊y⌋ : ℚ) < 1 / 2 ∨ (x - (⌊y⌋ : ℚ) = 1 / 2 ∧ ⌊y⌋ % 2 = 0)
    · rw [if_pos hx]
      split
      · exact le_rfl
      · omega
    · have hy : ¬ (y - (⌊y⌋ : ℚ) < 1 / 2 ∨ (y - (⌊y⌋ : ℚ) = 1 / 2 ∧ ⌊y⌋ % 2 = 0)) := by
        intro hy
        apply hx
        rcases hy with hlt | ⟨heq', heven⟩
        · left
          linarith
        · have hle : x - (⌊y⌋ : ℚ) ≤ 1 / 2 := by linarith
          exact hle.lt_or_eq.imp id fun hhalf => ⟨hhalf, heven⟩
      rw [if_neg hx, if_neg hy]

instance : ExactProducts ℚ where
  lt_iff x y := decide_eq_true_iff
  mulInt_le_mulInt {p q} h {n} hn := mul_le_mul_of_nonneg_right h (Int.cast_nonneg hn)
  toInt_zero_mul n := by simp [PyRuntime.toInt, PyRuntime.mulInt, PyRuntime.zero]
  toInt_between {x y z i j} hxy hyz hi hj := by
    have hmono : ∀ {x y : ℚ}, x ≤ y →
        (if x < 0 then ⌈x⌉ else ⌊x⌋) ≤ (if y < 0 then ⌈y⌉ else ⌊y⌋) := by
      intro x y h
      by_cases hx : x < 0
      · rw [if_pos hx]
        by_cases hy : y < 0
        · rw [if_pos hy]
          exact Int.ceil_le_ceil h
        · rw [if_neg hy]
          exact (Int.ceil_le.mpr (by simpa using hx.le)).trans
            (Int.floor_nonneg.mpr (not_lt.mp hy))
      · rw [if_neg hx, if_neg fun hy => hx (h.trans_lt hy)]
        exact Int.floor_le_floor h
    obtain rfl : _ = i := Except.ok.inj hi
    obtain rfl : _ = j := Except.ok.inj hj
    exact ⟨_, rfl, hmono hxy, hmono hyz⟩
  round_le_round {x y} h digits := by
    have hpow : (0 : ℚ) ≤ 10 ^ digits := pow_nonneg (by norm_num) _
    have hle := roundHalfEven_mono (mul_le_mul_of_nonneg_right h hpow)
    exact div_le_div_of_nonneg_right (Int.cast_le.mpr hle) hpow

instance : StatsRuntime ℚ where
  sum := List.sum
  divNat x n := x / n
  natDiv n x := n / x
  format _ _ _ := ""

/-- The constants as exact fractions. -/
def exactPercents : Percents ℚ where
  p50 := 1 / 2
  p90 := 9 / 10
  p95 := 19 / 20
  p99 := 99 / 100

/-! ## The array -/

section

variable {F : Type} [PyRuntime F] [LinearOrder F] [ExactProducts F]

theorem insort_eq {d : List F} (h : d.Pairwise (· ≤ ·)) (x : F) :
    insort d x = insertAt d (d.countP fun a => decide (a ≤ x)) x := by
  have hpart : Partitioned (fun a => decide (a ≤ x)) d := partitioned_le (f := fun a => a) h x
  unfold insort
  congr 1
  refine hpart.searchLoop_eq fun i hi => ?_
  rw [List.getD_eq_getElem _ _ hi, Bool.eq_iff_iff, Bool.not_eq_true', Bool.eq_false_iff, Ne,
    ExactProducts.lt_iff, not_lt, decide_eq_true_iff]

theorem insort_pairwise {d : List F} (h : d.Pairwise (· ≤ ·)) (x : F) :
    (insort d x).Pairwise (· ≤ ·) := by
  rw [insort_eq h]
  exact pairwise_insertAt h x

omit [LinearOrder F] [ExactProducts F] in
theorem insort_perm (d : List F) (x : F) : (insort d x).Perm (x :: d) :=
  insertAt_perm d _ x

end

/-! ## Collecting -/

namespace StatsCollector

variable {F : Type} [StatsRuntime F]

/-- The durations of the events. -/
def collected (events : List BlockingEvent) : List F :=
  events.filterMap fun event => event.durationMs.toOption

/-- The callbacks of a run, one after the other under the lock; one that raises leaves
the collector as it is. -/
def onEvents (c : StatsCollector F) (events : List BlockingEvent) : StatsCollector F :=
  events.foldl (fun c event => (c.onEvent event).toOption.getD c) c

def addDurations (c : StatsCollector F) (durations : List F) : StatsCollector F :=
  durations.foldl addDuration c

theorem onEvents_eq (c : StatsCollector F) (events : List BlockingEvent) :
    c.onEvents events = c.addDurations (collected events) := by
  unfold onEvents addDurations collected
  induction events generalizing c with
  | nil => rfl
  | cons event events ih =>
      rw [List.foldl_cons, ih]
      cases hduration : (event.durationMs : Except PyException F) with
      | error e => simp [onEvent, hduration, Except.toOption, bind, Except.bind]
      | ok x => simp [onEvent, hduration, Except.toOption, bind, Except.bind, pure, Except.pure]

theorem foldl_insort_perm (d durations : List F) :
    (durations.foldl insort d).Perm (d ++ durations) := by
  induction durations generalizing d with
  | nil => simp
  | cons x durations ih =>
      refine (ih (insort d x)).trans ?_
      exact ((insort_perm d x).append_right durations).trans List.perm_middle.symm

/-- A run of callbacks changes the array and the flag only. -/
theorem addDurations_eq (c : StatsCollector F) (durations : List F) :
    c.addDurations durations =
      { c with
        durations := durations.foldl insort c.durations
        warned := c.warned ||
          (durations ≠ [] ∧ warnThreshold ≤ c.durations.length + durations.length) } := by
  unfold addDurations
  induction durations using List.reverseRecOn with
  | nil => simp
  | append_singleton durations x ih =>
      have hlength := (foldl_insort_perm c.durations (durations ++ [x])).length_eq
      rw [List.length_append, List.length_append, List.length_singleton, ← Nat.add_assoc] at hlength
      rw [List.foldl_concat] at hlength ⊢
      rw [List.foldl_concat, ih, addDuration, List.length_append, List.length_singleton,
        ← Nat.add_assoc]
      dsimp only
      rw [hlength]
      congr 1
      by_cases hlong : warnThreshold ≤ c.durations.length + durations.length
      · have hlonger := hlong.trans (Nat.le_succ _)
        simp [hlonger]
      · simp [hlong]

theorem onEvents_stream (c : StatsCollector F) (events : List BlockingEvent) :
    (c.onEvents events).stream = c.stream := by
  rw [onEvents_eq, addDurations_eq]

variable [LinearOrder F] [ExactProducts F]

theorem foldl_insort_pairwise {d : List F} (h : d.Pairwise (· ≤ ·)) (durations : List F) :
    (durations.foldl insort d).Pairwise (· ≤ ·) := by
  induction durations generalizing d with
  | nil => exact h
  | cons x durations ih => exact ih (insort_pairwise h x)

theorem foldl_insort_eq {d : List F} (hd : d.Pairwise (· ≤ ·)) {durations durations' : List F}
    (h : durations'.Perm durations) : durations'.foldl insort d = durations.foldl insort d := by
  refine List.Perm.eq_of_pairwise (fun a b _ _ (hab : a ≤ b) (hba : b ≤ a) => hab.antisymm hba)
    (foldl_insort_pairwise hd _) (foldl_insort_pairwise hd _) ?_
  exact (foldl_insort_perm _ _).trans ((h.append_left _).trans (foldl_insort_perm _ _).symm)

end StatsCollector

/-! ## Percentiles -/

/-- `int(q * n)` is a number of at most `n`. -/
def Indexable {F : Type} [PyRuntime F] (q : F) : Prop :=
  ∀ n : ℤ, 0 ≤ n → ∃ k ≤ n, PyRuntime.toInt (PyRuntime.mulInt q n) = .ok k

theorem indexable_of_le_one {q : ℚ} (hzero : 0 ≤ q) (hone : q ≤ 1) : Indexable q := by
  intro n hn
  have hcast : (0 : ℚ) ≤ n := Int.cast_nonneg hn
  have hproduct : ¬ q * n < 0 := not_lt.mpr (mul_nonneg hzero hcast)
  have hfloor : ⌊q * n⌋ ≤ n := by
    have hle : ((⌊q * n⌋ : ℤ) : ℚ) ≤ n :=
      (Int.floor_le _).trans (mul_le_of_le_one_left hcast hone)
    exact_mod_cast hle
  exact ⟨⌊q * n⌋, hfloor, congrArg Except.ok (if_neg hproduct)⟩

section

variable {F : Type} [PyRuntime F] [LinearOrder F] [ExactProducts F]

/-- A fraction below an indexable one reads an entry of the array. -/
theorem percentile_eq {d : List F} (hd : d ≠ []) {p q : F} (hzero : PyRuntime.zero ≤ p)
    (hpq : p ≤ q) (hq : Indexable q) :
    ∃ i : ℕ, ∃ hi : i < d.length,
      PyRuntime.toInt (PyRuntime.mulInt p ((d.length : ℤ) - 1)) = .ok (i : ℤ) ∧
        percentile d p = .ok d[i] := by
  have hlength : 0 < d.length := List.length_pos_iff.mpr hd
  have hn : (0 : ℤ) ≤ (d.length : ℤ) - 1 := by omega
  obtain ⟨last, hlast, hlast'⟩ := hq _ hn
  obtain ⟨k, hk, hk₀, hk₁⟩ := ExactProducts.toInt_between
    (ExactProducts.mulInt_le_mulInt hzero hn) (ExactProducts.mulInt_le_mulInt hpq hn)
    (ExactProducts.toInt_zero_mul _) hlast'
  have hi : k.toNat < d.length := by omega
  refine ⟨k.toNat, hi, by rw [hk, Int.toNat_of_nonneg hk₀], ?_⟩
  unfold percentile
  rw [hk]
  change arrayGet d k = _
  simp only [arrayGet, if_pos hk₀, List.getElem?_eq_getElem hi]

theorem percentile_mono {d : List F} (hd : d.Pairwise (· ≤ ·)) {p q r x y : F} (hne : d ≠ [])
    (hzero : PyRuntime.zero ≤ p) (hpq : p ≤ q) (hqr : q ≤ r) (hr : Indexable r)
    (hx : percentile d p = .ok x) (hy : percentile d q = .ok y) : x ≤ y := by
  obtain ⟨i, hi, hindex, hvalue⟩ := percentile_eq hne hzero (hpq.trans hqr) hr
  obtain ⟨j, hj, hindex', hvalue'⟩ := percentile_eq hne (hzero.trans hpq) hqr hr
  obtain rfl : d[i] = x := Except.ok.inj (hvalue.symm.trans hx)
  obtain rfl : d[j] = y := Except.ok.inj (hvalue'.symm.trans hy)
  have hn : (0 : ℤ) ≤ (d.length : ℤ) - 1 := by omega
  obtain ⟨k, hk, hik, -⟩ := ExactProducts.toInt_between
    (ExactProducts.mulInt_le_mulInt hpq hn) le_rfl hindex hindex'
  obtain rfl : (j : ℤ) = k := Except.ok.inj (hindex'.symm.trans hk)
  have hle : i ≤ j := by omega
  rcases hle.lt_or_eq with hlt | rfl
  · exact List.pairwise_iff_getElem.mp hd i j hi hj hlt
  · exact le_rfl

end

section

variable {F : Type} [LinearOrder F]

/-- The constants are in their order, and the last one does not read behind the array. -/
structure Percents.Ordered [PyRuntime F] (percents : Percents F) : Prop where
  zero_le_p50 : PyRuntime.zero ≤ percents.p50
  p50_le_p90 : percents.p50 ≤ percents.p90
  p90_le_p95 : percents.p90 ≤ percents.p95
  p95_le_p99 : percents.p95 ≤ percents.p99
  p99_indexable : Indexable percents.p99

theorem exactPercents_ordered : exactPercents.Ordered where
  zero_le_p50 := by norm_num [exactPercents, PyRuntime.zero]
  p50_le_p90 := by norm_num [exactPercents]
  p90_le_p95 := by norm_num [exactPercents]
  p95_le_p99 := by norm_num [exactPercents]
  p99_indexable := indexable_of_le_one (by norm_num [exactPercents]) (by norm_num [exactPercents])

/-- Nothing is said of the average. -/
structure Figures.Ordered (figures : Figures F) : Prop where
  min_le_p50 : figures.min ≤ figures.p50
  p50_le_p90 : figures.p50 ≤ figures.p90
  p90_le_p95 : figures.p90 ≤ figures.p95
  p95_le_p99 : figures.p95 ≤ figures.p99
  p99_le_max : figures.p99 ≤ figures.max

theorem Figures.Ordered.map {figures : Figures F} (h : figures.Ordered) {f : F → F}
    (hf : Monotone f) : (figures.map f).Ordered where
  min_le_p50 := hf h.min_le_p50
  p50_le_p90 := hf h.p50_le_p90
  p90_le_p95 := hf h.p90_le_p95
  p95_le_p99 := hf h.p95_le_p99
  p99_le_max := hf h.p99_le_max

/-- What a record says of the durations it is printed for. -/
structure StatsRecord.Describes [PyRuntime F] (record : StatsRecord F) (durations : List F) :
    Prop where
  count_eq : record.count = durations.length
  figures_eq_none : durations = [] → record.figures = none
  figures_eq_some : durations ≠ [] → ∃ figures : Figures F,
    record.figures = some (figures.map fun x => PyRuntime.round x 3) ∧
      IsLeast {x | x ∈ durations} figures.min ∧ IsGreatest {x | x ∈ durations} figures.max ∧
      figures.Ordered ∧ (figures.map fun x => PyRuntime.round x 3).Ordered

end

/-! ## Reports -/

namespace StatsCollector

theorem arrayGet_zero {F : Type} {d : List F} (hd : 0 < d.length) : arrayGet d 0 = .ok d[0] := by
  simp [arrayGet, List.getElem?_eq_getElem hd]

theorem arrayGet_neg_one {F : Type} {d : List F} (hlast : d.length - 1 < d.length) :
    arrayGet d (-1) = .ok d[d.length - 1] := by
  have hin : 0 ≤ -1 + (d.length : ℤ) := by omega
  have hindex : (-1 + (d.length : ℤ)).toNat = d.length - 1 := by omega
  simp [arrayGet, hin, hindex, List.getElem?_eq_getElem hlast]

variable {F : Type} [StatsRuntime F]

/-- An event that is handled, or a tick of the timer. -/
inductive Call (F : Type) where
  | handle (event : BlockingEvent)
  | tick (now : F)

def Call.event? : Call F → Option BlockingEvent
  | .handle event => some event
  | .tick _ => none

/-- One call under the lock; one that raises leaves the collector as it is. -/
def call (percents : Percents F) (c : StatsCollector F) : Call F → StatsCollector F
  | .handle event => (c.onEvent event).toOption.getD c
  | .tick now => (c.printStats percents now).toOption.getD c

def calls (percents : Percents F) (c : StatsCollector F) (calls : List (Call F)) :
    StatsCollector F :=
  calls.foldl (call percents) c

/-- `StatsCollector(pid, json_mode=jsonMode)` -/
def init (pid : ℤ) (jsonMode : Bool) : StatsCollector F where
  pid := pid
  jsonMode := jsonMode
  stream := []
  startTime := PyRuntime.zero

theorem printStats_keeps {percents : Percents F} {c c' : StatsCollector F} {now : F}
    (h : c.printStats percents now = .ok c') : c'.pid = c.pid ∧ c'.durations = c.durations := by
  unfold printStats at h
  dsimp only at h
  split at h
  · unfold printJson at h
    obtain ⟨printed, -, h⟩ := exists_of_bind_eq_ok h
    obtain rfl := Except.ok.inj h
    exact ⟨rfl, rfl⟩
  · unfold printConsole at h
    obtain ⟨printed, -, h⟩ := exists_of_bind_eq_ok h
    obtain rfl := Except.ok.inj h
    exact ⟨rfl, rfl⟩

theorem call_keeps (percents : Percents F) (c : StatsCollector F) (call : Call F) :
    (c.call percents call).pid = c.pid ∧
      (c.call percents call).durations = (c.onEvents call.event?.toList).durations := by
  cases call with
  | handle event =>
      refine ⟨?_, rfl⟩
      change (c.onEvents [event]).pid = c.pid
      rw [onEvents_eq, addDurations_eq]
  | tick now =>
      change ((c.printStats percents now).toOption.getD c).pid = _ ∧
        ((c.printStats percents now).toOption.getD c).durations = _
      cases hprint : c.printStats percents now with
      | error e => exact ⟨rfl, rfl⟩
      | ok c' => exact printStats_keeps hprint

/-- What is printed between the events leaves the array alone. -/
theorem calls_keeps (percents : Percents F) (c : StatsCollector F) (calls : List (Call F)) :
    (c.calls percents calls).pid = c.pid ∧
      (c.calls percents calls).durations =
        (collected (calls.filterMap Call.event?)).foldl insort c.durations := by
  induction calls generalizing c with
  | nil => exact ⟨rfl, rfl⟩
  | cons call calls ih =>
      obtain ⟨hpid, hdurations⟩ := call_keeps percents c call
      obtain ⟨hpid', hdurations'⟩ := ih (c.call percents call)
      rw [onEvents_eq, addDurations_eq] at hdurations
      dsimp only at hdurations
      refine ⟨hpid'.trans hpid, hdurations'.trans ?_⟩
      rw [hdurations, ← List.foldl_append]
      congr 1
      cases h : call.event? with
      | none => simp [collected, h]
      | some event => simp [collected, h, List.filterMap_cons, Option.toList]; split <;> simp [*]

variable [LinearOrder F] [ExactProducts F]

theorem figures_eq {percents : Percents F} (hpercents : percents.Ordered) {d : List F}
    (hd : d.Pairwise (· ≤ ·)) (hne : d ≠ []) :
    ∃ figs : Figures F, figures percents d = .ok figs ∧ IsLeast {x | x ∈ d} figs.min ∧
      IsGreatest {x | x ∈ d} figs.max ∧ figs.Ordered := by
  have hlength : 0 < d.length := List.length_pos_iff.mpr hne
  have hlast : d.length - 1 < d.length := Nat.sub_lt hlength Nat.one_pos
  have hsorted := List.pairwise_iff_getElem.mp hd
  have hmono : ∀ i j (hi : i < d.length) (hj : j < d.length), i ≤ j → d[i] ≤ d[j] := by
    intro i j hi hj hij
    rcases hij.lt_or_eq with hlt | rfl
    · exact hsorted i j hi hj hlt
    · exact le_rfl
  have h50 := hpercents.zero_le_p50
  have h90 := h50.trans hpercents.p50_le_p90
  have h95 := h90.trans hpercents.p90_le_p95
  have h99 := h95.trans hpercents.p95_le_p99
  have hindexable := hpercents.p99_indexable
  have h95' := hpercents.p95_le_p99
  have h90' := hpercents.p90_le_p95.trans h95'
  have h50' := hpercents.p50_le_p90.trans h90'
  obtain ⟨i, hi, -, hp50⟩ := percentile_eq hne h50 h50' hindexable
  obtain ⟨j, hj, -, hp90⟩ := percentile_eq hne h90 h90' hindexable
  obtain ⟨k, hk, -, hp95⟩ := percentile_eq hne h95 h95' hindexable
  obtain ⟨l, hl, -, hp99⟩ := percentile_eq hne h99 le_rfl hindexable
  let figs : Figures F :=
    { min := d[0]
      avg := StatsRuntime.divNat (StatsRuntime.sum d) d.length
      p50 := d[i]
      p90 := d[j]
      p95 := d[k]
      p99 := d[l]
      max := d[d.length - 1] }
  refine ⟨figs, ?_, ?_, ?_, ?_⟩
  · unfold figures
    simp only [figs, arrayGet_zero hlength, arrayGet_neg_one hlast, hp50, hp90, hp95, hp99,
      bind, Except.bind, pure, Except.pure]
  · refine ⟨List.getElem_mem hlength, fun x hx => ?_⟩
    obtain ⟨m, hm, rfl⟩ := List.mem_iff_getElem.mp hx
    exact hmono 0 m hlength hm (Nat.zero_le m)
  · refine ⟨List.getElem_mem _, fun x hx => ?_⟩
    obtain ⟨m, hm, rfl⟩ := List.mem_iff_getElem.mp hx
    exact hmono m _ hm _ (Nat.le_sub_one_of_lt hm)
  · exact
      { min_le_p50 := hmono 0 i hlength hi (Nat.zero_le i)
        p50_le_p90 := percentile_mono hd hne h50 hpercents.p50_le_p90 h90' hindexable hp50 hp90
        p90_le_p95 := percentile_mono hd hne h90 hpercents.p90_le_p95 h95' hindexable hp90 hp95
        p95_le_p99 := percentile_mono hd hne h95 h95' le_rfl hindexable hp95 hp99
        p99_le_max := hmono l _ hl _ (Nat.le_sub_one_of_lt hl) }

/-- The calls of any order, with the ticks anywhere between them, leave a sorted array of
the same durations, and the same record is printed of it, without an exception. -/
theorem printJson_calls {percents : Percents F} (hpercents : percents.Ordered) (pid : ℤ)
    (jsonMode : Bool) (events : List BlockingEvent) (elapsed : F) :
    ∃ record : StatsRecord F, record.Describes (collected events) ∧
      ∀ run : List (Call F), (run.filterMap Call.event?).Perm events →
        let c := (init pid jsonMode : StatsCollector F).calls percents run
        c.durations.Pairwise (· ≤ ·) ∧ c.durations.Perm (collected events) ∧
          c.printJson percents elapsed =
            .ok { c with stream := c.stream ++ [.record record] } := by
  let d : List F := (collected events).foldl insort []
  have hsorted : d.Pairwise (· ≤ ·) := foldl_insort_pairwise List.Pairwise.nil _
  have hperm : d.Perm (collected events) := foldl_insort_perm [] _
  have hround : Monotone fun x : F => PyRuntime.round x 3 := fun x y h =>
    ExactProducts.round_le_round h 3
  have hfigures : ∃ printed : Option (Figures F), figures? percents d = .ok printed ∧
      (d = [] → printed = none) ∧
      (d ≠ [] → ∃ figs, printed = some figs ∧ IsLeast {x | x ∈ d} figs.min ∧
        IsGreatest {x | x ∈ d} figs.max ∧ figs.Ordered) := by
    by_cases hd : d = []
    · refine ⟨none, ?_, fun _ => rfl, fun hne => absurd hd hne⟩
      simp [figures?, hd, pure, Except.pure]
    · obtain ⟨figs, hfigs, hproperties⟩ := figures_eq hpercents hsorted hd
      refine ⟨some figs, ?_, fun hnil => absurd hnil hd, fun _ => ⟨figs, rfl, hproperties⟩⟩
      have hlength : d.length ≠ 0 := fun h => hd (List.length_eq_zero_iff.mp h)
      rw [figures?, if_neg hlength, hfigs]
      rfl
  obtain ⟨printed, hprinted, hempty, hsome⟩ := hfigures
  have hmem : {x | x ∈ d} = {x | x ∈ collected events} := Set.ext fun x => hperm.mem_iff
  have hnil : d = [] ↔ (collected events : List F) = [] := by
    rw [← List.length_eq_zero_iff, hperm.length_eq, List.length_eq_zero_iff]
  let record : StatsRecord F :=
    { pid := pid
      elapsedS := PyRuntime.round elapsed 1
      count := d.length
      rate := PyRuntime.round (rate d.length elapsed) 1
      figures := printed.map (·.map fun x => PyRuntime.round x 3) }
  refine ⟨record, ⟨hperm.length_eq, fun h => ?_, fun h => ?_⟩, fun run hrun => ?_⟩
  · simp only [record, hempty (hnil.mpr h), Option.map_none]
  · obtain ⟨figs, hfigs, hmin, hmax, hordered⟩ := hsome fun h' => h (hnil.mp h')
    rw [hmem] at hmin hmax
    refine ⟨figs, ?_, hmin, hmax, hordered, hordered.map hround⟩
    simp only [record, hfigs, Option.map_some]
  · intro c
    obtain ⟨hpid, hdurations⟩ := calls_keeps percents (init pid jsonMode : StatsCollector F) run
    have hcollected : (collected (run.filterMap Call.event?) : List F).Perm
        (collected events) := hrun.filterMap _
    have harray : c.durations = d :=
      hdurations.trans (foldl_insort_eq List.Pairwise.nil hcollected)
    refine ⟨harray ▸ hsorted, harray ▸ hperm, ?_⟩
    have hpid' : c.pid = pid := hpid
    simp only [printJson, harray, hprinted, hpid', bind, Except.bind, pure, Except.pure, record]

/-- Two equal gaps and a longer one before them, with a tick in the middle. -/
theorem printJson_calls_equal :
    let event (endNs : ℤ) : BlockingEvent :=
      { startNs := 0, endNs, pid := 1, tid := 1 }
    let events := [event 30000000, event 10000000, event 10000000]
    ∃ record : StatsRecord ℚ, record.Describes (collected events) ∧
      let c := (init 1 true : StatsCollector ℚ).calls exactPercents
        [.handle (event 10000000), .tick 1, .handle (event 30000000), .handle (event 10000000)]
      c.durations.Pairwise (· ≤ ·) ∧ c.durations.Perm (collected events) ∧
        c.printJson exactPercents 2 = .ok { c with stream := c.stream ++ [.record record] } := by
  intro event events
  obtain ⟨record, hrecord, hrun⟩ := printJson_calls exactPercents_ordered 1 true events 2
  exact ⟨record, hrecord, hrun _ (List.Perm.swap _ _ _)⟩

end StatsCollector

end Blocksnoop
