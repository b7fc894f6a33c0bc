import Blocksnoop.Bpf.Gap

/-!
# Attaching the probes one after the other

The attach loop of `native/blocksnoop_ebpf.c` while the target runs.  A probe
that is not attached yet misses its hits, so what the program sees is a
subsequence of the target's system calls.
-/

namespace Blocksnoop.Bpf

open Blocksnoop.Support

structure Probe where
  kind : ProbeKind
  variant : Native.EpollVariant
  deriving Repr, DecidableEq

def Hit.probe (hit : Hit) : Probe :=
  ⟨hit.kind, hit.variant⟩

/-- The attach loop: for every enabled variant its exit probe and then its enter
probe. -/
def attachOrder (enabled : Native.EpollVariant → Bool) : List Probe :=
  (Native.EpollVariant.table.filter enabled).flatMap fun variant =>
    [⟨.sysExit, variant⟩, ⟨.sysEnter, variant⟩]

/-- A step of the sidecar or of the target. -/
inductive LoaderStep where
  | attach (probe : Probe)
  | hit (hit : Hit)
  deriving Repr, DecidableEq

/-- The sidecar with the kernel: the links made so far and the map. -/
def loader (config : Native.DetectorConfig) :
    Transducer LoaderStep Native.BlockingEvent (List Probe × CallbackStart) where
  step s
    | .attach probe => ((s.1 ++ [probe], s.2), [])
    | .hit hit =>
        if hit.probe ∈ s.1 then
          (((s.1, ((program config).step s.2 hit).1)), ((program config).step s.2 hit).2)
        else (s, [])

/-- The events output during and after attaching. -/
def loaderEvents (config : Native.DetectorConfig) (steps : List LoaderStep) :
    List Native.BlockingEvent :=
  ((loader config).run ([], fun _ => none) steps).2

def LoaderStep.attach? : LoaderStep → Option Probe
  | .attach probe => some probe
  | .hit _ => none

/-- The system calls of the target, each with whether its probe was attached. -/
def observed (links : List Probe) : List LoaderStep → List (Hit × Bool)
  | [] => []
  | .attach probe :: steps => observed (links ++ [probe]) steps
  | .hit hit :: steps => (hit, decide (hit.probe ∈ links)) :: observed links steps

def hits (steps : List LoaderStep) : List Hit :=
  (observed [] steps).map (·.1)

/-- The hits of one thread alternate: a system call is left by the variant it was
entered with. -/
def Alternates : List Hit → Prop :=
  List.IsChain fun earlier later => earlier.kind ≠ later.kind ∧
    (earlier.kind = .sysEnter → earlier.variant = later.variant)

/-- An interleaving of the attach loop with the target's system calls. -/
structure Interleaving (config : Native.DetectorConfig)
    (enabled : Native.EpollVariant → Bool) (steps : List LoaderStep) : Prop where
  attaches : steps.filterMap LoaderStep.attach? <+: attachOrder enabled
  task : ∀ hit ∈ hits steps, hit.task = target config
  enabled : ∀ hit ∈ hits steps, enabled hit.variant = true
  sorted : Sorted (hits steps)
  alternates : Alternates (hits steps)

/-- The thread is inside an epoll wait at the given instant. -/
def InWait (trace : List Hit) (instant : ℕ) : Prop :=
  ∃ enter exit, [enter, exit] <:+: trace ∧
    enter.kind = .sysEnter ∧ exit.kind = .sysExit ∧
    enter.time.toNat ≤ instant ∧ instant < exit.time.toNat

/-- The event covers an instant at which the thread was inside an epoll wait. -/
def Spurious (trace : List Hit) (event : Native.BlockingEvent) : Prop :=
  ∃ instant, event.startNs.toNat ≤ instant ∧ instant < event.endNs.toNat ∧
    InWait trace instant

/-- Whenever an attached exit probe and the next attached probe, an enter probe,
are hit more than the threshold apart, no wait that takes time passes in between
through probes that are not attached yet. -/
def SeesWaits (config : Native.DetectorConfig) (steps : List LoaderStep) : Prop :=
  ∀ before exit missed enter after,
    observed [] steps = before ++ (exit, true) :: (missed ++ (enter, true) :: after) →
    (∀ hit ∈ missed, hit.2 = false) →
    exit.kind = .sysExit → enter.kind = .sysEnter →
    config.thresholdNs.toNat < enter.time.toNat - exit.time.toNat →
    ∀ waitEnter waitExit, [waitEnter, waitExit] <:+: missed.map (·.1) →
      waitEnter.kind = .sysEnter → waitExit.kind = .sysExit →
      waitExit.time ≤ waitEnter.time

/-! ## What the program sees -/

/-- The hits that reach the program. -/
def seen (observations : List (Hit × Bool)) : List Hit :=
  (observations.filter (·.2)).map (·.1)

theorem loader_run (config : Native.DetectorConfig) (links : List Probe)
    (map : CallbackStart) (steps : List LoaderStep) :
    ((loader config).run (links, map) steps).2 =
      ((program config).run map (seen (observed links steps))).2 := by
  induction steps generalizing links map with
  | nil => rfl
  | cons step steps ih =>
      cases step with
      | attach probe =>
          have hstep : (loader config).step (links, map) (.attach probe) =
              ((links ++ [probe], map), []) := rfl
          rw [Transducer.run_cons, hstep, ih, observed]
          rfl
      | hit hit =>
          by_cases hlink : hit.probe ∈ links
          · have hstep : (loader config).step (links, map) (.hit hit) =
                ((links, ((program config).step map hit).1),
                  ((program config).step map hit).2) := by
              simp [loader, hlink]
            have hseen : seen (observed links (.hit hit :: steps)) =
                hit :: seen (observed links steps) := by
              simp [observed, seen, hlink]
            rw [Transducer.run_cons, hstep, ih, hseen, Transducer.run_cons]
          · have hstep : (loader config).step (links, map) (.hit hit) =
                ((links, map), []) := by
              simp [loader, hlink]
            have hseen : seen (observed links (.hit hit :: steps)) =
                seen (observed links steps) := by
              simp [observed, seen, hlink]
            rw [Transducer.run_cons, hstep, ih, hseen]
            rfl

theorem seen_sublist (observations : List (Hit × Bool)) :
    (seen observations).Sublist (observations.map (·.1)) :=
  (List.filter_sublist).map _

/-- Two neighbours among the seen hits, with the missed ones between them. -/
theorem seen_eq_append_cons_cons {observations : List (Hit × Bool)}
    {first second : Hit} {before after : List Hit}
    (h : seen observations = before ++ first :: second :: after) :
    ∃ pre missed post,
      observations = pre ++ (first, true) :: (missed ++ (second, true) :: post) ∧
      ∀ hit ∈ missed, hit.2 = false := by
  obtain ⟨front, back, hfilter, -, hback⟩ := List.map_eq_append_iff.mp h
  obtain ⟨⟨x, sx⟩, backTail, rfl, hx, htail⟩ := List.map_eq_cons_iff.mp hback
  obtain ⟨⟨y, sy⟩, backRest, rfl, hy, -⟩ := List.map_eq_cons_iff.mp htail
  simp only at hx hy
  subst hx hy
  obtain ⟨pre, rest, rfl, -, hrest⟩ := List.filter_eq_append_iff.mp hfilter
  obtain ⟨pre', rest, rfl, -, hx, hrest⟩ := List.filter_eq_cons_iff.mp hrest
  obtain ⟨missed, post, rfl, hmissed, hy, -⟩ := List.filter_eq_cons_iff.mp hrest
  simp only at hx hy
  subst hx hy
  exact ⟨pre ++ pre', missed, post, by simp, fun hit hmem => by simpa using hmissed hit hmem⟩

theorem seen_append_cons_cons {pre missed post : List (Hit × Bool)} {first second : Hit}
    (hmissed : ∀ hit ∈ missed, hit.2 = false) :
    seen (pre ++ (first, true) :: (missed ++ (second, true) :: post)) =
      seen pre ++ first :: second :: seen post := by
  have hnone : missed.filter (·.2) = [] := by simpa using hmissed
  simp [seen, List.filter_append, hnone]

/-- When every hit is the target's, a gap lies between two neighbours. -/
theorem gap_iff_neighbours {config : Native.DetectorConfig} {trace : List Hit}
    (htask : ∀ hit ∈ trace, hit.task = target config) {event : Native.BlockingEvent} :
    (∃ i, Gap config trace i event) ↔
      ∃ (before : List Hit) (exit enter : Hit) (after : List Hit),
        trace = before ++ exit :: enter :: after ∧
        exit.kind = .sysExit ∧ enter.kind = .sysEnter ∧
        config.thresholdNs.toNat < enter.time.toNat - exit.time.toNat ∧
        event = { startNs := exit.time, endNs := enter.time,
                  pid := config.targetTgid, tid := config.targetTid } := by
  constructor
  · rintro ⟨i, front, enter, after, exit, rfl, -, -, henter, hlatest, hexit, hlt, hevent⟩
    obtain ⟨before, between, rfl, -, hother⟩ := hlatest
    have hbetween : between = [] := by
      refine List.eq_nil_iff_forall_not_mem.mpr fun hit hmem => ?_
      exact hother hit hmem (htask hit (by simp [hmem]))
    subst hbetween
    exact ⟨before, exit, enter, after, by simp, hexit, henter, hlt, hevent⟩
  · rintro ⟨before, exit, enter, after, rfl, hexit, henter, hlt, hevent⟩
    exact ⟨_, before ++ [exit], enter, after, exit, by simp, rfl, htask enter (by simp), henter,
      ⟨before, [], rfl, htask exit (by simp), by simp⟩, hexit, hlt, hevent⟩

/-- The events of an interleaving, each with the exit and the entry it was made
from and the hits that were missed between them. -/
theorem mem_loaderEvents_iff {config : Native.DetectorConfig}
    {enabled : Native.EpollVariant → Bool} {steps : List LoaderStep}
    (h : Interleaving config enabled steps) {event : Native.BlockingEvent} :
    event ∈ loaderEvents config steps ↔
      ∃ (before : List (Hit × Bool)) (exit : Hit) (missed : List (Hit × Bool)) (enter : Hit)
        (after : List (Hit × Bool)),
        observed [] steps = before ++ (exit, true) :: (missed ++ (enter, true) :: after) ∧
        (∀ hit ∈ missed, hit.2 = false) ∧
        exit.kind = .sysExit ∧ enter.kind = .sysEnter ∧
        config.thresholdNs.toNat < enter.time.toNat - exit.time.toNat ∧
        event = { startNs := exit.time, endNs := enter.time,
                  pid := config.targetTgid, tid := config.targetTid } := by
  have hsub := seen_sublist (observed [] steps)
  obtain ⟨emitted, -, hrun, hgaps⟩ :=
    run_program_eq_gaps config (List.Pairwise.sublist hsub h.sorted)
  have htask : ∀ hit ∈ seen (observed [] steps), hit.task = target config :=
    fun hit hmem => h.task hit (hsub.subset hmem)
  have hevent : event ∈ loaderEvents config steps ↔
      ∃ i, Gap config (seen (observed [] steps)) i event := by
    rw [loaderEvents, loader_run, hrun]
    simp [← hgaps]
  rw [hevent, gap_iff_neighbours htask]
  constructor
  · rintro ⟨before, exit, enter, after, hseen, hexit, henter, hlt, rfl⟩
    obtain ⟨pre, missed, post, hobserved, hmissed⟩ := seen_eq_append_cons_cons hseen
    exact ⟨pre, exit, missed, enter, post, hobserved, hmissed, hexit, henter, hlt, rfl⟩
  · rintro ⟨pre, exit, missed, enter, post, hobserved, hmissed, hexit, henter, hlt, rfl⟩
    refine ⟨seen pre, exit, enter, seen post, ?_, hexit, henter, hlt, rfl⟩
    rw [hobserved, seen_append_cons_cons hmissed]

/-! ## Waits inside an event -/

/-- Two neighbours of a list lie up to a given entry or from it on. -/
theorem infix_pair_append_cons {α : Type*} {a b x : α} {pre post : List α}
    (h : [a, b] <:+: pre ++ x :: post) : b ∈ pre ++ [x] ∨ [a, b] <:+: x :: post := by
  induction pre with
  | nil => exact Or.inr h
  | cons c pre ih =>
      rcases List.infix_cons_iff.mp h with h | h
      · obtain ⟨-, hb⟩ := List.cons_prefix_cons.mp h
        cases pre with
        | nil =>
            obtain ⟨rfl, -⟩ := List.cons_prefix_cons.mp hb
            exact Or.inl (by simp)
        | cons d pre =>
            obtain ⟨rfl, -⟩ := List.cons_prefix_cons.mp hb
            exact Or.inl (by simp)
      · rcases ih h with h | h
        · exact Or.inl (List.mem_cons_of_mem _ h)
        · exact Or.inr h

/-- Two neighbours of a list lie before a given entry, end with it or lie from it
on. -/
theorem infix_pair_before_cons {α : Type*} {a b y : α} {mid post : List α}
    (h : [a, b] <:+: mid ++ y :: post) : [a, b] <:+: mid ∨ b = y ∨ a ∈ y :: post := by
  induction mid with
  | nil => exact Or.inr (Or.inr (h.subset (by simp)))
  | cons c mid ih =>
      rcases List.infix_cons_iff.mp h with h | h
      · obtain ⟨rfl, hb⟩ := List.cons_prefix_cons.mp h
        cases mid with
        | nil => exact Or.inr (Or.inl (List.cons_prefix_cons.mp hb).1)
        | cons d mid =>
            obtain ⟨rfl, -⟩ := List.cons_prefix_cons.mp hb
            exact Or.inl ⟨[], mid, rfl⟩
      · rcases ih h with h | h
        · exact Or.inl (List.infix_cons h)
        · exact Or.inr h

theorem infix_pair_cases {α : Type*} {a b x y : α} {pre mid post : List α}
    (h : [a, b] <:+: pre ++ x :: (mid ++ y :: post)) :
    b ∈ pre ++ [x] ∨ a = x ∨ [a, b] <:+: mid ∨ b = y ∨ a ∈ y :: post := by
  rcases infix_pair_append_cons h with h | h
  · exact Or.inl h
  · refine Or.inr ?_
    rcases List.infix_cons_iff.mp h with h | h
    · exact Or.inl (List.cons_prefix_cons.mp h).1
    · exact Or.inr (infix_pair_before_cons h)

/-- An event from `exit` to `enter` is spurious exactly when a wait lies between
them. -/
theorem spurious_iff {trace pre mid post : List Hit} {exit enter : Hit}
    {event : Native.BlockingEvent}
    (htrace : trace = pre ++ exit :: (mid ++ enter :: post)) (hsorted : Sorted trace)
    (hexit : exit.kind = .sysExit) (henter : enter.kind = .sysEnter)
    (hstart : event.startNs = exit.time) (hend : event.endNs = enter.time) :
    Spurious trace event ↔
      ∃ waitEnter waitExit, [waitEnter, waitExit] <:+: mid ∧
        waitEnter.kind = .sysEnter ∧ waitExit.kind = .sysExit ∧
        waitEnter.time < waitExit.time := by
  subst htrace
  obtain ⟨-, htail, hpre⟩ := List.pairwise_append.mp hsorted
  obtain ⟨hexitLe, htail⟩ := List.pairwise_cons.mp htail
  obtain ⟨-, htail, hmid⟩ := List.pairwise_append.mp htail
  obtain ⟨henterLe, -⟩ := List.pairwise_cons.mp htail
  constructor
  · rintro ⟨instant, hfrom, hto, waitEnter, waitExit, hwait, hwaitEnter, hwaitExit, hle, hlt⟩
    rw [hstart] at hfrom
    rw [hend] at hto
    rcases infix_pair_cases hwait with h | rfl | h | rfl | h
    · have hbefore : waitExit.time.toNat ≤ exit.time.toNat := by
        rcases List.mem_append.mp h with h | h
        · exact UInt64.le_iff_toNat_le.mp (hpre waitExit h exit (by simp))
        · rw [List.mem_singleton.mp h]
      omega
    · exact absurd (hwaitEnter.symm.trans hexit) (by decide)
    · refine ⟨waitEnter, waitExit, h, hwaitEnter, hwaitExit, ?_⟩
      exact UInt64.lt_iff_toNat_lt.mpr (by omega)
    · exact absurd (hwaitExit.symm.trans henter) (by decide)
    · have hafter : enter.time.toNat ≤ waitEnter.time.toNat := by
        rcases List.mem_cons.mp h with rfl | h
        · exact le_rfl
        · exact UInt64.le_iff_toNat_le.mp (henterLe waitEnter h)
      omega
  · rintro ⟨waitEnter, waitExit, hwait, hwaitEnter, hwaitExit, hlt⟩
    have hmemEnter : waitEnter ∈ mid := hwait.subset (by simp)
    have hmemExit : waitExit ∈ mid := hwait.subset (by simp)
    have hfrom := UInt64.le_iff_toNat_le.mp (hexitLe waitEnter (by simp [hmemEnter]))
    have hto := UInt64.le_iff_toNat_le.mp (hmid waitExit hmemExit enter (by simp))
    have hlt' := UInt64.lt_iff_toNat_lt.mp hlt
    refine ⟨waitEnter.time.toNat, ?_, ?_, waitEnter, waitExit, ?_, hwaitEnter, hwaitExit,
      le_rfl, hlt'⟩
    · rw [hstart]
      exact hfrom
    · rw [hend]
      omega
    · refine hwait.trans ⟨pre ++ [exit], enter :: post, ?_⟩
      simp

/-- While the probes are being attached, no event covers a wait exactly when no
wait passes unseen between the two hits an event is made from. -/
theorem no_spurious_iff_seesWaits {config : Native.DetectorConfig}
    {enabled : Native.EpollVariant → Bool} {steps : List LoaderStep}
    (h : Interleaving config enabled steps) :
    (∀ event ∈ loaderEvents config steps, ¬ Spurious (hits steps) event) ↔
      SeesWaits config steps := by
  have hhits : ∀ {before exit missed enter after},
      observed [] steps = before ++ (exit, true) :: (missed ++ (enter, true) :: after) →
      hits steps = before.map (·.1) ++ exit :: (missed.map (·.1) ++ enter :: after.map (·.1)) := by
    intro before exit missed enter after hobserved
    simp [hits, hobserved]
  constructor
  · intro hnone before exit missed enter after hobserved hmissed hexit henter hlt
      waitEnter waitExit hwait hwaitEnter hwaitExit
    have hevent := (mem_loaderEvents_iff h).mpr
      ⟨before, exit, missed, enter, after, hobserved, hmissed, hexit, henter, hlt, rfl⟩
    have hspurious := hnone _ hevent
    rw [spurious_iff (hhits hobserved) h.sorted hexit henter rfl rfl] at hspurious
    by_contra hle
    exact hspurious ⟨waitEnter, waitExit, hwait, hwaitEnter, hwaitExit, UInt64.not_le.mp hle⟩
  · intro hsees event hevent hspurious
    obtain ⟨before, exit, missed, enter, after, hobserved, hmissed, hexit, henter, hlt, rfl⟩ :=
      (mem_loaderEvents_iff h).mp hevent
    obtain ⟨waitEnter, waitExit, hwait, hwaitEnter, hwaitExit, hlt'⟩ :=
      (spurious_iff (hhits hobserved) h.sorted hexit henter rfl rfl).mp hspurious
    exact absurd (hsees before exit missed enter after hobserved hmissed hexit henter hlt
      waitEnter waitExit hwait hwaitEnter hwaitExit) (UInt64.not_le.mpr hlt')

/-- A target that waits once in another variant while only the pair of
`epoll_wait` is attached. -/
def mixedConfig : Native.DetectorConfig :=
  ⟨7, 9, 100, 3, 4⟩

def mixedSteps : List LoaderStep :=
  [.attach ⟨.sysExit, .epollWait⟩, .attach ⟨.sysEnter, .epollWait⟩,
    .hit ⟨.sysExit, .epollWait, target mixedConfig, 10⟩,
    .hit ⟨.sysEnter, .epollPwait, target mixedConfig, 11⟩,
    .hit ⟨.sysExit, .epollPwait, target mixedConfig, 1000⟩,
    .hit ⟨.sysEnter, .epollWait, target mixedConfig, 1001⟩,
    .attach ⟨.sysExit, .epollPwait⟩, .attach ⟨.sysEnter, .epollPwait⟩]

theorem interleaving_mixedSteps :
    Interleaving mixedConfig (fun v => v != .epollPwait2) mixedSteps where
  attaches := by decide
  task := by decide
  enabled := by decide
  sorted := by
    unfold Sorted
    decide
  alternates := by
    unfold Alternates
    decide

theorem no_spurious_iff_seesWaits_mixed :
    (∀ event ∈ loaderEvents mixedConfig mixedSteps,
        ¬ Spurious (hits mixedSteps) event) ↔ SeesWaits mixedConfig mixedSteps :=
  no_spurious_iff_seesWaits interleaving_mixedSteps

/-- The event runs from 10 to 1001, though the target waited from 11 to 1000. -/
theorem exists_spurious_while_attaching :
    ∃ config enabled steps, Interleaving config enabled steps ∧
      ∃ event ∈ loaderEvents config steps, Spurious (hits steps) event := by
  refine ⟨mixedConfig, _, mixedSteps, interleaving_mixedSteps, ⟨10, 1001, 7, 9⟩, ?_, ?_⟩
  · decide
  · refine ⟨11, by decide, by decide, ⟨.sysEnter, .epollPwait, target mixedConfig, 11⟩,
      ⟨.sysExit, .epollPwait, target mixedConfig, 1000⟩, ?_, rfl, rfl, by decide, by decide⟩
    exact ⟨[⟨.sysExit, .epollWait, target mixedConfig, 10⟩],
      [⟨.sysEnter, .epollWait, target mixedConfig, 1001⟩], rfl⟩

end Blocksnoop.Bpf
