import Blocksnoop.Bpf.Program

/-!
# The gaps of a trace

What the program is for: an event is the time between the latest exit of the
target from epoll and its next entry.  `pending` is the abstract state, the exit
that still waits for its entry; the map of the program holds it under the target
thread and nothing else.
-/

namespace Blocksnoop.Bpf

open Blocksnoop.Support

/-- The watched thread as a task. -/
def target (config : Native.DetectorConfig) : Task where
  pidnsDev := config.pidnsDev
  pidnsIno := config.pidnsIno
  tgid := config.targetTgid
  pid := config.targetTid

theorem isTarget_eq (config : Native.DetectorConfig) (task : Task) :
    isTarget config task =
      if task = target config then some config.targetTid else none := by
  obtain ⟨dev, ino, tgid, pid⟩ := task
  unfold isTarget getNsCurrentPidTgid
  by_cases hns : dev = config.pidnsDev ∧ ino = config.pidnsIno
  · by_cases hids : tgid = config.targetTgid ∧ pid = config.targetTid
    · simp [hns, hids, target]
    · have hne : ¬ (Task.mk config.pidnsDev config.pidnsIno tgid pid = target config) := by
        simpa [target] using hids
      simp [hns, hids, hne]
  · have hne : ¬ (Task.mk dev ino tgid pid = target config) := by
      intro h
      exact hns ⟨congrArg Task.pidnsDev h, congrArg Task.pidnsIno h⟩
    simp [hns, hne]

/-- `hit` is the latest hit of the target in `trace`. -/
def LatestHit (config : Native.DetectorConfig) (trace : List Hit) (hit : Hit) : Prop :=
  ∃ before after, trace = before ++ hit :: after ∧ hit.task = target config ∧
    ∀ other ∈ after, other.task ≠ target config

/-- The hit at position `i` ends a gap of the target: it enters epoll, the latest
hit of the target before it left epoll, and more than the threshold has passed. -/
def Gap (config : Native.DetectorConfig) (trace : List Hit) (i : ℕ)
    (event : Native.BlockingEvent) : Prop :=
  ∃ before enter after exit,
    trace = before ++ enter :: after ∧ i = before.length ∧
    enter.task = target config ∧ enter.kind = .sysEnter ∧
    LatestHit config before exit ∧ exit.kind = .sysExit ∧
    config.thresholdNs.toNat < enter.time.toNat - exit.time.toNat ∧
    event = { startNs := exit.time, endNs := enter.time,
              pid := config.targetTgid, tid := config.targetTid }

theorem LatestHit.mem {config : Native.DetectorConfig} {trace : List Hit} {hit : Hit}
    (h : LatestHit config trace hit) : hit ∈ trace := by
  obtain ⟨before, after, rfl, -, -⟩ := h
  simp

/-- Hits come with the time of a clock that never goes back. -/
def Sorted (trace : List Hit) : Prop :=
  trace.Pairwise fun earlier later => earlier.time ≤ later.time

/-! ## The pending exit -/

/-- The time of the target's latest hit, when that hit is an exit. -/
def pending (config : Native.DetectorConfig) (trace : List Hit) : Option UInt64 :=
  match (trace.filter fun hit => hit.task = target config).getLast? with
  | some ⟨.sysExit, _, _, time⟩ => some time
  | _ => none

theorem pending_concat_of_ne {config : Native.DetectorConfig} (trace : List Hit)
    {hit : Hit} (hhit : hit.task ≠ target config) :
    pending config (trace ++ [hit]) = pending config trace := by
  simp [pending, List.filter_append, hhit]

theorem pending_concat_exit {config : Native.DetectorConfig} (trace : List Hit)
    {hit : Hit} (hhit : hit.task = target config) (hkind : hit.kind = .sysExit) :
    pending config (trace ++ [hit]) = some hit.time := by
  obtain ⟨kind, variant, task, time⟩ := hit
  subst hkind hhit
  simp [pending, List.filter_append]

theorem pending_concat_enter {config : Native.DetectorConfig} (trace : List Hit)
    {hit : Hit} (hhit : hit.task = target config) (hkind : hit.kind = .sysEnter) :
    pending config (trace ++ [hit]) = none := by
  obtain ⟨kind, variant, task, time⟩ := hit
  subst hkind hhit
  simp [pending, List.filter_append]

theorem latestHit_iff_getLast? {config : Native.DetectorConfig} {trace : List Hit}
    {hit : Hit} :
    LatestHit config trace hit ↔
      (trace.filter fun hit => hit.task = target config).getLast? = some hit := by
  constructor
  · rintro ⟨before, after, rfl, hhit, hafter⟩
    have hnone : after.filter (fun hit => hit.task = target config) = [] := by
      simpa using hafter
    simp [List.filter_append, hhit, hnone]
  · intro hlast
    induction trace using List.reverseRecOn with
    | nil => simp at hlast
    | append_singleton trace last ih =>
        by_cases htarget : last.task = target config
        · have heq : last = hit := by simpa [List.filter_append, htarget] using hlast
          exact ⟨trace, [], by rw [heq], heq ▸ htarget, by simp⟩
        · obtain ⟨before, after, rfl, hhit, hafter⟩ :=
            ih (by simpa [List.filter_append, htarget] using hlast)
          refine ⟨before, after ++ [last], by simp, hhit, ?_⟩
          exact List.forall_mem_append.mpr ⟨hafter, List.forall_mem_singleton.mpr htarget⟩

theorem pending_eq_some_iff {config : Native.DetectorConfig} {trace : List Hit}
    {time : UInt64} :
    pending config trace = some time ↔
      ∃ exit, LatestHit config trace exit ∧ exit.kind = .sysExit ∧ exit.time = time := by
  simp only [latestHit_iff_getLast?, pending]
  constructor
  · intro h
    split at h
    · rename_i variant task time' hlast
      exact ⟨_, hlast, rfl, Option.some.inj h⟩
    · cases h
  · rintro ⟨⟨kind, variant, task, time'⟩, hlast, rfl, rfl⟩
    simp [hlast]

/-! ## The program refines the pending exit -/

/-- The map that holds a pending exit. -/
def CallbackStart.of (config : Native.DetectorConfig) (start : Option UInt64) :
    CallbackStart :=
  fun tid => if tid = config.targetTid then start else none

theorem update_of (config : Native.DetectorConfig) (old new : Option UInt64) :
    Function.update (CallbackStart.of config old) config.targetTid new =
      CallbackStart.of config new := by
  funext tid
  by_cases htid : tid = config.targetTid
  · simp [CallbackStart.of, htid]
  · simp [CallbackStart.of, Function.update, htid]

/-- The event of an entry at `now`, given the pending exit. -/
def closing (config : Native.DetectorConfig) (start : Option UInt64) (now : UInt64) :
    Option Native.BlockingEvent :=
  match start with
  | none => none
  | some startNs =>
      if now - startNs > config.thresholdNs then
        some { startNs := startNs, endNs := now,
               pid := config.targetTgid, tid := config.targetTid }
      else none

/-- What one hit does to the map of a trace, and what it outputs. -/
theorem step_of_pending (config : Native.DetectorConfig) (trace : List Hit) (hit : Hit) :
    (program config).step (.of config (pending config trace)) hit =
      (.of config (pending config (trace ++ [hit])),
        if hit.task = target config ∧ hit.kind = .sysEnter then
          (closing config (pending config trace) hit.time).toList
        else []) := by
  by_cases hhit : hit.task = target config
  · cases hkind : hit.kind with
    | sysExit =>
        rw [pending_concat_exit trace hhit hkind]
        simp [program, hkind, onEpollExit, isTarget_eq, hhit, update_of]
    | sysEnter =>
        rw [pending_concat_enter trace hhit hkind]
        cases hpending : pending config trace with
        | none =>
            simp [program, hkind, onEpollEnter, isTarget_eq, hhit, closing,
              CallbackStart.of]
        | some startNs =>
            have hlookup :
                CallbackStart.of config (some startNs) config.targetTid = some startNs := by
              simp [CallbackStart.of]
            simp only [program, hkind, onEpollEnter, isTarget_eq, hhit, if_true, hlookup,
              update_of, closing]
            split <;> simp
  · rw [pending_concat_of_ne trace hhit]
    cases hkind : hit.kind with
    | sysExit => simp [program, hkind, onEpollExit, isTarget_eq, hhit]
    | sysEnter => simp [program, hkind, onEpollEnter, isTarget_eq, hhit]

theorem run_state (config : Native.DetectorConfig) (trace : List Hit) :
    ((program config).run (fun _ => none) trace).1 =
      .of config (pending config trace) := by
  induction trace using List.reverseRecOn with
  | nil =>
      funext tid
      simp [CallbackStart.of, pending]
  | append_singleton trace hit ih =>
      rw [Transducer.run_concat, ih, step_of_pending]

/-! ## Gaps of a longer trace -/

theorem closing_eq_some_iff {config : Native.DetectorConfig} {trace : List Hit}
    {now : UInt64} {event : Native.BlockingEvent}
    (hsorted : ∀ hit ∈ trace, hit.time ≤ now) :
    closing config (pending config trace) now = some event ↔
      ∃ exit, LatestHit config trace exit ∧ exit.kind = .sysExit ∧
        config.thresholdNs.toNat < now.toNat - exit.time.toNat ∧
        event = { startNs := exit.time, endNs := now,
                  pid := config.targetTgid, tid := config.targetTid } := by
  have hwide : ∀ exit ∈ trace, now - exit.time > config.thresholdNs ↔
      config.thresholdNs.toNat < now.toNat - exit.time.toNat := by
    intro exit hexit
    rw [gt_iff_lt, UInt64.lt_iff_toNat_lt, UInt64.toNat_sub_of_le _ _ (hsorted exit hexit)]
  constructor
  · intro h
    cases hpending : pending config trace with
    | none => simp [hpending, closing] at h
    | some startNs =>
        obtain ⟨exit, hlatest, hkind, rfl⟩ := pending_eq_some_iff.mp hpending
        simp only [hpending, closing, hwide exit hlatest.mem] at h
        split at h
        · rename_i hlt
          exact ⟨exit, hlatest, hkind, hlt, (Option.some.inj h).symm⟩
        · cases h
  · rintro ⟨exit, hlatest, hkind, hlt, rfl⟩
    have hpending := pending_eq_some_iff.mpr ⟨exit, hlatest, hkind, rfl⟩
    simp [hpending, closing, hwide exit hlatest.mem, hlt]

/-- A gap of a trace that is one hit longer is an old gap or ends with that hit. -/
theorem gap_concat {config : Native.DetectorConfig} {trace : List Hit} {hit : Hit}
    {i : ℕ} {event : Native.BlockingEvent} (hsorted : ∀ old ∈ trace, old.time ≤ hit.time) :
    Gap config (trace ++ [hit]) i event ↔
      Gap config trace i event ∨
        (i = trace.length ∧ hit.task = target config ∧ hit.kind = .sysEnter ∧
          closing config (pending config trace) hit.time = some event) := by
  rw [closing_eq_some_iff hsorted]
  constructor
  · rintro ⟨before, enter, after, exit, htrace, rfl, hrest⟩
    rcases List.eq_nil_or_concat after with rfl | ⟨after, last, rfl⟩
    · obtain ⟨rfl, hlast⟩ := List.append_inj' htrace rfl
      obtain rfl : hit = enter := by simpa using hlast
      obtain ⟨hhit, hkind, hlatest, hexit, hlt, hevent⟩ := hrest
      exact Or.inr ⟨rfl, hhit, hkind, exit, hlatest, hexit, hlt, hevent⟩
    · have htrace' : trace ++ [hit] = (before ++ enter :: after) ++ [last] := by
        rw [htrace]
        simp
      obtain ⟨rfl, -⟩ := List.append_inj' htrace' rfl
      exact Or.inl ⟨before, enter, after, exit, rfl, rfl, hrest⟩
  · rintro (⟨before, enter, after, exit, rfl, rfl, hrest⟩ |
      ⟨rfl, hhit, hkind, exit, hlatest, hexit, hlt, hevent⟩)
    · exact ⟨before, enter, after ++ [hit], exit, by simp, rfl, hrest⟩
    · exact ⟨trace, hit, [], exit, rfl, rfl, hhit, hkind, hlatest, hexit, hlt, hevent⟩

theorem gap_lt_length {config : Native.DetectorConfig} {trace : List Hit} {i : ℕ}
    {event : Native.BlockingEvent} (h : Gap config trace i event) : i < trace.length := by
  obtain ⟨before, enter, after, exit, rfl, rfl, -⟩ := h
  simp

/-- The program outputs the gaps of the hits it sees, each once and in order. -/
theorem run_program_eq_gaps (config : Native.DetectorConfig) {trace : List Hit}
    (hsorted : Sorted trace) :
    ∃ emitted : List (ℕ × Native.BlockingEvent),
      emitted.Pairwise (fun x y => x.1 < y.1) ∧
      ((program config).run (fun _ => none) trace).2 = emitted.map (·.2) ∧
      ∀ i event, (i, event) ∈ emitted ↔ Gap config trace i event := by
  induction trace using List.reverseRecOn with
  | nil =>
      refine ⟨[], List.Pairwise.nil, rfl, ?_⟩
      intro i event
      constructor
      · intro h
        cases h
      · intro h
        exact absurd (gap_lt_length h) (by simp)
  | append_singleton trace hit ih =>
      obtain ⟨hbefore, -, hlast⟩ := List.pairwise_append.mp hsorted
      have hold : ∀ old ∈ trace, old.time ≤ hit.time := by
        intro old hmem
        exact hlast old hmem hit (by simp)
      obtain ⟨emitted, horder, hrun, hgaps⟩ := ih hbefore
      let new : List (ℕ × Native.BlockingEvent) :=
        if hit.task = target config ∧ hit.kind = .sysEnter then
          ((closing config (pending config trace) hit.time).map (trace.length, ·)).toList
        else []
      have hnew : ∀ i event, (i, event) ∈ new ↔
          (i = trace.length ∧ hit.task = target config ∧ hit.kind = .sysEnter ∧
            closing config (pending config trace) hit.time = some event) := by
        intro i event
        by_cases hcloses : hit.task = target config ∧ hit.kind = .sysEnter
        · simp [new, hcloses, eq_comm, and_comm]
        · simp [new, hcloses]
          tauto
      refine ⟨emitted ++ new, ?_, ?_, ?_⟩
      · refine List.pairwise_append.mpr ⟨horder, ?_, ?_⟩
        · by_cases hcloses : hit.task = target config ∧ hit.kind = .sysEnter
          · simp only [new, if_pos hcloses]
            cases closing config (pending config trace) hit.time <;> simp
          · simp [new, hcloses]
        · rintro ⟨i, event⟩ hmem ⟨j, event'⟩ hmem'
          obtain ⟨rfl, -⟩ := (hnew j event').mp hmem'
          exact gap_lt_length ((hgaps i event).mp hmem)
      · rw [Transducer.run_concat, run_state, step_of_pending, hrun, List.map_append]
        by_cases hcloses : hit.task = target config ∧ hit.kind = .sysEnter
        · simp only [new, if_pos hcloses]
          cases closing config (pending config trace) hit.time <;> simp
        · simp [new, hcloses]
      · intro i event
        rw [gap_concat hold, List.mem_append, hgaps, hnew]

/-- The exactness of the gap detector, with the probe pairs of the enabled variants
attached and an empty map. -/
theorem events_eq_gaps (config : Native.DetectorConfig)
    {enabled : Native.EpollVariant → Bool} {trace : List Hit}
    (henabled : ∀ hit ∈ trace, enabled hit.variant = true) (hsorted : Sorted trace) :
    ∃ emitted : List (ℕ × Native.BlockingEvent),
      emitted.Pairwise (fun x y => x.1 < y.1) ∧
      events config enabled trace = emitted.map (·.2) ∧
      ∀ i event, (i, event) ∈ emitted ↔ Gap config trace i event := by
  have hall : trace.filter (fun hit => enabled hit.variant) = trace :=
    List.filter_eq_self.mpr henabled
  simpa [events, attached, Transducer.run_restrict, hall] using
    run_program_eq_gaps config hsorted

/-- Two threads and two variants: the exit of the other thread does not count. -/
theorem events_eq_gaps_interleaved :
    let config : Native.DetectorConfig := ⟨7, 9, 100, 3, 4⟩
    let trace : List Hit :=
      [⟨.sysExit, .epollWait, target config, 10⟩,
        ⟨.sysExit, .epollWait, ⟨3, 4, 7, 8⟩, 20⟩,
        ⟨.sysEnter, .epollPwait, target config, 150⟩]
    ∃ emitted : List (ℕ × Native.BlockingEvent),
      emitted.Pairwise (fun x y => x.1 < y.1) ∧
      events config (fun _ => true) trace = emitted.map (·.2) ∧
      ∀ i event, (i, event) ∈ emitted ↔ Gap config trace i event :=
  events_eq_gaps _ (by decide) (by simp [Sorted])

end Blocksnoop.Bpf
