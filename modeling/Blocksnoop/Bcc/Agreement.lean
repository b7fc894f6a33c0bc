import Blocksnoop.Bcc.Program
import Blocksnoop.Bpf.Gap
import Blocksnoop.CoreBackend.RoundTrip

/-!
# The two backends agree

The BCC program and the Core program take the same steps on the same hits, and
both transports deliver every event.  The Core transport is the perf buffer of
the collector, its output lines and the protocol reader.
-/

namespace Blocksnoop.Bcc

open Blocksnoop.Support
open Blocksnoop.Bpf (Hit Task Sorted)
open Blocksnoop.CoreBackend (CoreDetector Session Expects Output)

/-! ## The programs -/

theorem ofInt_toNat_uint32 (v : UInt32) : UInt32.ofInt (v.toNat : ℤ) = v := by
  have hv := v.toNat_lt
  rw [UInt32.ofInt, Int.emod_eq_of_lt (by omega) (by omega), Int.toNat_natCast,
    UInt32.ofNat_toNat]

theorem ofInt_toNat_uint64 (v : UInt64) : UInt64.ofInt (v.toNat : ℤ) = v := by
  have hv := v.toNat_lt
  rw [UInt64.ofInt, Int.emod_eq_of_lt (by omega) (by omega), Int.toNat_natCast,
    UInt64.ofNat_toNat]

theorem differs_toNat (x y : UInt32) : differs x (y.toNat : ℤ) = (x != y) := by
  unfold differs
  split
  · rw [ofInt_toNat_uint32]
  · by_cases hxy : x = y
    · simp [hxy]
    · have hne : (x.toNat : ℤ) ≠ y.toNat := by
        intro h
        exact hxy (UInt32.toNat_inj.mp (by exact_mod_cast h))
      rw [bne_iff_ne.mpr hne, bne_iff_ne.mpr hxy]

/-- The source instantiated for the target of a Core configuration. -/
def sourceFor (config : Native.DetectorConfig)
    (enabled : Native.EpollVariant → Bool) : BpfSource where
  epollSyscalls := Native.EpollVariant.table.filter enabled
  thresholdNs := config.thresholdNs.toNat
  targetTgid := config.targetTgid.toNat
  targetTid := config.targetTid.toNat
  pidns := some (config.pidnsDev.toNat, config.pidnsIno.toNat)

/-- The ids a probe compares and those `is_target` compares are the same. -/
theorem currentIds_sourceFor (config : Native.DetectorConfig)
    (enabled : Native.EpollVariant → Bool) (currentPidTgid : Task → UInt64) (task : Task) :
    currentIds (sourceFor config enabled) currentPidTgid task =
      (Bpf.getNsCurrentPidTgid task config.pidnsDev config.pidnsIno).map
        fun nsdata => (nsdata.2, nsdata.1) := by
  simp only [currentIds, sourceFor, ofInt_toNat_uint64]

theorem sysExitProbe_sourceFor (config : Native.DetectorConfig)
    (enabled : Native.EpollVariant → Bool) (currentPidTgid : Task → UInt64)
    (map : Bpf.CallbackStart) (hit : Hit) :
    sysExitProbe (sourceFor config enabled) currentPidTgid map hit =
      Bpf.onEpollExit config map hit := by
  rw [sysExitProbe, currentIds_sourceFor, Bpf.onEpollExit, Bpf.isTarget]
  cases Bpf.getNsCurrentPidTgid hit.task config.pidnsDev config.pidnsIno with
  | none => rfl
  | some nsdata =>
      obtain ⟨pid, tgid⟩ := nsdata
      simp only [Option.map_some, sourceFor, differs_toNat]
      by_cases hids : tgid = config.targetTgid ∧ pid = config.targetTid
      · simp [hids]
      · have hdiffers : (tgid != config.targetTgid || pid != config.targetTid) = true := by
          simpa [← not_and_or] using hids
        simp only [hdiffers, hids, if_true, if_false]

theorem sysEnterProbe_sourceFor (config : Native.DetectorConfig)
    (enabled : Native.EpollVariant → Bool) (currentPidTgid : Task → UInt64)
    (map : Bpf.CallbackStart) (hit : Hit) :
    sysEnterProbe (sourceFor config enabled) currentPidTgid map hit =
      Bpf.onEpollEnter config map hit := by
  rw [sysEnterProbe, currentIds_sourceFor, Bpf.onEpollEnter, Bpf.isTarget]
  cases Bpf.getNsCurrentPidTgid hit.task config.pidnsDev config.pidnsIno with
  | none => rfl
  | some nsdata =>
      obtain ⟨pid, tgid⟩ := nsdata
      simp only [Option.map_some, sourceFor, differs_toNat, ofInt_toNat_uint64]
      by_cases hids : tgid = config.targetTgid ∧ pid = config.targetTid
      · obtain ⟨rfl, rfl⟩ := hids
        cases hstart : map config.targetTid with
        | none => simp [hstart]
        | some startNs => simp [hstart]
      · have hdiffers : (tgid != config.targetTgid || pid != config.targetTid) = true := by
          simpa [← not_and_or] using hids
        simp only [hdiffers, hids, if_true, if_false]

/-- On every hit the two programs do the same. -/
theorem program_step_eq (config : Native.DetectorConfig)
    (enabled : Native.EpollVariant → Bool) (currentPidTgid : Task → UInt64)
    (map : Bpf.CallbackStart) (hit : Hit) :
    (program (sourceFor config enabled) currentPidTgid).step map hit =
      (Bpf.attached config enabled).step map hit := by
  have hmem : hit.variant ∈ (sourceFor config enabled).epollSyscalls ↔
      enabled hit.variant = true := by
    simp [sourceFor, Native.EpollVariant.mem_table]
  cases hkind : hit.kind with
  | sysExit =>
      simp only [program, Bpf.attached, Transducer.restrict, Bpf.program, hmem, hkind,
        sysExitProbe_sourceFor]
  | sysEnter =>
      simp only [program, Bpf.attached, Transducer.restrict, Bpf.program, hmem, hkind,
        sysEnterProbe_sourceFor]

theorem program_run_eq (config : Native.DetectorConfig)
    (enabled : Native.EpollVariant → Bool) (currentPidTgid : Task → UInt64)
    (trace : List Hit) :
    ((program (sourceFor config enabled) currentPidTgid).run (fun _ => none) trace).2 =
      Bpf.events config enabled trace := by
  have hrun := Transducer.run_simulation
    (m := Bpf.attached config enabled)
    (n := program (sourceFor config enabled) currentPidTgid) (R := Eq) (f := id)
    (fun map _ hit hmap => by
      subst hmap
      rw [program_step_eq, List.map_id]
      exact ⟨rfl, rfl⟩)
    (s := fun _ => none) rfl trace
  rw [hrun.2, List.map_id, Bpf.events]

/-! ## The transports -/

/-- The raw size of a sample: a 24-byte struct and four bytes of alignment. -/
def rawSampleSize : ℕ := 28

section

variable {F : Type} [PyRuntime F]

/-- The protocol reader at the end of the lines the collector prints for a run. -/
def coreSession (d : CoreDetector F) (config : Native.DetectorConfig)
    (enabled : Native.EpollVariant → Bool) (trace : List Hit) : Session F :=
  (Session.mk d [] false).feedAll
    ((Bpf.events config enabled trace).filterMap fun event =>
      Native.handleSample event rawSampleSize config)

omit [PyRuntime F] in
/-- Every event of a run names the target and does not end before it starts. -/
theorem ofTarget_of_mem_events {config : Native.DetectorConfig}
    {enabled : Native.EpollVariant → Bool} {trace : List Hit} (hsorted : Sorted trace)
    {event : Native.BlockingEvent} (hevent : event ∈ Bpf.events config enabled trace) :
    (Output.event event).OfTarget config := by
  have hsorted' : Sorted (trace.filter fun hit => enabled hit.variant) :=
    List.Pairwise.filter _ hsorted
  obtain ⟨emitted, -, hrun, hgaps⟩ := Bpf.run_program_eq_gaps config hsorted'
  rw [Bpf.events, Bpf.attached, Transducer.run_restrict, hrun] at hevent
  obtain ⟨⟨i, e⟩, hmem, rfl⟩ := List.mem_map.mp hevent
  obtain ⟨before, enter, after, exit, -, -, -, -, -, -, hlt, rfl⟩ := (hgaps i e).mp hmem
  refine ⟨rfl, rfl, UInt64.le_iff_toNat_le.mpr ?_⟩
  dsimp only
  omega

/-- The protocol reader delivers every event of a run. -/
theorem coreSession_events {d : CoreDetector F} {config : Native.DetectorConfig}
    (hexpects : Expects d config) (enabled : Native.EpollVariant → Bool)
    {trace : List Hit} (hsorted : Sorted trace) :
    (coreSession d config enabled trace).events =
      (Bpf.events config enabled trace).map handleEvent := by
  have hlines : ((Bpf.events config enabled trace).filterMap fun event =>
      Native.handleSample event rawSampleSize config) =
      ((Bpf.events config enabled trace).map Output.event).map (Output.line config) := by
    have hsample : (fun event => Native.handleSample event rawSampleSize config) =
        some ∘ fun event => Native.emitEvent event config := rfl
    rw [hsample, List.filterMap_eq_map, List.map_map]
    rfl
  have houtputs : ∀ output ∈ (Bpf.events config enabled trace).map Output.event,
      output.OfTarget config := by
    intro output houtput
    obtain ⟨event, hevent, rfl⟩ := List.mem_map.mp houtput
    exact ofTarget_of_mem_events hsorted hevent
  obtain ⟨hevents, -⟩ :=
    CoreBackend.feedAll_outputs (s := ⟨d, [], false⟩) hexpects rfl houtputs
  rw [coreSession, hlines, hevents, List.nil_append, List.flatMap_map]
  exact List.map_eq_flatMap.symm

/-- The two backends hand the same events to the callback, in the same order. -/
theorem events_eq_coreSession_events {d : CoreDetector F} {config : Native.DetectorConfig}
    {enabled : Native.EpollVariant → Bool} {epollSyscalls : List Native.EpollVariant}
    {source : BpfSource} {trace : List Hit} (currentPidTgid : Task → UInt64)
    (hexpects : Expects d config)
    (hsyscalls : detectEpollSyscalls enabled = .ok epollSyscalls)
    (hsource : buildBpfSource d.config.thresholdMs config.targetTgid.toNat
      config.targetTid.toNat epollSyscalls
      (some (config.pidnsDev.toNat, config.pidnsIno.toNat)) = .ok source)
    (hsorted : Sorted trace) :
    events source currentPidTgid trace = (coreSession d config enabled trace).events := by
  have hvariants : epollSyscalls = Native.EpollVariant.table.filter enabled := by
    unfold detectEpollSyscalls at hsyscalls
    dsimp only at hsyscalls
    split at hsyscalls
    · cases hsyscalls
    · exact (Except.ok.inj hsyscalls).symm
  have hthreshold : PyRuntime.toInt (PyRuntime.mulInt d.config.thresholdMs 1000000) =
      .ok (config.thresholdNs.toNat : ℤ) := hexpects.threshold
  have hfor : source = sourceFor config enabled := by
    rw [buildBpfSource, hthreshold, hvariants] at hsource
    exact (Except.ok.inj hsource).symm
  rw [events, hfor, program_run_eq, coreSession_events hexpects enabled hsorted]

end

/-- A detector on one thread of a container, with a threshold of one microsecond. -/
def containerDetector : CoreDetector ℚ where
  config := { pid := 100, thresholdMs := 1 / 1000, tid := some 101 }
  expectedPid := 7
  expectedTid := some 9
  pidnsDev := some 3
  pidnsIno := some 4

theorem containerDetector_thresholdNs :
    containerDetector.config.thresholdNs = .ok (1000 : ℤ) := by
  have hproduct : (1 / 1000 : ℚ) * ((1000000 : ℤ) : ℚ) = ((1000 : ℤ) : ℚ) := by norm_num
  have hneg : ¬ ((1000 : ℤ) : ℚ) < 0 := by norm_num
  simp only [DetectorConfig.thresholdNs, PyRuntime.toInt, PyRuntime.mulInt,
    containerDetector, hproduct, if_neg hneg, Int.floor_intCast]

theorem events_eq_coreSession_events_container :
    let trace : List Hit :=
      [⟨.sysExit, .epollWait, ⟨3, 4, 7, 9⟩, 10⟩, ⟨.sysExit, .epollPwait, ⟨3, 4, 7, 8⟩, 20⟩,
        ⟨.sysEnter, .epollPwait, ⟨3, 4, 7, 9⟩, 1500⟩]
    events (sourceFor ⟨7, 9, 1000, 3, 4⟩ fun _ => true) (fun _ => 0) trace =
      (coreSession containerDetector ⟨7, 9, 1000, 3, 4⟩ (fun _ => true) trace).events := by
  refine events_eq_coreSession_events _ ⟨rfl, rfl, rfl, rfl, containerDetector_thresholdNs⟩
    (rfl : detectEpollSyscalls (fun _ => true) = .ok Native.EpollVariant.table) ?_
    (by simp [Sorted])
  have hthreshold : PyRuntime.toInt (PyRuntime.mulInt containerDetector.config.thresholdMs
      1000000) = .ok (1000 : ℤ) := containerDetector_thresholdNs
  rw [buildBpfSource, hthreshold]
  rfl

end Blocksnoop.Bcc
