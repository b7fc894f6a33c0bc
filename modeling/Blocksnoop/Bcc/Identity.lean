import Blocksnoop.Bcc.Agreement
import Blocksnoop.Diagnostics.Namespace

/-!
# The target of the BCC detector

`_start` of `BccDetector` reads the identity of its target from `/proc` with readers of its own,
which fall back where the Core backend raises.  Where the Core backend can build its command,
the two backends, and the sampler beside them, are started on the same task, and they deliver
the same events.
-/

namespace Blocksnoop

open Blocksnoop.Support Blocksnoop.CoreBackend

/-- The last word of an `NSpid` line, if it has two words. -/
def innermost (line : List Char) : Option (List Char) :=
  if 2 ≤ (pySplit line).length then (pySplit line).getLast? else none

/-- The body of `_resolve_ns_pid` and of `_resolve_target_ns_tgid`: the first `NSpid` line
decides, and without one the id is returned as it is. -/
def nsPidOrHost (proc : ProcSnapshot) (hostPid : ℤ) : Except PyException ℤ :=
  match proc.statusFile hostPid with
  | none => .ok hostPid
  | some status =>
      match ((pyLines status).find? "NSpid:".toList.isPrefixOf).bind innermost with
      | none => .ok hostPid
      | some word =>
          match pyInt word with
          | none => .error (.other "ValueError")
          | some pid => .ok pid

namespace Profiler

def resolveNsPid (proc : ProcSnapshot) (pid : ℤ) : Except PyException ℤ :=
  nsPidOrHost proc pid

end Profiler

namespace Bcc

open Blocksnoop.Diagnostics (WellFormedStatus isPrefixOf_iff_statusKey pySplit_append_cons
  buildCommand_eq_ok_iff Identity)
open Blocksnoop.Bpf (Hit Task Sorted)

def resolveTargetNsTgid (proc : ProcSnapshot) (hostPid : ℤ) : Except PyException ℤ :=
  nsPidOrHost proc hostPid

def resolveTargetNsTid (proc : ProcSnapshot) (hostTid : ℤ) : Except PyException ℤ :=
  resolveTargetNsTgid proc hostTid

/-- The namespace of the target, or else that of the process itself. -/
def getPidnsInfo (proc : ProcSnapshot) (targetPid : Option ℤ) : Option (ℤ × ℤ) :=
  (match targetPid with
    | some pid => [some pid, none]
    | none => [none]).findSome? proc.pidNamespaceFile

/-! ## The readers -/

/-- On a file of the kernel, the two scans find the same word. -/
theorem find?_of_lastNSpid {lines : List (List Char)} {n : ℤ}
    (hnspid : ∀ line ∈ lines, Diagnostics.statusKey line = some "NSpid".toList →
      ∃ numbers, line = "NSpid:".toList ++ '\t' :: numbers ∧ pySplit numbers ≠ [])
    (h : lastNSpid lines = some n) :
    ∃ word, (lines.find? "NSpid:".toList.isPrefixOf).bind innermost = some word ∧
      pyInt word = some n := by
  induction lines with
  | nil => cases h
  | cons line lines ih =>
      by_cases hline : "NSpid:".toList.isPrefixOf line = true
      · obtain ⟨numbers, htext, hnumbers⟩ :=
          hnspid line List.mem_cons_self ((isPrefixOf_iff_statusKey line).mp hline)
        have hwords : pySplit line = "NSpid:".toList :: pySplit numbers := by
          rw [htext, pySplit_append_cons _ _ (show isPySpace '\t' = true by decide)]
          rfl
        obtain ⟨word, words, hcons⟩ := List.exists_cons_of_ne_nil hnumbers
        rw [lastNSpid, if_pos hline, hwords] at h
        simp only [List.drop_succ_cons, List.drop_zero, hcons] at h
        refine ⟨(word :: words).getLast (by simp), ?_, h⟩
        rw [List.find?_cons_of_pos hline, Option.bind_some, innermost, hwords, hcons,
          if_pos (by simp), List.getLast?_cons_cons,
          List.getLast?_eq_some_getLast (List.cons_ne_nil _ _)]
      · rw [lastNSpid, if_neg hline] at h
        rw [List.find?_cons_of_neg hline]
        exact ih (fun other hother => hnspid other (List.mem_cons_of_mem _ hother)) h

theorem nsPidOrHost_of_resolveNamespacePid {proc : ProcSnapshot} {pid n : ℤ}
    (hwell : ∀ status, proc.statusFile pid = some status → WellFormedStatus status)
    (h : resolveNamespacePid proc pid = .ok n) : nsPidOrHost proc pid = .ok n := by
  obtain ⟨status, hstatus, hlast⟩ := Identity.exists_lastNSpid h
  obtain ⟨word, hword, hint⟩ := find?_of_lastNSpid (hwell status hstatus).nspid hlast
  unfold nsPidOrHost
  rw [hstatus]
  dsimp only
  rw [hword]
  dsimp only
  rw [hint]

theorem getPidnsInfo_of_target {proc : ProcSnapshot} {pid dev ino : ℤ}
    (h : proc.pidNamespaceFile (some pid) = some (dev, ino)) :
    getPidnsInfo proc (some pid) = some (dev, ino) := by
  unfold getPidnsInfo
  rw [List.findSome?_cons, h]

section

variable {F : Type} [PyRuntime F]

/-- The program of `_start`; an exception is raised again by `start`. -/
def startSource (config : DetectorConfig F) (proc : ProcSnapshot)
    (isdir : Native.EpollVariant → Bool) : Except PyException BpfSource := do
  let epollSyscalls ← detectEpollSyscalls isdir
  let targetTgid ← resolveTargetNsTgid proc config.pid
  match config.tid with
  | none => .error (.other "AssertionError")
  | some tid => do
      let targetTid ← resolveTargetNsTid proc tid
      buildBpfSource config.thresholdMs targetTgid targetTid epollSyscalls
        (getPidnsInfo proc (some config.pid))

/-- Where the Core backend can build its command, the BCC backend starts on the program of the
same target. -/
theorem startSource_eq {d launched : CoreDetector F} {proc : ProcSnapshot} {sidecar : String}
    {arguments : List String} {config : Native.DetectorConfig}
    {enabled : Native.EpollVariant → Bool}
    (hbuild : d.buildCommand proc sidecar = .ok (arguments, launched))
    (hexpects : Expects launched config)
    (hwell : ∀ id status, id = d.config.pid ∨ some id = d.config.tid →
      proc.statusFile id = some status → WellFormedStatus status)
    (henabled : ∃ v, enabled v = true) :
    startSource d.config proc enabled = .ok (sourceFor config enabled) ∧
      nsPidOrHost proc d.config.pid = .ok launched.expectedPid ∧
      ∃ tid localTid, d.config.tid = some tid ∧ launched.expectedTid = some localTid ∧
        nsPidOrHost proc tid = .ok localTid := by
  have hconfig : launched.config = d.config := by
    obtain ⟨pid, tid, dev, ino, thresholdNs, -, rfl, -⟩ := CoreDetector.buildCommand_eq_ok hbuild
    rfl
  have hthreshold := hexpects.threshold
  rw [hconfig] at hthreshold
  have hbuilt := hbuild
  unfold CoreDetector.buildCommand pidNamespace at hbuilt
  split at hbuilt
  · cases hbuilt
  next dev ino hns =>
    obtain ⟨localPid, hpid, hbuilt⟩ := exists_of_bind_eq_ok hbuilt
    split at hbuilt
    · cases hbuilt
    next tid htid =>
      obtain ⟨_, -, hbuilt⟩ := exists_of_bind_eq_ok hbuilt
      obtain ⟨localTid, hlocalTid, hbuilt⟩ := exists_of_bind_eq_ok hbuilt
      obtain ⟨thresholdNs, -, hbuilt⟩ := exists_of_bind_eq_ok hbuilt
      obtain ⟨-, rfl⟩ := Prod.mk.inj (Except.ok.inj hbuilt)
      obtain rfl : localPid = config.targetTgid.toNat := hexpects.pid
      obtain rfl : localTid = config.targetTid.toNat := Option.some.inj hexpects.tid
      obtain rfl : dev = config.pidnsDev.toNat := Option.some.inj hexpects.dev
      obtain rfl : ino = config.pidnsIno.toNat := Option.some.inj hexpects.ino
      have htgid := nsPidOrHost_of_resolveNamespacePid
        (fun status => hwell d.config.pid status (.inl rfl)) hpid
      have htask := nsPidOrHost_of_resolveNamespacePid
        (fun status => hwell tid status (.inr htid.symm)) hlocalTid
      have hsyscalls : detectEpollSyscalls enabled =
          .ok (Native.EpollVariant.table.filter enabled) := by
        obtain ⟨v, hv⟩ := henabled
        unfold detectEpollSyscalls
        dsimp only
        rw [if_neg]
        exact List.ne_nil_of_mem (List.mem_filter.mpr ⟨Native.EpollVariant.mem_table v, hv⟩)
      refine ⟨?_, htgid, tid, _, htid, rfl, htask⟩
      have hproduct : PyRuntime.toInt (PyRuntime.mulInt d.config.thresholdMs 1000000) =
          .ok (config.thresholdNs.toNat : ℤ) := hthreshold
      simp only [startSource, hsyscalls, resolveTargetNsTgid, resolveTargetNsTid, htgid, htid,
        htask, getPidnsInfo_of_target hns, buildBpfSource]
      change (PyRuntime.toInt (PyRuntime.mulInt d.config.thresholdMs 1000000) >>= _) = _
      rw [hproduct]
      rfl

/-- One snapshot of `/proc`, one target: in the namespace of the target the sampler looks for the
process and the thread that the Core backend names to its collector, and the BCC backend
delivers the events of the Core backend. -/
theorem backends_agree {d launched : CoreDetector F} {proc : ProcSnapshot} {sidecar : String}
    {arguments : List String} {config : Native.DetectorConfig}
    {enabled : Native.EpollVariant → Bool} {trace : List Hit} (currentPidTgid : Task → UInt64)
    (hbuild : d.buildCommand proc sidecar = .ok (arguments, launched))
    (hexpects : Expects launched config)
    (hwell : ∀ id status, id = d.config.pid ∨ some id = d.config.tid →
      proc.statusFile id = some status → WellFormedStatus status)
    (henabled : ∃ v, enabled v = true) (hsorted : Sorted trace) :
    Profiler.resolveNsPid proc d.config.pid = .ok launched.expectedPid ∧
      (∃ tid localTid, d.config.tid = some tid ∧ launched.expectedTid = some localTid ∧
        Profiler.resolveNsPid proc tid = .ok localTid) ∧
      ∃ source, startSource d.config proc enabled = .ok source ∧
        events source currentPidTgid trace =
          (coreSession launched config enabled trace).events := by
  obtain ⟨hsource, hpid, htid⟩ := startSource_eq hbuild hexpects hwell henabled
  refine ⟨hpid, htid, sourceFor config enabled, hsource, ?_⟩
  rw [events, program_run_eq, coreSession_events hexpects enabled hsorted]

end

/-- A gap of twenty milliseconds of the nested target. -/
def nestedTrace : List Hit :=
  [⟨.sysExit, .epollWait, ⟨7, 8, 7, 9⟩, 10⟩, ⟨.sysEnter, .epollWait, ⟨7, 8, 7, 9⟩, 20000010⟩]

theorem backends_agree_nested :
    Profiler.resolveNsPid nestedProc nestedDetector.config.pid = .ok nestedLaunched.expectedPid ∧
      (∃ tid localTid, nestedDetector.config.tid = some tid ∧
        nestedLaunched.expectedTid = some localTid ∧
        Profiler.resolveNsPid nestedProc tid = .ok localTid) ∧
      ∃ source, startSource nestedDetector.config nestedProc (fun _ => true) = .ok source ∧
        events source (fun _ => 0) nestedTrace =
          (coreSession nestedLaunched ⟨7, 9, 12500000, 7, 8⟩ (fun _ => true) nestedTrace).events :=
  backends_agree (fun _ => 0) nestedDetector_buildCommand
    ⟨rfl, rfl, rfl, rfl, nestedDetector_thresholdNs⟩
    (fun id status _ => Diagnostics.wellFormedStatus_nestedProc id status)
    ⟨.epollWait, rfl⟩ (by simp [Sorted, nestedTrace])

end Bcc

end Blocksnoop
