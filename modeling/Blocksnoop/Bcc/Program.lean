import Blocksnoop.Bpf.Program
import Blocksnoop.Core

/-!
# The BCC program

The probe template of `detector.py` as `_build_bpf_source` instantiates it, and
the callback of `BccDetector`.  The text of a Python integer is the C constant
of the same value, so the instantiated source is given by the integers that fill
its placeholders.
-/

namespace Blocksnoop.Bcc

open Blocksnoop.Support
open Blocksnoop.Bpf (Hit Task CallbackStart getNsCurrentPidTgid)

/-- `_detect_epoll_syscalls`, given the tracepoint directories that exist. -/
def detectEpollSyscalls (isdir : Native.EpollVariant → Bool) :
    Except PyException (List Native.EpollVariant) :=
  let available := Native.EpollVariant.table.filter isdir
  if available = [] then .error (.other "RuntimeError") else .ok available

/-- The placeholders of the instantiated source; `__USE_NS_PID__` is defined when
the namespace is given. -/
structure BpfSource where
  epollSyscalls : List Native.EpollVariant
  thresholdNs : ℤ
  targetTgid : ℤ
  targetTid : ℤ
  pidns : Option (ℤ × ℤ)
  deriving Repr, DecidableEq

def buildBpfSource {F : Type} [PyRuntime F] (thresholdMs : F) (targetTgid targetTid : ℤ)
    (epollSyscalls : List Native.EpollVariant) (pidnsInfo : Option (ℤ × ℤ)) :
    Except PyException BpfSource := do
  let thresholdNs ← PyRuntime.toInt (PyRuntime.mulInt thresholdMs 1000000)
  return { epollSyscalls, thresholdNs, targetTgid, targetTid, pidns := pidnsInfo }

/-- `x != constant` for a `u32`: a constant that fits an `int` is converted to the
unsigned type, any other is compared by value. -/
def differs (x : UInt32) (constant : ℤ) : Bool :=
  if -2 ^ 31 ≤ constant ∧ constant < 2 ^ 31 then x != UInt32.ofInt constant
  else (x.toNat : ℤ) != constant

/-- The ids a probe compares, `tgid` first.  Without a namespace they are the two
halves of what `bpf_get_current_pid_tgid` returns. -/
def currentIds (source : BpfSource) (currentPidTgid : Task → UInt64) (task : Task) :
    Option (UInt32 × UInt32) :=
  match source.pidns with
  | some (dev, ino) =>
      (getNsCurrentPidTgid task (UInt64.ofInt dev) (UInt64.ofInt ino)).map
        fun nsdata => (nsdata.2, nsdata.1)
  | none =>
      some ((currentPidTgid task >>> 32).toUInt32, (currentPidTgid task).toUInt32)

def sysExitProbe (source : BpfSource) (currentPidTgid : Task → UInt64)
    (map : CallbackStart) (hit : Hit) : CallbackStart × List Native.BlockingEvent :=
  match currentIds source currentPidTgid hit.task with
  | none => (map, [])
  | some (tgid, tid) =>
      if differs tgid source.targetTgid || differs tid source.targetTid then (map, [])
      else (Function.update map tid (some hit.time), [])

def sysEnterProbe (source : BpfSource) (currentPidTgid : Task → UInt64)
    (map : CallbackStart) (hit : Hit) : CallbackStart × List Native.BlockingEvent :=
  match currentIds source currentPidTgid hit.task with
  | none => (map, [])
  | some (tgid, tid) =>
      if differs tgid source.targetTgid || differs tid source.targetTid then (map, [])
      else
        match map tid with
        | none => (map, [])
        | some tsp =>
            let delta := hit.time - tsp
            (Function.update map tid none,
              if delta > UInt64.ofInt source.thresholdNs then
                [{ startNs := tsp, endNs := hit.time, pid := tgid, tid := tid }]
              else [])

/-- The probe pairs of the source; a system call without one has no probe. -/
def program (source : BpfSource) (currentPidTgid : Task → UInt64) :
    Transducer Hit Native.BlockingEvent CallbackStart where
  step map hit :=
    if hit.variant ∈ source.epollSyscalls then
      match hit.kind with
      | .sysExit => sysExitProbe source currentPidTgid map hit
      | .sysEnter => sysEnterProbe source currentPidTgid map hit
    else (map, [])

/-- The event of `BccDetector._handle_event`, read from the sample's bytes. -/
def handleEvent (event : Native.BlockingEvent) : BlockingEvent :=
  { startNs := event.startNs.toNat, endNs := event.endNs.toNat,
    pid := event.pid.toNat, tid := event.tid.toNat }

/-- The events handed to the callback in a run from the empty map. -/
def events (source : BpfSource) (currentPidTgid : Task → UInt64) (trace : List Hit) :
    List BlockingEvent :=
  ((program source currentPidTgid).run (fun _ => none) trace).2.map handleEvent

end Blocksnoop.Bcc
