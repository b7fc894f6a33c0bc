import Blocksnoop.Native.Sidecar
import Blocksnoop.Support.Transducer

/-!
# The Core program

The tracepoint handlers of `bpf/core_blockdetect.bpf.c`.  The kernel is assumed
to keep the map and to know the tasks: a map operation on one key succeeds, and
the namespace helper answers with the ids the task has in its own namespace.
-/

namespace Blocksnoop.Bpf

open Blocksnoop.Support

/-- The task that runs into a tracepoint: its PID namespace and its ids there. -/
structure Task where
  pidnsDev : UInt64
  pidnsIno : UInt64
  tgid : UInt32
  pid : UInt32
  deriving Repr, DecidableEq

inductive ProbeKind where
  | sysExit
  | sysEnter
  deriving Repr, DecidableEq

/-- A hit of an epoll tracepoint.  The time is what the kernel clock shows when
the handler of the hit reads it. -/
structure Hit where
  kind : ProbeKind
  variant : Native.EpollVariant
  task : Task
  time : UInt64
  deriving Repr, DecidableEq

/-- The map from a thread to the time of its last exit. -/
abbrev CallbackStart := UInt32 → Option UInt64

/-- `bpf_get_ns_current_pid_tgid` -/
def getNsCurrentPidTgid (task : Task) (dev ino : UInt64) : Option (UInt32 × UInt32) :=
  if task.pidnsDev = dev ∧ task.pidnsIno = ino then some (task.pid, task.tgid) else none

/-- The thread id of the current task when it is the target. -/
def isTarget (config : Native.DetectorConfig) (task : Task) : Option UInt32 :=
  match getNsCurrentPidTgid task config.pidnsDev config.pidnsIno with
  | none => none
  | some (pid, tgid) =>
      if tgid = config.targetTgid ∧ pid = config.targetTid then some pid else none

def onEpollExit (config : Native.DetectorConfig) (map : CallbackStart) (hit : Hit) :
    CallbackStart × List Native.BlockingEvent :=
  match isTarget config hit.task with
  | none => (map, [])
  | some tid => (Function.update map tid (some hit.time), [])

def onEpollEnter (config : Native.DetectorConfig) (map : CallbackStart) (hit : Hit) :
    CallbackStart × List Native.BlockingEvent :=
  match isTarget config hit.task with
  | none => (map, [])
  | some tid =>
      match map tid with
      | none => (map, [])
      | some startNs =>
          (Function.update map tid none,
            if hit.time - startNs > config.thresholdNs then
              [{ startNs := startNs, endNs := hit.time,
                 pid := config.targetTgid, tid := config.targetTid }]
            else [])

/-- The six programs of the object: every variant has the same two handlers. -/
def program (config : Native.DetectorConfig) :
    Transducer Hit Native.BlockingEvent CallbackStart where
  step map hit :=
    match hit.kind with
    | .sysExit => onEpollExit config map hit
    | .sysEnter => onEpollEnter config map hit

/-- The program with the probe pairs of the enabled variants attached. -/
def attached (config : Native.DetectorConfig) (enabled : Native.EpollVariant → Bool) :
    Transducer Hit Native.BlockingEvent CallbackStart :=
  (program config).restrict fun hit => enabled hit.variant

/-- The events of a run from the empty map. -/
def events (config : Native.DetectorConfig) (enabled : Native.EpollVariant → Bool)
    (trace : List Hit) : List Native.BlockingEvent :=
  ((attached config enabled).run (fun _ => none) trace).2

end Blocksnoop.Bpf
