import Blocksnoop.CoreBackend.Identity

/-!
# Diagnostics of a target

`_check_namespace` of `diagnostics.py`.  It reads the same files of `/proc` as the
Core backend does before it spawns its sidecar, with a parser of its own.
-/

namespace Blocksnoop.Diagnostics

open Blocksnoop.Support Blocksnoop.CoreBackend

inductive DiagnosticStatus where
  | pass
  | warn
  | fail
  deriving Repr, DecidableEq

structure DiagnosticCheck where
  name : String
  status : DiagnosticStatus
  detail : String
  remediation : Option String := none
  deriving Repr, DecidableEq

structure TargetNamespace where
  targetPid : ℤ
  targetTid : ℤ
  localPid : ℤ
  localTid : ℤ
  pidnsDev : ℤ
  pidnsIno : ℤ
  sameAsCollector : Bool
  deriving Repr, DecidableEq

/-- `os.stat` of a PID namespace file. -/
def statNamespace (proc : ProcSnapshot) (pid : Option ℤ) : Except PyException (ℤ × ℤ) :=
  match proc.pidNamespaceFile pid with
  | some identity => .ok identity
  | none => .error (.other "OSError")

/-- The fields of a status file. -/
def readStatus (proc : ProcSnapshot) (pid : ℤ) : Except PyException (Dict String String) :=
  match proc.statusFile pid with
  | some status => .ok (statusFields status)
  | none => .error (.other "OSError")

/-- `int(values["NSpid"].split()[-1])` -/
def localId (values : Dict String String) : Except PyException ℤ :=
  match values.get "NSpid" with
  | none => .error (.other "KeyError")
  | some value =>
      match (pySplit value.toList).getLast? with
      | none => .error (.other "IndexError")
      | some word =>
          match pyInt word with
          | none => .error (.other "ValueError")
          | some n => .ok n

/-- The identities in the namespace, of a task that belongs to the target. -/
def localIds (targetPid : ℤ) (target task : ℤ × ℤ) (targetValues taskValues : Dict String String) :
    Except PyException (ℤ × ℤ) :=
  if taskValues.get "Tgid" ≠ some (strInt targetPid) ∨ target ≠ task then
    .error (.other "ValueError")
  else do
    let localPid ← localId targetValues
    let localTid ← localId taskValues
    return (localPid, localTid)

/-- The `try` block of the check. -/
def resolveNamespace (proc : ProcSnapshot) (targetPid tid : ℤ) :
    Except PyException TargetNamespace := do
  let target ← statNamespace proc (some targetPid)
  let task ← statNamespace proc (some tid)
  let targetValues ← readStatus proc targetPid
  let taskValues ← readStatus proc tid
  let ids ← localIds targetPid target task targetValues taskValues
  let own ← statNamespace proc none
  return {
    targetPid := targetPid
    targetTid := tid
    localPid := ids.1
    localTid := ids.2
    pidnsDev := target.1
    pidnsIno := target.2
    sameAsCollector := target = own }

def checkNamespace (proc : ProcSnapshot) (targetPid targetTid : Option ℤ) :
    Except PyException (Option TargetNamespace × DiagnosticCheck) :=
  match targetPid with
  | none =>
      .ok (none, {
        name := "namespace"
        status := .warn
        detail := "no target PID supplied; namespace identity will be verified at attach"
        remediation := some "Run `blocksnoop doctor PID` for target-specific checks." })
  | some targetPid =>
      match resolveNamespace proc targetPid (targetTid.getD targetPid) with
      | .ok namespace_ =>
          .ok (some namespace_, {
            name := "namespace"
            status := .pass
            detail := "target PID/TID and PID namespace are consistent" })
      | .error e =>
          if e ∈ [.other "OSError", .other "KeyError", .other "ValueError"] then
            .ok (none, {
              name := "namespace"
              status := .fail
              detail := "target namespace could not be proven"
              remediation :=
                some "Ensure /proc/PID and /proc/TID are readable while the target runs." })
          else .error e

end Blocksnoop.Diagnostics
