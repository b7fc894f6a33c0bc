import Blocksnoop.CoreBackend.Protocol

/-!
# Target identity and the sidecar command

`_build_command` of `core_backend.py` and the three readers of `/proc` under it.
A snapshot of `/proc` is a parameter; a path that cannot be read has no entry.
-/

namespace Blocksnoop.CoreBackend

open Blocksnoop.Support

/-- What `/proc` shows: the device and inode of a PID namespace file, where
`none` is `/proc/self`, and the text of a status file. -/
structure ProcSnapshot where
  pidNamespaceFile : Option ℤ → Option (ℤ × ℤ)
  statusFile : ℤ → Option String

def pidNamespace (proc : ProcSnapshot) (pid : Option ℤ) : Option (ℤ × ℤ) :=
  proc.pidNamespaceFile pid

/-- The lines of a status file up to the first `NSpid` line with a value: its
last word, read as an integer. -/
def lastNSpid : List (List Char) → Option ℤ
  | [] => none
  | line :: rest =>
      if "NSpid:".toList.isPrefixOf line then
        match (pySplit line).drop 1 with
        | [] => lastNSpid rest
        | value :: values => pyInt ((value :: values).getLast (by simp))
      else lastNSpid rest

def resolveNamespacePid (proc : ProcSnapshot) (hostPid : ℤ) : Except PyException ℤ :=
  match (proc.statusFile hostPid).bind fun status => lastNSpid (pyLines status) with
  | some pid => .ok pid
  | none =>
      .error (.coreDetectorError ("Could not resolve NSpid for target task " ++
        strInt hostPid ++
        ". Ensure the target is still running and /proc is readable."))

/-- The dictionary of the `key: value` lines of a status file. -/
def statusFields (status : String) : Dict String String :=
  (pyLines status).foldl (fun fields line =>
    match line.dropWhile (· != ':') with
    | _ :: value =>
        Dict.set fields (String.ofList (line.takeWhile (· != ':')))
          (String.ofList (pyStrip value))
    | [] => fields) []

section

variable {F : Type} [PyRuntime F]

namespace CoreDetector

omit [PyRuntime F]

/-- The explicit thread belongs to the selected process and PID namespace. -/
def validateTargetTid (d : CoreDetector F) (proc : ProcSnapshot) (tid : ℤ)
    (targetNamespace : ℤ × ℤ) : Except PyException Unit :=
  match proc.statusFile tid with
  | none =>
      .error (.coreDetectorError ("Could not inspect target TID " ++ strInt tid ++
        "; ensure it is still running."))
  | some status =>
      let taskNs := pidNamespace proc (some tid)
      if (statusFields status).get "Tgid" ≠ some (strInt d.config.pid) ∨
          taskNs ≠ some targetNamespace then
        .error (.coreDetectorError ("TID " ++ strInt tid ++
          " does not belong to PID " ++ strInt d.config.pid ++
          " in its PID namespace."))
      else .ok ()

/-- The state a start-up resets before it spawns. -/
def reset (d : CoreDetector F) : CoreDetector F :=
  { d with
    ready := false
    stopRequested := false
    startupError := none
    runtimeError := none
    stderrTail := ""
    lossCounts := [] }

end CoreDetector

/-- The sidecar command in the target's PID namespace, and the detector with the
identity it will expect in the messages. -/
def CoreDetector.buildCommand (d : CoreDetector F) (proc : ProcSnapshot)
    (sidecar : String) : Except PyException (List String × CoreDetector F) :=
  match pidNamespace proc (some d.config.pid) with
  | none =>
      .error (.coreDetectorError ("Could not resolve the target PID namespace from /proc. " ++
        "Ensure the target is still running and /proc/<pid>/ns/pid is readable."))
  | some (dev, ino) => do
      let expectedPid ← resolveNamespacePid proc d.config.pid
      match d.config.tid with
      | none => .error (.other "AssertionError")
      | some hostTid => do
          d.validateTargetTid proc hostTid (dev, ino)
          let expectedTid ← resolveNamespacePid proc hostTid
          let thresholdNs ← d.config.thresholdNs
          return ([sidecar,
            "--protocol-version", strInt protocolVersion,
            "--pid", strInt expectedPid,
            "--tid", strInt expectedTid,
            "--pidns-dev", strInt dev,
            "--pidns-ino", strInt ino,
            "--threshold-ns", strInt thresholdNs],
            { d with
              pidnsDev := some dev
              pidnsIno := some ino
              expectedPid := expectedPid
              expectedTid := some expectedTid })

/-- A built command names the identity the detector will expect. -/
theorem CoreDetector.buildCommand_eq_ok {d launched : CoreDetector F}
    {proc : ProcSnapshot} {sidecar : String} {arguments : List String}
    (h : d.buildCommand proc sidecar = .ok (arguments, launched)) :
    ∃ (pid tid dev ino thresholdNs : ℤ),
      d.config.thresholdNs = .ok thresholdNs ∧
      launched = { d with
        pidnsDev := some dev
        pidnsIno := some ino
        expectedPid := pid
        expectedTid := some tid } ∧
      arguments = [sidecar,
        "--protocol-version", strInt protocolVersion,
        "--pid", strInt pid,
        "--tid", strInt tid,
        "--pidns-dev", strInt dev,
        "--pidns-ino", strInt ino,
        "--threshold-ns", strInt thresholdNs] := by
  rw [buildCommand] at h
  split at h
  · cases h
  next dev ino hns =>
    obtain ⟨pid, -, h⟩ := exists_of_bind_eq_ok h
    split at h
    · cases h
    next hostTid htid =>
      obtain ⟨-, -, h⟩ := exists_of_bind_eq_ok h
      obtain ⟨tid, -, h⟩ := exists_of_bind_eq_ok h
      obtain ⟨thresholdNs, hthreshold, h⟩ := exists_of_bind_eq_ok h
      obtain ⟨rfl, rfl⟩ := Prod.mk.inj (Except.ok.inj h)
      exact ⟨pid, tid, dev, ino, thresholdNs, hthreshold, rfl, rfl⟩

end

end Blocksnoop.CoreBackend
