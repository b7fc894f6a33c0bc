import Blocksnoop.CoreBackend.FindSidecar
import Blocksnoop.Diagnostics
import Blocksnoop.Native.Sidecar

/-!
# Doctor

`collect_diagnostics` of `diagnostics.py`: the checks of a backend, and the backend itself
when every check that is required for it passes.  The names of the system calls are those
of the variant table.
-/

namespace Blocksnoop.Diagnostics

open Blocksnoop.Support Blocksnoop.CoreBackend

inductive Backend where
  | bcc
  | core
  deriving Repr, DecidableEq

/-- The machine that doctor runs on. -/
structure DoctorHost extends Host where
  /-- `os.geteuid()` -/
  euid : ℕ
  /-- `os.uname().release` -/
  release : String
  /-- The text of `/proc/self/status`, if it can be read. -/
  selfStatus : Option String
  /-- Whether `readlink` works on `/proc/self/exe`. -/
  selfExe : Bool
  /-- `find_spec("bcc") is not None` -/
  bccImportable : Bool
  proc : ProcSnapshot
  /-- `repr(text)` -/
  reprStr : String → String

structure DoctorReport where
  requestedBackend : Backend
  effectiveBackend : Option Backend
  checks : List DiagnosticCheck
  namespace_ : Option TargetNamespace
  statsMode : Bool
  deriving Repr, DecidableEq

def DoctorReport.healthy (report : DoctorReport) : Bool :=
  report.effectiveBackend.isSome

/-! ## Numerals -/

def hexDigitValue (c : Char) : Option ℕ :=
  if c.isDigit then some (c.toNat - '0'.toNat)
  else if 'a' ≤ c ∧ c ≤ 'f' then some (c.toNat - 'a'.toNat + 10)
  else if 'A' ≤ c ∧ c ≤ 'F' then some (c.toNat - 'A'.toNat + 10)
  else none

/-- The digits behind the first one, where single underscores may separate digits. -/
def hexDigits (value : ℕ) : List Char → Option ℕ
  | [] => some value
  | '_' :: c :: cs => (hexDigitValue c).bind fun digit => hexDigits (16 * value + digit) cs
  | c :: cs => (hexDigitValue c).bind fun digit => hexDigits (16 * value + digit) cs

def hexNumeral : List Char → Option ℕ
  | '0' :: 'x' :: '_' :: c :: cs => (hexDigitValue c).bind fun digit => hexDigits digit cs
  | '0' :: 'X' :: '_' :: c :: cs => (hexDigitValue c).bind fun digit => hexDigits digit cs
  | '0' :: 'x' :: c :: cs => (hexDigitValue c).bind fun digit => hexDigits digit cs
  | '0' :: 'X' :: c :: cs => (hexDigitValue c).bind fun digit => hexDigits digit cs
  | c :: cs => (hexDigitValue c).bind fun digit => hexDigits digit cs
  | [] => none

/-- `int(text, 16)`; `none` where it raises `ValueError`. -/
def pyIntBase16 (cs : List Char) : Option ℤ :=
  match pyStrip cs with
  | '-' :: rest => (hexNumeral rest).map fun n => -(n : ℤ)
  | '+' :: rest => (hexNumeral rest).map fun n => (n : ℤ)
  | rest => (hexNumeral rest).map fun n => (n : ℤ)

/-- `bool(mask & (1 << bit))` -/
def hasBit (mask : ℤ) (bit : ℕ) : Bool :=
  mask / 2 ^ bit % 2 = 1

/-- The two groups of `(\d+)\.(\d+)` at the start of a release. -/
def releaseVersion (release : List Char) : Option (ℕ × ℕ) :=
  let major := release.takeWhile Char.isDigit
  match release.dropWhile Char.isDigit with
  | '.' :: rest =>
      let minor := rest.takeWhile Char.isDigit
      if major = [] ∨ minor = [] then none
      else some (Nat.ofDigitChars 10 major 0, Nat.ofDigitChars 10 minor 0)
  | _ => none

/-! ## Checks -/

namespace DoctorHost

variable (host : DoctorHost)

def checkPlatform : DiagnosticCheck :=
  if host.platform = "linux" then
    { name := "platform", status := .pass, detail := "Linux runtime detected" }
  else {
    name := "platform"
    status := .fail
    detail := "unsupported platform: " ++ host.platform
    remediation := some "Run blocksnoop on a Linux host or use a Linux debug container." }

def checkRoot : DiagnosticCheck :=
  if host.euid = 0 then
    { name := "root", status := .pass, detail := "running as root" }
  else {
    name := "root"
    status := .fail
    detail := "blocksnoop currently requires an effective UID of 0"
    remediation := some "Run with sudo, or use a privileged debug container." }

def checkAustin : DiagnosticCheck :=
  if (host.which host.defaultPath "austin").isSome then
    { name := "austin", status := .pass, detail := "Austin sampler is available" }
  else {
    name := "austin"
    status := .fail
    detail := "Austin sampler was not found in PATH"
    remediation := some "Install Austin or use `blocksnoop doctor --stats` for eBPF-only mode." }

/-- A file that can be read; an error that is not expected is raised. -/
def isReadableFile (path : PurePath) : Except PyException Bool :=
  match path.isFile host.toProcessView with
  | .ok isFile => .ok (isFile && host.canRead path.str)
  | .error e =>
      if e ∈ [.access, .noEntry, .notDirectory] then .ok false else .error (.other "OSError")

def checkPath (name : String) (path : PurePath) (success remediation : String)
    (required : Bool) : Except PyException DiagnosticCheck := do
  let readable ← host.isReadableFile path
  return if readable then { name, status := .pass, detail := success } else {
    name
    status := if required then .fail else .warn
    detail := "not readable: " ++ path.str
    remediation := some remediation }

def tracefsRoots : List PurePath :=
  [PurePath.parse "/sys/kernel/tracing/events/syscalls",
    PurePath.parse "/sys/kernel/debug/tracing/events/syscalls"]

/-- The format file of one side of a system call. -/
def formatPath (side : String) (root : PurePath) (syscall : Native.EpollVariant) : PurePath :=
  (root.join (side ++ syscall.name)).join "format"

/-- Both files of a system call can be read; the second is asked for behind the first. -/
def hasPair (root : PurePath) (syscall : Native.EpollVariant) : Except PyException Bool := do
  let entered ← host.isReadableFile (formatPath "sys_enter_" root syscall)
  if entered then host.isReadableFile (formatPath "sys_exit_" root syscall) else .ok false

/-- The system calls with both files below a root. -/
def pairs (root : PurePath) : List Native.EpollVariant → Except PyException (List String)
  | [] => .ok []
  | syscall :: syscalls => do
      let pair ← host.hasPair root syscall
      let rest ← pairs root syscalls
      return if pair then syscall.name :: rest else rest

/-- The loop over the roots, up to the first one with a pair. -/
def firstPairs : List PurePath → Except PyException (List String)
  | [] => .ok []
  | root :: roots => do
      let found ← host.pairs root Native.EpollVariant.table
      if found = [] then firstPairs roots else .ok found

def checkTracepoints : Except PyException DiagnosticCheck := do
  let found ← host.firstPairs tracefsRoots
  return if found = [] then {
    name := "tracepoints"
    status := .fail
    detail := "no readable complete epoll tracepoint pair"
    remediation := some "Mount tracefs and grant read access to epoll syscall tracepoints." }
  else {
    name := "tracepoints"
    status := .pass
    detail := "epoll pairs available: " ++ ", ".intercalate found }

/-- `int(values["CapEff"], 16)`; `none` where it raises. -/
def capabilities : Option ℤ :=
  host.selfStatus.bind fun status =>
    ((statusFields status).get "CapEff").bind fun value => pyIntBase16 value.toList

def checkPrivileges : DiagnosticCheck :=
  match host.capabilities with
  | none => {
      name := "privileges"
      status := .warn
      detail := "effective BPF capabilities could not be proven"
      remediation := some ("Run as root in a privileged debug container and verify " ++
        "CAP_SYS_ADMIN, or both CAP_BPF and CAP_PERFMON, before attaching.") }
  | some capabilities =>
      if hasBit capabilities 21 || (hasBit capabilities 38 && hasBit capabilities 39) then {
        name := "privileges"
        status := .pass
        detail := "effective BPF capabilities are present" }
      else {
        name := "privileges"
        status := .fail
        detail := "CAP_SYS_ADMIN or CAP_BPF+CAP_PERFMON is missing"
        remediation := some ("Run blocksnoop as root in a privileged debug container. " ++
          "Capability-only operation is not yet a supported end-to-end profile.") }

def checkPidNamespaceHelper : DiagnosticCheck :=
  match releaseVersion host.release.toList with
  | none => {
      name := "pid_namespace_helper"
      status := .warn
      detail := "could not determine helper support from kernel release " ++
        host.reprStr host.release
      remediation := some "Use kernel 5.7+ or a kernel with the helper backported." }
  | some (major, minor) =>
      if 5 < major ∨ (major = 5 ∧ 7 ≤ minor) then {
        name := "pid_namespace_helper"
        status := .pass
        detail := "kernel " ++ host.release ++
          " meets the 5.7 helper baseline; attach is authoritative" }
      else {
        name := "pid_namespace_helper"
        status := .fail
        detail := "kernel " ++ host.release ++ " is older than the 5.7 helper baseline"
        remediation := some "Use kernel 5.7+ or a kernel with the helper backported." }

def checkSidecar (sidecar : Option String) (backend : Backend) : DiagnosticCheck :=
  if sidecar.getD "" = "" then {
    name := "sidecar"
    status := if backend = .core then .fail else .warn
    detail := "blocksnoop-ebpf sidecar was not found"
    remediation := some ("Install a native Linux blocksnoop wheel, use the official Docker " ++
      "image, or set BLOCKSNOOP_EBPF to a compatible sidecar.") }
  else { name := "sidecar", status := .pass, detail := "resolved: " ++ sidecar.getD "" }

def bpfObjectCandidates : Option String → List PurePath
  | none => []
  | some sidecar =>
      let binary := PurePath.parse sidecar
      [((binary.parent.parent.join "blocksnoop").join "bpf").join "core_blockdetect.bpf.o",
        (binary.parent.parent.join "bpf").join "core_blockdetect.bpf.o",
        binary.parent.join "core_blockdetect.bpf.o"]

/-- The files that `_check_bpf_object` tries. -/
def objectCandidates (sidecar : Option String) : List PurePath :=
  match host.getenv "BLOCKSNOOP_BPF_OBJECT" with
  | none => bpfObjectCandidates sidecar
  | some configured =>
      if configured = "" then bpfObjectCandidates sidecar else [PurePath.parse configured]

/-- The first of these files that can be read. -/
def firstReadable : List PurePath → Except PyException (Option PurePath)
  | [] => .ok none
  | candidate :: candidates => do
      let readable ← host.isReadableFile candidate
      if readable then .ok (some candidate) else firstReadable candidates

def checkBpfObject (sidecar : Option String) (backend : Backend) :
    Except PyException DiagnosticCheck := do
  let found ← host.firstReadable (host.objectCandidates sidecar)
  return match found with
  | some candidate =>
      { name := "bpf_object", status := .pass, detail := "resolved: " ++ candidate.str }
  | none => {
      name := "bpf_object"
      status := if backend = .core then .fail else .warn
      detail :=
        if host.objectCandidates sidecar = [] then "no object path could be proven"
        else "not readable: " ++
          ", ".intercalate ((host.objectCandidates sidecar).map PurePath.str)
      remediation := some "Build core_blockdetect.bpf.o or set BLOCKSNOOP_BPF_OBJECT." }

def checkBcc : DiagnosticCheck :=
  if host.bccImportable then
    { name := "bcc", status := .pass, detail := "legacy Python bcc module is importable" }
  else {
    name := "bcc"
    status := .fail
    detail := "legacy Python bcc module is not importable"
    remediation := some ("Install BCC for the explicit `--backend bcc` compatibility path, " ++
      "or use the default Core backend.") }

/-! ## The report -/

/-- The checks of one backend. -/
def backendChecks : Backend → Except PyException (List DiagnosticCheck)
  | .core => do
      let btf ← host.checkPath "btf" (PurePath.parse "/sys/kernel/btf/vmlinux")
        "kernel BTF is readable (informational for this tracepoint-only program)"
        "Kernel BTF is optional here; attach is authoritative for Core support." false
      let tracepoints ← host.checkTracepoints
      let sidecar ← host.findSidecar
      let object ← host.checkBpfObject sidecar .core
      return [btf, tracepoints, host.checkPrivileges, host.checkPidNamespaceHelper,
        checkSidecar sidecar .core, object]
  | .bcc => do
      let tracepoints ← host.checkTracepoints
      return [tracepoints, host.checkPrivileges, host.checkBcc]

/-- The names of the checks that a backend needs. -/
def required (backend : Backend) (targetPid : Option ℤ) (statsMode : Bool) : List String :=
  (match backend with
    | .bcc => ["platform", "root", "tracepoints", "privileges", "bcc"]
    | .core => ["platform", "root", "tracepoints", "privileges", "pid_namespace_helper",
        "sidecar", "bpf_object"]) ++
  (if statsMode then [] else ["austin"]) ++
  (if targetPid = none then [] else ["namespace"])

def collectDiagnostics (backend : Backend) (targetPid targetTid : Option ℤ)
    (statsMode : Bool) : Except PyException DoctorReport := do
  let backendChecks ← host.backendChecks backend
  let target ← checkNamespace host.proc targetPid targetTid
  let checks := [host.checkPlatform, host.checkRoot] ++ backendChecks ++
    (if statsMode then [] else [host.checkAustin]) ++ [target.2]
  let failed := checks.any fun check =>
    (required backend targetPid statsMode).contains check.name && check.status ≠ .pass
  return {
    requestedBackend := backend
    effectiveBackend := if failed then none else some backend
    checks
    namespace_ := target.1
    statsMode }

end DoctorHost

end Blocksnoop.Diagnostics
