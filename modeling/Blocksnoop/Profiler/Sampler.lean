import Blocksnoop.Profiler
import Blocksnoop.Support.Faults

/-!
# The sampler

`AustinSampler` of `profiler.py`, with the temporary wrapper that enters the namespaces of
the target.  Every call and every assignment that matters is a point at which `start` can
be cut short; what the wrapper's script says is left out.
-/

namespace Blocksnoop

open Blocksnoop.Support

/-- The points of `start`, `_create_nsenter_wrapper`, `stop` and `_cleanup_nsenter_wrapper`. -/
inductive SamplerPoint where
  | logStarting
  | sameMountNs
  | which
  | muslLinker
  | mkstemp
  | fdopen
  | write
  | close
  | chmod
  | unlinkPartial
  | returned
  | record
  | resolvePid
  | resolveTid
  | logNsenter
  | construct
  | setAustin
  | setBinaryPath
  | austinStart
  | clearAustin
  | unlink
  | clearWrapper
  | createTimer
  | setTimer
  | setDaemon
  | startTimer
  | cancelTimer
  | logStopping
  | terminate
  | join
  deriving Repr, DecidableEq

/-- A `_LoopspyAustin`, with the arguments it was started with. -/
structure Austin where
  tid : ℤ
  terminateProcessGroup : Bool
  binaryPath : Option String := none
  arguments : Option (List String) := none
  deriving Repr, DecidableEq

structure AustinSampler where
  pid : ℤ
  tid : ℤ
  intervalUs : ℤ
  austin : Option Austin := none
  healthTimer : Bool := false
  nsenterWrapper : Option String := none
  deriving Repr, DecidableEq

/-- The sampler and the temporary files. -/
structure Sampling where
  sampler : AustinSampler
  files : List String
  deriving Repr, DecidableEq

/-- What the sampler asks the system for. -/
structure SamplerHost where
  /-- `_in_same_mount_ns` -/
  sameMountNs : ℤ → Bool
  /-- `shutil.which("austin")` -/
  austinPath : Option String
  /-- the name that `mkstemp` chooses -/
  tempName : String
  /-- `_resolve_ns_pid` -/
  resolveNsPid : ℤ → ℤ

/-- The exceptions are the classes below `Exception`, by their names. -/
abbrev SamplerProgram (α : Type) := Faulty SamplerPoint String Sampling α

namespace Sampling

variable (s : Sampling)

def unlink (path : String) (s : Sampling) : Sampling :=
  { s with files := s.files.filter (· ≠ path) }

def setAustin (austin : Option Austin) (s : Sampling) : Sampling :=
  { s with sampler.austin := austin }

def setNsenterWrapper (wrapper : Option String) (s : Sampling) : Sampling :=
  { s with sampler.nsenterWrapper := wrapper }

def setHealthTimer (armed : Bool) (s : Sampling) : Sampling :=
  { s with sampler.healthTimer := armed }

@[simp] theorem files_unlink (path : String) :
    (s.unlink path).files = s.files.filter (· ≠ path) :=
  rfl

@[simp] theorem sampler_unlink (path : String) : (s.unlink path).sampler = s.sampler :=
  rfl

@[simp] theorem files_setAustin (austin : Option Austin) : (s.setAustin austin).files = s.files :=
  rfl

@[simp] theorem austin_setAustin (austin : Option Austin) :
    (s.setAustin austin).sampler.austin = austin :=
  rfl

@[simp] theorem nsenterWrapper_setAustin (austin : Option Austin) :
    (s.setAustin austin).sampler.nsenterWrapper = s.sampler.nsenterWrapper :=
  rfl

@[simp] theorem files_setNsenterWrapper (wrapper : Option String) :
    (s.setNsenterWrapper wrapper).files = s.files :=
  rfl

@[simp] theorem austin_setNsenterWrapper (wrapper : Option String) :
    (s.setNsenterWrapper wrapper).sampler.austin = s.sampler.austin :=
  rfl

@[simp] theorem nsenterWrapper_setNsenterWrapper (wrapper : Option String) :
    (s.setNsenterWrapper wrapper).sampler.nsenterWrapper = wrapper :=
  rfl

@[simp] theorem files_setHealthTimer (armed : Bool) : (s.setHealthTimer armed).files = s.files :=
  rfl

@[simp] theorem austin_setHealthTimer (armed : Bool) :
    (s.setHealthTimer armed).sampler.austin = s.sampler.austin :=
  rfl

@[simp] theorem nsenterWrapper_setHealthTimer (armed : Bool) :
    (s.setHealthTimer armed).sampler.nsenterWrapper = s.sampler.nsenterWrapper :=
  rfl

end Sampling

namespace AustinSampler

open Faulty

/-- An `unlink` whose error, when the file is missing, is passed over. -/
def unlink (point : SamplerPoint) (path : String) : SamplerProgram Unit :=
  step point (modify (Sampling.unlink path))

/-- The `try` statement of `_create_nsenter_wrapper`. -/
def writeWrapper (host : SamplerHost) : SamplerProgram Unit :=
  tryExcept (calls [.fdopen, .write, .close, .chmod]) fun error => do
    unlink .unlinkPartial host.tempName
    raise error

def createNsenterWrapper (host : SamplerHost) : SamplerProgram String := do
  calls [.which]
  match host.austinPath with
  | none => raise "RuntimeError"
  | some _ => do
      calls [.muslLinker]
      call .mkstemp (modify fun s => { s with files := host.tempName :: s.files })
      writeWrapper host
      step .returned (pure host.tempName)

/-- What Austin is to be started with. -/
structure Launch where
  nsenterWrapper : Option String
  austinPid : ℤ
  austinTid : ℤ

/-- The branch of `start` for a target in another mount namespace. -/
def enterNamespaces (host : SamplerHost) (pid tid : ℤ) : SamplerProgram Launch := do
  let wrapper ← createNsenterWrapper host
  step .record (modify (Sampling.setNsenterWrapper (some wrapper)))
  calls [.resolvePid, .resolveTid, .logNsenter]
  return { nsenterWrapper := some wrapper
           austinPid := host.resolveNsPid pid
           austinTid := host.resolveNsPid tid }

def cleanupNsenterWrapper : SamplerProgram Unit := do
  match ← get (·.sampler.nsenterWrapper) with
  | none => pure ()
  | some wrapper => do
      unlink .unlink wrapper
      step .clearWrapper (modify (Sampling.setNsenterWrapper none))

/-- `binary_path`, in the branch with a wrapper. -/
def overrideBinaryPath (austin : Austin) : SamplerProgram Unit :=
  match austin.binaryPath with
  | none => pure ()
  | some _ => step .setBinaryPath (modify (Sampling.setAustin (some austin)))

/-- The body of the `try` statement of `start`. -/
def launch (intervalUs : ℤ) (l : Launch) : SamplerProgram Unit := do
  let austin : Austin := { tid := l.austinTid, terminateProcessGroup := l.nsenterWrapper.isSome }
  calls [.construct]
  step .setAustin (modify (Sampling.setAustin (some austin)))
  let austin : Austin := { austin with binaryPath := l.nsenterWrapper }
  overrideBinaryPath austin
  call .austinStart (modify (Sampling.setAustin (some
    { austin with arguments := some ["-i", strInt intervalUs, "-p", strInt l.austinPid] })))

/-- The `except` clause of `start`. -/
def abandon (error : String) : SamplerProgram Unit := do
  step .clearAustin (modify (Sampling.setAustin none))
  cleanupNsenterWrapper
  raise error

def startHealthTimer : SamplerProgram Unit := do
  calls [.createTimer]
  step .setTimer (modify (Sampling.setHealthTimer true))
  calls [.setDaemon, .startTimer]

/-- The process and the thread as Austin sees them. -/
def prepare (host : SamplerHost) (pid tid : ℤ) : SamplerProgram Launch :=
  if host.sameMountNs pid then
    pure { nsenterWrapper := none, austinPid := pid, austinTid := tid }
  else enterNamespaces host pid tid

/-- `start` of a sampler without an Austin. -/
def startSampling (host : SamplerHost) : SamplerProgram Unit := do
  let sampler ← get (·.sampler)
  calls [.logStarting, .sameMountNs]
  let l ← prepare host sampler.pid sampler.tid
  tryExcept (launch sampler.intervalUs l) abandon
  startHealthTimer

def start (host : SamplerHost) : SamplerProgram Unit := do
  match ← get (·.sampler.austin) with
  | some _ => pure ()
  | none => startSampling host

def stop : SamplerProgram Unit := do
  step .cancelTimer (modify (Sampling.setHealthTimer false))
  match ← get (·.sampler.austin) with
  | none => pure ()
  | some _ => do
      step .logStopping (pure ())
      tryExcept (calls [.terminate]) fun _ => pure ()
      tryExcept (calls [.join]) fun _ => pure ()
      step .clearAustin (modify (Sampling.setAustin none))
      cleanupNsenterWrapper

end AustinSampler

end Blocksnoop
