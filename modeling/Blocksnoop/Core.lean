import Blocksnoop.Support.Python

/-!
# Core data structures

The records of `core.py` that pass between the backends, the correlator and the
reporter.
-/

namespace Blocksnoop

open Blocksnoop.Support

/-- Path parts whose frames are noise in stack traces. -/
def stdlibFramePrefixes : List String :=
  ["asyncio/", "selectors.py", "threading.py"]

structure StackFrame where
  function : String
  file : String
  line : ℤ
  deriving Repr, DecidableEq

structure PythonStackTrace where
  threadId : ℤ
  threadName : String
  frames : List StackFrame
  deriving Repr, DecidableEq

structure BlockingEvent where
  startNs : ℤ
  endNs : ℤ
  pid : ℤ
  tid : ℤ
  pythonStacks : List PythonStackTrace := []
  deriving Repr, DecidableEq

/-- A batch of kernel events the detector could not deliver. -/
structure LostEvent where
  count : ℤ
  source : String
  deriving Repr, DecidableEq

structure DetectorConfig (F : Type) where
  pid : ℤ
  thresholdMs : F
  tid : Option ℤ := none
  deriving Repr

/-- Without an explicit thread the main thread is watched. -/
def DetectorConfig.postInit {F : Type} (config : DetectorConfig F) : DetectorConfig F :=
  { config with tid := some (config.tid.getD config.pid) }

/-- `int(threshold_ms * 1_000_000)` -/
def DetectorConfig.thresholdNs {F : Type} [PyRuntime F] (config : DetectorConfig F) :
    Except PyException ℤ :=
  PyRuntime.toInt (PyRuntime.mulInt config.thresholdMs 1000000)

end Blocksnoop
