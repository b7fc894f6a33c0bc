import Blocksnoop.Profiler

/-!
# Samples of the target thread

`_LoopspyAustin.on_sample` of `profiler.py`.  Samples of other threads are counted and
dropped; a sample of the target is pushed with all its frames, and it may have none.
-/

namespace Blocksnoop

open Blocksnoop.Support

structure AustinFrame where
  function : String
  filename : String
  line : ℤ
  deriving Repr, DecidableEq

/-- A sample of a thread, whose name is its identifier in base 16. -/
structure AustinSample where
  thread : Option String
  frames : Option (List AustinFrame)
  deriving Repr, DecidableEq

/-- `_LoopspyAustin`, without the process. -/
structure LoopspyAustin where
  ringBuffer : StackRingBuffer
  tid : ℤ
  sampleCount : ℕ := 0
  filteredCount : ℕ := 0

namespace LoopspyAustin

-- `int(text, 16)`, which is `none` where it raises
variable (intBase16 : String → Option ℤ)

def stackOf (austin : LoopspyAustin) (frames : List AustinFrame) : PythonStackTrace where
  threadId := austin.tid
  threadName := ""
  frames := frames.map fun f => { function := f.function, file := f.filename, line := f.line }

def onSample (austin : LoopspyAustin) (now : ℤ) (sample : AustinSample) : LoopspyAustin :=
  match sample.frames with
  | none => austin
  | some frames =>
      if sample.thread.bind intBase16 = some austin.tid then
        { austin with
          ringBuffer := austin.ringBuffer.push now (austin.stackOf frames)
          sampleCount := austin.sampleCount + 1 }
      else { austin with filteredCount := austin.filteredCount + 1 }

end LoopspyAustin

end Blocksnoop
