import Blocksnoop.Profiler

/-!
# The correlator

`correlator.py`: an event is enriched with the samples of its time window, one
for each call site.
-/

namespace Blocksnoop

open Blocksnoop.Support

/-- A frame that is not event-loop machinery. -/
def StackFrame.isApplication (f : StackFrame) : Bool :=
  !stdlibFramePrefixes.any fun part => pyContains f.file part

namespace Correlator

/-- Function and file of the deepest application frame, or of the leaf when there
is no application frame; `frames[-1]` raises on an empty stack. -/
def leafKey (stack : PythonStackTrace) : Except PyException (String × String) :=
  match stack.frames.reverse.find? StackFrame.isApplication with
  | some f => .ok (f.function, f.file)
  | none =>
      match stack.frames.getLast? with
      | some f => .ok (f.function, f.file)
      | none => .error (.other "IndexError")

/-- Whether a stack has application frames beyond just `<module>`. -/
def isInformative (stack : PythonStackTrace) : Bool :=
  match stack.frames.filter StackFrame.isApplication with
  | [] => false
  | [f] => f.function != "<module>"
  | _ => true

/-- The loop over the samples: the first stack of every call site is kept. -/
def collect (seen : Dict (String × String) PythonStackTrace) :
    List PythonStackTrace → Except PyException (Dict (String × String) PythonStackTrace)
  | [] => .ok seen
  | stack :: rest =>
      if stack.frames = [] then collect seen rest
      else do
        let key ← leafKey stack
        if (seen.get key).isSome then collect seen rest
        else collect (seen.set key stack) rest

/-- The event as `on_event` passes it to its callback at time `now`, or what it raises
before. -/
def onEvent (ringBuffer : StackRingBuffer) (correlationPaddingNs now : ℤ)
    (event : BlockingEvent) : Except PyException BlockingEvent := do
  let duration := event.endNs - event.startNs
  let padding := max duration correlationPaddingNs
  let allStacks := ringBuffer.findAllInRange (now - duration - padding) now
  if allStacks = [] then
    -- the log line for an empty window is given `duration / 1e6`, logged or not
    floatInt duration
    return event
  let seen ← collect [] allStacks
  if seen = [] then return event
  let informative := seen.filter fun entry => isInformative entry.2
  return { event with
    pythonStacks := if informative = [] then seen.values else Dict.values informative }

end Correlator

end Blocksnoop
