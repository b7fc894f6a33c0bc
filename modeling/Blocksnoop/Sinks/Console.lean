import Blocksnoop.Sinks

/-!
# The console

`ConsoleSink` of `sinks.py`, with everything that it writes.  How a float is printed is a
parameter.
-/

namespace Blocksnoop

open Blocksnoop.Support

structure ConsoleSink (F : Type) where
  color : Bool
  errorThresholdMs : F
  summaryOnly : Bool := false
  stream : String := ""

namespace ConsoleSink

def reset : String := "\x1b[0m"

def yellow : String := "\x1b[33m"

def red : String := "\x1b[31m"

def dim : String := "\x1b[2m"

/-- `f"{text:<width}"` -/
def leftAligned (width : ℕ) (text : String) : String :=
  text ++ String.ofList (List.replicate (width - text.length) ' ')

variable {F : Type}

def write (sink : ConsoleSink F) (text : String) : ConsoleSink F :=
  { sink with stream := sink.stream ++ text }

def paint (sink : ConsoleSink F) (code text : String) : String :=
  if sink.color then code ++ text ++ reset else text

/-! ## The frames of an event -/

/-- The application frames, or all the frames when there are none. -/
def framesToShow (stack : List FrameRecord) : List FrameRecord :=
  let appFrames := stack.filter FrameRecord.isApplication
  if appFrames = [] then stack else appFrames

def frameText (sink : ConsoleSink F) (frame : FrameRecord) : String :=
  let source := frame.source.getD ""
  sink.paint dim ("    " ++ renderLocation frame.file frame.line frame.function) ++ "\n" ++
    if source = "" then "" else sink.paint dim ("      " ++ source) ++ "\n"

def stackText (sink : ConsoleSink F) (i : ℕ) (stack : List FrameRecord) : String :=
  let shown := framesToShow stack
  (if i = 0 then "  Python stack (most recent call last):\n" else "  ---\n") ++
    String.join (shown.map sink.frameText) ++
    if shown.length < stack.length then
      sink.paint dim
        ("    ... " ++ Nat.repr (stack.length - shown.length) ++
          " asyncio/stdlib frames hidden") ++ "\n"
    else ""

def stacksText (sink : ConsoleSink F) (pythonStacks : List (List FrameRecord)) : String :=
  if pythonStacks = [] then "  (no Python stack captured)\n"
  else String.join (pythonStacks.mapIdx sink.stackText) ++ "\n"

/-! ## The methods -/

-- `format(x, "width.digitsf")`
variable (format : ℕ → ℕ → F → String)

variable [PyRuntime F]

def header (sink : ConsoleSink F) (eventNumber : ℕ) (timestampS durationMs : F) (tid : ℤ) :
    String :=
  let level := levelForDuration durationMs sink.errorThresholdMs
  sink.paint (if level = "error" then red else yellow)
    ("[" ++ format 7 2 timestampS ++ "s] #" ++ leftAligned 3 (Nat.repr eventNumber) ++
      " BLOCKED  " ++ format 8 1 durationMs ++ "ms  tid=" ++ strInt tid)

/-- A record of another kind has no `duration_ms`, which raises. -/
def emit (record : Record F) (sink : ConsoleSink F) : ConsoleSink F × Bool :=
  if sink.summaryOnly then (sink, false)
  else
    match record with
    | .blockingEvent _ eventNumber timestampS durationMs _ tid pythonStacks =>
        (sink.write (sink.header format eventNumber timestampS durationMs tid ++ "\n" ++
          sink.stacksText (pythonStacks.getD [])), false)
    | _ => (sink, true)

def lossesText (lostEventsBySource : Dict String ℤ) : String :=
  if lostEventsBySource = [] then ""
  else
    "Lost detector events by source: " ++
      ", ".intercalate ((lostEventsBySource.mergeSort fun a b => a.1 ≤ b.1).map fun entry =>
        entry.1 ++ "=" ++ strInt entry.2) ++ "\n"

def signatureText (index : ℕ) (signature : Aggregate F) : String :=
  "  " ++ Nat.repr (index + 1) ++ ". " ++ signature.location ++ " — " ++
    Nat.repr signature.count ++ " events, " ++ format 0 1 signature.totalBlockedMs ++
    "ms total, " ++ format 0 1 signature.maxBlockedMs ++ "ms max\n"

def signaturesText (topSignatures : List (Aggregate F)) : String :=
  if topSignatures.isEmpty then ""
  else
    "Top blocking call sites (by total blocked time):\n" ++
      String.join (topSignatures.mapIdx (signatureText format))

/-- A record of another kind has no `duration_s`, which raises. -/
def emitSummary (summary : Record F) (sink : ConsoleSink F) : ConsoleSink F × Bool :=
  match summary with
  | .sessionSummary _ _ _ durationS eventCount _ totalBlockedMs maxBlockedMs lostEventCount
      lostEventsBySource topSignatures =>
      (sink.write ("--- blocksnoop session ---\n" ++
        "Duration: " ++ format 0 1 durationS ++ "s\n" ++
        "Blocking events detected: " ++ Nat.repr eventCount ++ "\n" ++
        "Total blocked time: " ++ format 0 1 totalBlockedMs ++ "ms\n" ++
        "Longest blocking event: " ++ format 0 1 maxBlockedMs ++ "ms\n" ++
        "Lost detector events: " ++ strInt lostEventCount ++ "\n" ++
        lossesText lostEventsBySource ++ signaturesText format topSignatures), false)
  | _ => (sink.write "--- blocksnoop session ---\n", true)

/-- A stream that can be written to. -/
def call : SinkCall F → ConsoleSink F → ConsoleSink F × Bool
  | .emitSessionStart _, sink => (sink, false)
  | .emit record, sink => sink.emit format record
  | .emitSummary summary, sink => sink.emitSummary format summary
  | .close, sink => (sink, false)

end ConsoleSink

end Blocksnoop
