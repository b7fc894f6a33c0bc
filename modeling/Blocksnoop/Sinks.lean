import Blocksnoop.Reporter
import Blocksnoop.Support.FanOut

/-!
# Output sinks

The calls by which the reporter hands its records to the sinks of `sinks.py`, and
the JSON stream.  A sink is a state and a function of the calls; a call returns or
raises an `Exception`.
-/

namespace Blocksnoop

open Blocksnoop.Support

variable {F : Type} [PyRuntime F]

/-- A method call of a sink. -/
inductive SinkCall (F : Type) where
  | emitSessionStart (record : Record F)
  | emit (record : Record F)
  | emitSummary (summary : Record F)
  | close

def levelForDuration (durationMs errorThresholdMs : F) : String :=
  if PyRuntime.le errorThresholdMs durationMs then "error" else "warning"

/-- `duration_ms` of a record that has one. -/
def Record.durationMs : Record F → Option F
  | .blockingEvent _ _ _ durationMs _ _ _ => some durationMs
  | _ => none

/-- A line of the JSON stream: a record and the level it is given. -/
structure StreamLine (F : Type) where
  record : Record F
  level : Option String := none

structure JsonStreamSink (F : Type) where
  errorThresholdMs : F
  written : List (StreamLine F) := []

namespace JsonStreamSink

omit [PyRuntime F] in
def write (sink : JsonStreamSink F) (line : StreamLine F) : JsonStreamSink F :=
  { sink with written := sink.written ++ [line] }

/-- The line of an event record. -/
def line (sink : JsonStreamSink F) (record : Record F) : StreamLine F where
  record := record
  level := record.durationMs.map fun durationMs =>
    levelForDuration durationMs sink.errorThresholdMs

/-- A stream that can be written to. -/
def call : SinkCall F → JsonStreamSink F → JsonStreamSink F × Bool
  | .emitSessionStart record, sink => (sink.write { record := record }, false)
  | .emit record, sink => (sink.write (sink.line record), false)
  | .emitSummary summary, sink => (sink.write { record := summary }, false)
  | .close, sink => (sink, false)

end JsonStreamSink

/-! ## The reporter over its sinks -/

/-- The reporter and its sinks, which are of any kind. -/
structure Reporting (F σ : Type) where
  reporter : Reporter F
  sinks : List σ

/-- What `_on_exit` hands to the summary. -/
structure SessionEnd (F : Type) where
  clock : ClockReading F
  durationS : F
  lossCounts : Dict String ℤ
  terminationReason : String

namespace Reporting

variable {σ : Type} (call : SinkCall F → σ → σ × Bool)

/-- `report`, and whether it raises. -/
def report (host : ReporterHost) (clock : ClockReading F) (event : BlockingEvent)
    (s : Reporting F σ) : Reporting F σ × Bool :=
  let (reporter, built) := s.reporter.countEvent.reportCounted host clock event
  match built with
  | .error _ => ({ s with reporter := reporter }, true)
  | .ok [] => ({ s with reporter := reporter }, false)
  | .ok (record :: _) =>
      let (sinks, raised) := fanOut call (.emit record) s.sinks
      ({ reporter := reporter, sinks := sinks }, raised)

def summary (ending : SessionEnd F) (s : Reporting F σ) : Reporting F σ × Bool :=
  let (reporter, summary) := s.reporter.summary ending.clock ending.durationS
    ending.lossCounts ending.terminationReason
  let (sinks, raised) := fanOut call (.emitSummary summary) s.sinks
  ({ reporter := reporter, sinks := sinks }, raised)

omit [PyRuntime F] in
def close (s : Reporting F σ) : Reporting F σ × Bool :=
  let (sinks, raised) := fanOut call .close s.sinks
  ({ s with sinks := sinks }, raised)

/-- The reader of the Core backend: an exception of a report is logged. -/
def reportAll (host : ReporterHost) (reports : List (ClockReading F × BlockingEvent))
    (s : Reporting F σ) : Reporting F σ :=
  reports.foldl (fun s report => (s.report call host report.1 report.2).1) s

/-- `_on_exit`: the sinks are closed when the summary has returned. -/
def onExit (ending : SessionEnd F) (s : Reporting F σ) : Reporting F σ :=
  let (s, raised) := s.summary call ending
  if raised then s else (s.close call).1

/-- The events of a session and its end. -/
def session (host : ReporterHost) (reports : List (ClockReading F × BlockingEvent))
    (ending : SessionEnd F) (s : Reporting F σ) : Reporting F σ :=
  (s.reportAll call host reports).onExit call ending

end Reporting

end Blocksnoop
