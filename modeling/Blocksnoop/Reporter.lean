import Blocksnoop.Correlator

/-!
# The reporter

The records of `reporter.py` and the aggregates behind the session summary.  The
digest of an identity, the source cache and the clocks are parameters: the
reporter stores and compares what they return.
-/

namespace Blocksnoop

open Blocksnoop.Support

def eventSchema : String := "blocksnoop.events/v1"

def eventSchemaVersion : ℕ := 1

/-- A frame as it stands in an event record. -/
structure FrameRecord where
  function : String
  file : String
  line : ℤ
  source : Option String
  deriving Repr, DecidableEq

structure Signature where
  fingerprint : String
  location : String
  deriving Repr, DecidableEq

structure Aggregate (F : Type) where
  fingerprint : String
  location : String
  count : ℕ
  totalBlockedMs : F
  maxBlockedMs : F

/-- The fields that every record has beside its type. -/
structure BaseRecord where
  schema : String
  schemaVersion : ℕ
  sessionId : String
  observedAt : String
  deriving Repr, DecidableEq

/-- A record of the session stream. -/
inductive Record (F : Type) where
  | sessionStart (base : BaseRecord) (backend : Option String) (thresholdMs : Option F)
      (targetPid targetTid : Option ℤ)
  | blockingEvent (base : BaseRecord) (eventNumber : ℕ) (timestampS durationMs : F)
      (pid tid : ℤ) (pythonStacks : Option (List (List FrameRecord)))
  | sessionSummary (base : BaseRecord) (terminationReason status : String) (durationS : F)
      (eventCount errorEventCount : ℕ) (totalBlockedMs maxBlockedMs : F)
      (lostEventCount : ℤ) (lostEventsBySource : Dict String ℤ)
      (topSignatures : List (Aggregate F))

/-- What the reporter calls outside the program. -/
structure ReporterHost where
  /-- `hashlib.sha256(identity.encode()).hexdigest()` -/
  hexdigest : String → String
  /-- `linecache.getline` -/
  getline : String → ℤ → String

/-- A reading of the two clocks. -/
structure ClockReading (F : Type) where
  monotonic : F
  observedAt : String

def getSourceLine (host : ReporterHost) (file : String) (line : ℤ) : Option String :=
  let text := String.ofList (pyStrip (host.getline file line).toList)
  if text = "" then none else some text

/-! ## Signatures -/

def FrameRecord.isApplication (f : FrameRecord) : Bool :=
  !stdlibFramePrefixes.any fun part => pyContains f.file part

/-- `f"{file}:{line} in {function}"` -/
def renderLocation (file : String) (line : ℤ) (function : String) : String :=
  file ++ ":" ++ strInt line ++ " in " ++ function

/-- The application frames of a stack, or all its frames when it has none. -/
def selectedFrames (frames : List FrameRecord) : List FrameRecord :=
  let applicationFrames := frames.filter FrameRecord.isApplication
  if applicationFrames = [] then frames else applicationFrames

def signatureForStacks (host : ReporterHost) (pythonStacks : Option (List (List FrameRecord))) :
    Except PyException Signature :=
  match pythonStacks.getD [] with
  | [] =>
      .ok { fingerprint := String.ofList
              ((host.hexdigest "no-python-stack").toList.take 12)
            location := "(no Python stack captured)" }
  | frames :: _ =>
      let selected := selectedFrames frames
      let identity := "|".intercalate (selected.map fun f =>
        f.file ++ ":" ++ strInt f.line ++ ":" ++ f.function)
      match selected with
      | [] => .error (.other "IndexError")
      | first :: _ =>
          .ok { fingerprint := String.ofList ((host.hexdigest identity).toList.take 12)
                location := renderLocation first.file first.line first.function }

def statusForTermination (terminationReason : String) : String :=
  (Dict.get [("clean", "completed"), ("child_exit", "child_failed"),
    ("signal", "interrupted"), ("runtime_error", "failed")] terminationReason).getD "unknown"

/-! ## The reporter -/

structure Reporter (F : Type) where
  startTime : F
  eventCount : ℕ := 0
  errorEventCount : ℕ := 0
  totalBlockedMs : F
  maxBlockedMs : F
  lostEventCount : ℤ := 0
  signatures : Dict String (Aggregate F) := []
  sessionId : String
  backend : Option String
  thresholdMs : Option F
  targetPid : Option ℤ
  targetTid : Option ℤ
  errorThresholdMs : F
  summaryOnly : Bool := false
  started : Bool := false

/-- The reporter as it is constructed. -/
def Reporter.new {F : Type} [PyRuntime F] (startTime : F) (sessionId : String)
    (backend : Option String) (thresholdMs : Option F) (targetPid targetTid : Option ℤ)
    (errorThresholdMs : F) (summaryOnly : Bool) : Reporter F where
  startTime := startTime
  totalBlockedMs := PyRuntime.zero
  maxBlockedMs := PyRuntime.zero
  sessionId := sessionId
  backend := backend
  thresholdMs := thresholdMs
  targetPid := targetPid
  targetTid := targetTid
  errorThresholdMs := errorThresholdMs
  summaryOnly := summaryOnly

/-- `python_stacks` of an event record. -/
def renderStacks (host : ReporterHost) (pythonStacks : List PythonStackTrace) :
    Option (List (List FrameRecord)) :=
  if pythonStacks = [] then none
  else some (pythonStacks.map fun stack => stack.frames.map fun frame =>
    { function := frame.function, file := frame.file, line := frame.line
      source := getSourceLine host frame.file frame.line })

namespace Reporter

variable {F : Type} [PyRuntime F]

def baseRecord (r : Reporter F) (clock : ClockReading F) : BaseRecord where
  schema := eventSchema
  schemaVersion := eventSchemaVersion
  sessionId := r.sessionId
  observedAt := clock.observedAt

/-- The reporter after `start` and the records it emits. -/
def start (r : Reporter F) (clock : ClockReading F) : Reporter F × List (Record F) :=
  if r.started then (r, [])
  else
    ({ r with started := true },
      [.sessionStart (r.baseRecord clock) r.backend r.thresholdMs r.targetPid r.targetTid])

/-- `round(event.duration_ms, 3)` -/
def roundedDuration (event : BlockingEvent) : Except PyException F := do
  let durationMs ← PyRuntime.divInt (event.endNs - event.startNs) 1000000
  return PyRuntime.round durationMs 3

/-- `max(a, b)` of floats. -/
def maxFloat (a b : F) : F :=
  if PyRuntime.lt a b then b else a

/-- The first statement of `report`. -/
def countEvent (r : Reporter F) : Reporter F :=
  { r with eventCount := r.eventCount + 1 }

def eventRecord (r : Reporter F) (host : ReporterHost) (clock : ClockReading F)
    (event : BlockingEvent) (durationMs : F) : Record F :=
  .blockingEvent (r.baseRecord clock) r.eventCount
    (PyRuntime.round (PyRuntime.sub clock.monotonic r.startTime) 6)
    durationMs event.pid event.tid (renderStacks host event.pythonStacks)

def updateAggregate (a : Aggregate F) (durationMs : F) : Aggregate F :=
  { a with
    count := a.count + 1
    totalBlockedMs := PyRuntime.add a.totalBlockedMs durationMs
    maxBlockedMs := maxFloat a.maxBlockedMs durationMs }

/-- The running totals after an event. -/
def addDuration (r : Reporter F) (durationMs : F) : Reporter F :=
  { r with
    totalBlockedMs := PyRuntime.add r.totalBlockedMs durationMs
    maxBlockedMs := maxFloat r.maxBlockedMs durationMs
    errorEventCount :=
      if PyRuntime.le r.errorThresholdMs durationMs then r.errorEventCount + 1
      else r.errorEventCount }

/-- The aggregate that `setdefault` finds or makes. -/
def aggregateFor (r : Reporter F) (signature : Signature) : Aggregate F :=
  (r.signatures.get signature.fingerprint).getD
    { fingerprint := signature.fingerprint, location := signature.location, count := 0
      totalBlockedMs := PyRuntime.zero, maxBlockedMs := PyRuntime.zero }

def addSignature (r : Reporter F) (signature : Signature) (durationMs : F) : Reporter F :=
  { r with
    signatures := r.signatures.set signature.fingerprint
      (updateAggregate (r.aggregateFor signature) durationMs) }

/-- What `report` does to the counted reporter, and the records it emits. -/
def reportCounted (r : Reporter F) (host : ReporterHost) (clock : ClockReading F)
    (event : BlockingEvent) : Reporter F × Except PyException (List (Record F)) :=
  match roundedDuration event with
  | .error e => (r, .error e)
  | .ok durationMs =>
      let record := r.eventRecord host clock event durationMs
      let r := r.addDuration durationMs
      match signatureForStacks host (renderStacks host event.pythonStacks) with
      | .error e => (r, .error e)
      | .ok signature =>
          (r.addSignature signature durationMs, .ok (if r.summaryOnly then [] else [record]))

/-- `sorted(…, reverse=True)` by total and maximum: stable, largest first. -/
def insertRanked (a : Aggregate F) : List (Aggregate F) → List (Aggregate F)
  | [] => [a]
  | b :: rest =>
      if PyRuntime.lt b.totalBlockedMs a.totalBlockedMs ||
          (!PyRuntime.lt a.totalBlockedMs b.totalBlockedMs &&
            PyRuntime.lt b.maxBlockedMs a.maxBlockedMs) then a :: b :: rest
      else b :: insertRanked a rest

def topSignatures (r : Reporter F) : List (Aggregate F) :=
  let ranked := (r.signatures.values.foldl (fun ranked a => insertRanked a ranked) []).take 5
  ranked.map fun a =>
    { a with
      totalBlockedMs := PyRuntime.round a.totalBlockedMs 3
      maxBlockedMs := PyRuntime.round a.maxBlockedMs 3 }

/-- The reporter after `summary` and the record it emits. -/
def summary (r : Reporter F) (clock : ClockReading F) (durationS : F)
    (lossCounts : Dict String ℤ) (terminationReason : String) :
    Reporter F × Record F :=
  let lost := lossCounts.values.sum
  ({ r with lostEventCount := lost },
    .sessionSummary (r.baseRecord clock) terminationReason
      (statusForTermination terminationReason) durationS r.eventCount r.errorEventCount
      (PyRuntime.round r.totalBlockedMs 3) (PyRuntime.round r.maxBlockedMs 3) lost lossCounts
      r.topSignatures)

end Reporter

end Blocksnoop
