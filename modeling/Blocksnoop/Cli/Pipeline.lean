import Blocksnoop.Cli.RunLoop
import Blocksnoop.CoreBackend.Identity
import Blocksnoop.Reporter

/-!
# The pipeline with the Core backend

The callbacks that `_run_normal` and `_run_stats` hand to `_run_loop`, down to
the lock, the sidecar and the reader thread of `CoreDetector`.  The main thread
runs `start`, `check_health`, `stop` and `on_exit`; the reader thread, the
sidecar and the sampler act between its steps.  The reader works through a line
in small steps, so that the main thread can come in between any two of them.
-/

namespace Blocksnoop.Cli

open Blocksnoop.Support Blocksnoop.CoreBackend

/-- The two paths of `main`. -/
inductive Mode where
  | normal
  | stats
  deriving Repr, DecidableEq

/-- A step of the reader thread inside `_read_messages`. -/
inductive ReaderStep (F : Type) where
  /-- Look up the process whose output is read. -/
  | openStdout
  | setError (error : String)
  | setReady
  | lose (event : LostEvent)
  /-- `Correlator.on_event`, up to its callback. -/
  | correlate (event : BlockingEvent)
  /-- `Reporter.report`: count the event, aggregate it, emit its record. -/
  | count (event : BlockingEvent)
  | aggregate (event : BlockingEvent)
  | emit (records : List (Record F))
  /-- The `finally` clause. -/
  | close
  | finish

inductive Reader (F : Type) where
  | notStarted
  | running (steps : List (ReaderStep F))
  | ended

def Reader.isStarted {F : Type} : Reader F → Bool
  | .notStarted => false
  | _ => true

/-- The sidecar process: the lines in its pipe, where `none` stands for bytes that
are not UTF-8, and whether it has exited. -/
structure Sidecar where
  stdout : List (Option String) := []
  exited : Bool := false
  deriving Repr, DecidableEq

/-- The state of the callbacks.  `process`, `readerHandle` and `stderrHandle` say
which attributes of the detector are set. -/
structure Pipeline (F : Type) where
  mode : Mode
  proc : ProcSnapshot
  /-- What `find_sidecar` returns. -/
  sidecarPath : Option String
  readyTimeoutS : ℕ := 5
  host : ReporterHost
  correlationPaddingNs : ℤ
  startTime : F
  detector : CoreDetector F
  lockHeld : Bool := false
  process : Bool := false
  readerHandle : Bool := false
  stderrHandle : Bool := false
  sidecar : Sidecar := {}
  reader : Reader F := .notStarted
  stderrStarted : Bool := false
  ringBuffer : StackRingBuffer
  reporter : Reporter F
  /-- What the sink has written. -/
  records : List (Record F) := []
  clock : ClockReading F
  monotonicNs : ℤ

/-! ## The rest of the world -/

inductive Move (F : Type) where
  | output (line : Option String)
  | sidecarExits
  | readerRuns
  | stderrOutput (chunk : String)
  | sample (timestampNs : ℤ) (stack : PythonStackTrace)
  | clock (reading : ClockReading F) (monotonicNs : ℤ)

section

variable {F : Type} [PyRuntime F]

/-- The steps of `_handle_line`. -/
def actionSteps : Action → List (ReaderStep F)
  | .setError error => [.setError error]
  | .ready => [.setReady]
  | .event event => [.correlate event]
  | .lost event => [.lose event]
  | .ignored => []
  | .raised _ => [.close]

namespace Pipeline

/-- `_stderr_tail` keeps the last 4096 characters. -/
def stderrTailLimit : ℕ := 4096

def appendStderr (p : Pipeline F) (chunk : String) : Pipeline F :=
  let text := (p.detector.stderrTail ++ chunk).toList
  { p with
    detector := { p.detector with
      stderrTail := String.ofList (text.reverse.take stderrTailLimit).reverse } }

/-- What an error does in `_set_error`, and the step that is left. -/
def setErrorStep (p : Pipeline F) (error : String) : Pipeline F × List (ReaderStep F) :=
  if p.detector.ready then ({ p with detector := p.detector.setError error }, [])
  else ({ p with detector := { p.detector with startupError := some error } }, [.setReady])

/-- The error that the end of the output records, unless one is recorded or the
stop was requested. -/
def closeSteps (p : Pipeline F) : List (ReaderStep F) :=
  if p.detector.stopRequested ∨ p.detector.startupError ≠ none ∨
      p.detector.runtimeError ≠ none then []
  else if p.detector.ready then [.setError "sidecar exited unexpectedly after ready"]
  else [.setError "sidecar exited before sending ready"]

/-- One step of the reader: the pipeline, and the steps that are due before the
ones that were due already.  An exception of the callback is logged. -/
def readerStep (p : Pipeline F) : ReaderStep F → Pipeline F × List (ReaderStep F)
  | .openStdout =>
      if p.process then (p, [])
      else (p, [.setError "sidecar stdout is unavailable", .finish])
  | .setError error => p.setErrorStep error
  | .setReady => ({ p with detector := { p.detector with ready := true } }, [])
  | .lose event => ({ p with detector := p.detector.addLoss event }, [])
  | .correlate event =>
      match p.mode with
      | .stats => (p, [])
      | .normal =>
          match Correlator.onEvent p.ringBuffer p.correlationPaddingNs p.monotonicNs event with
          | .error _ => (p, [])
          | .ok enriched => (p, [.count enriched])
  | .count event => ({ p with reporter := p.reporter.countEvent }, [.aggregate event])
  | .aggregate event =>
      let (reporter, built) := p.reporter.reportCounted p.host p.clock event
      match built with
      | .error _ => ({ p with reporter := reporter }, [])
      | .ok records => ({ p with reporter := reporter }, [.emit records])
  | .emit records => ({ p with records := p.records ++ records }, [])
  | .close => (p, p.closeSteps ++ [.finish])
  | .finish => (p, [])

/-- The reader thread runs for a step; it waits when there is no line to read. -/
def readerRuns (p : Pipeline F) : Pipeline F :=
  match p.reader with
  | .notStarted => p
  | .ended => p
  | .running (.finish :: _) => { p with reader := .ended }
  | .running (step :: steps) =>
      let (p', due) := p.readerStep step
      { p' with reader := .running (due ++ steps) }
  | .running [] =>
      match p.sidecar.stdout with
      | some line :: lines =>
          { p with
            sidecar := { p.sidecar with stdout := lines }
            reader := .running (actionSteps (handleLine p.detector line)) }
      | none :: lines =>
          { p with
            sidecar := { p.sidecar with stdout := lines }
            reader := .running [.close] }
      | [] => if p.sidecar.exited then { p with reader := .running [.close] } else p

def act (p : Pipeline F) : Move F → Pipeline F
  | .output line =>
      if p.sidecar.exited then p
      else { p with sidecar := { p.sidecar with stdout := p.sidecar.stdout ++ [line] } }
  | .sidecarExits => { p with sidecar := { p.sidecar with exited := true } }
  | .readerRuns => p.readerRuns
  | .stderrOutput chunk => if p.stderrStarted then p.appendStderr chunk else p
  | .sample timestampNs stack => { p with ringBuffer := p.ringBuffer.push timestampNs stack }
  | .clock reading monotonicNs => { p with clock := reading, monotonicNs := monotonicNs }

/-! ### What the rest of the world leaves alone -/

theorem readerStep_frame (p : Pipeline F) (step : ReaderStep F) :
    ∃ detector reporter records, (p.readerStep step).1 =
      { p with detector := detector, reporter := reporter, records := records } := by
  fun_cases readerStep p step with
  | case3 error =>
      unfold setErrorStep
      split
      · exact ⟨_, _, _, rfl⟩
      · exact ⟨_, _, _, rfl⟩
  | _ => exact ⟨_, _, _, rfl⟩

theorem readerRuns_frame (p : Pipeline F) :
    ∃ detector reporter records sidecar reader, p.readerRuns =
      { p with
        detector := detector, reporter := reporter, records := records, sidecar := sidecar
        reader := reader } := by
  fun_cases readerRuns p with
  | case4 step steps _ hfinish p' due hstep =>
      obtain ⟨detector, reporter, records, hp'⟩ := p.readerStep_frame step
      rw [hstep] at hp'
      refine ⟨detector, reporter, records, p.sidecar, .running (due ++ steps), ?_⟩
      rw [show p' = _ from hp']
  | _ => exact ⟨_, _, _, _, _, rfl⟩

theorem act_frame (p : Pipeline F) (move : Move F) :
    ∃ detector reporter records sidecar reader ringBuffer clock monotonicNs, p.act move =
      { p with
        detector := detector, reporter := reporter, records := records, sidecar := sidecar
        reader := reader, ringBuffer := ringBuffer, clock := clock
        monotonicNs := monotonicNs } := by
  fun_cases act p move with
  | case4 =>
      obtain ⟨detector, reporter, records, sidecar, reader, h⟩ := p.readerRuns_frame
      exact ⟨detector, reporter, records, sidecar, reader, _, _, _, h⟩
  | _ => exact ⟨_, _, _, _, _, _, _, _, rfl⟩
end Pipeline

instance : Environment (Pipeline F) (Move F) where
  act move p := p.act move

/-! ## The detector on the main thread -/

namespace Pipeline

omit [PyRuntime F]

def setLock (lockHeld : Bool) (p : Pipeline F) : Pipeline F :=
  { p with lockHeld := lockHeld }

def requestStop (p : Pipeline F) : Pipeline F :=
  { p with detector := { p.detector with stopRequested := true } }

/-- The handles that `_cleanup_locked` takes away. -/
def clearHandles (p : Pipeline F) : Pipeline F :=
  { p with process := false, readerHandle := false, stderrHandle := false }

end Pipeline

/-- A program of the main thread over the pipeline. -/
abbrev Program (F α : Type) := Main (Pipeline F) (Move F) α

def World.mapInner {χ ι : Type} (f : χ → χ) (s : World χ ι) : World χ ι :=
  { s with inner := f s.inner }

omit [PyRuntime F] in
def modifyInner (f : Pipeline F → Pipeline F) : Program F Unit :=
  Prog.modify (World.mapInner f) fun s => List.prefix_refl s.history

/-- The main thread waits for a lock that only it could release; a signal that
raises ends the wait. -/
def waitForLock (handler : Handler (Pipeline F) (Move F)) : ℕ → Program F Unit
  | 0 => Prog.pause
  | steps + 1 => do
      let _ ← tick handler
      waitForLock handler steps

/-- `self._lock.acquire()`.  No other thread takes the lock. -/
def acquire (handler : Handler (Pipeline F) (Move F)) : Program F Unit := do
  let lockHeld ← Prog.get fun s => s.inner.lockHeld
  if lockHeld then
    record .deadlocked
    let steps ← Prog.get fun s => s.schedule.length
    waitForLock handler (steps + 1)
  else modifyInner (Pipeline.setLock true)

/-- `with self._lock:` -/
def withLock {α : Type} (handler : Handler (Pipeline F) (Move F)) (body : Program F α) :
    Program F α := do
  let _ ← tick handler
  acquire handler
  Prog.tryFinally
    (do
      let _ ← tick handler
      body)
    (modifyInner (Pipeline.setLock false))

def sidecarExited : Program F Bool :=
  Prog.get fun s => s.inner.sidecar.exited

/-- `thread.join(timeout=2)`, for as long as it takes; a thread that has not been
started cannot be joined. -/
def join (handler : Handler (Pipeline F) (Move F)) (isStarted : Pipeline F → Bool) :
    Program F Unit := do
  let behaviour ← tick handler
  let started ← Prog.get fun s => isStarted s.inner
  if started then ticks handler behaviour.1 else Prog.raise (.other "RuntimeError")

/-- `if condition: …` -/
def runIf (condition : Bool) (p : Program F Unit) : Program F Unit :=
  if condition then p else Prog.pure ()

def cleanupLocked (handler : Handler (Pipeline F) (Move F)) : Program F Unit := do
  let p ← Prog.get World.inner
  modifyInner Pipeline.clearHandles
  runIf p.process (reap handler sidecarExited)
  runIf p.readerHandle (join handler fun p => p.reader.isStarted)
  runIf p.stderrHandle (join handler Pipeline.stderrStarted)

def detectorStop (handler : Handler (Pipeline F) (Move F)) : Program F Unit :=
  withLock handler do
    modifyInner Pipeline.requestStop
    let _ ← tick handler
    cleanupLocked handler

/-- `subprocess.Popen(command, …)` and the two reader threads. -/
def launch (handler : Handler (Pipeline F) (Move F)) : Program F Unit := do
  let popen ← tick handler
  match popen.2 with
  | some e => Prog.raise e
  | none => modifyInner fun p => { p with process := true, sidecar := {} }
  let _ ← tick handler
  modifyInner fun p => { p with readerHandle := true }
  let _ ← tick handler
  modifyInner fun p => { p with stderrHandle := true }
  let readerStart ← tick handler
  match readerStart.2 with
  | some e => Prog.raise e
  | none => modifyInner fun p => { p with reader := .running [.openStdout] }
  let stderrStart ← tick handler
  match stderrStart.2 with
  | some e => Prog.raise e
  | none => modifyInner fun p => { p with stderrStarted := true }

/-- The name of an exception; it stands for `exc.strerror or str(exc)`. -/
def exceptionDetail : PyException → String
  | .other name => name
  | _ => ""

def notFoundError (d : CoreDetector F) : PyException :=
  .coreDetectorError (d.executable ++ " sidecar was not found in PATH. " ++
    "Install a blocksnoop release that includes the Core sidecar " ++
    "or run with --backend bcc.")

def couldNotStartError (path : String) (e : PyException) : PyException :=
  .coreDetectorError ("Could not start " ++ path ++ ": " ++ exceptionDetail e ++ ". " ++
    "Check that the sidecar is executable and matches this platform.")

/-- The `try` block of `start` and its clauses. -/
def spawn (handler : Handler (Pipeline F) (Move F)) (path : String) : Program F Unit :=
  Prog.tryCatch
    (do
      let _ ← tick handler
      let p ← Prog.get World.inner
      match p.detector.buildCommand p.proc path with
      | .error e => Prog.raise e
      | .ok (_, d) => modifyInner fun p => { p with detector := d }
      launch handler)
    (fun e =>
      if e = .other "OSError" then do
        cleanupLocked handler
        Prog.raise (couldNotStartError path e)
      else if e.isException then do
        cleanupLocked handler
        Prog.raise e
      else Prog.raise e)

/-- The part of `start` under the lock; whether there was anything to launch. -/
def startLocked (handler : Handler (Pipeline F) (Move F)) : Program F Bool := do
  let p ← Prog.get World.inner
  if p.process then Prog.pure false
  else
    let _ ← tick handler
    match p.sidecarPath with
    | none => Prog.raise (notFoundError p.detector)
    | some path =>
        if p.detector.config.tid.isNone then Prog.raise (.other "AssertionError")
        else
          let _ ← tick handler
          modifyInner fun p => { p with detector := p.detector.reset }
          spawn handler path
          Prog.pure true

def timeoutError (p : Pipeline F) : PyException :=
  .coreDetectorError (p.detector.executable ++ " did not send a ready handshake within " ++
    toString p.readyTimeoutS ++ "s. Check sidecar logs and protocol version.")

/-- `self._stderr_tail.strip()` -/
def strippedStderr (d : CoreDetector F) : String :=
  String.ofList (pyStrip d.stderrTail.toList)

def handshakeError (d : CoreDetector F) (error : String) : PyException :=
  .coreDetectorError (d.executable ++ " handshake failed: " ++ error ++ ". " ++
    "Check that its protocol version matches blocksnoop." ++
    (if strippedStderr d = "" then "" else " Sidecar stderr: " ++ strippedStderr d))

def detectorStart (handler : Handler (Pipeline F) (Move F)) : Program F Unit := do
  let launched ← withLock handler (startLocked handler)
  if launched then
    -- `self._ready.wait(timeout=…)`
    let behaviour ← tick handler
    ticks handler behaviour.1
    let p ← Prog.get World.inner
    if !p.detector.ready then
      detectorStop handler
      Prog.raise (timeoutError p)
    else
      let _ ← tick handler
      let startupError ← Prog.get fun s => s.inner.detector.startupError
      match startupError with
      | none => Prog.pure ()
      | some error =>
          detectorStop handler
          let d ← Prog.get fun s => s.inner.detector
          Prog.raise (handshakeError d error)
  else Prog.pure ()

/-- The tail of the errors of `check_health`. -/
def stderrOrEmpty (d : CoreDetector F) : String :=
  if strippedStderr d = "" then "(empty)" else strippedStderr d

def checkHealth (handler : Handler (Pipeline F) (Move F)) : Program F Unit := do
  let _ ← tick handler
  let d ← Prog.get fun s => s.inner.detector
  match d.runtimeError with
  | some error =>
      Prog.raise (.coreDetectorError (d.executable ++ " stopped collecting: " ++ error ++
        ". Sidecar stderr: " ++ stderrOrEmpty d))
  | none =>
      let _ ← tick handler
      let p ← Prog.get World.inner
      if p.process && p.sidecar.exited && !p.detector.stopRequested then
        Prog.raise (.coreDetectorError (p.detector.executable ++
          " exited unexpectedly. Sidecar stderr: " ++ stderrOrEmpty p.detector))
      else Prog.pure ()

/-! ## The callbacks -/

def reporterStart (handler : Handler (Pipeline F) (Move F)) : Program F Unit := do
  let _ ← tick handler
  let p ← Prog.get World.inner
  let (reporter, records) := p.reporter.start p.clock
  modifyInner fun p => { p with reporter := reporter }
  let _ ← tick handler
  modifyInner fun p => { p with records := p.records ++ records }

def reporterSummary (terminationReason : String) (handler : Handler (Pipeline F) (Move F)) :
    Program F Unit := do
  let _ ← tick handler
  let durationS ← Prog.get fun s =>
    PyRuntime.sub s.inner.clock.monotonic s.inner.startTime
  let _ ← tick handler
  let lossCounts ← Prog.get fun s => s.inner.detector.lossCounts
  let _ ← tick handler
  let p ← Prog.get World.inner
  let (reporter, summary) := p.reporter.summary p.clock durationS lossCounts terminationReason
  modifyInner fun p => { p with reporter := reporter }
  let _ ← tick handler
  modifyInner fun p => { p with records := p.records ++ [summary] }

/-- The callbacks of `_run_normal`.  The sampler and `Reporter.close` are not
followed. -/
def normalCallbacks (F : Type) [PyRuntime F] : Callbacks (Pipeline F) (Move F) where
  start handler := do
    reporterStart handler
    unknown handler
    detectorStart handler
  stop handler := stopParts [detectorStop, unknown] handler 0
  checkHealth := checkHealth
  onExit terminationReason handler := do
    reporterSummary terminationReason handler
    unknown handler

/-- The callbacks of `_run_stats`.  The collector is not followed. -/
def statsCallbacks (F : Type) [PyRuntime F] : Callbacks (Pipeline F) (Move F) where
  start handler := do
    unknown handler
    detectorStart handler
  stop handler := stopParts [detectorStop, unknown] handler 0
  checkHealth := checkHealth
  onExit _ := unknown

def callbacks (F : Type) [PyRuntime F] : Mode → Callbacks (Pipeline F) (Move F)
  | .normal => normalCallbacks F
  | .stats => statsCallbacks F

end

end Blocksnoop.Cli
