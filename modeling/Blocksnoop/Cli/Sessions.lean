import Blocksnoop.Cli.Pipeline

/-!
# Sessions of the detector

`start` and `stop` of `CoreDetector`, called one after the other from one thread, with every
sidecar they spawn.  Sidecars are numbered in the order in which they are spawned, and the
two threads that are created for a sidecar have its number.  The caller, the threads and the
sidecars take their turns in any order.  What the callbacks do is not followed.
-/

namespace Blocksnoop.Cli

open Blocksnoop.Support Blocksnoop.CoreBackend

/-! ## Sidecars and their threads -/

/-- A step of `_read_messages`. -/
inductive ReadStep where
  | openStdout
  | setError (error : String)
  | setReady
  | lose (event : LostEvent)
  | deliver (event : BlockingEvent)
  /-- The `finally` clause. -/
  | close
  | finish
  deriving Repr, DecidableEq

/-- A step of `_read_stderr`. -/
inductive StderrStep where
  | openStderr
  deriving Repr, DecidableEq

/-- A thread, with the process it reads from and the steps that are due; when none is, it
reads. -/
inductive ReadingThread (σ : Type) where
  | unstarted
  | running (source : Option ℕ) (steps : List σ)
  | ended
  deriving Repr, DecidableEq

def ReadingThread.IsRunning {σ : Type} : ReadingThread σ → Prop
  | .running _ _ => True
  | _ => False

/-- A sidecar with what is in its pipes, where `none` stands for bytes that are not UTF-8,
and the threads created for it.  As given, it is one that was never spawned. -/
structure SpawnedSidecar where
  stdout : List (Option String) := []
  stderr : List (Option String) := []
  exited : Bool := true
  reaped : Bool := true
  reader : ReadingThread ReadStep := .unstarted
  stderrReader : ReadingThread StderrStep := .unstarted
  /-- The events its reader has handed to the callback. -/
  delivered : List BlockingEvent := []
  deriving Repr, DecidableEq

/-- `_process`, `_reader` and `_stderr_reader`. -/
structure Handles where
  process : Option ℕ := none
  reader : Option ℕ := none
  stderrReader : Option ℕ := none
  deriving Repr, DecidableEq

/-! ## The caller -/

/-- What a call of `start` meets. -/
structure Circumstances where
  /-- What `find_sidecar` returns. -/
  sidecarPath : Option String
  proc : ProcSnapshot

/-- What `start` clears, in its order. -/
inductive SessionField where
  | ready
  | stopRequested
  | startupError
  | runtimeError
  | stderrTail
  | lossCounts
  deriving Repr, DecidableEq

def sessionFields : List SessionField :=
  [.ready, .stopRequested, .startupError, .runtimeError, .stderrTail, .lossCounts]

/-- How the last call has ended. -/
inductive CallEnd where
  | started
  | startRaised (e : PyException)
  | stopped
  | stopRaised (e : PyException)
  deriving Repr, DecidableEq

/-- What `_cleanup_locked` is called for. -/
inductive Purpose where
  /-- `start` raises after it. -/
  | failed (e : PyException)
  /-- `start` raises after it, with the tail of the standard error. -/
  | rejected (error : String)
  | stop
  deriving Repr, DecidableEq

/-- Where the caller is. -/
inductive CallerPoint where
  | between (last : Option CallEnd)
  | starting (c : Circumstances)
  | checking (c : Circumstances)
  | finding (c : Circumstances)
  | resetting (c : Circumstances) (path : String) (fields : List SessionField)
  | building (c : Circumstances) (path : String)
  | spawning (path : String)
  | namingReader (path : String) (sidecar : ℕ)
  | namingStderrReader (path : String) (sidecar : ℕ)
  | startingReader (path : String) (sidecar : ℕ)
  | startingStderrReader (path : String) (sidecar : ℕ)
  /-- The end of a `with` block. -/
  | releasing (next : CallerPoint)
  | waiting
  | deciding
  | raising (error : String)
  /-- `stop`, called by `start` or by the caller itself. -/
  | stopping (purpose : Purpose)
  | requesting (purpose : Purpose)
  /-- `_cleanup_locked`, with the handles it has taken. -/
  | clearing (purpose : Purpose)
  | polling (purpose : Purpose) (taken : Handles)
  | terminating (purpose : Purpose) (taken : Handles)
  | awaiting (purpose : Purpose) (taken : Handles)
  | killing (purpose : Purpose) (taken : Handles)
  | awaitingKilled (purpose : Purpose) (taken : Handles)
  | joiningReader (purpose : Purpose) (taken : Handles)
  | joiningStderrReader (purpose : Purpose) (taken : Handles)

/-- Where the caller goes after `_cleanup_locked`. -/
def Purpose.next : Purpose → CallerPoint
  | failed e => .between (some (.startRaised e))
  | rejected error => .raising error
  | stop => .between (some .stopped)

/-- Where the caller goes when `_cleanup_locked` itself raises. -/
def Purpose.raised (e : PyException) : Purpose → CallerPoint
  | failed _ => .between (some (.startRaised e))
  | rejected _ => .between (some (.startRaised e))
  | stop => .between (some (.stopRaised e))

/-- The `except` clauses of `start`. -/
def abandonStart (path : String) (e : PyException) : CallerPoint :=
  if e = .other "OSError" then .clearing (.failed (couldNotStartError path e))
  else if e.isException then .clearing (.failed e)
  else .releasing (.between (some (.startRaised e)))

structure Sessions (F : Type) where
  detector : CoreDetector F
  readyTimeoutS : ℕ := 5
  handles : Handles := {}
  lockHeld : Bool := false
  /-- How many sidecars have been spawned. -/
  count : ℕ := 0
  sidecars : ℕ → SpawnedSidecar := fun _ => {}
  point : CallerPoint := .between none

/-- A call of the caller. -/
inductive DetectorCall where
  | start (c : Circumstances)
  | stop

inductive SessionTurn where
  | call (call : DetectorCall)
  /-- A step of the caller; what it calls may raise, its wait may time out. -/
  | caller (fault : Option String)
  | reader (sidecar : ℕ)
  | stderrReader (sidecar : ℕ)
  | output (sidecar : ℕ) (line : Option String)
  | errorOutput (sidecar : ℕ) (chunk : Option String)
  | exits (sidecar : ℕ)

section

variable {F : Type}

namespace SessionField

def clear (d : CoreDetector F) : SessionField → CoreDetector F
  | ready => { d with ready := false }
  | stopRequested => { d with stopRequested := false }
  | startupError => { d with startupError := none }
  | runtimeError => { d with runtimeError := none }
  | stderrTail => { d with stderrTail := "" }
  | lossCounts => { d with lossCounts := [] }

end SessionField

/-- The error of `start` for a handshake that takes too long. -/
def expiredError (d : CoreDetector F) (readyTimeoutS : ℕ) : PyException :=
  .coreDetectorError (d.executable ++ " did not send a ready handshake within " ++
    toString readyTimeoutS ++ "s. Check sidecar logs and protocol version.")

/-- The detector after `_build_command`, whether or not it has raised. -/
def identify (d : CoreDetector F) (proc : ProcSnapshot) : CoreDetector F :=
  match pidNamespace proc (some d.config.pid) with
  | none => d
  | some (dev, ino) =>
      let d := { d with pidnsDev := some dev, pidnsIno := some ino }
      match resolveNamespacePid proc d.config.pid with
      | .error _ => d
      | .ok expectedPid =>
          let d := { d with expectedPid := expectedPid }
          match d.config.tid with
          | none => d
          | some tid =>
              match d.validateTargetTid proc tid (dev, ino) with
              | .error _ => d
              | .ok () =>
                  match resolveNamespacePid proc tid with
                  | .error _ => d
                  | .ok expectedTid => { d with expectedTid := some expectedTid }

def appendStderrTail (d : CoreDetector F) (chunk : String) : CoreDetector F :=
  { d with
    stderrTail := String.ofList
      ((d.stderrTail ++ chunk).toList.reverse.take Pipeline.stderrTailLimit).reverse }

/-- The error at the end of the output, unless one is recorded or the stop was requested. -/
def closeError (d : CoreDetector F) : Option String :=
  if d.stopRequested ∨ d.startupError ≠ none ∨ d.runtimeError ≠ none then none
  else if d.ready then some "sidecar exited unexpectedly after ready"
  else some "sidecar exited before sending ready"

/-- The steps of `_handle_line`. -/
def readSteps : Action → List ReadStep
  | .setError error => [.setError error]
  | .ready => [.setReady]
  | .event event => [.deliver event]
  | .lost event => [.lose event]
  | .ignored => []
  | .raised _ => [.close]

namespace Sessions

variable (s : Sessions F)

def moveTo (point : CallerPoint) : Sessions F :=
  { s with point := point }

def update (k : ℕ) (f : SpawnedSidecar → SpawnedSidecar) : Sessions F :=
  { s with sidecars := Function.update s.sidecars k (f (s.sidecars k)) }

def setReader (k : ℕ) (reader : ReadingThread ReadStep) : Sessions F :=
  s.update k fun x => { x with reader := reader }

def setStderrReader (k : ℕ) (stderrReader : ReadingThread StderrStep) : Sessions F :=
  s.update k fun x => { x with stderrReader := stderrReader }

def setDetector (d : CoreDetector F) : Sessions F :=
  { s with detector := d }

/-- `poll` or `wait` has seen the exit. -/
def reap (k : ℕ) : Sessions F :=
  s.update k fun x => { x with reaped := true }

/-! ## Turns of the threads and of the sidecars -/

/-- One step of `_read_messages` in the thread of sidecar `k`. -/
def readStep (k : ℕ) (source : Option ℕ) (steps : List ReadStep) : ReadStep → Sessions F
  | .openStdout =>
      match s.handles.process with
      | none =>
          s.setReader k (.running none [.setError "sidecar stdout is unavailable", .finish])
      | some process => s.setReader k (.running (some process) steps)
  | .setError error =>
      if s.detector.ready then
        (s.setDetector (s.detector.setError error)).setReader k (.running source steps)
      else
        (s.setDetector { s.detector with startupError := some error }).setReader k
          (.running source (.setReady :: steps))
  | .setReady =>
      (s.setDetector { s.detector with ready := true }).setReader k (.running source steps)
  | .lose event =>
      (s.setDetector (s.detector.addLoss event)).setReader k (.running source steps)
  | .deliver event =>
      s.update k fun x =>
        { x with reader := .running source steps, delivered := x.delivered ++ [event] }
  | .close =>
      s.setReader k
        (.running source ((closeError s.detector).toList.map .setError ++ [.finish]))
  | .finish => s.setReader k .ended

section

variable [PyRuntime F]

/-- The loop over the lines waits for one, or for the end of the output. -/
def readLine (k process : ℕ) : Sessions F :=
  match (s.sidecars process).stdout with
  | [] =>
      if (s.sidecars process).exited then s.setReader k (.running (some process) [.close]) else s
  | none :: lines =>
      (s.update process fun x => { x with stdout := lines }).setReader k
        (.running (some process) [.close])
  | some line :: lines =>
      (s.update process fun x => { x with stdout := lines }).setReader k
        (.running (some process) (readSteps (handleLine s.detector line)))

def readerRuns (k : ℕ) : Sessions F :=
  match (s.sidecars k).reader with
  | .running source (step :: steps) => s.readStep k source steps step
  | .running (some process) [] => s.readLine k process
  | _ => s

end

def readChunk (k process : ℕ) : Sessions F :=
  match (s.sidecars process).stderr with
  | [] => if (s.sidecars process).exited then s.setStderrReader k .ended else s
  | none :: chunks =>
      (s.update process fun x => { x with stderr := chunks }).setStderrReader k .ended
  | some chunk :: chunks =>
      (s.update process fun x => { x with stderr := chunks }).setDetector
        (appendStderrTail s.detector chunk)

def stderrReaderRuns (k : ℕ) : Sessions F :=
  match (s.sidecars k).stderrReader with
  | .running _ (.openStderr :: steps) =>
      match s.handles.process with
      | none => s.setStderrReader k .ended
      | some process => s.setStderrReader k (.running (some process) steps)
  | .running (some process) [] => s.readChunk k process
  | _ => s

def outputs (k : ℕ) (line : Option String) : Sessions F :=
  if (s.sidecars k).exited then s
  else s.update k fun x => { x with stdout := x.stdout ++ [line] }

def outputsError (k : ℕ) (chunk : Option String) : Sessions F :=
  if (s.sidecars k).exited then s
  else s.update k fun x => { x with stderr := x.stderr ++ [chunk] }

def exits (k : ℕ) : Sessions F :=
  s.update k fun x => { x with exited := true }

/-! ## Turns of the caller -/

/-- The caller waits for its lock. -/
def acquire (next : CallerPoint) : Sessions F :=
  if s.lockHeld then s else { s with lockHeld := true, point := next }

/-- `subprocess.Popen(command, …)` -/
def spawn (path : String) : Sessions F :=
  { s with
    handles := { s.handles with process := some s.count }
    count := s.count + 1
    sidecars := Function.update s.sidecars s.count { exited := false, reaped := false }
    point := .namingReader path s.count }

def startsReader (k : ℕ) (next : CallerPoint) : Sessions F :=
  (s.setReader k (.running none [.openStdout])).moveTo next

def startsStderrReader (k : ℕ) (next : CallerPoint) : Sessions F :=
  (s.setStderrReader k (.running none [.openStderr])).moveTo next

/-- The exit of the process is waited for; `onFault` is the way on when the wait fails. -/
def awaitExit (purpose : Purpose) (taken : Handles) (onFault : Sessions F) : Sessions F :=
  match taken.process with
  | none => s.moveTo (.joiningReader purpose taken)
  | some k =>
      if (s.sidecars k).exited then (s.reap k).moveTo (.joiningReader purpose taken) else onFault

/-- `thread.join(timeout=2)`, for as long as it takes. -/
def joinThread {σ : Type} (purpose : Purpose) (next : CallerPoint) :
    Option (ReadingThread σ) → Sessions F
  | none => s.moveTo next
  | some .unstarted => s.moveTo (.releasing (purpose.raised (.other "RuntimeError")))
  | some (.running _ _) => s
  | some .ended => s.moveTo next

/-- A step of `_cleanup_locked`.  A killed process can be waited for. -/
def cleanupRuns (fault : Option String) : Sessions F :=
  match s.point with
  | .clearing purpose => { s with handles := {}, point := .polling purpose s.handles }
  | .polling purpose taken =>
      s.awaitExit purpose taken (s.moveTo (.terminating purpose taken))
  | .terminating purpose taken =>
      s.moveTo (if fault.isSome then .killing purpose taken else .awaiting purpose taken)
  | .awaiting purpose taken =>
      s.awaitExit purpose taken (if fault.isSome then s.moveTo (.killing purpose taken) else s)
  | .killing purpose taken => s.moveTo (.awaitingKilled purpose taken)
  | .awaitingKilled purpose taken => s.awaitExit purpose taken s
  | .joiningReader purpose taken =>
      s.joinThread purpose (.joiningStderrReader purpose taken)
        (taken.reader.map fun k => (s.sidecars k).reader)
  | .joiningStderrReader purpose taken =>
      s.joinThread purpose (.releasing purpose.next)
        (taken.stderrReader.map fun k => (s.sidecars k).stderrReader)
  | _ => s

/-- A step of `start` under the lock. -/
def launchRuns (fault : Option String) : Sessions F :=
  match s.point with
  | .checking c =>
      s.moveTo (if s.handles.process.isSome then .releasing (.between (some .started))
        else .finding c)
  | .finding c =>
      match c.sidecarPath with
      | none => s.moveTo (.releasing (.between (some (.startRaised (notFoundError s.detector)))))
      | some path =>
          s.moveTo (if s.detector.config.tid.isNone then
              .releasing (.between (some (.startRaised (.other "AssertionError"))))
            else .resetting c path sessionFields)
  | .resetting c path [] => s.moveTo (.building c path)
  | .resetting c path (field :: fields) =>
      (s.setDetector (field.clear s.detector)).moveTo (.resetting c path fields)
  | .spawning path =>
      match fault with
      | none => s.spawn path
      | some name => s.moveTo (abandonStart path (.other name))
  | .namingReader path k =>
      { s with handles := { s.handles with reader := some k }, point := .namingStderrReader path k }
  | .namingStderrReader path k =>
      { s with
        handles := { s.handles with stderrReader := some k }
        point := .startingReader path k }
  | .startingReader path k =>
      match fault with
      | none => s.startsReader k (.startingStderrReader path k)
      | some name => s.moveTo (abandonStart path (.other name))
  | .startingStderrReader path k =>
      match fault with
      | none => s.startsStderrReader k (.releasing .waiting)
      | some name => s.moveTo (abandonStart path (.other name))
  | _ => s

section

variable [PyRuntime F]

/-- `command = self._build_command(sidecar)` -/
def buildRuns (c : Circumstances) (path : String) : Sessions F :=
  match s.detector.buildCommand c.proc path with
  | .error e => (s.setDetector (identify s.detector c.proc)).moveTo (abandonStart path e)
  | .ok (_, launched) => (s.setDetector launched).moveTo (.spawning path)

/-- The caller runs for a step. -/
def callerRuns (fault : Option String) : Sessions F :=
  match s.point with
  | .between _ => s
  | .starting c => s.acquire (.checking c)
  | .building c path => s.buildRuns c path
  | .releasing next => { s with lockHeld := false, point := next }
  | .waiting =>
      if fault.isSome then
        s.moveTo (.stopping (.failed (expiredError s.detector s.readyTimeoutS)))
      else if s.detector.ready then s.moveTo .deciding
      else s
  | .deciding =>
      match s.detector.startupError with
      | none => s.moveTo (.between (some .started))
      | some error => s.moveTo (.stopping (.rejected error))
  | .raising error => s.moveTo (.between (some (.startRaised (handshakeError s.detector error))))
  | .stopping purpose => s.acquire (.requesting purpose)
  | .requesting purpose =>
      (s.setDetector { s.detector with stopRequested := true }).moveTo (.clearing purpose)
  | .checking _ | .finding _ | .resetting _ _ _ | .spawning _ | .namingReader _ _
  | .namingStderrReader _ _ | .startingReader _ _ | .startingStderrReader _ _ =>
      s.launchRuns fault
  | .clearing _ | .polling _ _ | .terminating _ _ | .awaiting _ _ | .killing _ _
  | .awaitingKilled _ _ | .joiningReader _ _ | .joiningStderrReader _ _ =>
      s.cleanupRuns fault

/-- The caller makes its next call. -/
def begins : DetectorCall → Sessions F
  | .start c => s.moveTo (.starting c)
  | .stop => s.moveTo (.stopping .stop)

def step : SessionTurn → Sessions F
  | .call call =>
      match s.point with
      | .between _ => s.begins call
      | _ => s
  | .caller fault => s.callerRuns fault
  | .reader k => s.readerRuns k
  | .stderrReader k => s.stderrReaderRuns k
  | .output k line => s.outputs k line
  | .errorOutput k chunk => s.outputsError k chunk
  | .exits k => s.exits k

def run (turns : List SessionTurn) : Sessions F :=
  turns.foldl (fun s turn => s.step turn) s

@[simp] theorem run_nil : s.run [] = s :=
  rfl

@[simp] theorem run_cons (turn : SessionTurn) (turns : List SessionTurn) :
    s.run (turn :: turns) = (s.step turn).run turns :=
  rfl

end

end Sessions

end

end Blocksnoop.Cli
