import Blocksnoop.Core

/-!
# The protocol reader of the Core backend

The message handlers of `CoreDetector` in `core_backend.py`.  A handler is split
in two: what a line asks for is an `Action`, which depends on the expectations
of the detector only, and `perform` carries an action out.  The split is the one
the reader thread makes: the first half reads fields that do not change during a
session, the second half touches the state it shares with the main thread.
-/

namespace Blocksnoop.CoreBackend

open Blocksnoop.Support

def protocolVersion : ℤ := 2

def uint64Max : ℤ := 2 ^ 64 - 1

def lossSources : List String := ["perf_buffer"]

/-- The state of a `CoreDetector` that the protocol reads and writes. -/
structure CoreDetector (F : Type) where
  config : DetectorConfig F
  executable : String := "blocksnoop-ebpf"
  stderrTail : String := ""
  ready : Bool := false
  stopRequested : Bool := false
  startupError : Option String := none
  runtimeError : Option String := none
  lossCounts : Dict String ℤ := []
  expectedPid : ℤ
  expectedTid : Option ℤ
  pidnsDev : Option ℤ := none
  pidnsIno : Option ℤ := none

/-- What a line of the sidecar asks the reader to do. -/
inductive Action where
  | setError (error : String)
  | ready
  | event (event : BlockingEvent)
  | lost (event : LostEvent)
  | ignored
  | raised (e : PyException)
  deriving Repr, DecidableEq

section

variable {F : Type} [PyRuntime F]

/-! ## Text forms of JSON values -/

mutual

/-- `repr` of a decoded value. -/
def reprJson (F : Type) [PyRuntime F] : Json → String
  | .null => "None"
  | .bool true => "True"
  | .bool false => "False"
  | .int i => strInt i
  | .float literal => PyRuntime.reprFloat (PyRuntime.ofLiteral literal : F)
  | .str s => PyRuntime.reprStr F s
  | .arr items => "[" ++ reprItems F items ++ "]"
  | .obj members => "\x7b" ++ reprMembers F members ++ "\x7d"

def reprItems (F : Type) [PyRuntime F] : List Json → String
  | [] => ""
  | [item] => reprJson F item
  | item :: next :: items => reprJson F item ++ ", " ++ reprItems F (next :: items)

def reprMembers (F : Type) [PyRuntime F] : List (String × Json) → String
  | [] => ""
  | [(key, value)] => PyRuntime.reprStr F key ++ ": " ++ reprJson F value
  | (key, value) :: next :: members =>
      PyRuntime.reprStr F key ++ ": " ++ reprJson F value ++ ", " ++
        reprMembers F (next :: members)

end

/-- `repr(message.get(key))` -/
def reprGet (F : Type) [PyRuntime F] : Option Json → String
  | none => "None"
  | some value => reprJson F value

/-- `str` of a decoded value. -/
def strJson (F : Type) [PyRuntime F] : Json → String
  | .str s => s
  | value => reprJson F value

/-- `value == n` for a decoded value and an integer that is neither zero nor
one, so that no boolean equals it. -/
def equalsInt (F : Type) [PyRuntime F] (value : Option Json) (n : ℤ) : Bool :=
  match value with
  | some (.int i) => i == n
  | some (.float literal) => PyRuntime.eqInt (PyRuntime.ofLiteral literal : F) n
  | _ => false

/-! ## Handlers -/

/-- A field that must be an integer; booleans are not. -/
def requireEventInt (message : List (String × Json)) (field : String) :
    Except PyException ℤ :=
  match Json.get message field with
  | none => .error (.other "KeyError")
  | some (.int i) => .ok i
  | some _ => .error (.other "ValueError")

def requirePidns (message : List (String × Json)) : Except PyException (ℤ × ℤ) := do
  let dev ← requireEventInt message "pidns_dev"
  let ino ← requireEventInt message "pidns_ino"
  return (dev, ino)

/-- `isinstance(value, str)` for every item of a non-empty list. -/
def isTracepointList : Option Json → Bool
  | some (.arr items) =>
      items ≠ [] && items.all fun item => match item with
        | .str _ => true
        | _ => false
  | _ => false

def readyFields (message : List (String × Json)) :
    Except PyException (ℤ × ℤ × ℤ × ℤ × ℤ) := do
  let pid ← requireEventInt message "pid"
  let tid ← requireEventInt message "tid"
  let thresholdNs ← requireEventInt message "threshold_ns"
  let pidns ← requirePidns message
  return (pid, tid, thresholdNs, pidns)

def handleReady (d : CoreDetector F) (message : List (String × Json)) : Action :=
  match readyFields message with
  | .error _ =>
      .setError "ready message has invalid pid, tid, PID namespace or threshold_ns"
  | .ok (pid, tid, thresholdNs, dev, ino) =>
      match d.config.thresholdNs with
      | .error e => .raised e
      | .ok expectedThresholdNs =>
          if pid ≠ d.expectedPid ∨ some tid ≠ d.expectedTid ∨
              thresholdNs ≠ expectedThresholdNs ∨
              (some dev, some ino) ≠ (d.pidnsDev, d.pidnsIno) ∨
              !isTracepointList (Json.get message "tracepoints") then
            .setError "ready message does not match requested target or tracepoints"
          else .ready

def eventFields (message : List (String × Json)) :
    Except PyException (ℤ × ℤ × ℤ × ℤ × ℤ × ℤ) := do
  let startNs ← requireEventInt message "start_ns"
  let endNs ← requireEventInt message "end_ns"
  let pid ← requireEventInt message "pid"
  let tid ← requireEventInt message "tid"
  let pidns ← requirePidns message
  return (startNs, endNs, pid, tid, pidns)

def handleEvent (d : CoreDetector F) (message : List (String × Json)) : Action :=
  match eventFields message with
  | .error _ => .ignored
  | .ok (startNs, endNs, pid, tid, dev, ino) =>
      if startNs < 0 ∨ endNs < startNs ∨ pid ≠ d.expectedPid ∨
          some tid ≠ d.expectedTid ∨
          (some dev, some ino) ≠ (d.pidnsDev, d.pidnsIno) then .ignored
      else .event { startNs, endNs, pid, tid }

/-- `source in _LOSS_SOURCES`; a list or a dictionary has no hash. -/
def inLossSources : Option Json → Except PyException (Option String)
  | some (.str s) => .ok (if s ∈ lossSources then some s else none)
  | some (.arr _) => .error (.other "TypeError")
  | some (.obj _) => .error (.other "TypeError")
  | _ => .ok none

def lostFields (message : List (String × Json)) :
    Except PyException (ℤ × ℤ × ℤ) := do
  let count ← requireEventInt message "count"
  let pidns ← requirePidns message
  return (count, pidns)

def handleLost (d : CoreDetector F) (message : List (String × Json)) : Action :=
  match lostFields message with
  | .error _ => .setError "received malformed lost record"
  | .ok (count, dev, ino) =>
      if count < 0 ∨ uint64Max < count then .setError "received invalid lost record"
      else
        match inLossSources (Json.get message "source") with
        | .error e => .raised e
        | .ok none => .setError "received invalid lost record"
        | .ok (some source) =>
            if (some dev, some ino) ≠ (d.pidnsDev, d.pidnsIno) then
              .setError "received invalid lost record"
            else .lost { count, source }

def handleMessage (d : CoreDetector F) (message : List (String × Json)) : Action :=
  if !equalsInt F (Json.get message "version") protocolVersion then
    .setError ("unsupported protocol version " ++ reprGet F (Json.get message "version"))
  else
    match Json.get message "type" with
    | some (.str "ready") => handleReady d message
    | some (.str "event") => handleEvent d message
    | some (.str "lost") => handleLost d message
    | some (.str "fatal") =>
        .setError (strJson F
          ((Json.get message "message").getD (.str "unknown sidecar error")))
    | other => .setError ("received unknown message type " ++ reprGet F other)

def handleLine (d : CoreDetector F) (line : String) : Action :=
  match Json.loads line with
  | .error .jsonDecodeError => .setError "received invalid NDJSON"
  | .error .valueError => .raised (.other "ValueError")
  | .ok (.obj message) => handleMessage d message
  | .ok _ => .setError "received a non-object NDJSON message"

/-! ## Carrying an action out -/

namespace CoreDetector

omit [PyRuntime F]

def setError (d : CoreDetector F) (error : String) : CoreDetector F :=
  if d.ready then { d with runtimeError := d.runtimeError <|> some error }
  else { d with startupError := some error, ready := true }

def addLoss (d : CoreDetector F) (event : LostEvent) : CoreDetector F :=
  { d with
    lossCounts :=
      d.lossCounts.set event.source ((d.lossCounts.get event.source).getD 0 + event.count) }

/-- The detector after an action; the callbacks run outside it. -/
def perform (d : CoreDetector F) : Action → CoreDetector F
  | .setError error => d.setError error
  | .ready => { d with ready := true }
  | .lost event => d.addLoss event
  | .event _ => d
  | .ignored => d
  | .raised _ => d

end CoreDetector

/-- The call of the event callback an action makes. -/
def Action.delivered : Action → List BlockingEvent
  | .event e => [e]
  | _ => []

/-- Whether the action ends the reader thread. -/
def Action.crashes : Action → Bool
  | .raised _ => true
  | _ => false

/-- The state of a reader: the detector, the events handed to the callback so
far, and whether an exception has ended the loop over the lines. -/
structure Session (F : Type) where
  detector : CoreDetector F
  events : List BlockingEvent := []
  crashed : Bool := false

namespace Session

/-- One turn of the loop over the lines. -/
def feed (s : Session F) (line : String) : Session F :=
  if s.crashed then s
  else
    let action := handleLine s.detector line
    { detector := s.detector.perform action
      events := s.events ++ action.delivered
      crashed := action.crashes }

def feedAll (s : Session F) (lines : List String) : Session F :=
  lines.foldl feed s

@[simp] theorem feedAll_nil (s : Session F) : s.feedAll [] = s := rfl

@[simp] theorem feedAll_cons (s : Session F) (line : String) (lines : List String) :
    s.feedAll (line :: lines) = (s.feed line).feedAll lines := rfl

end Session

end

end Blocksnoop.CoreBackend
