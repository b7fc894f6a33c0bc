import Blocksnoop.Support.Interrupt
import Blocksnoop.Support.Python

/-!
# The run loop

`_run_loop` and `_stop_child` of `cli.py`.  The main thread is a program that a
signal can interrupt between any two steps; the handler of the loop then runs on
top of it.  Everything that is not decided by the program comes from a schedule:
before each step the rest of the world acts, a signal may arrive, and a call into
unknown code learns how it will behave.
-/

namespace Blocksnoop.Cli

open Blocksnoop.Support

inductive Signal where
  | sigint
  | sigterm
  deriving Repr, DecidableEq

def Signal.number : Signal → ℤ
  | .sigint => 2
  | .sigterm => 15

/-- What `_run_normal` and `_run_stats` build before they enter the loop. -/
inductive Construction where
  | buildSinks
  | detectorConfig
  | reporter
  | austinSampler
  | correlator
  | statsCollector
  | createDetector
  deriving Repr, DecidableEq

/-- The calls that are recorded. -/
inductive Call where
  | construct (step : Construction)
  | start
  | checkHealth
  | stop
  | stopPart (i : ℕ)
  | onExit (terminationReason : String)
  | stopChild
  deriving Repr, DecidableEq

inductive Mark where
  | began (call : Call)
  | returned (call : Call)
  | raised (call : Call)
  /-- The poll that ends the loop over the child. -/
  | observed (returncode : ℤ)
  /-- The main thread waits for a lock that it holds itself. -/
  | deadlocked
  | signal (signal : Signal)
  deriving Repr, DecidableEq

/-- A launched target.  `waited` holds once its exit status has been collected. -/
structure Child where
  exitCode : Option ℤ := none
  waited : Bool := false
  deriving Repr, DecidableEq

/-- The exit status is collected, if there is one. -/
def Child.collect (c : Child) : Child :=
  { c with waited := c.exitCode.isSome || c.waited }

/-- A process exits once. -/
def Child.exit (returncode : ℤ) (c : Child) : Child :=
  if c.exitCode = none then { c with exitCode := some returncode } else c

/-- A mark with what it found: the flag of the loop, the target and the state of
the callbacks. -/
structure Event (χ : Type) where
  mark : Mark
  cleanedUp : Bool
  child : Option Child
  inner : χ

/-- An action of the rest of the world. -/
inductive EnvAction (ι : Type) where
  | childExits (returncode : ℤ)
  | inner (action : ι)
  deriving Repr, DecidableEq

/-- How a call into unknown code behaves: its number of steps and what it
raises. -/
abbrev Behaviour := ℕ × Option PyException

structure Entry (ι : Type) where
  env : List (EnvAction ι) := []
  signal : Option Signal := none
  behaviour : Behaviour := (0, none)

/-- How the rest of the world acts on the state of the callbacks. -/
class Environment (χ ι : Type) where
  act : ι → χ → χ

structure World (χ ι : Type) where
  inner : χ
  child : Option Child
  cleanedUp : Bool := false
  schedule : List (Entry ι)
  history : List (Event χ) := []

namespace World

variable {χ ι : Type}

/-- A world is before another one when its history is the beginning of the
other's. -/
instance : Preorder (World χ ι) where
  le s s' := s.history <+: s'.history
  le_refl s := List.prefix_refl s.history
  le_trans _ _ _ h h' := h.trans h'

def record (mark : Mark) (s : World χ ι) : World χ ι :=
  { s with history := s.history ++ [⟨mark, s.cleanedUp, s.child, s.inner⟩] }

theorem le_record (mark : Mark) (s : World χ ι) : s ≤ s.record mark :=
  List.prefix_append _ _

variable [Environment χ ι]

def applyEnv (s : World χ ι) : EnvAction ι → World χ ι
  | .childExits returncode => { s with child := s.child.map (Child.exit returncode) }
  | .inner action => { s with inner := Environment.act action s.inner }

/-- The world after the actions of an entry. -/
def advance (s : World χ ι) (env : List (EnvAction ι)) (schedule : List (Entry ι)) :
    World χ ι :=
  { env.foldl applyEnv s with schedule := schedule }

theorem foldl_applyEnv_history (s : World χ ι) (env : List (EnvAction ι)) :
    (env.foldl applyEnv s).history = s.history := by
  induction env generalizing s with
  | nil => rfl
  | cons action env ih =>
      rw [List.foldl_cons, ih]
      cases action <;> rfl

@[simp] theorem advance_history (s : World χ ι) (env : List (EnvAction ι))
    (schedule : List (Entry ι)) : (s.advance env schedule).history = s.history :=
  foldl_applyEnv_history s env

theorem foldl_applyEnv_cleanedUp (s : World χ ι) (env : List (EnvAction ι)) :
    (env.foldl applyEnv s).cleanedUp = s.cleanedUp := by
  induction env generalizing s with
  | nil => rfl
  | cons action env ih =>
      rw [List.foldl_cons, ih]
      cases action <;> rfl

@[simp] theorem advance_cleanedUp (s : World χ ι) (env : List (EnvAction ι))
    (schedule : List (Entry ι)) : (s.advance env schedule).cleanedUp = s.cleanedUp :=
  foldl_applyEnv_cleanedUp s env

/-- The next step the schedule offers. -/
def offer (s : World χ ι) : Option (World χ ι × Option Signal × Behaviour) :=
  match s.schedule with
  | [] => none
  | entry :: rest =>
      let s' := s.advance entry.env rest
      match entry.signal with
      | none => some (s', none, entry.behaviour)
      | some signum => some (s'.record (.signal signum), some signum, entry.behaviour)

theorem le_offer (s : World χ ι) (step : World χ ι × Option Signal × Behaviour)
    (h : s.offer = some step) : s ≤ step.1 := by
  unfold offer at h
  split at h
  · cases h
  · rename_i entry rest _
    have hadvance : s ≤ s.advance entry.env rest := by
      change s.history <+: _
      rw [advance_history]
    dsimp only at h
    split at h
    · obtain rfl := Option.some.inj h
      exact hadvance
    · obtain rfl := Option.some.inj h
      exact hadvance.trans (le_record _ _)

end World

section

variable {χ ι : Type} [Environment χ ι]

/-- A program of the main thread. -/
abbrev Main (χ ι α : Type) := Prog (World χ ι) PyException α

/-- What runs when a signal arrives. -/
abbrev Handler (χ ι : Type) := Signal → Main χ ι Unit

/-- A step boundary: the world advances, a signal may arrive. -/
def tick (handler : Handler χ ι) : Main χ ι Behaviour :=
  Prog.interruptible World.offer World.le_offer handler

def record (mark : Mark) : Main χ ι Unit :=
  Prog.modify (World.record mark) (World.le_record mark)

/-- Run a call between its marks. -/
def call {α : Type} (c : Call) (p : Main χ ι α) : Main χ ι α := do
  record (.began c)
  Prog.tryElse p
    (fun e => do
      record (.raised c)
      Prog.raise e)
    (fun a => do
      record (.returned c)
      Prog.pure a)

/-! ## The child process -/

def setChild (f : Child → Child) : Main χ ι Unit :=
  Prog.modify (fun s => { s with child := s.child.map f }) fun s => List.prefix_refl s.history

/-- `child_process.poll()`: collects the exit status of a child that has exited. -/
def poll : Main χ ι (Option ℤ) := do
  setChild Child.collect
  Prog.get fun s => s.child.bind Child.exitCode

def childExited : Main χ ι Bool := do
  let returncode ← poll
  Prog.pure returncode.isSome

/-- `wait` with a timeout on a process: the time is up when the process has not
exited by then. -/
def waitTimeout (handler : Handler χ ι) (exited : Main χ ι Bool) : Main χ ι Unit := do
  let _ ← tick handler
  let done ← exited
  if done then Prog.pure () else Prog.raise (.other "TimeoutExpired")

/-- `terminate` and `kill`, which may fail with an `OSError`. -/
def sendSignal (handler : Handler χ ι) : Main χ ι Unit := do
  let behaviour ← tick handler
  if behaviour.2.isSome then Prog.raise (.other "OSError") else Prog.pure ()

/-- `except (OSError, subprocess.TimeoutExpired)` -/
def isChildError (e : PyException) : Bool :=
  e = .other "OSError" || e = .other "TimeoutExpired"

/-- Terminate a process and wait for it; kill it when that fails. -/
def reap (handler : Handler χ ι) (exited : Main χ ι Bool) : Main χ ι Unit :=
  Prog.tryCatch
    (do
      let _ ← tick handler
      let done ← exited
      if done then Prog.pure () else sendSignal handler
      waitTimeout handler exited)
    (fun e =>
      if isChildError e then
        Prog.tryCatch
          (do
            sendSignal handler
            waitTimeout handler exited)
          (fun e => if isChildError e then Prog.pure () else Prog.raise e)
      else Prog.raise e)

def stopChild (handler : Handler χ ι) : Main χ ι Unit :=
  call .stopChild do
    let _ ← tick handler
    let launched ← Prog.get fun s => s.child.isSome
    if launched then reap handler childExited else Prog.pure ()

/-! ## The loop -/

/-- The callbacks of `_run_loop`, as programs that a handler can interrupt. -/
structure Callbacks (χ ι : Type) where
  start : Handler χ ι → Main χ ι Unit
  stop : Handler χ ι → Main χ ι Unit
  checkHealth : Handler χ ι → Main χ ι Unit
  onExit : String → Handler χ ι → Main χ ι Unit

/-- `try: on_exit(…) finally: _stop_child(child_process)` -/
def exitAndStopChild (callbacks : Callbacks χ ι) (handler : Handler χ ι)
    (terminationReason : String) : Main χ ι Unit :=
  Prog.tryFinally
    (do
      let _ ← tick handler
      call (.onExit terminationReason) (callbacks.onExit terminationReason handler))
    (stopChild handler)

def setCleanedUp : Main χ ι Unit :=
  Prog.modify (fun s => { s with cleanedUp := true }) fun s => List.prefix_refl s.history

def cleanup (callbacks : Callbacks χ ι) (handler : Handler χ ι)
    (terminationReason : String) : Main χ ι Unit := do
  let _ ← tick handler
  let cleanedUp ← Prog.get World.cleanedUp
  if cleanedUp then Prog.pure ()
  else
    let _ ← tick handler
    setCleanedUp
    let _ ← tick handler
    Prog.tryElse
      (do
        let _ ← tick handler
        call .stop (callbacks.stop handler))
      (fun e => do
        let _ ← tick handler
        exitAndStopChild callbacks handler "runtime_error"
        let _ ← tick handler
        Prog.raise e)
      (fun _ => do
        let _ ← tick handler
        exitAndStopChild callbacks handler terminationReason)

/-- The signal handler.  A signal that arrives while it runs starts it again on
top; every arrival uses up a step of the schedule, which bounds the depth. -/
def shutdown (callbacks : Callbacks χ ι) : ℕ → Handler χ ι
  | 0, _ => Prog.pause
  | depth + 1, signum => do
      cleanup callbacks (shutdown callbacks depth) "signal"
      let _ ← tick (shutdown callbacks depth)
      Prog.raise (.systemExit (128 + signum.number))

/-- `while child_process.poll() is None`, as often as the schedule has steps. -/
def pollLoop (callbacks : Callbacks χ ι) (handler : Handler χ ι) : ℕ → Main χ ι Unit
  | 0 => Prog.pause
  | steps + 1 => do
      let _ ← tick handler
      let returncode ← poll
      match returncode with
      | some returncode => record (.observed returncode)
      | none =>
          let _ ← tick handler
          call .checkHealth (callbacks.checkHealth handler)
          let _ ← tick handler
          pollLoop callbacks handler steps

/-- `while True`, as often as the schedule has steps. -/
def healthLoop (callbacks : Callbacks χ ι) (handler : Handler χ ι) : ℕ → Main χ ι Unit
  | 0 => Prog.pause
  | steps + 1 => do
      let _ ← tick handler
      call .checkHealth (callbacks.checkHealth handler)
      let _ ← tick handler
      healthLoop callbacks handler steps

/-- The inner `try` of the loop: the return code of the child, when there is one. -/
def watch (callbacks : Callbacks χ ι) (handler : Handler χ ι) (steps : ℕ) :
    Main χ ι (Option ℤ) := do
  let _ ← tick handler
  call .start (callbacks.start handler)
  let launched ← Prog.get fun s => s.child.isSome
  if launched then
    pollLoop callbacks handler (steps + 1)
    let _ ← tick handler
    let returncode ← poll
    match returncode with
    | none => Prog.raise (.other "AssertionError")
    | some returncode =>
        let _ ← tick handler
        Prog.pure (some returncode)
  else
    healthLoop callbacks handler (steps + 1)
    Prog.pure none

/-- The `finally` of the loop: once the handler of `SIGINT` is restored, that
signal raises `KeyboardInterrupt` again. -/
def restoreHandlers (handler : Handler χ ι) : Main χ ι Unit := do
  let _ ← tick handler
  let _ ← tick fun
    | .sigint => Prog.raise .keyboardInterrupt
    | .sigterm => handler .sigterm
  Prog.pure ()

/-- `_run_loop` from the point where its handlers are installed. -/
def runLoop (callbacks : Callbacks χ ι) : Main χ ι (Option ℤ) := do
  let steps ← Prog.get fun s => s.schedule.length
  let handler := shutdown callbacks steps
  Prog.tryFinally
    (do
      let _ ← tick handler
      Prog.tryElse (watch callbacks handler steps)
        (fun e => do
          let _ ← tick handler
          if e = .keyboardInterrupt then
            cleanup callbacks handler "signal"
            let _ ← tick handler
            Prog.raise (.systemExit 130)
          else
            cleanup callbacks handler "runtime_error"
            let _ ← tick handler
            Prog.raise e)
        (fun returncode => do
          let _ ← tick handler
          cleanup callbacks handler
            (if returncode = none ∨ returncode = some 0 then "clean" else "child_exit")
          let _ ← tick handler
          Prog.pure returncode))
    (restoreHandlers handler)

/-! ## Unknown callbacks -/

def ticks (handler : Handler χ ι) : ℕ → Main χ ι Unit
  | 0 => Prog.pure ()
  | n + 1 => do
      let _ ← tick handler
      ticks handler n

/-- Unknown code: it takes some steps and then returns or raises. -/
def unknown (handler : Handler χ ι) : Main χ ι Unit := do
  let behaviour ← tick handler
  ticks handler behaviour.1
  match behaviour.2 with
  | none => Prog.pure ()
  | some e => Prog.raise e

/-- A `stop` callback that stops several components in turn. -/
def stopParts (parts : List (Handler χ ι → Main χ ι Unit)) (handler : Handler χ ι) :
    ℕ → Main χ ι Unit :=
  match parts with
  | [] => fun _ => Prog.pure ()
  | part :: rest => fun i => do
      call (.stopPart i) (part handler)
      let _ ← tick handler
      stopParts rest handler (i + 1)

/-- Callbacks about which nothing is known; `stop` stops `parts` components. -/
def unknownCallbacks (χ ι : Type) [Environment χ ι] (parts : ℕ) : Callbacks χ ι where
  start := unknown
  stop handler := stopParts (List.replicate parts unknown) handler 0
  checkHealth := unknown
  onExit _ := unknown

end

/-- A rest of the world that only has the child process. -/
instance : Environment Unit Empty where
  act action _ := nomatch action

end Blocksnoop.Cli
