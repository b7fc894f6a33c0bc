import Blocksnoop.Cli.Deadlock

/-!
# The handshake between the two threads

`start` and `check_health` on the main thread, beside the reader thread.  One event
stands for "ready" and for "the handshake failed", and there are two slots for errors,
filled by the reader depending on the event and read by the main thread whenever it
comes by.  The notes beside the state say in which order the reader accepted a ready
message and handled errors; what the main thread raises is read off them.
-/

namespace Blocksnoop.Cli

open Blocksnoop.Support Blocksnoop.CoreBackend

/-- What the reader does that decides the handshake: it accepts a matching ready
message, or it handles an error. -/
inductive Note where
  | accepted
  | failed (error : String)
  deriving Repr, DecidableEq

namespace Note

/-- What the note leaves in `_startup_error` when it is the first one. -/
def startupError : Note → Option String
  | accepted => none
  | failed error => some error

theorem eq_failed {error : String} (note : Note) (h : note.startupError = some error) :
    note = failed error := by
  cases note with
  | accepted => cases h
  | failed _ => exact congrArg failed (Option.some.inj h)

theorem eq_accepted (note : Note) (h : note.startupError = none) : note = accepted := by
  cases note with
  | accepted => rfl
  | failed _ => cases h

end Note

/-- The first error text among the notes. -/
def firstError (notes : List Note) : Option String :=
  notes.findSome? Note.startupError

/-- The first error text after an accepted ready message. -/
def errorAfterReady : List Note → Option String
  | .accepted :: rest => firstError rest
  | _ => none

/-- Where the main thread is.  In `start` the reader thread has been started; an error
is the one that `start` has read from `_startup_error`. -/
inductive Point where
  /-- `self._stderr_reader.start()` -/
  | starting
  /-- The end of the block under the lock. -/
  | unlocking
  /-- `self._ready.wait(timeout=…)`, which does not expire. -/
  | waiting
  /-- `if self._startup_error is not None` -/
  | deciding
  /-- `self.stop()`, from here to `releasing`. -/
  | locking (error : String)
  | requesting (error : String)
  | clearing (error : String)
  /-- The waits of `_cleanup_locked`, each with a timeout. -/
  | reaping (error : String)
  | releasing (error : String)
  | raising (error : String)
  /-- `start` has raised. -/
  | startRaised (e : PyException)
  /-- `start` has returned, and no `check_health` is running. -/
  | between
  /-- `if self._runtime_error is not None`; with the error that was recorded when
  this `check_health` began. -/
  | checking (recorded : Option String)
  /-- `process.poll()` -/
  | polling (recorded : Option String)
  deriving Repr, DecidableEq

/-- A `check_health` that is over: the error after ready that was recorded when it
began, and what it raised. -/
structure Check where
  recorded : Option String
  raised : Option PyException
  deriving Repr, DecidableEq

structure Threads (F : Type) where
  point : Point
  pipeline : Pipeline F
  notes : List Note := []
  checks : List Check := []

/-- A turn of the main thread, or of the reader and the rest of the world. -/
inductive Turn (F : Type) where
  | main
  | world (move : Move F)

def Turn.isMain {F : Type} : Turn F → Bool
  | .main => true
  | .world _ => false

section

variable {F : Type}

def stoppedError (d : CoreDetector F) (error : String) : PyException :=
  .coreDetectorError (d.executable ++ " stopped collecting: " ++ error ++
    ". Sidecar stderr: " ++ stderrOrEmpty d)

def exitedError (d : CoreDetector F) : PyException :=
  .coreDetectorError (d.executable ++ " exited unexpectedly. Sidecar stderr: " ++
    stderrOrEmpty d)

namespace Threads

/-- A `check_health` ends. -/
def finishCheck (s : Threads F) (recorded : Option String) (raised : Option PyException) :
    Threads F :=
  { s with point := .between, checks := s.checks ++ [{ recorded, raised }] }

/-- The main thread runs for a step; it waits for the event and for the lock. -/
def mainRuns (s : Threads F) : Threads F :=
  let p := s.pipeline
  match s.point with
  | .starting => { s with point := .unlocking, pipeline := { p with stderrStarted := true } }
  | .unlocking => { s with point := .waiting, pipeline := p.setLock false }
  | .waiting => if p.detector.ready then { s with point := .deciding } else s
  | .deciding =>
      match p.detector.startupError with
      | none => { s with point := .between }
      | some error => { s with point := .locking error }
  | .locking error =>
      if p.lockHeld then s
      else { s with point := .requesting error, pipeline := p.setLock true }
  | .requesting error => { s with point := .clearing error, pipeline := p.requestStop }
  | .clearing error => { s with point := .reaping error, pipeline := p.clearHandles }
  | .reaping error => { s with point := .releasing error }
  | .releasing error => { s with point := .raising error, pipeline := p.setLock false }
  | .raising error => { s with point := .startRaised (handshakeError p.detector error) }
  | .startRaised _ => s
  | .between => { s with point := .checking (errorAfterReady s.notes) }
  | .checking recorded =>
      match p.detector.runtimeError with
      | some error => s.finishCheck recorded (some (stoppedError p.detector error))
      | none => { s with point := .polling recorded }
  | .polling recorded =>
      if p.process && p.sidecar.exited && !p.detector.stopRequested then
        s.finishCheck recorded (some (exitedError p.detector))
      else s.finishCheck recorded none

end Threads

end

section

variable {F : Type} [PyRuntime F]

/-- What a move adds to the notes. -/
def Pipeline.noted (p : Pipeline F) : Move F → List Note
  | .readerRuns =>
      match p.reader, p.sidecar.stdout with
      | .running (.setError error :: _), _ => [.failed error]
      | .running [], some line :: _ =>
          if handleLine p.detector line = .ready then [.accepted] else []
      | _, _ => []
  | _ => []

namespace Threads

def step (s : Threads F) : Turn F → Threads F
  | .main => s.mainRuns
  | .world move =>
      { s with
        pipeline := s.pipeline.act move
        notes := s.notes ++ s.pipeline.noted move }

def run (s : Threads F) (schedule : List (Turn F)) : Threads F :=
  schedule.foldl step s

/-- The turns of the main thread. -/
def mainTurns (schedule : List (Turn F)) : ℕ :=
  schedule.countP Turn.isMain

/-- The threads when `start` has started the reader. -/
def begin (p : Pipeline F) : Threads F :=
  { point := .starting, pipeline := p }

end Threads

/-! ## What the slots hold -/

omit [PyRuntime F] in
theorem firstError_append (notes more : List Note) :
    firstError (notes ++ more) = (firstError notes).or (firstError more) :=
  List.findSome?_append

theorem errorAfterReady_append {notes : List Note} {error : String}
    (h : errorAfterReady notes = some error) (more : List Note) :
    errorAfterReady (notes ++ more) = some error := by
  cases notes with
  | nil => cases h
  | cons note rest =>
      cases note with
      | failed _ => cases h
      | accepted =>
          have hrest : firstError rest = some error := h
          change firstError (rest ++ more) = some error
          rw [firstError_append, hrest]
          rfl

def ReaderStep.SetsReady : ReaderStep F → Prop
  | .setReady => True
  | _ => False

namespace Pipeline

/-- Nothing has been recorded, and the reader is not about to set the event. -/
structure Undecided (p : Pipeline F) : Prop where
  ready : p.detector.ready = false
  startupError : p.detector.startupError = none
  runtimeError : p.detector.runtimeError = none
  steps : ∀ steps, p.reader = .running steps → ∀ step ∈ steps, ¬ step.SetsReady

/-- The event is set, or the reader sets it next. -/
def Settles (p : Pipeline F) (rest : List Note) : Prop :=
  p.detector.ready = true ∨ rest = [] ∧ ∃ steps, p.reader = .running (.setReady :: steps)

/-- The first note has decided the handshake: it fills one slot, the rest fills the
other one. -/
structure Decided (p : Pipeline F) (note : Note) (rest : List Note) : Prop where
  startupError : p.detector.startupError = note.startupError
  runtimeError : p.detector.runtimeError = firstError rest
  settles : p.Settles rest

def Tracks (p : Pipeline F) : List Note → Prop
  | [] => p.Undecided
  | note :: rest => p.Decided note rest

/-- The slots, the event, the reader and the name of the sidecar are the same. -/
structure SameSlots (p p' : Pipeline F) : Prop where
  ready : p'.detector.ready = p.detector.ready
  startupError : p'.detector.startupError = p.detector.startupError
  runtimeError : p'.detector.runtimeError = p.detector.runtimeError
  reader : p'.reader = p.reader
  executable : p'.detector.executable = p.detector.executable

omit [PyRuntime F] in
theorem Tracks.congr {p p' : Pipeline F} {notes : List Note} (h : p.Tracks notes)
    (hslots : SameSlots p p') : p'.Tracks notes := by
  cases notes with
  | nil =>
      constructor
      · exact hslots.ready.trans h.ready
      · exact hslots.startupError.trans h.startupError
      · exact hslots.runtimeError.trans h.runtimeError
      · rw [hslots.reader]
        exact h.steps
  | cons note rest =>
      constructor
      · exact hslots.startupError.trans h.startupError
      · exact hslots.runtimeError.trans h.runtimeError
      · unfold Settles
        rw [hslots.ready, hslots.reader]
        exact h.settles

omit [PyRuntime F] in
theorem closeSteps_quiet (p : Pipeline F) : ∀ due ∈ p.closeSteps, ¬ due.SetsReady := by
  unfold closeSteps
  split
  · simp
  · split
    · simp [ReaderStep.SetsReady]
    · simp [ReaderStep.SetsReady]

/-- A step that neither records an error nor sets the event leaves both slots and the
event alone, and so do the steps it leads to. -/
theorem readerStep_quiet (p : Pipeline F) {step : ReaderStep F}
    (herror : ∀ error, step ≠ .setError error) (hready : ¬ step.SetsReady) :
    (p.readerStep step).1.detector.ready = p.detector.ready ∧
      (p.readerStep step).1.detector.startupError = p.detector.startupError ∧
      (p.readerStep step).1.detector.runtimeError = p.detector.runtimeError ∧
      ∀ due ∈ (p.readerStep step).2, ¬ due.SetsReady := by
  revert herror hready
  fun_cases readerStep p step with
  | case3 error =>
      intro herror
      exact absurd rfl (herror error)
  | case4 =>
      intro _ hready
      exact absurd trivial hready
  | case13 =>
      intro _ _
      refine ⟨rfl, rfl, rfl, fun due hdue => ?_⟩
      rcases List.mem_append.mp hdue with hclose | hfinish
      · exact p.closeSteps_quiet due hclose
      · rw [List.mem_singleton.mp hfinish]
        exact id
  | _ =>
      intro _ _
      exact ⟨rfl, rfl, rfl, by simp [ReaderStep.SetsReady]⟩

omit [PyRuntime F] in
theorem actionSteps_quiet {action : Action} (h : action ≠ .ready) :
    ∀ step ∈ (actionSteps action : List (ReaderStep F)), ¬ step.SetsReady := by
  cases action with
  | ready => exact absurd rfl h
  | _ => simp [actionSteps, ReaderStep.SetsReady]

omit [PyRuntime F] in
/-- A settled handshake whose reader does not set the event next has it set already. -/
theorem Decided.ready {p : Pipeline F} {note : Note} {rest : List Note}
    (h : p.Decided note rest) (hreader : ∀ steps, p.reader ≠ .running (.setReady :: steps)) :
    p.detector.ready = true := by
  rcases h.settles with hready | ⟨_, steps, hsteps⟩
  · exact hready
  · exact absurd hsteps (hreader steps)

omit [PyRuntime F] in
/-- What an error leaves, as the first note or as a later one. -/
theorem tracks_setErrorStep {p : Pipeline F} {notes : List Note} {error : String}
    {steps : List (ReaderStep F)} (hreader : p.reader = .running (.setError error :: steps))
    (h : p.Tracks notes) :
    Tracks
      { (p.setErrorStep error).1 with reader := .running ((p.setErrorStep error).2 ++ steps) }
      (notes ++ [.failed error]) := by
  cases notes with
  | nil =>
      have hready : ¬ p.detector.ready = true := by
        rw [h.ready]
        exact Bool.false_ne_true
      unfold setErrorStep
      rw [if_neg hready]
      exact ⟨rfl, h.runtimeError, .inr ⟨rfl, steps, rfl⟩⟩
  | cons note rest =>
      have hready : p.detector.ready = true := by
        refine Decided.ready h fun steps' hsteps => ?_
        rw [hreader] at hsteps
        cases hsteps
      have hfirst : (p.detector.runtimeError <|> some error) =
          firstError (rest ++ [.failed error]) := by
        rw [firstError_append, ← h.runtimeError]
        exact Option.orElse_eq_or
      unfold setErrorStep CoreDetector.setError
      rw [if_pos hready, if_pos hready]
      exact ⟨h.startupError, hfirst, .inl hready⟩

/-- A turn of the reader at a step that is neither an error nor the event. -/
theorem tracks_quietStep {p : Pipeline F} {notes : List Note} {step : ReaderStep F}
    {steps : List (ReaderStep F)} (hreader : p.reader = .running (step :: steps))
    (herror : ∀ error, step ≠ .setError error) (hsets : ¬ step.SetsReady)
    (h : p.Tracks notes) :
    Tracks { (p.readerStep step).1 with reader := .running ((p.readerStep step).2 ++ steps) }
      notes := by
  obtain ⟨hready, hstartup, hruntime, hdue⟩ := p.readerStep_quiet herror hsets
  cases notes with
  | nil =>
      refine ⟨hready.trans h.ready, hstartup.trans h.startupError,
        hruntime.trans h.runtimeError, ?_⟩
      intro steps' hsteps'
      cases hsteps'
      intro step' hstep'
      rcases List.mem_append.mp hstep' with hmem | hmem
      · exact hdue step' hmem
      · exact h.steps _ hreader step' (List.mem_cons_of_mem step hmem)
  | cons note rest =>
      have hset : p.detector.ready = true := by
        refine Decided.ready h fun steps' hsteps => ?_
        rw [hreader] at hsteps
        cases hsteps
        exact hsets trivial
      exact ⟨hstartup.trans h.startupError, hruntime.trans h.runtimeError,
        .inl (hready.trans hset)⟩

/-- The reader has nothing to do and reads a line. -/
theorem tracks_handleLine {p : Pipeline F} {notes : List Note} {line : String}
    {lines : List (Option String)} (hreader : p.reader = .running []) (h : p.Tracks notes) :
    Tracks
      { p with
        sidecar := { p.sidecar with stdout := lines }
        reader := .running (actionSteps (handleLine p.detector line)) }
      (notes ++ if handleLine p.detector line = .ready then [.accepted] else []) := by
  cases notes with
  | nil =>
      by_cases hline : handleLine p.detector line = .ready
      · rw [if_pos hline, hline]
        exact ⟨h.startupError, h.runtimeError, .inr ⟨rfl, [], rfl⟩⟩
      · rw [if_neg hline]
        refine ⟨h.ready, h.startupError, h.runtimeError, ?_⟩
        intro steps hsteps
        cases hsteps
        exact actionSteps_quiet hline
  | cons note rest =>
      have hready : p.detector.ready = true := by
        refine Decided.ready h fun steps' hsteps => ?_
        rw [hreader] at hsteps
        cases hsteps
      have hfirst : firstError
          (rest ++ if handleLine p.detector line = .ready then [.accepted] else []) =
          firstError rest := by
        rw [firstError_append]
        split
        · exact Option.or_none
        · exact Option.or_none
      exact ⟨h.startupError, h.runtimeError.trans hfirst.symm, .inl hready⟩

omit [PyRuntime F] in
/-- The reader leaves what it does, unless that is to set the event. -/
theorem Tracks.of_detector {p p' : Pipeline F} {notes : List Note} (h : p.Tracks notes)
    (hdetector : p'.detector = p.detector)
    (hbefore : ∀ steps, p.reader ≠ .running (.setReady :: steps))
    (hafter : ∀ steps, p'.reader = .running steps → ∀ step ∈ steps, ¬ step.SetsReady) :
    p'.Tracks notes := by
  cases notes with
  | nil =>
      refine ⟨?_, ?_, ?_, hafter⟩
      · rw [hdetector]
        exact h.ready
      · rw [hdetector]
        exact h.startupError
      · rw [hdetector]
        exact h.runtimeError
  | cons note rest =>
      refine ⟨?_, ?_, .inl ?_⟩
      · rw [hdetector]
        exact h.startupError
      · rw [hdetector]
        exact h.runtimeError
      · rw [hdetector]
        exact Decided.ready (p := p) h hbefore

omit [PyRuntime F] in
/-- The reader sets the event. -/
theorem tracks_setReady {p : Pipeline F} {notes : List Note} {steps : List (ReaderStep F)}
    (hreader : p.reader = .running (.setReady :: steps)) (h : p.Tracks notes)
    (reader : Reader F) :
    Tracks { p with detector := { p.detector with ready := true }, reader := reader } notes := by
  cases notes with
  | nil => exact absurd trivial (h.steps _ hreader .setReady List.mem_cons_self)
  | cons note rest => exact ⟨h.startupError, h.runtimeError, .inl rfl⟩

theorem tracks_readerRuns {p : Pipeline F} {notes : List Note} (h : p.Tracks notes) :
    p.readerRuns.Tracks (notes ++ p.noted .readerRuns) := by
  fun_cases readerRuns p with
  | case1 hreader =>
      rw [noted, hreader, List.append_nil]
      exact h
  | case2 hreader =>
      rw [noted, hreader, List.append_nil]
      exact h
  | case3 steps hreader =>
      rw [noted, hreader, List.append_nil]
      refine h.of_detector rfl (fun steps hsteps => ?_) (fun steps hsteps => ?_)
      · rw [hreader] at hsteps
        cases hsteps
      · cases hsteps
  | case4 step steps _ hreader p' due hstep =>
      obtain rfl : (p.readerStep step).1 = p' := congrArg Prod.fst hstep
      obtain rfl : (p.readerStep step).2 = due := congrArg Prod.snd hstep
      rw [noted, hreader]
      cases step with
      | setError error => exact tracks_setErrorStep hreader h
      | setReady =>
          rw [List.append_nil]
          exact tracks_setReady hreader h _
      | _ =>
          rw [List.append_nil]
          exact tracks_quietStep hreader (by simp) id h
  | case5 hreader line lines hlines =>
      rw [noted, hreader, hlines]
      exact tracks_handleLine hreader h
  | case6 hreader lines hlines =>
      rw [noted, hreader, hlines, List.append_nil]
      exact h.of_detector rfl (by simp [hreader]) (by simp [ReaderStep.SetsReady])
  | case7 hreader hlines =>
      rw [noted, hreader, hlines, List.append_nil]
      exact h.of_detector rfl (by simp [hreader]) (by simp [ReaderStep.SetsReady])
  | case8 hreader hlines =>
      rw [noted, hreader, hlines, List.append_nil]
      exact h

/-- The slots hold what the notes say, whatever happens beside the main thread. -/
theorem tracks_act {p : Pipeline F} {notes : List Note} (h : p.Tracks notes) (move : Move F) :
    (p.act move).Tracks (notes ++ p.noted move) := by
  fun_cases act p move with
  | case4 => exact tracks_readerRuns h
  | _ =>
      change Tracks _ (notes ++ [])
      rw [List.append_nil]
      exact h.congr ⟨rfl, rfl, rfl, rfl, rfl⟩

/-- Once set, the event stays set. -/
theorem ready_act {p : Pipeline F} (h : p.detector.ready = true) (move : Move F) :
    (p.act move).detector.ready = true := by
  fun_cases act p move with
  | case4 =>
      fun_cases readerRuns p with
      | case4 step steps _ hreader p' due hstep =>
          obtain rfl : (p.readerStep step).1 = p' := congrArg Prod.fst hstep
          change (p.readerStep step).1.detector.ready = true
          fun_cases readerStep p step with
          | case3 error =>
              unfold setErrorStep CoreDetector.setError
              rw [if_pos h, if_pos h]
              exact h
          | case4 => rfl
          | _ => exact h
      | _ => exact h
  | _ => exact h

/-- When the first note is there, the reader's next turn sets the event at the latest. -/
theorem ready_readerRuns {p : Pipeline F} {notes : List Note} (h : p.Tracks notes)
    (hnotes : notes ≠ []) : p.readerRuns.detector.ready = true := by
  cases notes with
  | nil => exact absurd rfl hnotes
  | cons note rest =>
      rcases h.settles with hready | ⟨_, steps, hreader⟩
      · exact ready_act hready .readerRuns
      · unfold readerRuns
        rw [hreader]
        rfl

theorem act_lockHeld (p : Pipeline F) (move : Move F) : (p.act move).lockHeld = p.lockHeld := by
  obtain ⟨_, _, _, _, _, _, _, _, h⟩ := p.act_frame move
  rw [h]

theorem readerStep_executable (p : Pipeline F) (step : ReaderStep F) :
    (p.readerStep step).1.detector.executable = p.detector.executable := by
  fun_cases readerStep p step with
  | case3 error =>
      unfold setErrorStep
      split
      · rename_i hready
        unfold CoreDetector.setError
        rw [if_pos hready]
      · rfl
  | _ => rfl

theorem act_executable (p : Pipeline F) (move : Move F) :
    (p.act move).detector.executable = p.detector.executable := by
  fun_cases act p move with
  | case4 =>
      fun_cases readerRuns p with
      | case4 step steps _ hreader p' due hstep =>
          obtain rfl : (p.readerStep step).1 = p' := congrArg Prod.fst hstep
          exact p.readerStep_executable step
      | _ => rfl
  | _ => rfl

end Pipeline

/-! ## What the main thread has seen -/

namespace Point

def holdsLock : Point → Bool
  | starting => true
  | unlocking => true
  | requesting _ => true
  | clearing _ => true
  | reaping _ => true
  | releasing _ => true
  | _ => false

/-- What `start` has read from `_startup_error`. -/
def found : Point → Option (Option String)
  | locking error => some (some error)
  | requesting error => some (some error)
  | clearing error => some (some error)
  | reaping error => some (some error)
  | releasing error => some (some error)
  | raising error => some (some error)
  | between => some none
  | checking _ => some none
  | polling _ => some none
  | _ => none

/-- The steps of `start` that are left. -/
def startLeft : Point → ℕ
  | starting => 10
  | unlocking => 9
  | waiting => 8
  | deciding => 7
  | locking _ => 6
  | requesting _ => 5
  | clearing _ => 4
  | reaping _ => 3
  | releasing _ => 2
  | raising _ => 1
  | _ => 0

theorem startLeft_le (point : Point) : point.startLeft ≤ 10 := by
  cases point with
  | _ => simp [startLeft]

end Point

/-- A `check_health` that began when an error had been recorded after ready has raised
it. -/
def Check.Raises (executable : String) (check : Check) : Prop :=
  ∀ error, check.recorded = some error →
    ∃ d : CoreDetector F, d.executable = executable ∧ check.raised = some (stoppedError d error)

/-- What holds of the threads after any turns. -/
structure Threads.Sound (executable : String) (s : Threads F) : Prop where
  tracks : s.pipeline.Tracks s.notes
  detector : s.pipeline.detector.executable = executable
  lock : s.pipeline.lockHeld = s.point.holdsLock
  awaited : s.point = .deciding → s.notes ≠ []
  found : ∀ startupError, s.point.found = some startupError →
    s.notes.head?.map Note.startupError = some startupError
  startRaised : ∀ e, s.point = .startRaised e → ∃ (d : CoreDetector F) (error : String),
    d.executable = executable ∧ e = handshakeError d error ∧
      s.notes.head? = some (.failed error)
  checking : ∀ error, s.point = .checking (some error) → errorAfterReady s.notes = some error
  polling : ∀ error, s.point ≠ .polling (some error)
  checks : ∀ check ∈ s.checks, check.Raises (F := F) executable

/-- What `start` on an idle detector leaves when it has started the reader: the event
and the slots are cleared, the lock is held, and the reader is at its first step. -/
structure Launched (p : Pipeline F) : Prop where
  lockHeld : p.lockHeld = true
  process : p.process = true
  ready : p.detector.ready = false
  stopRequested : p.detector.stopRequested = false
  startupError : p.detector.startupError = none
  runtimeError : p.detector.runtimeError = none
  reader : p.reader = .running [.openStdout]

namespace Threads

omit [PyRuntime F] in
theorem sound_begin {p : Pipeline F} (hp : Launched p) :
    Sound p.detector.executable (begin p) where
  tracks := by
    refine ⟨hp.ready, hp.startupError, hp.runtimeError, ?_⟩
    intro steps hsteps
    rw [begin, hp.reader] at hsteps
    cases hsteps
    simp [ReaderStep.SetsReady]
  detector := rfl
  lock := hp.lockHeld
  awaited h := nomatch h
  found _ h := nomatch h
  startRaised _ h := nomatch h
  checking _ h := nomatch h
  polling _ h := nomatch h
  checks _ h := nomatch h

variable {executable : String} {s : Threads F}

theorem Sound.world (h : Sound executable s) (move : Move F) :
    Sound executable (s.step (.world move)) where
  tracks := Pipeline.tracks_act h.tracks move
  detector := (s.pipeline.act_executable move).trans h.detector
  lock := (s.pipeline.act_lockHeld move).trans h.lock
  awaited hpoint := by
    intro hnotes
    exact h.awaited hpoint (List.append_eq_nil_iff.mp hnotes).1
  found startupError hfound := by
    obtain ⟨note, hnote, hstartup⟩ := Option.map_eq_some_iff.mp (h.found startupError hfound)
    exact Option.map_eq_some_iff.mpr
      ⟨note, List.mem_head?_append_of_mem_head? hnote, hstartup⟩
  startRaised e he := by
    obtain ⟨d, error, hd, hmessage, hhead⟩ := h.startRaised e he
    exact ⟨d, error, hd, hmessage, List.mem_head?_append_of_mem_head? hhead⟩
  checking error hchecking := errorAfterReady_append (h.checking error hchecking) _
  polling := h.polling
  checks := h.checks

omit [PyRuntime F] in
/-- A step of the main thread that touches neither the slots nor the notes. -/
theorem Sound.goto (h : Sound executable s) {point : Point} {p : Pipeline F}
    (hslots : Pipeline.SameSlots s.pipeline p) (hlock : p.lockHeld = point.holdsLock)
    (hawaited : point = .deciding → s.notes ≠ [])
    (hfound : ∀ startupError, point.found = some startupError →
      s.notes.head?.map Note.startupError = some startupError)
    (hraised : ∀ e, point = .startRaised e → ∃ (d : CoreDetector F) (error : String),
      d.executable = executable ∧ e = handshakeError d error ∧
        s.notes.head? = some (.failed error))
    (hchecking : ∀ error, point = .checking (some error) →
      errorAfterReady s.notes = some error)
    (hpolling : ∀ error, point ≠ .polling (some error)) :
    Sound executable { s with point := point, pipeline := p } where
  tracks := h.tracks.congr hslots
  detector := hslots.executable.trans h.detector
  lock := hlock
  awaited := hawaited
  found := hfound
  startRaised := hraised
  checking := hchecking
  polling := hpolling
  checks := h.checks

omit [PyRuntime F] in
/-- A step of `stop` inside `start`, where the error has been read. -/
theorem Sound.stopping (h : Sound executable s) {error : String} {point : Point}
    {p : Pipeline F} (hbefore : s.point.found = some (some error))
    (hafter : point.found = some (some error))
    (hslots : Pipeline.SameSlots s.pipeline p) (hlock : p.lockHeld = point.holdsLock) :
    Sound executable { s with point := point, pipeline := p } := by
  refine h.goto hslots hlock ?_ ?_ ?_ ?_ ?_
  · rintro rfl
    cases hafter
  · intro startupError hfound
    obtain rfl := Option.some.inj (hafter.symm.trans hfound)
    exact h.found _ hbefore
  · rintro e rfl
    cases hafter
  · rintro e rfl
    cases hafter
  · rintro e rfl
    cases hafter

omit [PyRuntime F] in
/-- What `start` has read from `_startup_error` is what the first note left there. -/
theorem Sound.head_of_found (h : Sound executable s) {startupError : Option String}
    (hfound : s.point.found = some startupError) :
    ∃ note rest, s.notes = note :: rest ∧ note.startupError = startupError ∧
      s.pipeline.detector.runtimeError = firstError rest := by
  obtain ⟨note, hnote, hstartup⟩ := Option.map_eq_some_iff.mp (h.found startupError hfound)
  obtain ⟨rest, hnotes⟩ := List.head?_eq_some_iff.mp hnote
  have htracks := h.tracks
  rw [hnotes] at htracks
  exact ⟨note, rest, hnotes, hstartup, htracks.runtimeError⟩

omit [PyRuntime F] in
theorem Sound.head_of_awaited (h : Sound executable s) (hpoint : s.point = .deciding) :
    s.notes.head?.map Note.startupError = some s.pipeline.detector.startupError := by
  have htracks := h.tracks
  cases hnotes : s.notes with
  | nil => exact absurd hnotes (h.awaited hpoint)
  | cons note rest =>
      rw [hnotes] at htracks
      exact congrArg some htracks.startupError.symm

omit [PyRuntime F] in
/-- The error that was recorded when a `check_health` began is the one it reads. -/
theorem Sound.runtimeError_of_checking (h : Sound executable s) {error : String}
    (hpoint : s.point = .checking (some error)) :
    s.pipeline.detector.runtimeError = some error := by
  obtain ⟨note, rest, hnotes, hstartup, hruntime⟩ :=
    h.head_of_found (congrArg Point.found hpoint)
  have hrecorded := h.checking error hpoint
  rw [hnotes, note.eq_accepted hstartup] at hrecorded
  exact hruntime.trans hrecorded

omit [PyRuntime F] in
/-- A `check_health` that ends. -/
theorem Sound.finishCheck (h : Sound executable s) {recorded : Option String}
    {raised : Option PyException} (hfound : s.point.found = some none)
    (hlock : s.point.holdsLock = false)
    (hcheck : Check.Raises (F := F) executable { recorded, raised }) :
    Sound executable (s.finishCheck recorded raised) where
  tracks := h.tracks
  detector := h.detector
  lock := h.lock.trans hlock
  awaited := nofun
  found startupError hfound' := by
    obtain rfl := Option.some.inj hfound'
    exact h.found _ hfound
  startRaised := nofun
  checking := nofun
  polling := nofun
  checks := List.forall_mem_append.mpr ⟨h.checks, List.forall_mem_singleton.mpr hcheck⟩

omit [PyRuntime F] in
theorem Sound.main (h : Sound executable s) : Sound executable s.mainRuns := by
  have hlock := h.lock
  fun_cases mainRuns s with
  | case1 p hpoint =>
      rw [hpoint] at hlock
      exact h.goto ⟨rfl, rfl, rfl, rfl, rfl⟩ hlock nofun nofun nofun nofun nofun
  | case2 p hpoint =>
      exact h.goto ⟨rfl, rfl, rfl, rfl, rfl⟩ rfl nofun nofun nofun nofun nofun
  | case3 p hpoint hready =>
      rw [hpoint] at hlock
      refine h.goto ⟨rfl, rfl, rfl, rfl, rfl⟩ hlock (fun _ hnotes => ?_) nofun nofun nofun nofun
      have htracks := h.tracks
      rw [hnotes] at htracks
      exact Bool.false_ne_true (htracks.ready.symm.trans hready)
  | case4 => exact h
  | case5 p hpoint hnone =>
      have hhead := h.head_of_awaited hpoint
      rw [hpoint] at hlock
      refine h.goto ⟨rfl, rfl, rfl, rfl, rfl⟩ hlock nofun (fun startupError hfound => ?_) nofun
        nofun nofun
      obtain rfl := Option.some.inj hfound
      exact hhead.trans (congrArg some hnone)
  | case6 p hpoint error herror =>
      have hhead := h.head_of_awaited hpoint
      rw [hpoint] at hlock
      refine h.goto ⟨rfl, rfl, rfl, rfl, rfl⟩ hlock nofun (fun startupError hfound => ?_) nofun
        nofun nofun
      obtain rfl := Option.some.inj hfound
      exact hhead.trans (congrArg some herror)
  | case7 => exact h
  | case8 p error hpoint =>
      exact h.stopping (congrArg Point.found hpoint) rfl ⟨rfl, rfl, rfl, rfl, rfl⟩ rfl
  | case9 p error hpoint =>
      rw [hpoint] at hlock
      exact h.stopping (congrArg Point.found hpoint) rfl ⟨rfl, rfl, rfl, rfl, rfl⟩ hlock
  | case10 p error hpoint =>
      rw [hpoint] at hlock
      exact h.stopping (congrArg Point.found hpoint) rfl ⟨rfl, rfl, rfl, rfl, rfl⟩ hlock
  | case11 error hpoint =>
      rw [hpoint] at hlock
      exact h.stopping (congrArg Point.found hpoint) rfl ⟨rfl, rfl, rfl, rfl, rfl⟩ hlock
  | case12 p error hpoint =>
      exact h.stopping (congrArg Point.found hpoint) rfl ⟨rfl, rfl, rfl, rfl, rfl⟩ rfl
  | case13 p error hpoint =>
      obtain ⟨note, rest, hnotes, hstartup, _⟩ := h.head_of_found (congrArg Point.found hpoint)
      rw [hpoint] at hlock
      refine h.goto ⟨rfl, rfl, rfl, rfl, rfl⟩ hlock nofun nofun (fun e he => ?_) nofun nofun
      obtain rfl := Point.startRaised.inj he
      refine ⟨s.pipeline.detector, error, h.detector, rfl, ?_⟩
      rw [hnotes, note.eq_failed hstartup]
      rfl
  | case14 => exact h
  | case15 hpoint =>
      have hfound := h.found none (congrArg Point.found hpoint)
      rw [hpoint] at hlock
      refine h.goto ⟨rfl, rfl, rfl, rfl, rfl⟩ hlock nofun (fun startupError hnone => ?_) nofun
        (fun error hchecking => Point.checking.inj hchecking) nofun
      obtain rfl := Option.some.inj hnone
      exact hfound
  | case16 p recorded hpoint error herror =>
      refine h.finishCheck (congrArg Point.found hpoint) (congrArg Point.holdsLock hpoint) ?_
      intro first hfirst
      refine ⟨s.pipeline.detector, h.detector, ?_⟩
      have hsame := h.runtimeError_of_checking (hpoint.trans (congrArg Point.checking hfirst))
      rw [Option.some.inj (hsame.symm.trans herror)]
  | case17 p recorded hpoint hnone =>
      have hfound := h.found none (congrArg Point.found hpoint)
      rw [hpoint] at hlock
      refine h.goto ⟨rfl, rfl, rfl, rfl, rfl⟩ hlock nofun (fun startupError hnone => ?_) nofun
        nofun (fun error hpolling => ?_)
      · obtain rfl := Option.some.inj hnone
        exact hfound
      · obtain rfl := Point.polling.inj hpolling
        have hsame := h.runtimeError_of_checking hpoint
        cases hnone.symm.trans hsame
  | case18 p recorded hpoint =>
      refine h.finishCheck (congrArg Point.found hpoint) (congrArg Point.holdsLock hpoint) ?_
      intro error herror
      exact absurd (hpoint.trans (congrArg Point.polling herror)) (h.polling error)
  | case19 p recorded hpoint =>
      refine h.finishCheck (congrArg Point.found hpoint) (congrArg Point.holdsLock hpoint) ?_
      intro error herror
      exact absurd (hpoint.trans (congrArg Point.polling herror)) (h.polling error)

omit [PyRuntime F] in
theorem mainTurns_main (later : List (Turn F)) :
    mainTurns (.main :: later) = mainTurns later + 1 :=
  List.countP_cons_of_pos rfl

omit [PyRuntime F] in
theorem mainTurns_world (move : Move F) (later : List (Turn F)) :
    mainTurns (.world move :: later) = mainTurns later :=
  List.countP_cons_of_neg Bool.false_ne_true

theorem Sound.step (h : Sound executable s) (turn : Turn F) : Sound executable (s.step turn) := by
  cases turn with
  | main => exact h.main
  | world move => exact h.world move

theorem Sound.run (h : Sound executable s) (schedule : List (Turn F)) :
    Sound executable (s.run schedule) := by
  unfold Threads.run
  induction schedule generalizing s with
  | nil => exact h
  | cons turn schedule ih => exact ih (h.step turn)

/-! ### The main thread gets on -/

omit [PyRuntime F] in
theorem ready_mainRuns (h : s.pipeline.detector.ready = true) :
    s.mainRuns.pipeline.detector.ready = true := by
  fun_cases mainRuns s with
  | _ => exact h

omit [PyRuntime F] in
/-- Once the event is set, `start` waits for nothing any more. -/
theorem startLeft_mainRuns (hs : Sound executable s) (h : s.pipeline.detector.ready = true) :
    s.mainRuns.point.startLeft ≤ s.point.startLeft - 1 := by
  have hlock := hs.lock
  fun_cases mainRuns s with
  | case4 p hpoint hready => exact absurd h hready
  | case7 p error hpoint hheld =>
      rw [hpoint] at hlock
      exact absurd (hlock.symm.trans hheld) Bool.false_ne_true
  | case14 e hpoint =>
      rw [hpoint]
      exact le_rfl
  | case1 p hpoint => simp [hpoint, Point.startLeft]
  | case2 p hpoint => simp [hpoint, Point.startLeft]
  | case3 p hpoint => simp [hpoint, Point.startLeft]
  | case5 p hpoint => simp [hpoint, Point.startLeft]
  | case6 p hpoint => simp [hpoint, Point.startLeft]
  | case8 p error hpoint => simp [hpoint, Point.startLeft]
  | case9 p error hpoint => simp [hpoint, Point.startLeft]
  | case10 p error hpoint => simp [hpoint, Point.startLeft]
  | case11 error hpoint => simp [hpoint, Point.startLeft]
  | case12 p error hpoint => simp [hpoint, Point.startLeft]
  | case13 p error hpoint => simp [Point.startLeft]
  | _ => exact Nat.zero_le _

theorem startLeft_run (hs : Sound executable s) (h : s.pipeline.detector.ready = true)
    (later : List (Turn F)) :
    (s.run later).point.startLeft ≤ s.point.startLeft - mainTurns later := by
  unfold Threads.run
  induction later generalizing s with
  | nil => exact le_rfl
  | cons turn later ih =>
      rw [List.foldl_cons]
      cases turn with
      | main =>
          have hleft := startLeft_mainRuns hs h
          refine (ih hs.main (ready_mainRuns h)).trans ?_
          rw [mainTurns_main]
          omega
      | world move =>
          rw [mainTurns_world]
          exact ih (hs.world move) (Pipeline.ready_act h move)

omit [PyRuntime F] in
theorem checks_mainRuns (s : Threads F) : s.checks <+: s.mainRuns.checks := by
  fun_cases mainRuns s with
  | case16 => exact List.prefix_append _ _
  | case18 => exact List.prefix_append _ _
  | case19 => exact List.prefix_append _ _
  | _ => exact List.prefix_refl _

theorem checks_run (s : Threads F) (later : List (Turn F)) :
    s.checks <+: (s.run later).checks := by
  unfold Threads.run
  induction later generalizing s with
  | nil => exact List.prefix_refl _
  | cons turn later ih =>
      refine List.IsPrefix.trans ?_ (ih (s.step turn))
      cases turn with
      | main => exact s.checks_mainRuns
      | world move => exact List.prefix_refl _

omit [PyRuntime F] in
theorem mem_checks_finishCheck (s : Threads F) (recorded : Option String)
    (raised : Option PyException) : { recorded, raised } ∈ (s.finishCheck recorded raised).checks :=
  List.mem_append_right _ List.mem_cons_self

omit [PyRuntime F] in
theorem mainRuns_polling {recorded : Option String} (hpoint : s.point = .polling recorded) :
    ∃ raised, { recorded, raised } ∈ s.mainRuns.checks := by
  unfold mainRuns
  rw [hpoint]
  dsimp only
  split
  · exact ⟨_, s.mem_checks_finishCheck recorded _⟩
  · exact ⟨_, s.mem_checks_finishCheck recorded _⟩

omit [PyRuntime F] in
theorem mainRuns_checking {recorded : Option String} (hpoint : s.point = .checking recorded) :
    (∃ raised, { recorded, raised } ∈ s.mainRuns.checks) ∨
      s.mainRuns.point = .polling recorded := by
  unfold mainRuns
  rw [hpoint]
  dsimp only
  cases s.pipeline.detector.runtimeError with
  | some error => exact .inl ⟨_, s.mem_checks_finishCheck recorded _⟩
  | none => exact .inr rfl

theorem polling_run {recorded : Option String} (hpoint : s.point = .polling recorded)
    {later : List (Turn F)} (hlater : 1 ≤ mainTurns later) :
    ∃ raised, { recorded, raised } ∈ (s.run later).checks := by
  induction later generalizing s with
  | nil => exact absurd hlater (Nat.not_succ_le_zero 0)
  | cons turn later ih =>
      cases turn with
      | main =>
          obtain ⟨raised, hmem⟩ := mainRuns_polling hpoint
          exact ⟨raised, (checks_run s.mainRuns later).mem hmem⟩
      | world move =>
          rw [mainTurns_world] at hlater
          exact ih (s := s.step (.world move)) hpoint hlater

/-- Two turns of the main thread end a `check_health` that has begun. -/
theorem checking_run {recorded : Option String} (hpoint : s.point = .checking recorded)
    {later : List (Turn F)} (hlater : 2 ≤ mainTurns later) :
    ∃ raised, { recorded, raised } ∈ (s.run later).checks := by
  induction later generalizing s with
  | nil => exact absurd hlater (Nat.not_succ_le_zero 1)
  | cons turn later ih =>
      cases turn with
      | main =>
          rw [mainTurns_main] at hlater
          rcases mainRuns_checking hpoint with ⟨raised, hmem⟩ | hpolling
          · exact ⟨raised, (checks_run s.mainRuns later).mem hmem⟩
          · exact polling_run (s := s.mainRuns) hpolling (by omega)
      | world move =>
          rw [mainTurns_world] at hlater
          exact ih (s := s.step (.world move)) hpoint hlater

omit [PyRuntime F] in
/-- A `start` that is over has raised the first error, if that came first. -/
theorem Sound.startRaised_of_failed (hs : Sound executable s) {error : String}
    {rest : List Note} (hnotes : s.notes = .failed error :: rest)
    (hover : s.point.startLeft = 0) :
    ∃ d : CoreDetector F, d.executable = executable ∧
      s.point = .startRaised (handshakeError d error) := by
  have hnone : s.point.found ≠ some none := by
    intro hfound
    have hhead := hs.found none hfound
    rw [hnotes] at hhead
    cases hhead
  cases hpoint : s.point with
  | startRaised e =>
      obtain ⟨d, first, hd, he, hhead⟩ := hs.startRaised e hpoint
      rw [hnotes] at hhead
      obtain rfl : error = first := Note.failed.inj (Option.some.inj hhead)
      exact ⟨d, hd, congrArg Point.startRaised he⟩
  | between => exact absurd (congrArg Point.found hpoint) hnone
  | checking recorded => exact absurd (congrArg Point.found hpoint) hnone
  | polling recorded => exact absurd (congrArg Point.found hpoint) hnone
  | _ =>
      rw [hpoint] at hover
      cases hover

/-- No error of the sidecar is lost.  `start` is over within ten steps once the first
note is there and the reader has had another turn; the first note says how it ends.  A
`check_health` is over within two steps. -/
structure SurfacesErrors (executable : String) (s : Threads F) : Prop where
  start_raises : ∀ error rest, s.notes = .failed error :: rest → s.point.startLeft = 0 →
    ∃ d : CoreDetector F, d.executable = executable ∧
      s.point = .startRaised (handshakeError d error)
  start_returns : ∀ rest, s.notes = .accepted :: rest → ∀ e, s.point ≠ .startRaised e
  start_ends : s.notes ≠ [] → ∀ later : List (Turn F), 10 ≤ mainTurns later →
    (s.run (.world .readerRuns :: later)).point.startLeft = 0
  checks_raise : ∀ check ∈ s.checks, check.Raises (F := F) executable
  checks_end : ∀ recorded, s.point = .checking recorded → ∀ later : List (Turn F),
    2 ≤ mainTurns later → ∃ raised, { recorded, raised } ∈ (s.run later).checks

theorem surfacesErrors_run {p : Pipeline F} (hp : Launched p) (schedule : List (Turn F)) :
    SurfacesErrors p.detector.executable ((begin p).run schedule) := by
  have hs := (sound_begin hp).run schedule
  constructor
  · exact fun _ _ hnotes hover => hs.startRaised_of_failed hnotes hover
  · intro rest hnotes e hpoint
    obtain ⟨_, error, _, _, hhead⟩ := hs.startRaised e hpoint
    rw [hnotes] at hhead
    cases hhead
  · intro hnotes later hlater
    have hready := Pipeline.ready_readerRuns hs.tracks hnotes
    have hleft := startLeft_run (hs.world .readerRuns) hready later
    rw [Nat.sub_eq_zero_of_le ((Point.startLeft_le _).trans hlater)] at hleft
    exact Nat.le_zero.mp hleft
  · exact hs.checks
  · exact fun recorded hpoint later hlater => checking_run hpoint hlater

end Threads

end

/-- A `start` that has launched the sidecar. -/
def launchedPipeline : Pipeline ℚ :=
  { idlePipeline .normal with
    lockHeld := true
    process := true
    reader := .running [.openStdout] }

/-- A line that is not JSON comes before anything else. -/
def garbled : List (Turn ℚ) :=
  [.main, .main, .world (.output (some "ready?\n")), .world .readerRuns, .main,
    .world .readerRuns, .world .readerRuns, .main, .world .readerRuns] ++
    List.replicate 8 .main

theorem surfacesErrors_garbled :
    Threads.SurfacesErrors launchedPipeline.detector.executable
      ((Threads.begin launchedPipeline).run garbled) :=
  Threads.surfacesErrors_run ⟨rfl, rfl, rfl, rfl, rfl, rfl, rfl⟩ garbled

example :
    ((Threads.begin launchedPipeline).run garbled).notes = [.failed "received invalid NDJSON"] ∧
      ((Threads.begin launchedPipeline).run garbled).point =
        .startRaised (handshakeError launchedPipeline.detector "received invalid NDJSON") := by
  decide +kernel

end Blocksnoop.Cli
