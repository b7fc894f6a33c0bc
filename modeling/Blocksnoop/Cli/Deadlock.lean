import Blocksnoop.Cli.Detector

/-!
# Signals during start-up

`CoreDetector.start` and `CoreDetector.stop` take the same lock, which is not
reentrant.  A signal that arrives while `start` holds it makes the handler wait
for its own thread; a signal at any other point does not, and wherever `stop` is
called it can come to its end.
-/

namespace Blocksnoop.Cli

open Blocksnoop.Support Blocksnoop.CoreBackend

/-- A signal finds the flag set or the lock free. -/
def FindsLockFree {F : Type} (_ : List (Event (Pipeline F))) (event : Event (Pipeline F)) : Prop :=
  ∀ signum, event.mark = .signal signum → event.cleanedUp = true ∨ event.inner.lockHeld = false

section

variable {F : Type}

/-- Where `stop` is called the lock is free. -/
def StopFindsLockFree (event : Event (Pipeline F)) : Prop :=
  event.mark = .began .stop → event.inner.lockHeld = false

/-- The main thread has not come to wait for its own lock, and `stop` had no reason to. -/
def Calm (s : World (Pipeline F) (Move F)) : Prop :=
  .deadlocked ∉ marks s.history ∧ ∀ event ∈ s.history, StopFindsLockFree event

/-- The flag and the lock of a calm world. -/
def LockAt (cleanedUp lockHeld : Bool) (s : World (Pipeline F) (Move F)) : Prop :=
  s.cleanedUp = cleanedUp ∧ s.inner.lockHeld = lockHeld ∧ Calm s

variable {cleanedUp lockHeld : Bool} {s : World (Pipeline F) (Move F)}

theorem LockAt.record {mark : Mark} (hs : LockAt cleanedUp lockHeld s)
    (hmark : mark ≠ .deadlocked ∧ (mark = .began .stop → lockHeld = false)) :
    LockAt cleanedUp lockHeld (s.record mark) := by
  obtain ⟨hflag, hlock, hcalm, hfree⟩ := hs
  refine ⟨hflag, hlock, ?_, List.forall_mem_append.mpr ⟨hfree, List.forall_mem_singleton.mpr ?_⟩⟩
  · intro hmem
    rw [marks_record, List.mem_append, List.mem_singleton] at hmem
    rcases hmem with hmem | heq
    · exact hcalm hmem
    · exact hmark.1 heq.symm
  · exact fun hstop => hlock.trans (hmark.2 hstop)

/-- A signal that finds the lock free cannot arrive under the lock before the flag
is set. -/
theorem LockAt.no_signal {signum : Signal} (hs : LockAt false true s)
    (hfine : s.record (.signal signum) ∈ fineAlong (Move F) FindsLockFree) : False := by
  rcases (record_mem_fineAlong.mp hfine).2 signum rfl with hflag | hlock
  · exact Bool.false_ne_true (hs.1.symm.trans hflag)
  · exact Bool.false_ne_true (hlock.symm.trans hs.2.1)

variable [PyRuntime F]

theorem stable_lockAt (cleanedUp lockHeld : Bool) :
    Stable (LockAt (F := F) cleanedUp lockHeld) := by
  refine Stable.of_advance ?_
  rintro s env schedule ⟨hflag, hlock, hcalm⟩
  refine ⟨by rw [World.advance_cleanedUp, hflag], ?_, ?_⟩
  · refine advance_inner (P := fun p : Pipeline F => p.lockHeld = lockHeld) ?_ env schedule hlock
    intro move p hp
    obtain ⟨_, _, _, _, _, _, _, _, heq⟩ := p.act_frame move
    change (p.act move).lockHeld = lockHeld
    rw [heq]
    exact hp
  · unfold Calm
    rw [World.advance_history]
    exact hcalm

theorem settled_lockAt (lockHeld : Bool) :
    Settled (fineAlong (Move F) FindsLockFree) (LockAt true lockHeld) where
  stable := stable_lockAt true lockHeld
  signal _ _ hs _ := hs.record (by simp)
  cleanedUp _ hs := hs.1

/-- The lock in each stage of a run: between the callbacks it is free. -/
def lockFree (F : Type) [PyRuntime F] : Stages (fineAlong (Move F) (@FindsLockFree F)) where
  Initial := Unstarted (LockAt false false)
  Open := LockAt false false
  Due _ := LockAt false false
  Flagged _ := LockAt true false
  Stopped _ := LockAt true false
  Exited := LockAt true false
  Final := LockAt true false
  Always := Calm
  initial_stable := stable_unstarted (stable_lockAt _ _)
  open_stable := stable_lockAt _ _
  due_stable _ := stable_lockAt _ _
  flagged_stable _ := stable_lockAt _ _
  stopped_stable _ := stable_lockAt _ _
  exited_stable := stable_lockAt _ _
  final_stable := stable_lockAt _ _
  cleanedUp_of_due _ _ h := h.1
  cleanedUp_of_stopped _ _ h := h.1
  cleanedUp_of_exited _ h := h.1
  cleanedUp_of_final _ h := h.1
  always_of_initial _ h := h.1.2.2
  always_of_open _ h := h.2.2
  always_of_due _ _ h := h.2.2
  always_of_flagged _ _ h := h.2.2
  always_of_stopped _ _ h := h.2.2
  always_of_exited _ h := h.2.2
  always_of_final _ h := h.2.2
  initial_signal _ _ h _ := h.1.record (by simp)
  open_signal _ _ h _ := h.record (by simp)
  due_signal _ _ _ h _ := h.record (by simp)
  flagged_signal _ _ _ h _ := ⟨h.record (by simp), h.record (by simp), h.record (by simp)⟩
  stopped_signal _ _ _ h _ := ⟨h.record (by simp), h.record (by simp), h.record (by simp)⟩
  exited_signal _ _ h _ := ⟨h.record (by simp), h.record (by simp)⟩
  final_signal _ _ h _ := h.record (by simp)
  flagged_of_due _ _ h := ⟨rfl, h.2⟩
  open_poll _ h := h
  due_poll _ _ h := h
  open_observed _ _ h _ _ := h.record (by simp)

/-! ## The detector -/

variable {handler : Handler (Pipeline F) (Move F)}

/-- `stop` once the flag is set. -/
theorem locking_flagged (hhandler : (lockFree F).Handles handler) :
    Locking (fineAlong (Move F) (@FindsLockFree F)) Calm handler (LockAt true false)
      (LockAt true true) where
  outside := Stages.ticks_settled hhandler (settled_lockAt false) fun _ h => h.2.2
  inside := Stages.ticks_settled hhandler (settled_lockAt true) fun _ h => h.2.2
  acquired _ hs _ := ⟨hs.1, rfl, hs.2.2⟩
  released _ hs := ⟨hs.1, rfl, hs.2.2⟩
  deadlocked _ hs hlock _ := absurd (hs.2.1.symm.trans hlock) Bool.false_ne_true
  stopRequested _ hs := hs
  cleared _ hs := hs
  always _ hs := hs.2.2

/-- Outside the lock the run is open, or it has been torn down. -/
def OpenOrFinal (s : World (Pipeline F) (Move F)) : Prop :=
  LockAt false false s ∨ LockAt true false s

/-- The same under the lock. -/
def UnderLock (s : World (Pipeline F) (Move F)) : Prop :=
  LockAt false true s ∨ LockAt true true s

/-- No signal arrives under the lock of `start`. -/
theorem ticks_locked {P : World (Pipeline F) (Move F) → Prop}
    (hP : Stable P) (hlocked : ∀ s, P s → LockAt false true s) :
    Ticks (fineAlong (Move F) (@FindsLockFree F)) Calm handler P (LockAt true true) := by
  intro s hs
  refine wp_tick hP hs (hlocked s hs).2.2 (fun _ _ h => h) ?_
  intro signum s' _ hs' hfine
  exact ((hlocked s' hs').no_signal hfine).elim

theorem starting_open (hhandler : (lockFree F).Handles handler) :
    Starting (fineAlong (Move F) (@FindsLockFree F)) Calm handler (LockAt false false)
      (LockAt false true) OpenOrFinal UnderLock where
  outside := (Stages.ticks_of_open hhandler (stable_lockAt _ _) fun _ h => h).or
    (locking_flagged hhandler).outside |>.weaken fun _ h => Or.inr (or_self_iff.mp h)
  inside := (ticks_locked (stable_lockAt _ _) fun _ h => h).or
    (locking_flagged hhandler).inside |>.weaken fun _ h => Or.inr (or_self_iff.mp h)
  acquired _ hs _ := hs.imp (fun h => ⟨h.1, rfl, h.2.2⟩) fun h => ⟨h.1, rfl, h.2.2⟩
  released _ hs := hs.imp (fun h => ⟨h.1, rfl, h.2.2⟩) fun h => ⟨h.1, rfl, h.2.2⟩
  deadlocked s hs hlock _ := by
    have hfree : s.inner.lockHeld = false := hs.elim (fun h => h.2.1) fun h => h.2.1
    exact absurd (hfree.symm.trans hlock) Bool.false_ne_true
  stopRequested _ hs := hs
  cleared _ hs := hs
  always _ hs := hs.elim (fun h => h.2.2) fun h => h.2.2
  idle := (Stages.ticks_of_open hhandler (stable_lockAt _ _) fun _ h => h).weaken
    fun _ => Or.inr
  idle_unstarted := (Stages.ticks_of_open hhandler (stable_unstarted (stable_lockAt _ _))
    fun _ h => h.1).weaken fun _ => Or.inr
  locked := (ticks_locked (stable_lockAt _ _) fun _ h => h).weaken fun _ => Or.inr
  locked_unstarted := (ticks_locked (stable_unstarted (stable_lockAt _ _))
    fun _ h => h.1).weaken fun _ => Or.inr
  out_of_idle _ hs := Or.inl hs
  in_of_locked _ hs := Or.inl hs
  idle_acquired _ hs _ := ⟨hs.1, rfl, hs.2.2⟩
  locked_released _ hs := ⟨hs.1, rfl, hs.2.2⟩
  reset _ hs := hs.1
  built _ _ _ _ hs _ := hs.1
  spawned _ hs := hs.1
  readerHandle _ hs := hs.1
  stderrHandle _ hs := hs.1
  started _ hs := hs.1
  stderrStarted _ hs := hs

/-! ## The callbacks -/

theorem onExit_lockFree {s : World (Pipeline F) (Move F)} (mode : Mode) (reason : String)
    (hhandler : (lockFree F).Handles handler) (hs : LockAt true false s) :
    wp (fineAlong (Move F) (@FindsLockFree F)) ((callbacks F mode).onExit reason handler)
      (ends Calm (fun _ => LockAt true false) fun _ => LockAt true false) s := by
  have hticks := (locking_flagged hhandler).outside
  cases mode with
  | stats => exact hticks.unknown_keeps hs
  | normal =>
      refine wp_bind_ends (reporterSummary_spec reason hticks (fun _ _ h => h)
        (fun _ _ h => h) hs) ?_ (fun _ _ h => h)
      intro _ s₁ _ hs₁
      exact hticks.unknown_keeps hs₁

theorem reaping_lockFree : (lockFree F).Reaping (LockAt true false) where
  stable := stable_lockAt _ _
  polled _ h := h
  signal _ _ h _ := h.record (by simp)
  always _ h := h.2.2

theorem callbacks_lockFree (mode : Mode) : Respects (lockFree F) (callbacks F mode) where
  start handler hhandler s hs := by
    refine wp_call (fun _ => (starting_open hhandler).start_spec (fun _ _ h => h)
      (fun _ _ h => h) mode ⟨hs.1.record (by simp), hs.2⟩) (fun _ _ h _ => h.record (by simp)) ?_
    intro _ s' h _
    exact h.imp (fun h => h.record (by simp)) fun h => h.record (by simp)
  checkHealth handler hhandler s hs := by
    have hticks := Stages.ticks_of_open hhandler (lockFree F).open_stable fun _ h => h
    have hcheck : (callbacks F mode).checkHealth handler = checkHealth handler := by
      cases mode
      · rfl
      · rfl
    rw [hcheck]
    refine wp_call (fun _ => checkHealth_spec hticks (hs.record (by simp)))
      (fun _ _ h _ => h.record (by simp)) ?_
    intro _ s' h _
    exact h.imp (fun h => h.record (by simp)) fun h => h.record (by simp)
  stop _ handler hhandler s hs := by
    have hmarks : ∀ i s, LockAt (F := F) true false s →
        LockAt true false (s.record (.began (.stopPart i))) ∧
          LockAt true false (s.record (.returned (.stopPart i))) ∧
          LockAt true false (s.record (.raised (.stopPart i))) :=
      fun i s hs => ⟨hs.record (by simp), hs.record (by simp), hs.record (by simp)⟩
    exact wp_call
      (fun _ => (locking_flagged hhandler).stop_spec hmarks mode (hs.record (by simp)))
      (fun _ _ h _ => h.record (by simp)) (fun _ _ h _ => h.record (by simp))
  onExit reason handler hhandler s hs :=
    wp_call (fun _ => onExit_lockFree mode reason hhandler (hs.record (by simp)))
      (fun _ _ h _ => h.record (by simp)) (fun _ _ h _ => h.record (by simp))
  stopChild handler hhandler s hs :=
    reaping_lockFree.stopChild_spec hhandler (fun _ => hs.record (by simp))
      (fun _ h _ => h.record (by simp)) (fun _ h _ => h.record (by simp))

/-! ## The end of `stop` -/

/-- The world of an event as a handler finds it, with a schedule of its own. -/
def Event.world (event : Event (Pipeline F)) (schedule : List (Entry (Move F))) :
    World (Pipeline F) (Move F) where
  inner := event.inner
  child := event.child
  cleanedUp := event.cleanedUp
  schedule := schedule

/-- From here `CoreDetector.stop` comes to its end within so many undisturbed steps. -/
def StopCanEnd (event : Event (Pipeline F)) : Prop :=
  ∀ handler : Handler (Pipeline F) (Move F), ∃ steps : ℕ,
    ((detectorStop handler).run (event.world (List.replicate steps {}))).1.ended = true

/-- Where the lock is free, `stop` ends whatever it has to clean up. -/
theorem stopCanEnd_of_lockFree {event : Event (Pipeline F)}
    (hlock : event.inner.lockHeld = false) : StopCanEnd event := by
  intro handler
  refine ⟨12, ?_⟩
  obtain ⟨mark, flag, child, p⟩ := event
  obtain ⟨mode, proc, path, timeout, host, padding, startTime, detector, lock, process,
    readerHandle, stderrHandle, ⟨stdout, exited⟩, reader, stderrStarted, buffer, reporter,
    records, clock, now⟩ := p
  obtain rfl : lock = false := hlock
  -- the steps depend on the handles that are set, and on what has been started or has ended
  cases process <;> cases readerHandle <;> cases stderrHandle <;> cases exited <;>
    cases reader <;> cases stderrStarted <;> rfl

/-- The main thread never waits for the lock it holds, on either path of the
command and however far the run has come, when no signal arrives under the lock
before the flag is set; and wherever a signal is going to call `stop`, or `stop` is
called, that of the detector can come to its end. -/
theorem runLoop_calm (mode : Mode) (s : World (Pipeline F) (Move F))
    (hflag : s.cleanedUp = false) (hlock : s.inner.lockHeld = false)
    (hreader : s.inner.reader = .notStarted) (hhistory : s.history = [])
    (hfree : Along FindsLockFree ((runLoop (callbacks F mode)).run s).2.history) :
    .deadlocked ∉ marks ((runLoop (callbacks F mode)).run s).2.history ∧
      ∀ event ∈ ((runLoop (callbacks F mode)).run s).2.history,
        (∃ signum, event.mark = .signal signum ∧ event.cleanedUp = false) ∨
          event.mark = .began .stop → StopCanEnd event := by
  have hcalm : Calm s := by
    unfold Calm
    rw [hhistory]
    exact ⟨List.not_mem_nil, List.forall_mem_nil _⟩
  have hcalm' : Calm ((runLoop (callbacks F mode)).run s).2 := by
    have hspec := (callbacks_lockFree mode).runLoop_spec ⟨⟨hflag, hlock, hcalm⟩, hreader⟩ hfree
    revert hspec
    rcases (runLoop (callbacks F mode)).run s with ⟨outcome, s'⟩
    intro hspec
    cases outcome with
    | ok returncode => exact hspec.1.2.2
    | raised e => exact hspec.2.2
    | paused => exact hspec
  refine ⟨hcalm'.1, fun event hevent hcalls => stopCanEnd_of_lockFree ?_⟩
  rcases hcalls with ⟨signum, hsignal, hbefore⟩ | hstop
  · obtain ⟨before, after, hsplit⟩ := List.append_of_mem hevent
    rcases hfree before event after hsplit signum hsignal with hset | hunlocked
    · cases hbefore.symm.trans hset
    · exact hunlocked
  · exact hcalm'.2 event hevent hstop

end

/-- A pipeline before its start, on a machine without a sidecar. -/
def idlePipeline (mode : Mode) : Pipeline ℚ where
  mode := mode
  proc := { pidNamespaceFile := fun _ => none, statusFile := fun _ => none }
  sidecarPath := none
  host := { hexdigest := fun identity => identity, getline := fun _ _ => "" }
  correlationPaddingNs := 0
  startTime := 0
  detector :=
    { config := { pid := 7, thresholdMs := 100, tid := some 7 }, expectedPid := 7
      expectedTid := some 7 }
  ringBuffer := StackRingBuffer.new 4
  reporter :=
    { startTime := 0, totalBlockedMs := 0, maxBlockedMs := 0, sessionId := "s"
      backend := some "core", thresholdMs := some 100, targetPid := some 7
      targetTid := some 7, errorThresholdMs := 500 }
  clock := { monotonic := 0, observedAt := "" }
  monotonicNs := 0

/-- A signal at the `n`-th step of a run of the pipeline. -/
def interruptedAt (mode : Mode) (n : ℕ) : World (Pipeline ℚ) (Move ℚ) where
  inner := idlePipeline mode
  child := none
  schedule := List.replicate n {} ++ { signal := some .sigint } :: List.replicate 20 {}

theorem runLoop_calm_sampler :
    .deadlocked ∉
        marks ((runLoop (callbacks ℚ .normal)).run (interruptedAt .normal 4)).2.history ∧
      ∀ event ∈ ((runLoop (callbacks ℚ .normal)).run (interruptedAt .normal 4)).2.history,
        (∃ signum, event.mark = .signal signum ∧ event.cleanedUp = false) ∨
          event.mark = .began .stop → StopCanEnd event := by
  refine runLoop_calm .normal (interruptedAt .normal 4) rfl rfl rfl rfl ?_
  refine along_of_signals (fun event => !event.inner.lockHeld) ?_ (by decide)
  intro before event hlock signum hsignum
  exact Or.inr (by simpa using hlock signum hsignum)

/-- A signal right after `start` has taken the lock. -/
theorem exists_deadlocked :
    ∃ s : World (Pipeline ℚ) (Move ℚ), s.cleanedUp = false ∧ s.inner.lockHeld = false ∧
      s.inner.reader.isStarted = false ∧ s.history = [] ∧
      .deadlocked ∈ marks ((runLoop (callbacks ℚ .stats)).run s).2.history := by
  refine ⟨interruptedAt .stats 4, rfl, rfl, rfl, rfl, ?_⟩
  decide

end Blocksnoop.Cli
