import Blocksnoop.Core
import Mathlib.Logic.Function.Basic
import Mathlib.Data.List.Basic

/-!
# The life of the BCC detector

`start`, `stop` and `check_health` of `BccDetector` on the main thread, beside the threads that
run `_poll_loop`.  A signal handler may raise at any step of the main thread, and it may call
`stop` before it does.  Whatever happens, one thread polls at a time, it has a program to
poll, and what it leaves behind is what the main thread reads.
-/

namespace Blocksnoop.Bcc

open Blocksnoop.Support

/-- Where a polling thread is. -/
inductive PollerPoint where
  /-- The thread has not been started. -/
  | created
  /-- `assert self._bpf is not None` -/
  | asserting
  /-- `while not self._stop_event.is_set()` -/
  | checking
  /-- The look at `self._bpf`. -/
  | looking
  /-- `perf_buffer_poll` -/
  | polling
  /-- The poll has raised, and the event is looked at. -/
  | caught (error : String)
  /-- `self._poll_error = exc` -/
  | recording (error : String)
  | ended
  deriving Repr, DecidableEq

def PollerPoint.isAlive : PollerPoint → Bool
  | created => false
  | ended => false
  | _ => true

/-- What a polling thread does; all but the first happen inside a poll. -/
inductive PollerMove where
  | runs
  | passesEvent (event : BlockingEvent)
  | passesLost (count : ℤ)
  | returns
  | fails (error : String)
  deriving Repr, DecidableEq

inductive Call where
  | start
  | stop
  | checkHealth
  deriving Repr, DecidableEq

/-- Where the main thread is.  `inside` says that `stop` was called by a handler inside
`start`. -/
inductive MainPoint where
  | idle
  /-- `if self._thread is not None: return`, the first step of `_start`. -/
  | testing
  /-- `self._loss_counts = {}` -/
  | clearing
  /-- `self._poll_error = None` -/
  | forgetting
  /-- The source of the program, up to the kernel headers. -/
  | preparing
  /-- `self._bpf = BPF(text=source)` -/
  | compiling
  /-- `open_perf_buffer` -/
  | opening
  /-- `self._stop_event.clear()` -/
  | releasing
  /-- `self._thread = threading.Thread(…)` -/
  | creating
  /-- `self._thread.start()` -/
  | launching
  /-- `self._bpf = None`; the two `except` clauses do the same. -/
  | dropping (error : String)
  /-- `self._thread = None`, and the error is raised. -/
  | unlinking (error : String)
  /-- `self._stop_event.set()`, the first step of `stop`. -/
  | requesting (inside : Bool)
  /-- `if self._thread is not None` -/
  | examining (inside : Bool)
  /-- `self._thread.join()` -/
  | joining (inside : Bool)
  /-- `self._thread = None` -/
  | unthreading (inside : Bool)
  /-- `self._bpf = None` -/
  | unloading (inside : Bool)
  /-- `if self._stop_event.is_set()`, the first step of `check_health`. -/
  | asking
  /-- `if self._poll_error is not None`; with the error there was when the check began. -/
  | reading (recorded : Option String)
  /-- `self._thread is not None and not self._thread.is_alive()` -/
  | watching (recorded : Option String)
  deriving Repr, DecidableEq

/-- The steps of `start`. -/
def MainPoint.isStart : MainPoint → Bool
  | testing => true
  | clearing => true
  | forgetting => true
  | preparing => true
  | compiling => true
  | opening => true
  | releasing => true
  | creating => true
  | launching => true
  | dropping _ => true
  | unlinking _ => true
  | _ => false

/-- The steps of `stop`. -/
def MainPoint.isStop : MainPoint → Bool
  | requesting _ => true
  | examining _ => true
  | joining _ => true
  | unthreading _ => true
  | unloading _ => true
  | _ => false

/-- How a call has ended; of a check, with the error there was when it began. -/
inductive Outcome where
  | started
  | startRaised (error : String)
  | stopped
  | stopRaised
  /-- The check has found a stop request, or nothing wrong. -/
  | passed (stopping : Bool) (recorded : Option String)
  | pollingFailed (recorded : Option String) (error : String)
  | exitedUnexpectedly (recorded : Option String)
  deriving Repr, DecidableEq

/-- The attributes of the detector, its threads by their number, and what has happened. -/
structure Detector where
  /-- `self._bpf` is not `None`. -/
  bpf : Bool := false
  thread : Option ℕ := none
  stopEvent : Bool := false
  pollError : Option String := none
  lossCounts : Dict String ℤ := []
  pollers : ℕ → PollerPoint := fun _ => .created
  /-- The number of the next thread. -/
  next : ℕ := 0
  point : MainPoint := .idle
  outcomes : List Outcome := []
  /-- What the polls have passed, with the number of the thread. -/
  delivered : List (ℕ × BlockingEvent) := []
  losses : List (ℕ × ℤ) := []
  /-- What the polls have raised. -/
  raised : List (ℕ × String) := []
  /-- The threads from this number on belong to the last `start`. -/
  session : ℕ := 0

inductive Turn where
  | call (call : Call)
  /-- The main thread runs for a step, which may raise where the source calls other code. -/
  | main (failure : Option String)
  /-- A signal handler raises. -/
  | interrupt
  /-- A signal handler calls `stop`, unless it runs already, and raises. -/
  | shutdown
  | poller (number : ℕ) (move : PollerMove)
  deriving Repr, DecidableEq

namespace Detector

/-- The call is over. -/
def finish (s : Detector) (outcome : Outcome) : Detector :=
  { s with point := .idle, outcomes := s.outcomes ++ [outcome] }

/-- The step goes on, unless it raises. -/
def attempt (s : Detector) (failure : Option String) (next : Detector) : Detector :=
  match failure with
  | some error => { s with point := .dropping error }
  | none => next

def calls (s : Detector) : Call → Detector
  | .start => { s with point := .testing }
  | .stop => { s with point := .requesting false }
  | .checkHealth => { s with point := .asking }

def isAlive (s : Detector) (number : ℕ) : Bool :=
  (s.pollers number).isAlive

/-- The join of a thread: it waits, and a thread that was not started cannot be joined. -/
def join (s : Detector) (inside : Bool) (number : ℕ) : Detector :=
  match s.pollers number with
  | .created =>
      if inside then { s with point := .dropping "RuntimeError" } else s.finish .stopRaised
  | .ended => { s with point := .unthreading inside }
  | _ => s

def mainRuns (s : Detector) (failure : Option String) : Detector :=
  match s.point with
  | .idle => s
  | .testing => if s.thread.isSome then s.finish .started else { s with point := .clearing }
  | .clearing => { s with point := .forgetting, lossCounts := [], session := s.next }
  | .forgetting => { s with point := .preparing, pollError := none }
  | .preparing => s.attempt failure { s with point := .compiling }
  | .compiling => s.attempt failure { s with point := .opening, bpf := true }
  | .opening => s.attempt failure { s with point := .releasing }
  | .releasing => { s with point := .creating, stopEvent := false }
  | .creating => { s with point := .launching, thread := some s.next, next := s.next + 1 }
  | .launching =>
      match s.thread with
      | none => { s with point := .dropping "AttributeError" }
      | some number =>
          s.attempt failure
            ({ s with pollers := Function.update s.pollers number .asserting }.finish .started)
  | .dropping error => { s with point := .unlinking error, bpf := false }
  | .unlinking error => { s with thread := none }.finish (.startRaised error)
  | .requesting inside => { s with point := .examining inside, stopEvent := true }
  | .examining inside =>
      { s with point := if s.thread.isSome then .joining inside else .unloading inside }
  | .joining inside =>
      match s.thread with
      | none => s.finish .stopRaised
      | some number => s.join inside number
  | .unthreading inside => { s with point := .unloading inside, thread := none }
  | .unloading _ => { s with bpf := false }.finish .stopped
  | .asking =>
      if s.stopEvent then s.finish (.passed true s.pollError)
      else { s with point := .reading s.pollError }
  | .reading recorded =>
      match s.pollError with
      | some error => s.finish (.pollingFailed recorded error)
      | none => { s with point := .watching recorded }
  | .watching recorded =>
      match s.thread with
      | none => s.finish (.passed false recorded)
      | some number =>
          if s.isAlive number then s.finish (.passed false recorded)
          else s.finish (.exitedUnexpectedly recorded)

def goes (s : Detector) (number : ℕ) (point : PollerPoint) : Detector :=
  { s with pollers := Function.update s.pollers number point }

/-- `_handle_lost` -/
def handleLost (s : Detector) (number : ℕ) (count : ℤ) : Detector :=
  if count ≤ 0 then { s with losses := s.losses ++ [(number, count)] }
  else
    { s with
      lossCounts :=
        s.lossCounts.set "perf_buffer" ((s.lossCounts.get "perf_buffer").getD 0 + count)
      losses := s.losses ++ [(number, count)] }

def pollerMoves (s : Detector) (number : ℕ) (move : PollerMove) : Detector :=
  match s.pollers number, move with
  | .asserting, .runs => s.goes number (if s.bpf then .checking else .ended)
  | .checking, .runs => s.goes number (if s.stopEvent then .ended else .looking)
  | .looking, .runs => s.goes number (if s.bpf then .polling else .caught "AttributeError")
  | .polling, .passesEvent event => { s with delivered := s.delivered ++ [(number, event)] }
  | .polling, .passesLost count => s.handleLost number count
  | .polling, .returns => s.goes number .checking
  | .polling, .fails error =>
      { s with raised := s.raised ++ [(number, error)] }.goes number (.caught error)
  | .caught error, .runs => s.goes number (if s.stopEvent then .ended else .recording error)
  | .recording error, .runs => { s with pollError := some error }.goes number .ended
  | _, _ => s

def step (s : Detector) : Turn → Detector
  | .call call =>
      match s.point with
      | .idle => s.calls call
      | _ => s
  | .main failure => s.mainRuns failure
  | .interrupt => { s with point := .idle }
  | .shutdown =>
      { s with point := if s.point.isStop then .idle else .requesting s.point.isStart }
  | .poller number move => s.pollerMoves number move

def run (s : Detector) (turns : List Turn) : Detector :=
  turns.foldl step s

/-! ## One thread polls -/

def Quiet (s : Detector) : Prop :=
  ∀ number, s.isAlive number = false

/-- What the points of the main thread rely on. -/
def AtPoint (s : Detector) : Prop :=
  match s.point with
  | .clearing => s.thread = none
  | .forgetting => s.thread = none
  | .preparing => s.thread = none
  | .compiling => s.thread = none
  | .opening => s.thread = none ∧ s.bpf = true
  | .releasing => s.thread = none ∧ s.bpf = true
  | .creating => s.thread = none ∧ s.bpf = true
  | .launching => s.bpf = true ∧ ∃ number, s.thread = some number ∧ s.pollers number = .created
  | .dropping _ => s.Quiet
  | .unlinking _ => s.Quiet
  | .unthreading _ => s.Quiet
  | .unloading _ => s.thread = none
  | _ => True

/-- Only the last thread can be alive, it is the one that `stop` joins, and it has a program
to poll. -/
structure Alone (s : Detector) : Prop where
  owned : ∀ number, s.isAlive number = true → s.thread = some number ∧ s.bpf = true
  fresh : ∀ number, s.next ≤ number → s.pollers number = .created
  latest : ∀ number, s.thread = some number → number + 1 = s.next
  point : s.AtPoint

variable {s : Detector}

theorem Alone.quiet (h : s.Alone) (hthread : s.thread = none) : s.Quiet := by
  intro number
  by_contra halive
  obtain ⟨hsome, -⟩ := h.owned number (by simpa using halive)
  cases hthread.symm.trans hsome

theorem Quiet.of_thread (h : s.Alone) {number : ℕ} (hthread : s.thread = some number)
    (hdead : s.isAlive number = false) : s.Quiet := by
  intro other
  by_contra halive
  have hother : s.isAlive other = true := by simpa using halive
  obtain ⟨hsome, -⟩ := h.owned other hother
  obtain rfl := Option.some.inj (hthread.symm.trans hsome)
  cases hdead.symm.trans hother

/-- While a thread is alive, the main thread is at a point that relies on nothing. -/
theorem Alone.atPoint (h : s.Alone) {number : ℕ} (halive : s.isAlive number = true)
    {s' : Detector} (hpoint : s'.point = s.point) : s'.AtPoint := by
  obtain ⟨hthread, hbpf⟩ := h.owned number halive
  have hnot : ¬ s.Quiet := fun hquiet => by cases (hquiet number).symm.trans halive
  have hsome : s.thread ≠ none := by simp [hthread]
  have hatPoint := h.point
  unfold AtPoint at hatPoint ⊢
  rw [hpoint]
  cases hcase : s.point with
  | clearing => rw [hcase] at hatPoint; exact absurd hatPoint hsome
  | forgetting => rw [hcase] at hatPoint; exact absurd hatPoint hsome
  | preparing => rw [hcase] at hatPoint; exact absurd hatPoint hsome
  | compiling => rw [hcase] at hatPoint; exact absurd hatPoint hsome
  | opening => rw [hcase] at hatPoint; exact absurd hatPoint.1 hsome
  | releasing => rw [hcase] at hatPoint; exact absurd hatPoint.1 hsome
  | creating => rw [hcase] at hatPoint; exact absurd hatPoint.1 hsome
  | launching =>
      rw [hcase] at hatPoint
      obtain ⟨-, other, hother, hcreated⟩ := hatPoint
      obtain rfl := Option.some.inj (hthread.symm.trans hother)
      rw [isAlive, hcreated] at halive
      cases halive
  | dropping error => rw [hcase] at hatPoint; exact absurd hatPoint hnot
  | unlinking error => rw [hcase] at hatPoint; exact absurd hatPoint hnot
  | unthreading inside => rw [hcase] at hatPoint; exact absurd hatPoint hnot
  | unloading inside => rw [hcase] at hatPoint; exact absurd hatPoint hsome
  | _ => trivial

/-- A move of a thread that is alive. -/
theorem Alone.of_update (h : s.Alone) {number : ℕ} (halive : s.isAlive number = true)
    {s' : Detector} {point : PollerPoint}
    (hpollers : s'.pollers = Function.update s.pollers number point)
    (hthread : s'.thread = s.thread) (hbpf : s'.bpf = s.bpf) (hnext : s'.next = s.next)
    (hpoint : s'.point = s.point) : s'.Alone where
  owned other hother := by
    rw [hthread, hbpf]
    by_cases heq : other = number
    · rw [heq]
      exact h.owned number halive
    · refine h.owned other ?_
      rwa [isAlive, hpollers, Function.update_of_ne heq] at hother
  fresh other hother := by
    obtain ⟨hsome, -⟩ := h.owned number halive
    have hlatest := h.latest number hsome
    rw [hnext] at hother
    rw [hpollers, Function.update_of_ne (by omega)]
    exact h.fresh other hother
  latest other hother := by
    rw [hnext]
    exact h.latest other (hthread ▸ hother)
  point := h.atPoint halive hpoint

/-- A thread that is not alive does not move. -/
theorem pollerMoves_of_dead {number : ℕ} (h : s.isAlive number = false) (move : PollerMove) :
    s.pollerMoves number move = s := by
  unfold isAlive at h
  unfold pollerMoves
  cases hpoint : s.pollers number with
  | created => rfl
  | ended => rfl
  | _ =>
      rw [hpoint] at h
      cases h

theorem Alone.pollerMoves (h : s.Alone) (number : ℕ) (move : PollerMove) :
    (s.pollerMoves number move).Alone := by
  cases halive : s.isAlive number with
  | false =>
      rw [pollerMoves_of_dead halive]
      exact h
  | true =>
      have hsame := (Function.update_eq_self number s.pollers).symm
      fun_cases Detector.pollerMoves s number move with
      | case4 => exact h.of_update halive hsame rfl rfl rfl rfl
      | case5 =>
          unfold handleLost
          split
          · exact h.of_update halive hsame rfl rfl rfl rfl
          · exact h.of_update halive hsame rfl rfl rfl rfl
      | case10 => exact h
      | _ => exact h.of_update halive rfl rfl rfl rfl rfl

/-- The main thread goes on, and what the threads rely on stays. -/
theorem Alone.goto (h : s.Alone) {s' : Detector} (hpollers : s'.pollers = s.pollers)
    (hthread : s'.thread = s.thread) (hbpf : s.bpf = true → s'.bpf = true)
    (hnext : s'.next = s.next) (hpoint : s'.AtPoint) : s'.Alone where
  owned number halive := by
    obtain ⟨hsome, hloaded⟩ := h.owned number (by rwa [isAlive, ← hpollers])
    exact ⟨hthread.trans hsome, hbpf hloaded⟩
  fresh number hnumber := by
    rw [hpollers]
    exact h.fresh number (hnext ▸ hnumber)
  latest number hnumber := by
    rw [hnext]
    exact h.latest number (hthread ▸ hnumber)
  point := hpoint

/-- The main thread goes on while no thread is alive. -/
theorem Alone.of_quiet (h : s.Alone) (hquiet : s.Quiet) {s' : Detector}
    (hpollers : s'.pollers = s.pollers) (hthread : s'.thread = s.thread ∨ s'.thread = none)
    (hnext : s'.next = s.next) (hpoint : s'.AtPoint) : s'.Alone where
  owned number halive := by
    rw [isAlive, hpollers] at halive
    cases (hquiet number).symm.trans halive
  fresh number hnumber := by
    rw [hpollers]
    exact h.fresh number (hnext ▸ hnumber)
  latest number hnumber := by
    rcases hthread with hsame | hnone
    · rw [hnext]
      exact h.latest number (hsame ▸ hnumber)
    · cases hnone.symm.trans hnumber
  point := hpoint

theorem Alone.finish (h : s.Alone) (outcome : Outcome) : (s.finish outcome).Alone :=
  h.goto rfl rfl id rfl trivial

theorem Alone.attempt (h : s.Alone) (hquiet : s.Quiet) (failure : Option String)
    {next : Detector} (hnext : next.Alone) : (s.attempt failure next).Alone := by
  cases failure with
  | none => exact hnext
  | some error => exact h.of_quiet hquiet rfl (.inl rfl) rfl hquiet

theorem Alone.join (h : s.Alone) (inside : Bool) {number : ℕ} (hthread : s.thread = some number) :
    (s.join inside number).Alone := by
  fun_cases Detector.join s inside number with
  | case1 hcreated =>
      have hquiet : s.Quiet := Quiet.of_thread h hthread (by rw [isAlive, hcreated]; rfl)
      exact h.of_quiet hquiet rfl (.inl rfl) rfl hquiet
  | case2 => exact h.finish _
  | case3 hended =>
      have hquiet : s.Quiet := Quiet.of_thread h hthread (by rw [isAlive, hended]; rfl)
      exact h.of_quiet hquiet rfl (.inl rfl) rfl hquiet
  | case4 => exact h

theorem Alone.mainRuns (h : s.Alone) (failure : Option String) : (s.mainRuns failure).Alone := by
  have hatPoint := h.point
  unfold AtPoint at hatPoint
  fun_cases Detector.mainRuns s failure with
  | case1 => exact h
  | case2 => exact h.finish _
  | case3 hpoint hnone => exact h.goto rfl rfl id rfl (Option.not_isSome_iff_eq_none.mp hnone)
  | case4 hpoint =>
      rw [hpoint] at hatPoint
      exact h.goto rfl rfl id rfl hatPoint
  | case5 hpoint =>
      rw [hpoint] at hatPoint
      exact h.goto rfl rfl id rfl hatPoint
  | case6 hpoint =>
      rw [hpoint] at hatPoint
      exact h.attempt (h.quiet hatPoint) failure (h.goto rfl rfl id rfl hatPoint)
  | case7 hpoint =>
      rw [hpoint] at hatPoint
      exact h.attempt (h.quiet hatPoint) failure (h.goto rfl rfl (fun _ => rfl) rfl ⟨hatPoint, rfl⟩)
  | case8 hpoint =>
      rw [hpoint] at hatPoint
      exact h.attempt (h.quiet hatPoint.1) failure (h.goto rfl rfl id rfl hatPoint)
  | case9 hpoint =>
      rw [hpoint] at hatPoint
      exact h.goto rfl rfl id rfl hatPoint
  | case10 hpoint =>
      rw [hpoint] at hatPoint
      obtain ⟨hnone, hbpf⟩ := hatPoint
      refine ⟨fun number halive => ?_, fun number hnumber => ?_, fun number hnumber => ?_,
        hbpf, s.next, rfl, h.fresh s.next le_rfl⟩
      · cases (h.quiet hnone number).symm.trans halive
      · exact h.fresh number (Nat.le_of_succ_le hnumber)
      · exact congrArg (· + 1) (Option.some.inj hnumber).symm
  | case11 hpoint hnone =>
      exact h.of_quiet (h.quiet hnone) rfl (.inl rfl) rfl (h.quiet hnone)
  | case12 hpoint number hthread =>
      rw [hpoint] at hatPoint
      obtain ⟨hbpf, other, hother, hcreated⟩ := hatPoint
      obtain rfl := Option.some.inj (hthread.symm.trans hother)
      have hquiet : s.Quiet := Quiet.of_thread h hthread (by rw [isAlive, hcreated]; rfl)
      refine h.attempt hquiet failure ⟨fun other hother => ?_, fun other hother => ?_,
        h.latest, trivial⟩
      · by_cases heq : other = number
        · rw [heq]
          exact ⟨hthread, hbpf⟩
        · have halive : s.isAlive other = true := by
            have hupdate : (Function.update s.pollers number .asserting other).isAlive = true :=
              hother
            rwa [Function.update_of_ne heq] at hupdate
          cases (hquiet other).symm.trans halive
      · have hlatest := h.latest number hthread
        have hle : s.next ≤ other := hother
        change Function.update s.pollers number .asserting other = .created
        rw [Function.update_of_ne (by omega)]
        exact h.fresh other hle
  | case13 error hpoint =>
      rw [hpoint] at hatPoint
      exact h.of_quiet hatPoint rfl (.inl rfl) rfl hatPoint
  | case14 error hpoint =>
      rw [hpoint] at hatPoint
      exact h.of_quiet hatPoint rfl (.inr rfl) rfl trivial
  | case15 => exact h.goto rfl rfl id rfl trivial
  | case16 inside hpoint =>
      by_cases hsome : s.thread.isSome = true
      · rw [if_pos hsome]
        exact h.goto rfl rfl id rfl trivial
      · rw [if_neg hsome]
        exact h.goto rfl rfl id rfl (Option.not_isSome_iff_eq_none.mp hsome)
  | case17 => exact h.finish _
  | case18 inside hpoint number hthread => exact h.join inside hthread
  | case19 inside hpoint =>
      rw [hpoint] at hatPoint
      exact h.of_quiet hatPoint rfl (.inr rfl) rfl rfl
  | case20 inside hpoint =>
      rw [hpoint] at hatPoint
      exact h.of_quiet (h.quiet hatPoint) rfl (.inl rfl) rfl trivial
  | case21 => exact h.finish _
  | case22 => exact h.goto rfl rfl id rfl trivial
  | case23 => exact h.finish _
  | case24 => exact h.goto rfl rfl id rfl trivial
  | case25 => exact h.finish _
  | case26 => exact h.finish _
  | case27 => exact h.finish _

theorem Alone.step (h : s.Alone) (turn : Turn) : (s.step turn).Alone := by
  fun_cases Detector.step s turn with
  | case1 call =>
      cases call with
      | _ => exact h.goto rfl rfl id rfl trivial
  | case2 => exact h
  | case3 failure => exact h.mainRuns failure
  | case4 => exact h.goto rfl rfl id rfl trivial
  | case5 =>
      refine h.goto rfl rfl id rfl ?_
      unfold AtPoint
      dsimp only
      split_ifs
      · trivial
      · trivial
  | case6 number move => exact h.pollerMoves number move

theorem alone_new : Alone {} where
  owned number halive := by cases halive
  fresh _ _ := rfl
  latest number hnumber := by cases hnumber
  point := trivial

theorem Alone.run (h : s.Alone) (turns : List Turn) : (s.run turns).Alone := by
  induction turns generalizing s with
  | nil => exact h
  | cons turn turns ih => exact ih (h.step turn)

/-- One thread polls at a time: it is the one that `stop` joins, it is the last that `start` has
created, and `_bpf` is the program that it polls. -/
theorem polls_alone (turns : List Turn) {number : ℕ}
    (halive : (run {} turns).isAlive number = true) :
    (run {} turns).thread = some number ∧ (run {} turns).bpf = true ∧
      number + 1 = (run {} turns).next ∧
      ∀ other, (run {} turns).isAlive other = true → other = number := by
  have halone := alone_new.run turns
  obtain ⟨hthread, hbpf⟩ := halone.owned number halive
  refine ⟨hthread, hbpf, halone.latest number hthread, fun other hother => ?_⟩
  exact Option.some.inj ((halone.owned other hother).1.symm.trans hthread)

/-- A `start`, up to the poll of its thread. -/
def startedTurns : List Turn :=
  .call .start :: List.replicate 9 (.main none) ++ List.replicate 3 (.poller 0 .runs)

theorem polls_alone_started :
    (run {} startedTurns).thread = some 0 ∧ (run {} startedTurns).bpf = true ∧
      0 + 1 = (run {} startedTurns).next ∧
      ∀ other, (run {} startedTurns).isAlive other = true → other = 0 :=
  polls_alone startedTurns (by decide)

/-! ## Behind a `stop` -/

/-- The last `stop` is over, and no `start` has begun since. -/
structure Stopped (s : Detector) : Prop where
  thread : s.thread = none
  point : s.point.isStart = false

/-- What the callbacks and the readers of the detector see. -/
structure SameRecords (s s' : Detector) : Prop where
  delivered : s'.delivered = s.delivered
  losses : s'.losses = s.losses
  lossCounts : s'.lossCounts = s.lossCounts
  pollError : s'.pollError = s.pollError

theorem SameRecords.trans {s' s'' : Detector} (h : SameRecords s s') (h' : SameRecords s' s'') :
    SameRecords s s'' where
  delivered := h'.delivered.trans h.delivered
  losses := h'.losses.trans h.losses
  lossCounts := h'.lossCounts.trans h.lossCounts
  pollError := h'.pollError.trans h.pollError

theorem Stopped.mainRuns (h : s.Stopped) (failure : Option String) :
    (s.mainRuns failure).Stopped ∧ SameRecords s (s.mainRuns failure) := by
  obtain ⟨hthread, hstart⟩ := h
  have hnone : ∀ number, s.thread ≠ some number := by simp [hthread]
  fun_cases Detector.mainRuns s failure with
  | case1 => exact ⟨⟨hthread, hstart⟩, ⟨rfl, rfl, rfl, rfl⟩⟩
  | case12 _ number hsome => exact absurd hsome (hnone number)
  | case15 => exact ⟨⟨hthread, rfl⟩, ⟨rfl, rfl, rfl, rfl⟩⟩
  | case16 =>
      refine ⟨⟨hthread, ?_⟩, ⟨rfl, rfl, rfl, rfl⟩⟩
      rw [hthread]
      rfl
  | case17 => exact ⟨⟨hthread, rfl⟩, ⟨rfl, rfl, rfl, rfl⟩⟩
  | case18 _ _ number hsome => exact absurd hsome (hnone number)
  | case19 => exact ⟨⟨rfl, rfl⟩, ⟨rfl, rfl, rfl, rfl⟩⟩
  | case20 => exact ⟨⟨hthread, rfl⟩, ⟨rfl, rfl, rfl, rfl⟩⟩
  | case21 => exact ⟨⟨hthread, rfl⟩, ⟨rfl, rfl, rfl, rfl⟩⟩
  | case22 => exact ⟨⟨hthread, rfl⟩, ⟨rfl, rfl, rfl, rfl⟩⟩
  | case23 => exact ⟨⟨hthread, rfl⟩, ⟨rfl, rfl, rfl, rfl⟩⟩
  | case24 => exact ⟨⟨hthread, rfl⟩, ⟨rfl, rfl, rfl, rfl⟩⟩
  | case25 => exact ⟨⟨hthread, rfl⟩, ⟨rfl, rfl, rfl, rfl⟩⟩
  | case26 _ _ number hsome => exact absurd hsome (hnone number)
  | case27 _ _ number hsome => exact absurd hsome (hnone number)
  | case13 _ hpoint =>
      rw [hpoint] at hstart
      cases hstart
  | case14 _ hpoint =>
      rw [hpoint] at hstart
      cases hstart
  | _ hpoint =>
      rw [hpoint] at hstart
      cases hstart

theorem Stopped.step (halone : s.Alone) (h : s.Stopped) {turn : Turn}
    (hturn : turn ≠ .call .start) : (s.step turn).Stopped ∧ SameRecords s (s.step turn) := by
  fun_cases Detector.step s turn with
  | case1 call =>
      cases call with
      | start => exact absurd rfl hturn
      | _ => exact ⟨⟨h.thread, rfl⟩, ⟨rfl, rfl, rfl, rfl⟩⟩
  | case2 => exact ⟨h, ⟨rfl, rfl, rfl, rfl⟩⟩
  | case3 failure => exact h.mainRuns failure
  | case4 => exact ⟨⟨h.thread, rfl⟩, ⟨rfl, rfl, rfl, rfl⟩⟩
  | case5 =>
      refine ⟨⟨h.thread, ?_⟩, ⟨rfl, rfl, rfl, rfl⟩⟩
      dsimp only
      split
      · rfl
      · rfl
  | case6 number move =>
      rw [pollerMoves_of_dead (halone.quiet h.thread number)]
      exact ⟨h, ⟨rfl, rfl, rfl, rfl⟩⟩

theorem Stopped.run (halone : s.Alone) (h : s.Stopped) {turns : List Turn}
    (hturns : .call .start ∉ turns) : SameRecords s (s.run turns) := by
  induction turns generalizing s with
  | nil => exact ⟨rfl, rfl, rfl, rfl⟩
  | cons turn turns ih =>
      obtain ⟨hturn, hturns⟩ := not_or.mp (mt List.mem_cons.mpr hturns)
      obtain ⟨hstopped, hsame⟩ := h.step halone (Ne.symm hturn)
      exact hsame.trans (ih (halone.step turn) hstopped hturns)

/-- When `stop` returns, the callbacks are over, until the next `start`. -/
theorem sameRecords_of_stop (turns later : List Turn) {inside : Bool}
    (hpoint : (run {} turns).point = .unloading inside) (failure : Option String)
    (hlater : .call .start ∉ later) :
    SameRecords (run {} turns) (run {} (turns ++ .main failure :: later)) := by
  have halone := alone_new.run turns
  have hatPoint := halone.point
  unfold AtPoint at hatPoint
  rw [hpoint] at hatPoint
  have hstopped : (run {} turns).Stopped := ⟨hatPoint, by rw [hpoint]; rfl⟩
  have hrun : run {} (turns ++ .main failure :: later) =
      (run {} turns).run (.main failure :: later) := List.foldl_append
  rw [hrun]
  refine hstopped.run halone fun hmem => ?_
  rcases List.mem_cons.mp hmem with hmain | hmem
  · cases hmain
  · exact hlater hmem

/-- A `stop` that has joined its thread. -/
def stoppedTurns : List Turn :=
  startedTurns ++
    [.poller 0 (.passesEvent ⟨1, 2, 3, 4, []⟩), .call .stop, .main none, .main none,
      .poller 0 .returns, .poller 0 .runs, .main none, .main none]

theorem sameRecords_of_stop_stopped :
    SameRecords (run {} stoppedTurns)
      (run {} (stoppedTurns ++
        .main none :: [.poller 0 (.passesEvent ⟨2, 3, 3, 4, []⟩), .call .checkHealth])) := by
  have hpoint : (run {} stoppedTurns).point = .unloading false := by decide
  exact sameRecords_of_stop stoppedTurns _ hpoint none (by decide)

/-! ## The thread ends -/

/-- Where a thread is behind a move, with the attributes it looks at. -/
def behind (bpf stopEvent : Bool) : PollerPoint → PollerMove → PollerPoint
  | .asserting, .runs => if bpf then .checking else .ended
  | .checking, .runs => if stopEvent then .ended else .looking
  | .looking, .runs => if bpf then .polling else .caught "AttributeError"
  | .polling, .returns => .checking
  | .polling, .fails error => .caught error
  | .caught error, .runs => if stopEvent then .ended else .recording error
  | .recording _, .runs => .ended
  | point, _ => point

theorem pollers_pollerMoves (s : Detector) (number : ℕ) (move : PollerMove) :
    (s.pollerMoves number move).pollers =
      Function.update s.pollers number (behind s.bpf s.stopEvent (s.pollers number) move) := by
  fun_cases Detector.pollerMoves s number move with
  | case4 event hpoint =>
      rw [hpoint]
      exact (Function.update_eq_self_iff.mpr hpoint.symm).symm
  | case5 count hpoint =>
      rw [hpoint]
      have hsame : Function.update s.pollers number .polling = s.pollers :=
        Function.update_eq_self_iff.mpr hpoint.symm
      unfold handleLost
      split
      · exact hsame.symm
      · exact hsame.symm
  | case7 error hpoint =>
      rw [hpoint]
      rfl
  | case8 error hpoint =>
      rw [hpoint]
      rfl
  | case9 error hpoint =>
      rw [hpoint]
      rfl
  | case10 _ hasserting hchecking hlooking _ _ hreturns hfails hcaught hrecording =>
      have hstays : behind s.bpf s.stopEvent (s.pollers number) move = s.pollers number := by
        generalize hpoint : s.pollers number = point
        fun_cases behind s.bpf s.stopEvent point move with
        | case1 => exact (hasserting hpoint rfl).elim
        | case2 => exact (hasserting hpoint rfl).elim
        | case3 => exact (hchecking hpoint rfl).elim
        | case4 => exact (hchecking hpoint rfl).elim
        | case5 => exact (hlooking hpoint rfl).elim
        | case6 => exact (hlooking hpoint rfl).elim
        | case7 => exact (hreturns hpoint rfl).elim
        | case8 error => exact (hfails error hpoint rfl).elim
        | case9 error => exact (hcaught error hpoint rfl).elim
        | case10 error => exact (hcaught error hpoint rfl).elim
        | case11 error => exact (hrecording error hpoint rfl).elim
        | case12 => rfl
      rw [hstays, Function.update_eq_self]
  | _ hpoint =>
      rw [hpoint]
      rfl

theorem frame_pollerMoves (s : Detector) (number : ℕ) (move : PollerMove) :
    (s.pollerMoves number move).thread = s.thread ∧ (s.pollerMoves number move).bpf = s.bpf ∧
      (s.pollerMoves number move).next = s.next ∧ (s.pollerMoves number move).point = s.point ∧
      (s.pollerMoves number move).stopEvent = s.stopEvent ∧
      (s.pollerMoves number move).session = s.session ∧
      (s.pollerMoves number move).outcomes = s.outcomes := by
  fun_cases Detector.pollerMoves s number move with
  | case5 =>
      unfold handleLost
      split
      · exact ⟨rfl, rfl, rfl, rfl, rfl, rfl, rfl⟩
      · exact ⟨rfl, rfl, rfl, rfl, rfl, rfl, rfl⟩
  | _ => exact ⟨rfl, rfl, rfl, rfl, rfl, rfl, rfl⟩

/-- The steps of the main thread start a thread that was created, and touch no other. -/
theorem pollers_mainRuns (h : s.Alone) (failure : Option String) {number : ℕ}
    (hcreated : s.pollers number ≠ .created) :
    (s.mainRuns failure).pollers number = s.pollers number := by
  have hattempt : ∀ next : Detector, next.pollers number = s.pollers number →
      (s.attempt failure next).pollers number = s.pollers number := by
    intro next hnext
    cases failure with
    | none => exact hnext
    | some error => rfl
  have hatPoint := h.point
  unfold AtPoint at hatPoint
  fun_cases Detector.mainRuns s failure with
  | case6 => exact hattempt _ rfl
  | case7 => exact hattempt _ rfl
  | case8 => exact hattempt _ rfl
  | case12 hpoint other hthread =>
      rw [hpoint] at hatPoint
      obtain ⟨-, first, hfirst, hnew⟩ := hatPoint
      obtain rfl := Option.some.inj (hthread.symm.trans hfirst)
      refine hattempt _ ?_
      change Function.update s.pollers other .asserting number = s.pollers number
      rw [Function.update_of_ne]
      rintro rfl
      exact hcreated hnew
  | case18 inside hpoint other hthread =>
      fun_cases Detector.join s inside other with
      | _ => rfl
  | _ => rfl

theorem pollers_step (h : s.Alone) {number : ℕ} (hcreated : s.pollers number ≠ .created)
    {turn : Turn} (hturn : ∀ move, turn ≠ .poller number move) :
    (s.step turn).pollers number = s.pollers number := by
  fun_cases Detector.step s turn with
  | case1 call =>
      cases call with
      | _ => rfl
  | case3 failure => exact pollers_mainRuns h failure hcreated
  | case6 other move =>
      have hne : number ≠ other := by
        rintro rfl
        exact hturn move rfl
      rw [pollers_pollerMoves, Function.update_of_ne hne]
  | _ => rfl

/-- While a thread is alive, nothing clears the event. -/
theorem stopEvent_step (h : s.Alone) {number : ℕ} (halive : s.isAlive number = true)
    (hstop : s.stopEvent = true) (turn : Turn) : (s.step turn).stopEvent = true := by
  have hattempt : ∀ (failure : Option String) (next : Detector), next.stopEvent = true →
      (s.attempt failure next).stopEvent = true := by
    intro failure next hnext
    cases failure with
    | none => exact hnext
    | some error => exact hstop
  have hsome := (h.owned number halive).1
  have hatPoint := h.point
  unfold AtPoint at hatPoint
  fun_cases Detector.step s turn with
  | case1 call =>
      cases call with
      | _ => exact hstop
  | case3 failure =>
      fun_cases Detector.mainRuns s failure with
      | case6 => exact hattempt failure _ hstop
      | case7 => exact hattempt failure _ hstop
      | case8 => exact hattempt failure _ hstop
      | case9 hpoint =>
          rw [hpoint] at hatPoint
          cases hatPoint.1.symm.trans hsome
      | case12 => exact hattempt failure _ hstop
      | case15 => rfl
      | case18 inside hpoint other hthread =>
          fun_cases Detector.join s inside other with
          | _ => exact hstop
      | _ => exact hstop
  | case6 other move =>
      obtain ⟨-, -, -, -, hsame, -⟩ := s.frame_pollerMoves other move
      exact hsame.trans hstop
  | _ => exact hstop

/-- The points that a thread can be at, when it has so many moves left. -/
def Within : ℕ → PollerPoint → Prop
  | 0, point => point = .ended
  | 1, point => point = .ended ∨ point = .checking ∨ ∃ error, point = .caught error
  | 2, point =>
      point = .polling ∨ point = .ended ∨ point = .checking ∨ ∃ error, point = .caught error
  | _, point => point ≠ .created

/-- The move that it has to make. -/
def due : ℕ → PollerMove
  | 2 => .returns
  | _ => .runs

theorem within_behind {left : ℕ} {point : PollerPoint} (h : Within left point)
    (move : PollerMove) : Within left (behind true true point move) := by
  unfold Within at h ⊢
  split at h
  · rw [h]
    rfl
  · rcases h with rfl | rfl | ⟨error, rfl⟩
    all_goals cases move
    all_goals simp [behind]
  · rcases h with rfl | rfl | rfl | ⟨error, rfl⟩
    all_goals cases move
    all_goals simp [behind]
  · cases point
    all_goals cases move
    all_goals simp_all [behind]

theorem within_due {left : ℕ} {point : PollerPoint} (h : Within (left + 1) point)
    (hleft : left < 3) : Within left (behind true true point (due (left + 1))) := by
  interval_cases left
  · rcases h with rfl | rfl | ⟨error, rfl⟩
    · rfl
    · rfl
    · rfl
  · rcases h with rfl | rfl | rfl | ⟨error, rfl⟩
    all_goals simp [Within, behind, due]
  · cases point with
    | created => exact absurd rfl h
    | _ => simp [Within, behind, due]

/-- The moves that are left, in their order. -/
def dues : ℕ → List PollerMove
  | 0 => []
  | left + 1 => due (left + 1) :: dues left

/-- A thread that has been started and the attributes it looks at, once a stop is requested. -/
structure Ending (number left : ℕ) (s : Detector) : Prop where
  alone : s.Alone
  within : Within left (s.pollers number)
  stopEvent : s.isAlive number = true → s.stopEvent = true

theorem Within.ne_created {left : ℕ} {point : PollerPoint} (h : Within left point) :
    point ≠ .created := by
  unfold Within at h
  split at h
  · rw [h]
    exact PollerPoint.noConfusion
  · rcases h with rfl | rfl | ⟨error, rfl⟩
    all_goals exact PollerPoint.noConfusion
  · rcases h with rfl | rfl | rfl | ⟨error, rfl⟩
    all_goals exact PollerPoint.noConfusion
  · exact h

theorem Ending.of_within {number left left' : ℕ} (h : Ending number left s) {turn : Turn}
    (hwithin : Within left' ((s.step turn).pollers number))
    (hdead : s.isAlive number = false → (s.step turn).pollers number = s.pollers number) :
    Ending number left' (s.step turn) where
  alone := h.alone.step turn
  within := hwithin
  stopEvent halive := by
    cases hbefore : s.isAlive number with
    | true => exact stopEvent_step h.alone hbefore (h.stopEvent hbefore) turn
    | false =>
        rw [isAlive, hdead hbefore] at halive
        cases hbefore.symm.trans halive

theorem Ending.poller {number left left' : ℕ} (h : Ending number left s) (move : PollerMove)
    (hwithin : Within left' (behind true true (s.pollers number) move))
    (hended : Within left' .ended) : Ending number left' (s.step (.poller number move)) := by
  have hdead : s.isAlive number = false →
      (s.step (.poller number move)).pollers number = s.pollers number := by
    intro hdead
    change (s.pollerMoves number move).pollers number = s.pollers number
    rw [pollerMoves_of_dead hdead]
  refine h.of_within ?_ hdead
  cases halive : s.isAlive number with
  | true =>
      change Within left' ((s.pollerMoves number move).pollers number)
      rw [pollers_pollerMoves, Function.update_self, (h.alone.owned number halive).2,
        h.stopEvent halive]
      exact hwithin
  | false =>
      rw [hdead halive]
      have hpoint : s.pollers number = .ended := by
        unfold isAlive at halive
        cases hpoint : s.pollers number with
        | ended => rfl
        | created => exact absurd hpoint h.within.ne_created
        | _ =>
            rw [hpoint] at halive
            cases halive
      rw [hpoint]
      exact hended

theorem Ending.step {number left : ℕ} (h : Ending number left s) (turn : Turn) :
    Ending number left (s.step turn) := by
  by_cases hturn : ∃ move, turn = .poller number move
  · obtain ⟨move, rfl⟩ := hturn
    refine h.poller move (within_behind h.within move) ?_
    unfold Within
    split
    all_goals simp
  · have hsame := pollers_step h.alone h.within.ne_created
      fun move hmove => hturn ⟨move, hmove⟩
    exact h.of_within (hsame.symm ▸ h.within) fun _ => hsame

/-- Once a stop is requested, a thread that gets its turns ends, whatever happens between
them: it looks at the event, and a poll that has begun returns. -/
theorem Ending.run {number left : ℕ} (h : Ending number left s) (hleft : left ≤ 3)
    {turns : List Turn} (hturns : ((dues left).map (Turn.poller number)).Sublist turns) :
    (s.run turns).pollers number = .ended := by
  induction turns generalizing s left with
  | nil =>
      cases left with
      | zero => exact h.within
      | succ left => cases hturns
  | cons turn turns ih =>
      cases left with
      | zero => exact ih (h.step turn) hleft (List.nil_sublist _)
      | succ left =>
          rcases List.cons_sublist_cons'.mp hturns with hrest | ⟨rfl, hrest⟩
          · exact ih (h.step turn) hleft hrest
          · refine ih (h.poller _ (within_due h.within hleft) ?_) (Nat.le_of_succ_le hleft) hrest
            unfold Within
            split
            all_goals simp

/-- `stop` does not wait for ever: behind its request, three turns of the thread end it. -/
theorem ended_of_stop (turns later : List Turn) {number : ℕ}
    (halive : (run {} turns).isAlive number = true) (hstop : (run {} turns).stopEvent = true)
    (hlater : [.poller number .runs, .poller number .returns, .poller number .runs].Sublist later) :
    (run {} (turns ++ later)).pollers number = .ended := by
  have hcreated : (run {} turns).pollers number ≠ .created := by
    intro hcreated
    rw [isAlive, hcreated] at halive
    cases halive
  have hending : Ending number 3 (run {} turns) := ⟨alone_new.run turns, hcreated, fun _ => hstop⟩
  have hrun : run {} (turns ++ later) = (run {} turns).run later := List.foldl_append
  rw [hrun]
  exact hending.run le_rfl hlater

/-- The poll raises when the event has been set. -/
theorem ended_of_stop_failing :
    (run {} ((startedTurns ++ [.call .stop, .main none]) ++
      [.poller 0 .runs, .poller 0 (.fails "EBADF"), .main none, .poller 0 .returns,
        .poller 0 .runs])).pollers 0 = .ended :=
  ended_of_stop _ _ (by decide) (by decide) (by decide)

end Detector

end Blocksnoop.Bcc
