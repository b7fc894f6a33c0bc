import Blocksnoop.Bcc.Detector
import Blocksnoop.Support.FirstOccurrence

/-!
# What the BCC detector reports

The error of a poll is written by the polling thread and read by `check_health`, and the lost
records are counted by the polling thread and read by `loss_counts`.  Both are about the last
`start`, and both are true whatever the threads and the signal handlers do.
-/

namespace Blocksnoop.Bcc

open Blocksnoop.Support

namespace Detector

variable {s : Detector}

/-! ## The error of a poll -/

/-- The steps of `start` behind the one that forgets the error. -/
def isFresh : MainPoint → Bool
  | .preparing => true
  | .compiling => true
  | .opening => true
  | .releasing => true
  | .creating => true
  | .launching => true
  | _ => false

/-- The error is one that a poll of the last thread has raised, and a thread that has ended
has left one, unless it was asked to stop. -/
structure Recorded (s : Detector) : Prop where
  error : ∀ error, s.pollError = some error →
    ∃ number, number + 1 = s.next ∧ (number, error) ∈ s.raised ∧ s.pollers number = .ended
  caught : ∀ number error, s.pollers number = .caught error ∨ s.pollers number = .recording error →
    (number, error) ∈ s.raised
  finished : ∀ number, s.thread = some number → s.pollers number = .ended →
    s.stopEvent = true ∨ s.pollError ≠ none
  forgotten : isFresh s.point = true → s.pollError = none

/-- The attributes that the polling threads and the error depend on. -/
structure SameThreads (s s' : Detector) : Prop where
  pollers : s'.pollers = s.pollers
  raised : s'.raised = s.raised
  next : s'.next = s.next
  thread : s'.thread = s.thread
  stopEvent : s.stopEvent = true → s'.stopEvent = true
  pollError : s'.pollError = s.pollError

theorem Recorded.goto (h : s.Recorded) {s' : Detector} (hsame : SameThreads s s')
    (hfresh : isFresh s'.point = true → s.pollError = none) : s'.Recorded where
  error error herror := by
    rw [hsame.pollError] at herror
    rw [hsame.next, hsame.raised, hsame.pollers]
    exact h.error error herror
  caught number error hcaught := by
    rw [hsame.pollers] at hcaught
    rw [hsame.raised]
    exact h.caught number error hcaught
  finished number hthread hended := by
    rw [hsame.thread] at hthread
    rw [hsame.pollers] at hended
    rw [hsame.pollError]
    exact (h.finished number hthread hended).imp_left hsame.stopEvent
  forgotten hpoint := hsame.pollError.trans (hfresh hpoint)

theorem Recorded.finish (h : s.Recorded) (outcome : Outcome) : (s.finish outcome).Recorded :=
  h.goto ⟨rfl, rfl, rfl, rfl, id, rfl⟩ (by intros; contradiction)

theorem Recorded.attempt (h : s.Recorded) (failure : Option String) {next : Detector}
    (hnext : next.Recorded) : (s.attempt failure next).Recorded := by
  cases failure with
  | none => exact hnext
  | some error => exact h.goto ⟨rfl, rfl, rfl, rfl, id, rfl⟩ (by intros; contradiction)

/-- The thread is taken away, and no other attribute. -/
theorem Recorded.unlink (h : s.Recorded) {s' : Detector} (hpollers : s'.pollers = s.pollers)
    (hraised : s'.raised = s.raised) (hnext : s'.next = s.next) (hthread : s'.thread = none)
    (herror : s'.pollError = s.pollError) (hfresh : isFresh s'.point = false) : s'.Recorded where
  error error hsome := by
    rw [herror] at hsome
    rw [hnext, hraised, hpollers]
    exact h.error error hsome
  caught number error hcaught := by
    rw [hpollers] at hcaught
    rw [hraised]
    exact h.caught number error hcaught
  finished number hsome := by cases hthread.symm.trans hsome
  forgotten hpoint := by cases hfresh.symm.trans hpoint

theorem Recorded.mainRuns (halone : s.Alone) (h : s.Recorded) (failure : Option String) :
    (s.mainRuns failure).Recorded := by
  have hatPoint := halone.point
  have hforgotten := h.forgotten
  unfold AtPoint at hatPoint
  fun_cases Detector.mainRuns s failure with
  | case1 => exact h
  | case2 => exact h.finish _
  | case3 => exact h.goto ⟨rfl, rfl, rfl, rfl, id, rfl⟩ (by intros; contradiction)
  | case4 => exact h.goto ⟨rfl, rfl, rfl, rfl, id, rfl⟩ (by intros; contradiction)
  | case5 hpoint =>
      rw [hpoint] at hatPoint
      exact ⟨(by intros; contradiction), h.caught, fun number hsome =>
        (by cases hatPoint.symm.trans hsome),
        fun _ => rfl⟩
  | case6 hpoint =>
      rw [hpoint] at hforgotten
      exact h.attempt failure (h.goto ⟨rfl, rfl, rfl, rfl, id, rfl⟩ hforgotten)
  | case7 hpoint =>
      rw [hpoint] at hforgotten
      exact h.attempt failure (h.goto ⟨rfl, rfl, rfl, rfl, id, rfl⟩ hforgotten)
  | case8 hpoint =>
      rw [hpoint] at hforgotten
      exact h.attempt failure (h.goto ⟨rfl, rfl, rfl, rfl, id, rfl⟩ hforgotten)
  | case9 hpoint =>
      rw [hpoint] at hatPoint hforgotten
      exact ⟨h.error, h.caught, fun number hsome => (by cases hatPoint.1.symm.trans hsome),
        hforgotten⟩
  | case10 hpoint =>
      rw [hpoint] at hforgotten
      have hnone := hforgotten rfl
      refine ⟨fun error hsome => ?_, h.caught, fun number hsome hended => ?_, hforgotten⟩
      · cases hnone.symm.trans hsome
      · obtain rfl := Option.some.inj hsome
        cases (halone.fresh s.next le_rfl).symm.trans hended
  | case11 => exact h.goto ⟨rfl, rfl, rfl, rfl, id, rfl⟩ (by intros; contradiction)
  | case12 hpoint number hthread =>
      rw [hpoint] at hforgotten
      have hnone := hforgotten rfl
      refine h.attempt failure ⟨fun error hsome => ?_, fun other error hcaught => ?_,
        fun other hsome hended => ?_, (by intros; contradiction)⟩
      · cases hnone.symm.trans hsome
      · change Function.update s.pollers number .asserting other = _ ∨
          Function.update s.pollers number .asserting other = _ at hcaught
        by_cases heq : other = number
        · rw [heq, Function.update_self] at hcaught
          rcases hcaught with hcase | hcase
          · cases hcase
          · cases hcase
        · rw [Function.update_of_ne heq] at hcaught
          exact h.caught other error hcaught
      · change Function.update s.pollers number .asserting other = _ at hended
        have heq : other = number := Option.some.inj (hsome.symm.trans hthread)
        rw [heq, Function.update_self] at hended
        cases hended
  | case13 => exact h.goto ⟨rfl, rfl, rfl, rfl, id, rfl⟩ (by intros; contradiction)
  | case14 => exact h.unlink rfl rfl rfl rfl rfl rfl
  | case15 => exact h.goto ⟨rfl, rfl, rfl, rfl, fun _ => rfl, rfl⟩ (by intros; contradiction)
  | case16 =>
      refine h.goto ⟨rfl, rfl, rfl, rfl, id, rfl⟩ ?_
      dsimp only
      split
      · intros; contradiction
      · intros; contradiction
  | case17 => exact h.finish _
  | case18 inside hpoint number hthread =>
      fun_cases Detector.join s inside number with
      | case1 => exact h.goto ⟨rfl, rfl, rfl, rfl, id, rfl⟩ (by intros; contradiction)
      | case2 => exact h.finish _
      | case3 => exact h.goto ⟨rfl, rfl, rfl, rfl, id, rfl⟩ (by intros; contradiction)
      | case4 => exact h
  | case19 => exact h.unlink rfl rfl rfl rfl rfl rfl
  | case20 => exact h.goto ⟨rfl, rfl, rfl, rfl, id, rfl⟩ (by intros; contradiction)
  | case21 => exact h.finish _
  | case22 => exact h.goto ⟨rfl, rfl, rfl, rfl, id, rfl⟩ (by intros; contradiction)
  | case23 => exact h.finish _
  | case24 => exact h.goto ⟨rfl, rfl, rfl, rfl, id, rfl⟩ (by intros; contradiction)
  | case25 => exact h.finish _
  | case26 => exact h.finish _
  | case27 => exact h.finish _

theorem not_isFresh_of_alive (halone : s.Alone) {number : ℕ} (halive : s.isAlive number = true) :
    isFresh s.point = false := by
  have hsome := (halone.owned number halive).1
  have hatPoint := halone.point
  unfold AtPoint at hatPoint
  cases hpoint : s.point with
  | preparing => rw [hpoint] at hatPoint; cases hatPoint.symm.trans hsome
  | compiling => rw [hpoint] at hatPoint; cases hatPoint.symm.trans hsome
  | opening => rw [hpoint] at hatPoint; cases hatPoint.1.symm.trans hsome
  | releasing => rw [hpoint] at hatPoint; cases hatPoint.1.symm.trans hsome
  | creating => rw [hpoint] at hatPoint; cases hatPoint.1.symm.trans hsome
  | launching =>
      rw [hpoint] at hatPoint
      obtain ⟨-, other, hother, hcreated⟩ := hatPoint
      obtain rfl := Option.some.inj (hsome.symm.trans hother)
      rw [isAlive, hcreated] at halive
      cases halive
  | _ => rfl

/-- While the thread is alive, no error has been recorded. -/
theorem Recorded.pollError_of_alive (halone : s.Alone) (h : s.Recorded) {number : ℕ}
    (halive : s.isAlive number = true) : s.pollError = none := by
  by_contra hsome
  obtain ⟨error, herror⟩ := Option.ne_none_iff_exists'.mp hsome
  obtain ⟨other, hother, -, hended⟩ := h.error error herror
  have hlatest := halone.latest number (halone.owned number halive).1
  obtain rfl : number = other := by omega
  rw [isAlive, hended] at halive
  cases halive

/-- A move of the thread that is alive: what it raises is written down, and it ends with an
error, or because of the event. -/
theorem Recorded.of_update (halone : s.Alone) (h : s.Recorded) {number : ℕ}
    (halive : s.isAlive number = true) {s' : Detector} {point : PollerPoint}
    (hpollers : s'.pollers = Function.update s.pollers number point)
    (hthread : s'.thread = s.thread) (hnext : s'.next = s.next) (hpoint : s'.point = s.point)
    (hraised : s.raised ⊆ s'.raised)
    (hcaught : ∀ error, point = .caught error ∨ point = .recording error →
      (number, error) ∈ s'.raised)
    (herror : ∀ error, s'.pollError = some error → (number, error) ∈ s'.raised ∧ point = .ended)
    (hended : point = .ended → s'.stopEvent = true ∨ s'.pollError ≠ none) : s'.Recorded where
  error error hsome := by
    obtain ⟨hmem, hpoint⟩ := herror error hsome
    refine ⟨number, ?_, hmem, ?_⟩
    · rw [hnext]
      exact halone.latest number (halone.owned number halive).1
    · rw [hpollers, Function.update_self, hpoint]
  caught other error hother := by
    rw [hpollers] at hother
    by_cases heq : other = number
    · rw [heq, Function.update_self] at hother
      exact heq ▸ hcaught error hother
    · rw [Function.update_of_ne heq] at hother
      exact hraised (h.caught other error hother)
  finished other hsome hother := by
    obtain rfl : number = other :=
      Option.some.inj ((halone.owned number halive).1.symm.trans (hthread ▸ hsome))
    rw [hpollers, Function.update_self] at hother
    exact hended hother
  forgotten hfresh := by
    rw [hpoint, not_isFresh_of_alive halone halive] at hfresh
    cases hfresh

/-- A thread moves. -/
theorem Recorded.pollerMoves (halone : s.Alone) (h : s.Recorded) (number : ℕ)
    (move : PollerMove) : (s.pollerMoves number move).Recorded := by
  cases halive : s.isAlive number with
  | false =>
      rw [pollerMoves_of_dead halive]
      exact h
  | true =>
      have hbpf := (halone.owned number halive).2
      have hnone := h.pollError_of_alive halone halive
      have hquiet : ∀ {error : String} {p : Prop}, s.pollError = some error → p := by
        intro error p hsome
        cases hnone.symm.trans hsome
      fun_cases Detector.pollerMoves s number move with
      | case1 =>
          rw [hbpf]
          exact h.of_update halone halive rfl rfl rfl rfl (List.Subset.refl _) (by simp)
            (fun _ => hquiet) (by simp)
      | case2 =>
          cases hstop : s.stopEvent with
          | true =>
              exact h.of_update halone halive rfl rfl rfl rfl (List.Subset.refl _) (by simp)
                (fun _ => hquiet) fun _ => .inl hstop
          | false =>
              exact h.of_update halone halive rfl rfl rfl rfl (List.Subset.refl _) (by simp)
                (fun _ => hquiet) (by simp)
      | case3 =>
          rw [hbpf]
          exact h.of_update halone halive rfl rfl rfl rfl (List.Subset.refl _) (by simp)
            (fun _ => hquiet) (by simp)
      | case4 event hpoint =>
          exact h.goto ⟨rfl, rfl, rfl, rfl, id, rfl⟩ fun _ => hnone
      | case5 count hpoint =>
          unfold handleLost
          split
          · exact h.goto ⟨rfl, rfl, rfl, rfl, id, rfl⟩ fun _ => hnone
          · exact h.goto ⟨rfl, rfl, rfl, rfl, id, rfl⟩ fun _ => hnone
      | case6 =>
          exact h.of_update halone halive rfl rfl rfl rfl (List.Subset.refl _) (by simp)
            (fun _ => hquiet) (by simp)
      | case7 error hpoint =>
          refine h.of_update halone halive rfl rfl rfl rfl (List.subset_append_left _ _)
            (fun other hother => ?_) (fun _ => hquiet) (by simp)
          rcases hother with hother | hother
          · obtain rfl := PollerPoint.caught.inj hother
            exact List.mem_append_right _ List.mem_cons_self
          · cases hother
      | case8 error hpoint =>
          have hmem := h.caught number error (.inl hpoint)
          cases hstop : s.stopEvent with
          | true =>
              exact h.of_update halone halive rfl rfl rfl rfl (List.Subset.refl _) (by simp)
                (fun _ => hquiet) fun _ => .inl hstop
          | false =>
              refine h.of_update halone halive rfl rfl rfl rfl (List.Subset.refl _)
                (fun other hother => ?_) (fun _ => hquiet) (by simp)
              rcases hother with hother | hother
              · cases hother
              · obtain rfl := PollerPoint.recording.inj hother
                exact hmem
      | case9 error hpoint =>
          have hmem := h.caught number error (.inr hpoint)
          refine h.of_update halone halive rfl rfl rfl rfl (List.Subset.refl _) (by simp)
            (fun other hother => ?_) fun _ => .inr (by intro hne; cases hne)
          obtain rfl := Option.some.inj hother
          exact ⟨hmem, rfl⟩
      | case10 => exact h

theorem Recorded.step (halone : s.Alone) (h : s.Recorded) (turn : Turn) :
    (s.step turn).Recorded := by
  fun_cases Detector.step s turn with
  | case1 call =>
      cases call with
      | _ => exact h.goto ⟨rfl, rfl, rfl, rfl, id, rfl⟩ (by intros; contradiction)
  | case2 => exact h
  | case3 failure => exact h.mainRuns halone failure
  | case4 => exact h.goto ⟨rfl, rfl, rfl, rfl, id, rfl⟩ (by intros; contradiction)
  | case5 =>
      refine h.goto ⟨rfl, rfl, rfl, rfl, id, rfl⟩ ?_
      dsimp only
      split
      · intros; contradiction
      · intros; contradiction
  | case6 number move => exact h.pollerMoves halone number move

theorem recorded_new : Recorded {} where
  error := (by intros; contradiction)
  caught number error hcaught := by
    rcases hcaught with hcase | hcase
    · cases hcase
    · cases hcase
  finished := (by intros; contradiction)
  forgotten := (by intros; contradiction)

/-! ## The checks -/

/-- A check that began with a recorded error raises it, unless it found a stop request, and
the error it raises is one that a poll has raised. -/
def Honest (raised : List (ℕ × String)) : Outcome → Prop
  | .passed stopping recorded => stopping = false → recorded = none
  | .pollingFailed recorded error =>
      (∃ number, (number, error) ∈ raised) ∧ ∀ first, recorded = some first → error = first
  | .exitedUnexpectedly recorded => recorded = none
  | _ => True

theorem Honest.append {raised : List (ℕ × String)} {outcome : Outcome} (h : Honest raised outcome)
    (more : List (ℕ × String)) : Honest (raised ++ more) outcome := by
  cases outcome with
  | pollingFailed recorded error =>
      obtain ⟨⟨number, hmem⟩, hfirst⟩ := h
      exact ⟨⟨number, List.mem_append_left _ hmem⟩, hfirst⟩
  | passed stopping recorded => exact h
  | exitedUnexpectedly recorded => exact h
  | _ => trivial

/-- What a check has read so far, and how the calls have ended. -/
structure Told (s : Detector) : Prop where
  reading : ∀ recorded, s.point = .reading recorded →
    s.stopEvent = false ∧ ∀ first, recorded = some first → s.pollError = some first
  watching : ∀ recorded, s.point = .watching recorded → s.stopEvent = false ∧ recorded = none
  outcomes : ∀ outcome ∈ s.outcomes, Honest s.raised outcome

def isCheck : MainPoint → Bool
  | .reading _ => true
  | .watching _ => true
  | _ => false

theorem Told.goto (h : s.Told) {s' : Detector} (houtcomes : s'.outcomes = s.outcomes)
    (hraised : s'.raised = s.raised) (hpoint : isCheck s'.point = false) : s'.Told where
  reading recorded hreading := by
    rw [hreading] at hpoint
    cases hpoint
  watching recorded hwatching := by
    rw [hwatching] at hpoint
    cases hpoint
  outcomes outcome houtcome := by
    rw [hraised]
    exact h.outcomes outcome (houtcomes ▸ houtcome)

/-- A call ends. -/
theorem Told.finish (h : s.Told) {s' : Detector} {outcome : Outcome}
    (hpoint : s'.point = .idle) (houtcomes : s'.outcomes = s.outcomes ++ [outcome])
    (hraised : s'.raised = s.raised) (hhonest : Honest s.raised outcome) : s'.Told where
  reading recorded hreading := by cases hpoint.symm.trans hreading
  watching recorded hwatching := by cases hpoint.symm.trans hwatching
  outcomes := by
    rw [hraised, houtcomes]
    exact List.forall_mem_append.mpr ⟨h.outcomes, List.forall_mem_singleton.mpr hhonest⟩

theorem Told.attempt (h : s.Told) (failure : Option String) {next : Detector}
    (hnext : next.Told) : (s.attempt failure next).Told := by
  cases failure with
  | none => exact hnext
  | some error => exact h.goto rfl rfl rfl

theorem Told.mainRuns (hrecorded : s.Recorded) (h : s.Told) (failure : Option String) :
    (s.mainRuns failure).Told := by
  fun_cases Detector.mainRuns s failure with
  | case1 => exact h
  | case2 => exact h.finish rfl rfl rfl trivial
  | case6 => exact h.attempt failure (h.goto rfl rfl rfl)
  | case7 => exact h.attempt failure (h.goto rfl rfl rfl)
  | case8 => exact h.attempt failure (h.goto rfl rfl rfl)
  | case12 hpoint number hthread =>
      exact h.attempt failure (h.finish rfl rfl rfl trivial)
  | case14 => exact h.finish rfl rfl rfl trivial
  | case16 =>
      refine h.goto rfl rfl ?_
      dsimp only
      split
      · rfl
      · rfl
  | case17 => exact h.finish rfl rfl rfl trivial
  | case18 inside hpoint number hthread =>
      fun_cases Detector.join s inside number with
      | case1 => exact h.goto rfl rfl rfl
      | case2 => exact h.finish rfl rfl rfl trivial
      | case3 => exact h.goto rfl rfl rfl
      | case4 => exact h
  | case20 => exact h.finish rfl rfl rfl trivial
  | case21 => exact h.finish rfl rfl rfl (by intro hstopping; cases hstopping)
  | case22 hpoint hstop =>
      refine ⟨fun recorded hreading => ?_, (by intros; contradiction), h.outcomes⟩
      obtain rfl := MainPoint.reading.inj hreading
      exact ⟨by simpa using hstop, fun _ hfirst => hfirst⟩
  | case23 recorded hpoint error herror =>
      obtain ⟨number, -, hmem, -⟩ := hrecorded.error error herror
      refine h.finish rfl rfl rfl ⟨⟨number, hmem⟩, fun first hfirst => ?_⟩
      have hsame := (h.reading recorded hpoint).2 first hfirst
      exact Option.some.inj (herror.symm.trans hsame)
  | case24 recorded hpoint hnone =>
      obtain ⟨hstop, hrecord⟩ := h.reading recorded hpoint
      refine ⟨(by intros; contradiction), fun other hwatching => ?_, h.outcomes⟩
      obtain rfl := MainPoint.watching.inj hwatching
      refine ⟨hstop, ?_⟩
      by_contra hsome
      obtain ⟨first, hfirst⟩ := Option.ne_none_iff_exists'.mp hsome
      cases hnone.symm.trans (hrecord first hfirst)
  | case25 recorded hpoint => exact h.finish rfl rfl rfl fun _ => (h.watching recorded hpoint).2
  | case26 recorded hpoint => exact h.finish rfl rfl rfl fun _ => (h.watching recorded hpoint).2
  | case27 recorded hpoint => exact h.finish rfl rfl rfl (h.watching recorded hpoint).2
  | _ => exact h.goto rfl rfl rfl

/-- What the threads do leaves a check what it has read. -/
theorem Told.pollerMoves (halone : s.Alone) (hrecorded : s.Recorded) (h : s.Told) (number : ℕ)
    (move : PollerMove) : (s.pollerMoves number move).Told := by
  cases halive : s.isAlive number with
  | false =>
      rw [pollerMoves_of_dead halive]
      exact h
  | true =>
      obtain ⟨-, -, -, hpoint, hstop, -, houtcomes⟩ := s.frame_pollerMoves number move
      have hnone := hrecorded.pollError_of_alive halone halive
      refine ⟨fun recorded hreading => ?_, fun recorded hwatching => ?_, fun outcome houtcome => ?_⟩
      · obtain ⟨hevent, hrecord⟩ := h.reading recorded (hpoint ▸ hreading)
        refine ⟨hstop.trans hevent, fun first hfirst => ?_⟩
        cases hnone.symm.trans (hrecord first hfirst)
      · rw [hstop]
        exact h.watching recorded (hpoint ▸ hwatching)
      · have hhonest := h.outcomes outcome (houtcomes ▸ houtcome)
        obtain ⟨more, hmore⟩ : ∃ more, (s.pollerMoves number move).raised = s.raised ++ more := by
          fun_cases Detector.pollerMoves s number move with
          | case5 =>
              unfold handleLost
              split
              · exact ⟨[], (List.append_nil _).symm⟩
              · exact ⟨[], (List.append_nil _).symm⟩
          | case7 error => exact ⟨[(number, error)], rfl⟩
          | _ => exact ⟨[], (List.append_nil _).symm⟩
        rw [hmore]
        exact hhonest.append more

theorem Told.step (halone : s.Alone) (hrecorded : s.Recorded) (h : s.Told) (turn : Turn) :
    (s.step turn).Told := by
  fun_cases Detector.step s turn with
  | case1 call =>
      cases call with
      | _ => exact h.goto rfl rfl rfl
  | case2 => exact h
  | case3 failure => exact h.mainRuns hrecorded failure
  | case4 => exact h.goto rfl rfl rfl
  | case5 =>
      refine h.goto rfl rfl ?_
      dsimp only
      split
      · rfl
      · rfl
  | case6 number move => exact h.pollerMoves halone hrecorded number move

theorem told_new : Told {} :=
  ⟨(by intros; contradiction), (by intros; contradiction), (by intros; contradiction)⟩

/-! ### At most one signal -/

/-- The points where the thread of the detector may not have been started. -/
def mayBeCreated : MainPoint → Bool
  | .launching => true
  | .dropping _ => true
  | .unlinking _ => true
  | .requesting inside => inside
  | .examining inside => inside
  | .joining inside => inside
  | _ => false

/-- The main thread is in a `stop` that a handler called inside `start`. -/
def isInside : MainPoint → Bool
  | .requesting inside => inside
  | .examining inside => inside
  | .joining inside => inside
  | .unthreading inside => inside
  | .unloading inside => inside
  | _ => false

/-- What holds while no handler interrupts a `stop`. -/
structure Undisturbed (signalled : Bool) (s : Detector) : Prop where
  created : ∀ number, s.thread = some number → s.pollers number = .created →
    mayBeCreated s.point = true
  joining : ∀ inside, s.point = .joining inside → s.thread ≠ none
  outside : signalled = false → isInside s.point = false
  outcomes : ∀ outcome ∈ s.outcomes, outcome ≠ .stopRaised ∧
    (∀ recorded, outcome = .exitedUnexpectedly recorded → s.raised ≠ [])

theorem Undisturbed.goto {signalled : Bool} (h : s.Undisturbed signalled) {s' : Detector}
    (hpollers : s'.pollers = s.pollers) (hthread : s'.thread = s.thread)
    (hraised : s'.raised = s.raised) (houtcomes : s'.outcomes = s.outcomes)
    (hcreated : mayBeCreated s.point = true → mayBeCreated s'.point = true)
    (hjoining : ∀ inside, s'.point = .joining inside → s.thread ≠ none)
    (hinside : isInside s.point = false → isInside s'.point = false) :
    s'.Undisturbed signalled where
  created number hsome hpoint := by
    rw [hpollers] at hpoint
    exact hcreated (h.created number (hthread ▸ hsome) hpoint)
  joining inside hpoint := by
    rw [hthread]
    exact hjoining inside hpoint
  outside hsignalled := hinside (h.outside hsignalled)
  outcomes outcome houtcome := by
    rw [hraised]
    exact h.outcomes outcome (houtcomes ▸ houtcome)

/-- A call ends where the thread has been started. -/
theorem Undisturbed.finish {signalled : Bool} (h : s.Undisturbed signalled) {s' : Detector}
    {outcome : Outcome}
    (hpoint : s'.point = .idle) (houtcomes : s'.outcomes = s.outcomes ++ [outcome])
    (hraised : s'.raised = s.raised)
    (hcreated : ∀ number, s'.thread = some number → s'.pollers number ≠ .created)
    (hstop : outcome ≠ .stopRaised)
    (hexited : ∀ recorded, outcome = .exitedUnexpectedly recorded → s.raised ≠ []) :
    s'.Undisturbed signalled where
  created number hsome hpoint := absurd hpoint (hcreated number hsome)
  joining inside hjoining := by cases hpoint.symm.trans hjoining
  outside _ := by
    rw [hpoint]
    rfl
  outcomes := by
    rw [hraised, houtcomes]
    exact List.forall_mem_append.mpr
      ⟨h.outcomes, List.forall_mem_singleton.mpr ⟨hstop, hexited⟩⟩

theorem Undisturbed.attempt {signalled : Bool} (h : s.Undisturbed signalled)
    (failure : Option String) {next : Detector} (hnext : next.Undisturbed signalled)
    (hcreated : ∀ error, mayBeCreated s.point = true → mayBeCreated (.dropping error) = true) :
    (s.attempt failure next).Undisturbed signalled := by
  cases failure with
  | none => exact hnext
  | some error => exact h.goto rfl rfl rfl rfl (hcreated error) (by intros; contradiction) fun _ => rfl

theorem Undisturbed.started {signalled : Bool} (h : s.Undisturbed signalled)
    (hpoint : mayBeCreated s.point = false) (number : ℕ) (hthread : s.thread = some number) :
    s.pollers number ≠ .created := by
  intro hcreated
  cases hpoint.symm.trans (h.created number hthread hcreated)

theorem Undisturbed.mainRuns {signalled : Bool} (halone : s.Alone) (hrecorded : s.Recorded)
    (htold : s.Told) (h : s.Undisturbed signalled) (failure : Option String) :
    (s.mainRuns failure).Undisturbed signalled := by
  have hatPoint := halone.point
  unfold AtPoint at hatPoint
  fun_cases Detector.mainRuns s failure with
  | case1 => exact h
  | case2 hpoint =>
      exact h.finish rfl rfl rfl (h.started (by rw [hpoint]; rfl)) (by intro hne; cases hne)
        (by intros; contradiction)
  | case3 hpoint =>
      exact h.goto rfl rfl rfl rfl (by rw [hpoint]; intros; contradiction)
        (by intros; contradiction) fun _ => rfl
  | case4 hpoint =>
      exact h.goto rfl rfl rfl rfl (by rw [hpoint]; intros; contradiction)
        (by intros; contradiction) fun _ => rfl
  | case5 hpoint =>
      exact h.goto rfl rfl rfl rfl (by rw [hpoint]; intros; contradiction)
        (by intros; contradiction) fun _ => rfl
  | case6 hpoint =>
      exact h.attempt failure
        (h.goto rfl rfl rfl rfl (by rw [hpoint]; intros; contradiction) (by intros; contradiction)
          fun _ => rfl) fun _ _ => rfl
  | case7 hpoint =>
      exact h.attempt failure
        (h.goto rfl rfl rfl rfl (by rw [hpoint]; intros; contradiction) (by intros; contradiction)
          fun _ => rfl) fun _ _ => rfl
  | case8 hpoint =>
      exact h.attempt failure
        (h.goto rfl rfl rfl rfl (by rw [hpoint]; intros; contradiction) (by intros; contradiction)
          fun _ => rfl) fun _ _ => rfl
  | case9 hpoint =>
      exact h.goto rfl rfl rfl rfl (by rw [hpoint]; intros; contradiction)
        (by intros; contradiction) fun _ => rfl
  | case10 hpoint => exact ⟨fun _ _ _ => rfl, (by intros; contradiction), fun _ => rfl, h.outcomes⟩
  | case11 => exact h.goto rfl rfl rfl rfl (fun _ => rfl) (by intros; contradiction) fun _ => rfl
  | case12 hpoint number hthread =>
      refine h.attempt failure (h.finish rfl rfl rfl (fun other hsome => ?_)
        (by intro hne; cases hne) (by intros; contradiction))
        fun _ _ => rfl
      have heq : other = number := Option.some.inj (hsome.symm.trans hthread)
      change Function.update s.pollers number .asserting other ≠ .created
      rw [heq, Function.update_self]
      intro hne; cases hne
  | case13 => exact h.goto rfl rfl rfl rfl (fun _ => rfl) (by intros; contradiction) fun _ => rfl
  | case14 =>
      exact h.finish rfl rfl rfl (by intros; contradiction) (by intro hne; cases hne)
        (by intros; contradiction)
  | case15 inside hpoint =>
      exact h.goto rfl rfl rfl rfl (by rw [hpoint]; exact id) (by intros; contradiction)
        (by rw [hpoint]; exact id)
  | case16 inside hpoint =>
      have houtside := h.outside
      rw [hpoint] at houtside
      by_cases hsome : s.thread.isSome = true
      · rw [if_pos hsome]
        exact h.goto rfl rfl rfl rfl (by rw [hpoint]; exact id)
          (fun _ _ => Option.isSome_iff_ne_none.mp hsome) (by rw [hpoint]; exact id)
      · rw [if_neg hsome]
        have hnone := Option.not_isSome_iff_eq_none.mp hsome
        exact ⟨fun number hnumber => (by cases hnone.symm.trans hnumber),
          (by intros; contradiction), houtside,
          h.outcomes⟩
  | case17 inside hpoint hnone => exact absurd hnone (h.joining inside hpoint)
  | case18 inside hpoint number hthread =>
      fun_cases Detector.join s inside number with
      | case1 => exact h.goto rfl rfl rfl rfl (fun _ => rfl) (by intros; contradiction) fun _ => rfl
      | case2 hcreated hinside =>
          have hmay := h.created number hthread hcreated
          rw [hpoint] at hmay
          exact absurd hmay hinside
      | case3 hended =>
          have houtside := h.outside
          rw [hpoint] at houtside
          refine ⟨fun other hother hcreated => ?_, (by intros; contradiction), houtside, h.outcomes⟩
          obtain rfl := Option.some.inj (hthread.symm.trans hother)
          cases hended.symm.trans hcreated
      | case4 => exact h
  | case19 inside hpoint =>
      have houtside := h.outside
      rw [hpoint] at houtside
      exact ⟨(by intros; contradiction), (by intros; contradiction), houtside, h.outcomes⟩
  | case20 inside hpoint =>
      rw [hpoint] at hatPoint
      exact h.finish rfl rfl rfl (fun number hsome => by cases hatPoint.symm.trans hsome)
        (by intro hne; cases hne)
        (by intros; contradiction)
  | case21 hpoint =>
      exact h.finish rfl rfl rfl (h.started (by rw [hpoint]; rfl)) (by intro hne; cases hne)
        (by intros; contradiction)
  | case22 hpoint =>
      exact h.goto rfl rfl rfl rfl (by rw [hpoint]; intros; contradiction)
        (by intros; contradiction) fun _ => rfl
  | case23 recorded hpoint =>
      exact h.finish rfl rfl rfl (h.started (by rw [hpoint]; rfl)) (by intro hne; cases hne)
        (by intros; contradiction)
  | case24 recorded hpoint =>
      exact h.goto rfl rfl rfl rfl (by rw [hpoint]; intros; contradiction)
        (by intros; contradiction) fun _ => rfl
  | case25 recorded hpoint =>
      exact h.finish rfl rfl rfl (h.started (by rw [hpoint]; rfl)) (by intro hne; cases hne)
        (by intros; contradiction)
  | case26 recorded hpoint =>
      exact h.finish rfl rfl rfl (h.started (by rw [hpoint]; rfl)) (by intro hne; cases hne)
        (by intros; contradiction)
  | case27 recorded hpoint number hthread hdead =>
      have hstarted := h.started (by rw [hpoint]; rfl)
      refine h.finish rfl rfl rfl hstarted (by intro hne; cases hne) fun _ _ => ?_
      have hended : s.pollers number = .ended := by
        unfold isAlive at hdead
        cases hcase : s.pollers number with
        | ended => rfl
        | created => exact absurd hcase (hstarted number hthread)
        | _ =>
            rw [hcase] at hdead
            exact absurd rfl hdead
      rcases hrecorded.finished number hthread hended with hstop | herror
      · cases (htold.watching recorded hpoint).1.symm.trans hstop
      · obtain ⟨error, herror⟩ := Option.ne_none_iff_exists'.mp herror
        obtain ⟨other, -, hmem, -⟩ := hrecorded.error error herror
        exact List.ne_nil_of_mem hmem

theorem Undisturbed.pollerMoves {signalled : Bool} (h : s.Undisturbed signalled) (number : ℕ)
    (move : PollerMove) : (s.pollerMoves number move).Undisturbed signalled := by
  obtain ⟨hthread, -, -, hpoint, -, -, houtcomes⟩ := s.frame_pollerMoves number move
  refine ⟨fun other hother hcreated => ?_, fun inside hjoining => ?_, fun houtside => ?_,
    fun outcome houtcome => ?_⟩
  · rw [hpoint]
    refine h.created other (hthread ▸ hother) ?_
    rw [pollers_pollerMoves] at hcreated
    by_cases heq : other = number
    · rw [heq, Function.update_self] at hcreated
      rw [heq]
      revert hcreated
      fun_cases behind s.bpf s.stopEvent (s.pollers number) move with
      | case12 => exact id
      | _ => intros; contradiction
    · rwa [Function.update_of_ne heq] at hcreated
  · rw [hthread]
    exact h.joining inside (hpoint ▸ hjoining)
  · rw [hpoint]
    exact h.outside houtside
  · obtain ⟨hstop, hexited⟩ := h.outcomes outcome (houtcomes ▸ houtcome)
    refine ⟨hstop, fun recorded hcase => ?_⟩
    have hraised := hexited recorded hcase
    fun_cases Detector.pollerMoves s number move with
    | case5 =>
        unfold handleLost
        split
        · exact hraised
        · exact hraised
    | case7 error => exact List.append_ne_nil_of_left_ne_nil hraised _
    | _ => exact hraised

/-- The first signal; it may come at any step. -/
theorem Undisturbed.shutdown (h : s.Undisturbed false) : (s.step .shutdown).Undisturbed true := by
  have houtside := h.outside rfl
  refine ⟨fun number hthread hcreated => ?_, fun inside hjoining => ?_, (by intros; contradiction),
    h.outcomes⟩
  · have hmay := h.created number hthread hcreated
    change mayBeCreated (if s.point.isStop then .idle else .requesting s.point.isStart) = true
    cases hpoint : s.point with
    | launching => rfl
    | dropping error => rfl
    | unlinking error => rfl
    | requesting inside =>
        rw [hpoint] at hmay houtside
        cases houtside.symm.trans hmay
    | examining inside =>
        rw [hpoint] at hmay houtside
        cases houtside.symm.trans hmay
    | joining inside =>
        rw [hpoint] at hmay houtside
        cases houtside.symm.trans hmay
    | _ =>
        rw [hpoint] at hmay
        cases hmay
  · change (if s.point.isStop then MainPoint.idle else .requesting s.point.isStart) = _ at hjoining
    split at hjoining
    · cases hjoining
    · cases hjoining

/-- What holds of the attributes and of the calls in every run. -/
structure Reports (s : Detector) : Prop where
  alone : s.Alone
  recorded : s.Recorded
  told : s.Told

theorem reports_new : Reports {} :=
  ⟨alone_new, recorded_new, told_new⟩

theorem Reports.step (h : s.Reports) (turn : Turn) : (s.step turn).Reports where
  alone := h.alone.step turn
  recorded := h.recorded.step h.alone turn
  told := h.told.step h.alone h.recorded turn

theorem Reports.run (h : s.Reports) (turns : List Turn) : (s.run turns).Reports := by
  induction turns generalizing s with
  | nil => exact h
  | cons turn turns ih => exact ih (h.step turn)

theorem Undisturbed.step {signalled : Bool} (hreports : s.Reports) (h : s.Undisturbed signalled)
    {turn : Turn} (hinterrupt : turn ≠ .interrupt) (hshutdown : turn ≠ .shutdown) :
    (s.step turn).Undisturbed signalled := by
  fun_cases Detector.step s turn with
  | case1 call hpoint =>
      have hidle : mayBeCreated s.point = true → False := by
        rw [hpoint]
        intros; contradiction
      cases call with
      | _ =>
          exact h.goto rfl rfl rfl rfl (fun hmay => (hidle hmay).elim)
            (by intros; contradiction) fun _ => rfl
  | case2 => exact h
  | case3 failure => exact h.mainRuns hreports.alone hreports.recorded hreports.told failure
  | case4 => exact absurd rfl hinterrupt
  | case5 => exact absurd rfl hshutdown
  | case6 number move => exact h.pollerMoves number move

theorem undisturbed_run {signalled : Bool} (hreports : s.Reports) (h : s.Undisturbed signalled)
    {turns : List Turn} (hinterrupt : .interrupt ∉ turns)
    (hshutdown : turns.count .shutdown ≤ if signalled then 0 else 1) :
    ∃ signalled, (s.run turns).Undisturbed signalled := by
  induction turns generalizing s signalled with
  | nil => exact ⟨signalled, h⟩
  | cons turn turns ih =>
      obtain ⟨hturn, hrest⟩ := not_or.mp (mt List.mem_cons.mpr hinterrupt)
      by_cases hsignal : turn = .shutdown
      · obtain rfl := hsignal
        rw [List.count_cons_self] at hshutdown
        cases signalled with
        | true => exact absurd hshutdown (Nat.not_succ_le_zero _)
        | false =>
            exact ih (hreports.step .shutdown) h.shutdown hrest
              (Nat.le_of_succ_le_succ hshutdown)
      · rw [List.count_cons_of_ne hsignal] at hshutdown
        exact ih (hreports.step turn) (h.step hreports (Ne.symm hturn) hsignal) hrest hshutdown

/-- The detector is started, and its first poll raises. -/
def pollFails : List Turn :=
  [.call .start, .main none, .main none, .main none, .main none, .main none, .main none,
    .main none, .main none, .main none, .poller 0 .runs, .poller 0 .runs, .poller 0 .runs,
    .poller 0 (.fails "EIO")]

/-- The error of the poll is recorded; one check comes before `stop`, one behind it. -/
def checkedTwice : List Turn :=
  pollFails ++
    [.poller 0 .runs, .poller 0 .runs, .call .checkHealth, .main none, .main none, .call .stop,
      .main none, .main none, .main none, .main none, .main none, .call .checkHealth, .main none]

/-- The error is recorded between the two looks of a check, which then misses it. -/
example :
    (run {} (pollFails ++
      [.call .checkHealth, .main none, .main none, .poller 0 .runs, .poller 0 .runs, .main none,
        .call .checkHealth, .main none, .main none])).outcomes =
      [.started, .exitedUnexpectedly none, .pollingFailed (some "EIO") "EIO"] := by
  decide

/-! ## The lost records -/

/-- The records that `_handle_lost` counts for the last `start`. -/
def lostTotal (s : Detector) : ℤ :=
  ((s.losses.filter fun entry => s.session ≤ entry.1 ∧ 0 < entry.2).map Prod.snd).sum

/-- The counts of the last `start`, and which threads belong to it. -/
structure Counted (s : Detector) : Prop where
  session : s.session ≤ s.next
  owner : ∀ number, s.thread = some number → s.session ≤ number
  numbers : ∀ entry ∈ s.losses, entry.1 < s.next
  positive : 0 ≤ s.lostTotal
  counts : s.lossCounts = if s.lostTotal = 0 then [] else [("perf_buffer", s.lostTotal)]

theorem Counted.goto (h : s.Counted) {s' : Detector} (hsession : s'.session = s.session)
    (hnext : s'.next = s.next) (hthread : s'.thread = s.thread ∨ s'.thread = none)
    (hlosses : s'.losses = s.losses) (hcounts : s'.lossCounts = s.lossCounts) : s'.Counted := by
  have htotal : s'.lostTotal = s.lostTotal := by
    unfold lostTotal
    rw [hsession, hlosses]
  refine ⟨?_, fun number hnumber => ?_, ?_, ?_, ?_⟩
  · rw [hsession, hnext]
    exact h.session
  · rw [hsession]
    rcases hthread with hsame | hnone
    · exact h.owner number (hsame ▸ hnumber)
    · cases hnone.symm.trans hnumber
  · rw [hlosses, hnext]
    exact h.numbers
  · rw [htotal]
    exact h.positive
  · rw [hcounts, htotal]
    exact h.counts

theorem Counted.attempt (h : s.Counted) (failure : Option String) {next : Detector}
    (hnext : next.Counted) : (s.attempt failure next).Counted := by
  cases failure with
  | none => exact hnext
  | some error => exact h.goto rfl rfl (.inl rfl) rfl rfl

theorem Counted.mainRuns (halone : s.Alone) (h : s.Counted) (failure : Option String) :
    (s.mainRuns failure).Counted := by
  have hatPoint := halone.point
  unfold AtPoint at hatPoint
  fun_cases Detector.mainRuns s failure with
  | case1 => exact h
  | case4 hpoint =>
      rw [hpoint] at hatPoint
      have hnone : s.losses.filter (fun entry => s.next ≤ entry.1 ∧ 0 < entry.2) = [] := by
        refine List.filter_eq_nil_iff.mpr fun entry hentry => ?_
        have hnumber := h.numbers entry hentry
        simp only [decide_eq_true_eq]
        omega
      have htotal : lostTotal { s with point := .forgetting, lossCounts := [], session := s.next } =
          0 := by
        unfold lostTotal
        dsimp only
        rw [hnone]
        rfl
      refine ⟨le_rfl, fun number hnumber => ?_, h.numbers, ?_, ?_⟩
      · cases hatPoint.symm.trans hnumber
      · rw [htotal]
      · rw [htotal]
        rfl
  | case6 => exact h.attempt failure (h.goto rfl rfl (.inl rfl) rfl rfl)
  | case7 => exact h.attempt failure (h.goto rfl rfl (.inl rfl) rfl rfl)
  | case8 => exact h.attempt failure (h.goto rfl rfl (.inl rfl) rfl rfl)
  | case10 =>
      refine ⟨h.session.trans (Nat.le_succ _), fun number hnumber => ?_, fun entry hentry => ?_,
        h.positive, h.counts⟩
      · obtain rfl := Option.some.inj hnumber
        exact h.session
      · exact (h.numbers entry hentry).trans (Nat.lt_succ_self _)
  | case12 => exact h.attempt failure (h.goto rfl rfl (.inl rfl) rfl rfl)
  | case14 => exact h.goto rfl rfl (.inr rfl) rfl rfl
  | case18 inside hpoint number hthread =>
      fun_cases Detector.join s inside number with
      | case4 => exact h
      | _ => exact h.goto rfl rfl (.inl rfl) rfl rfl
  | case19 => exact h.goto rfl rfl (.inr rfl) rfl rfl
  | _ => exact h.goto rfl rfl (.inl rfl) rfl rfl

/-- A lost record is counted for the last `start`, as the thread that polls belongs to it. -/
theorem Counted.handleLost (halone : s.Alone) (h : s.Counted) {number : ℕ}
    (halive : s.isAlive number = true) (count : ℤ) : (s.handleLost number count).Counted := by
  have hthread := (halone.owned number halive).1
  have howner := h.owner number hthread
  have hnumbers : ∀ entry ∈ s.losses ++ [(number, count)], entry.1 < s.next := by
    refine List.forall_mem_append.mpr ⟨h.numbers, List.forall_mem_singleton.mpr ?_⟩
    exact Nat.lt_of_succ_le (halone.latest number hthread).le
  have hpositive := h.positive
  have hcounts := h.counts
  unfold Detector.handleLost
  split
  next hzero =>
    have htotal : lostTotal { s with losses := s.losses ++ [(number, count)] } = s.lostTotal := by
      unfold lostTotal
      dsimp only
      have hdrop : decide (s.session ≤ number ∧ 0 < count) = false := by
        simpa using fun _ => hzero
      rw [List.filter_append, List.filter_singleton, hdrop, cond_false, List.append_nil]
    refine ⟨h.session, h.owner, hnumbers, ?_, ?_⟩
    · rw [htotal]
      exact hpositive
    · rw [htotal]
      exact hcounts
  next hcount =>
    have htotal : ∀ lossCounts, lostTotal
        { s with lossCounts := lossCounts, losses := s.losses ++ [(number, count)] } =
          s.lostTotal + count := by
      intro lossCounts
      unfold lostTotal
      dsimp only
      have hkeep : decide (s.session ≤ number ∧ 0 < count) = true := by
        simpa using ⟨howner, not_le.mp hcount⟩
      rw [List.filter_append, List.filter_singleton, hkeep, cond_true, List.map_append,
        List.sum_append, List.map_singleton, List.sum_singleton]
    refine ⟨h.session, h.owner, hnumbers, ?_, ?_⟩
    · rw [htotal]
      omega
    · rw [htotal, if_neg (by omega)]
      dsimp only
      rw [hcounts]
      split
      next hnone =>
        rw [hnone]
        rfl
      · simp [Dict.get, Dict.set]

theorem Counted.pollerMoves (halone : s.Alone) (h : s.Counted) (number : ℕ) (move : PollerMove) :
    (s.pollerMoves number move).Counted := by
  fun_cases Detector.pollerMoves s number move with
  | case5 count hpoint => exact h.handleLost halone (by rw [isAlive, hpoint]; rfl) count
  | case10 => exact h
  | _ => exact h.goto rfl rfl (.inl rfl) rfl rfl

theorem Counted.step (halone : s.Alone) (h : s.Counted) (turn : Turn) : (s.step turn).Counted := by
  fun_cases Detector.step s turn with
  | case1 call =>
      cases call with
      | _ => exact h.goto rfl rfl (.inl rfl) rfl rfl
  | case2 => exact h
  | case3 failure => exact h.mainRuns halone failure
  | case6 number move => exact h.pollerMoves halone number move
  | _ => exact h.goto rfl rfl (.inl rfl) rfl rfl

theorem Counted.run (halone : s.Alone) (h : s.Counted) (turns : List Turn) :
    (s.run turns).Counted := by
  induction turns generalizing s with
  | nil => exact h
  | cons turn turns ih => exact ih (halone.step turn) (h.step halone turn)

/-- `loss_counts` is the sum of the records that the polls have reported lost since the last
`start`, and it has no entry where there is none. -/
theorem lossCounts_eq (turns : List Turn) :
    (run {} turns).lossCounts =
      if (run {} turns).lostTotal = 0 then [] else [("perf_buffer", (run {} turns).lostTotal)] :=
  (Counted.run alone_new
    ⟨le_rfl, (by intros; contradiction), (by intros; contradiction), le_rfl, rfl⟩ turns).counts

end Detector

end Blocksnoop.Bcc
