import Blocksnoop.Stats.Order
import Mathlib.Logic.Function.Basic

/-!
# The timer of the statistics

`start` and `stop` on the main thread, beside the threads of the timers: each one waits,
prints and arms the next one.  The field that holds the timer and the flag that cancels
it are read and written without the lock, so every statement that does so is a step of
its own here.  Only the printing and the callback are under the lock.
-/

namespace Blocksnoop

open Blocksnoop.Support

/-- The statements of `_schedule`; a method call is a step after the field is read. -/
inductive SchedulePoint where
  | create
  | daemon
  | load
  | start (timer : ℕ)
  deriving Repr, DecidableEq

/-- Where the thread of a timer is: not started, in the wait, or in `_tick`. -/
inductive TimerPoint where
  | created
  | waiting
  | printing
  | scheduling (point : SchedulePoint)
  | ended
  deriving Repr, DecidableEq

structure Timer where
  finished : Bool := false
  point : TimerPoint := .created
  deriving Repr, DecidableEq

/-- Where the main thread is; from `started` on it may call `stop`. -/
inductive MainPoint where
  | idle
  | scheduling (point : SchedulePoint)
  | started
  | loading
  | cancelling (timer : ℕ)
  | clearing
  | printing
  | stopped
  | raised
  deriving Repr, DecidableEq

/-- The collector, the field `_timer`, the timers that were created, by their numbers, and
the main thread. -/
structure StatsThreads (F : Type) where
  collector : StatsCollector F
  timer : Option ℕ := none
  created : ℕ := 0
  timers : ℕ → Timer := fun _ => {}
  main : MainPoint := .idle

namespace StatsThreads

variable {F : Type}

def setPoint (s : StatsThreads F) (k : ℕ) (point : TimerPoint) : StatsThreads F :=
  { s with timers := Function.update s.timers k { s.timers k with point } }

/-- `cancel` sets the flag that the wait and the check after it look at. -/
def cancel (s : StatsThreads F) (k : ℕ) : StatsThreads F :=
  { s with timers := Function.update s.timers k { s.timers k with finished := true } }

/-- The end of the timer's `run`. -/
def returns (s : StatsThreads F) (k : ℕ) : StatsThreads F :=
  (s.cancel k).setPoint k .ended

/-- A step of `_schedule`, and the next one. -/
def schedule (s : StatsThreads F) :
    SchedulePoint → Except PyException (StatsThreads F × Option SchedulePoint)
  | .create => .ok ({ s with timer := some s.created, created := s.created + 1 }, some .daemon)
  | .daemon =>
      match s.timer with
      | none => .error (.other "AttributeError")
      | some k =>
          if (s.timers k).point = .created then .ok (s, some .load)
          else .error (.other "RuntimeError")
  | .load =>
      match s.timer with
      | none => .error (.other "AttributeError")
      | some k => .ok (s, some (.start k))
  | .start k =>
      if (s.timers k).point = .created then .ok (s.setPoint k .waiting, none)
      else .error (.other "RuntimeError")

section

variable [StatsRuntime F]

/-- A step of the thread of a timer. -/
def runTimer (percents : Percents F) (s : StatsThreads F) (k : ℕ) (now : F) : StatsThreads F :=
  match (s.timers k).point with
  | .created => s
  | .waiting => if (s.timers k).finished then s.returns k else s.setPoint k .printing
  | .printing =>
      match s.collector.printStats percents now with
      | .ok collector => { s with collector }.setPoint k (.scheduling .create)
      | .error _ => s.setPoint k .ended
  | .scheduling point =>
      match s.schedule point with
      | .ok (s', some point') => s'.setPoint k (.scheduling point')
      | .ok (s', none) => s'.returns k
      | .error _ => s.setPoint k .ended
  | .ended => s

/-- A step of the main thread, through `start` and `stop`. -/
def runMain (percents : Percents F) (s : StatsThreads F) (now : F) : StatsThreads F :=
  match s.main with
  | .idle =>
      { s with
        collector := { s.collector with startTime := now }
        main := .scheduling .create }
  | .scheduling point =>
      match s.schedule point with
      | .ok (s', some point') => { s' with main := .scheduling point' }
      | .ok (s', none) => { s' with main := .started }
      | .error _ => { s with main := .raised }
  | .started => { s with main := if s.timer.isSome then .loading else .printing }
  | .loading =>
      match s.timer with
      | none => { s with main := .raised }
      | some k => { s with main := .cancelling k }
  | .cancelling k => { s.cancel k with main := .clearing }
  | .clearing => { s with timer := none, main := .printing }
  | .printing =>
      match s.collector.printStats percents now with
      | .ok collector => { s with collector, main := .stopped }
      | .error _ => { s with main := .raised }
  | .stopped => s
  | .raised => s

/-- Who takes the next step. -/
inductive Move (F : Type) where
  | main (now : F)
  | timer (k : ℕ) (now : F)
  | event (event : BlockingEvent)

def act (percents : Percents F) (s : StatsThreads F) : Move F → StatsThreads F
  | .main now => s.runMain percents now
  | .timer k now => s.runTimer percents k now
  | .event event => { s with collector := (s.collector.onEvent event).toOption.getD s.collector }

def run (percents : Percents F) (s : StatsThreads F) (moves : List (Move F)) : StatsThreads F :=
  moves.foldl (act percents) s

/-- A new collector, before `start`. -/
def init (pid : ℤ) (jsonMode : Bool) : StatsThreads F where
  collector := .init pid jsonMode

end

/-- A timer that is armed and was not cancelled. -/
def Pending (s : StatsThreads F) (k : ℕ) : Prop :=
  (s.timers k).point = .waiting ∧ (s.timers k).finished = false

/-- The timer's wait is over. -/
def Fired (s : StatsThreads F) (k : ℕ) : Prop :=
  (s.timers k).point ≠ .created ∧ (s.timers k).point ≠ .waiting

/-- Where the step cancels a timer, the timer has not fired. -/
def TimelyStep (s : StatsThreads F) : Move F → Prop
  | .main _ =>
      match s.main with
      | .cancelling k => ¬ s.Fired k
      | _ => True
  | _ => True

def Timely [StatsRuntime F] (percents : Percents F) : StatsThreads F → List (Move F) → Prop
  | _, [] => True
  | s, move :: moves => s.TimelyStep move ∧ Timely percents (s.act percents move) moves

/-! ## One step -/

section

variable {s : StatsThreads F} {k j : ℕ}

@[simp] theorem setPoint_point_self {point : TimerPoint} :
    ((s.setPoint k point).timers k).point = point := by
  simp [setPoint]

theorem setPoint_timers_of_ne {point : TimerPoint} (h : j ≠ k) :
    (s.setPoint k point).timers j = s.timers j :=
  Function.update_of_ne h _ _

theorem cancel_timers_of_ne (h : j ≠ k) : (s.cancel k).timers j = s.timers j :=
  Function.update_of_ne h _ _

theorem returns_timers_of_ne (h : j ≠ k) : (s.returns k).timers j = s.timers j :=
  (setPoint_timers_of_ne h).trans (cancel_timers_of_ne h)

@[simp] theorem setPoint_finished {point : TimerPoint} :
    ((s.setPoint k point).timers j).finished = (s.timers j).finished := by
  by_cases hj : j = k
  · subst hj
    simp [setPoint]
  · rw [setPoint_timers_of_ne hj]

@[simp] theorem cancel_finished_self : ((s.cancel k).timers k).finished = true := by
  simp [cancel]

@[simp] theorem cancel_point : ((s.cancel k).timers j).point = (s.timers j).point := by
  by_cases hj : j = k
  · subst hj
    simp [cancel]
  · rw [cancel_timers_of_ne hj]

theorem cancel_finished_of_finished (h : (s.timers j).finished = true) :
    ((s.cancel k).timers j).finished = true := by
  by_cases hj : j = k
  · subst hj
    exact cancel_finished_self
  · rw [cancel_timers_of_ne hj]
    exact h

@[simp] theorem returns_point_self : ((s.returns k).timers k).point = .ended :=
  setPoint_point_self

end

/-- A step of `_schedule` leaves the main thread where it is and forgets no timer. -/
theorem schedule_keeps {s s' : StatsThreads F} {point : SchedulePoint}
    {next : Option SchedulePoint} (hstep : s.schedule point = .ok (s', next)) :
    s'.main = s.main ∧ s.created ≤ s'.created := by
  cases point with
  | create =>
      obtain ⟨rfl, -⟩ := Prod.mk.inj (Except.ok.inj hstep)
      exact ⟨rfl, Nat.le_succ _⟩
  | start m =>
      simp only [schedule] at hstep
      split at hstep
      · obtain ⟨rfl, -⟩ := Prod.mk.inj (Except.ok.inj hstep)
        exact ⟨rfl, le_rfl⟩
      · cases hstep
  | daemon =>
      cases htimer : s.timer with
      | none => simp [schedule, htimer] at hstep
      | some m =>
          simp only [schedule, htimer] at hstep
          split at hstep
          · obtain ⟨rfl, -⟩ := Prod.mk.inj (Except.ok.inj hstep)
            exact ⟨rfl, le_rfl⟩
          · cases hstep
  | load =>
      cases htimer : s.timer with
      | none => simp [schedule, htimer] at hstep
      | some m =>
          simp only [schedule, htimer] at hstep
          obtain ⟨rfl, -⟩ := Prod.mk.inj (Except.ok.inj hstep)
          exact ⟨rfl, le_rfl⟩

/-! ## The chain of timers -/

/-- What the thread of the newest armed timer has done of the hand-over to the next one. -/
def Link (s : StatsThreads F) (k : ℕ) : TimerPoint → Prop
  | .created => False
  | .waiting | .printing | .scheduling .create | .ended => s.timer = some k ∧ s.created = k + 1
  | .scheduling .daemon | .scheduling .load => s.timer = some (k + 1) ∧ s.created = k + 2
  | .scheduling (.start m) => m = k + 1 ∧ s.timer = some (k + 1) ∧ s.created = k + 2

/-- The timers before the `k`-th have ended, and those after it have not been started. -/
structure Chained (s : StatsThreads F) (k : ℕ) : Prop where
  ended : ∀ j < k, (s.timers j).point = .ended
  link : s.Link k (s.timers k).point
  fresh : ∀ j, k < j → s.timers j = {}

theorem Chained.congr {s s' : StatsThreads F} {k : ℕ} (h : s.Chained k)
    (htimer : s'.timer = s.timer) (hcreated : s'.created = s.created)
    (htimers : s'.timers = s.timers) : s'.Chained k where
  ended j hj := by
    rw [htimers]
    exact h.ended j hj
  link := by
    have hlink := h.link
    rw [htimers]
    unfold Link at hlink ⊢
    rw [htimer, hcreated]
    exact hlink
  fresh j hj := by
    rw [htimers]
    exact h.fresh j hj

/-- The thread of the chain goes on to a point of the same hand-over. -/
theorem Chained.setPoint {s s' : StatsThreads F} {k : ℕ} (h : s.Chained k)
    (htimers : s'.timers = s.timers) {point : TimerPoint} (hlink : s'.Link k point) :
    (s'.setPoint k point).Chained k where
  ended j hj := by
    rw [setPoint_timers_of_ne hj.ne, htimers]
    exact h.ended j hj
  link := by
    rw [setPoint_point_self]
    exact hlink
  fresh j hj := by
    rw [setPoint_timers_of_ne hj.ne', htimers]
    exact h.fresh j hj

/-- The field holds a timer that was created. -/
theorem Chained.exists_timer {s : StatsThreads F} {k : ℕ} (h : s.Chained k) :
    ∃ m, m < s.created ∧ s.timer = some m := by
  have hlink := h.link
  generalize (s.timers k).point = point at hlink
  cases point with
  | created => exact absurd hlink id
  | scheduling point =>
      cases point with
      | create => exact ⟨k, by rw [hlink.2]; omega, hlink.1⟩
      | start m => exact ⟨k + 1, by rw [hlink.2.2]; omega, hlink.2.1⟩
      | _ => exact ⟨k + 1, by rw [hlink.2]; omega, hlink.1⟩
  | _ => exact ⟨k, by rw [hlink.2]; omega, hlink.1⟩

/-- The timer that `start` arms. -/
theorem Chained.first {s : StatsThreads F} (htimer : s.timer = some 0) (hcreated : s.created = 1)
    (hfresh : ∀ j, s.timers j = {}) : (s.setPoint 0 .waiting).Chained 0 where
  ended j hj := absurd hj (Nat.not_lt_zero j)
  link := by
    rw [setPoint_point_self]
    exact ⟨htimer, hcreated⟩
  fresh j hj := by
    rw [setPoint_timers_of_ne hj.ne']
    exact hfresh j

theorem Chained.returns {s : StatsThreads F} {k : ℕ} (h : s.Chained k) (hlink : s.Link k .ended) :
    (s.returns k).Chained k where
  ended j hj := by
    rw [returns_timers_of_ne hj.ne]
    exact h.ended j hj
  link := by
    rw [returns_point_self]
    exact hlink
  fresh j hj := by
    rw [returns_timers_of_ne hj.ne']
    exact h.fresh j hj

/-- The thread of the chain has started the next timer and ends. -/
theorem Chained.start {s : StatsThreads F} {k : ℕ} (h : s.Chained k)
    (hlink : s.Link k (.scheduling (.start (k + 1)))) :
    ((s.setPoint (k + 1) .waiting).returns k).Chained (k + 1) where
  ended j hj := by
    rcases (Nat.lt_succ_iff.mp hj).lt_or_eq with hlt | rfl
    · rw [returns_timers_of_ne hlt.ne, setPoint_timers_of_ne hj.ne]
      exact h.ended j hlt
    · exact returns_point_self
  link := by
    rw [returns_timers_of_ne (Nat.succ_ne_self k), setPoint_point_self]
    exact hlink.2
  fresh j hj := by
    rw [returns_timers_of_ne (by omega), setPoint_timers_of_ne (by omega)]
    exact h.fresh j (by omega)

section

variable [StatsRuntime F] (percents : Percents F)

/-- Each step of a thread leaves a chain; only its last one begins a new link. -/
theorem Chained.runTimer {s : StatsThreads F} {k : ℕ} (h : s.Chained k) (i : ℕ) (now : F) :
    ∃ k', (s.runTimer percents i now).Chained k' := by
  rcases lt_trichotomy i k with hlt | rfl | hgt
  · refine ⟨k, ?_⟩
    simp only [StatsThreads.runTimer, h.ended i hlt]
    exact h
  · have hlink := h.link
    cases hpoint : (s.timers i).point with
    | created =>
        rw [hpoint] at hlink
        exact absurd hlink id
    | waiting =>
        rw [hpoint] at hlink
        refine ⟨i, ?_⟩
        simp only [StatsThreads.runTimer, hpoint]
        split
        · exact h.returns hlink
        · exact h.setPoint rfl hlink
    | printing =>
        rw [hpoint] at hlink
        refine ⟨i, ?_⟩
        simp only [StatsThreads.runTimer, hpoint]
        split
        · apply h.setPoint
          · rfl
          · exact hlink
        · exact h.setPoint rfl hlink
    | scheduling point =>
        rw [hpoint] at hlink
        have hnext := h.fresh (i + 1) (Nat.lt_succ_self i)
        cases point with
        | create =>
            obtain ⟨-, hcreated⟩ := hlink
            refine ⟨i, ?_⟩
            simp only [StatsThreads.runTimer, hpoint, schedule]
            apply h.setPoint
            · rfl
            · exact ⟨congrArg some hcreated, congrArg Nat.succ hcreated⟩
        | daemon =>
            obtain ⟨htimer, hcreated⟩ := hlink
            refine ⟨i, ?_⟩
            simp only [StatsThreads.runTimer, hpoint, schedule, htimer, hnext, if_true]
            exact h.setPoint rfl ⟨htimer, hcreated⟩
        | load =>
            obtain ⟨htimer, hcreated⟩ := hlink
            refine ⟨i, ?_⟩
            simp only [StatsThreads.runTimer, hpoint, schedule, htimer]
            exact h.setPoint rfl ⟨rfl, htimer, hcreated⟩
        | start m =>
            obtain ⟨rfl, hlink⟩ := hlink
            refine ⟨i + 1, ?_⟩
            simp only [StatsThreads.runTimer, hpoint, schedule, hnext, if_true]
            exact h.start ⟨rfl, hlink⟩
    | ended =>
        refine ⟨i, ?_⟩
        simp only [StatsThreads.runTimer, hpoint]
        exact h
  · refine ⟨k, ?_⟩
    simp only [StatsThreads.runTimer, h.fresh i hgt]
    exact h

end

/-! ## After the cancellation -/

/-- A thread that will neither print nor arm a timer that is not cancelled. -/
def Quiet (s : StatsThreads F) (k : ℕ) : TimerPoint → Prop
  | .created | .ended | .scheduling .daemon | .scheduling .load => True
  | .waiting => (s.timers k).finished = true
  | .printing | .scheduling .create => False
  | .scheduling (.start m) => (s.timers m).finished = true

/-- Every thread is quiet, and the timer in the field is cancelled. -/
structure Stilled (s : StatsThreads F) : Prop where
  quiet : ∀ k, s.Quiet k (s.timers k).point
  timer : ∀ k, s.timer = some k → (s.timers k).finished = true

theorem Quiet.mono {s s' : StatsThreads F} {k : ℕ} {point : TimerPoint} (h : s.Quiet k point)
    (hfinished : ∀ j, (s.timers j).finished = true → (s'.timers j).finished = true) :
    s'.Quiet k point := by
  cases point with
  | waiting => exact hfinished k h
  | scheduling point =>
      cases point with
      | start m => exact hfinished m h
      | _ => exact h
  | _ => exact h

theorem Stilled.congr {s s' : StatsThreads F} (h : s.Stilled) (htimer : s'.timer = s.timer)
    (htimers : s'.timers = s.timers) : s'.Stilled where
  quiet k := by
    rw [htimers]
    apply (h.quiet k).mono
    intro j hj
    rw [htimers]
    exact hj
  timer k hk := by
    rw [htimers]
    exact h.timer k (htimer.symm.trans hk)

theorem Stilled.setPoint {s : StatsThreads F} (h : s.Stilled) {k : ℕ} {point : TimerPoint}
    (hquiet : s.Quiet k point) : (s.setPoint k point).Stilled where
  quiet j := by
    have hmono : ∀ i, (s.timers i).finished = true →
        ((s.setPoint k point).timers i).finished = true := fun i hi => by
      rw [setPoint_finished]
      exact hi
    by_cases hj : j = k
    · rw [hj, setPoint_point_self]
      exact hquiet.mono hmono
    · rw [setPoint_timers_of_ne hj]
      exact (h.quiet j).mono hmono
  timer j hj := by
    rw [setPoint_finished]
    exact h.timer j hj

theorem Stilled.cancel {s : StatsThreads F} (h : s.Stilled) (k : ℕ) : (s.cancel k).Stilled where
  quiet j := by
    rw [cancel_point]
    exact (h.quiet j).mono fun _ => cancel_finished_of_finished
  timer j hj := cancel_finished_of_finished (h.timer j hj)

theorem Stilled.returns {s : StatsThreads F} (h : s.Stilled) (k : ℕ) : (s.returns k).Stilled :=
  (h.cancel k).setPoint trivial

theorem Stilled.not_pending {s : StatsThreads F} (h : s.Stilled) (k : ℕ) : ¬ s.Pending k := by
  rintro ⟨hpoint, hfinished⟩
  have hquiet := h.quiet k
  rw [hpoint] at hquiet
  exact Bool.false_ne_true (hfinished.symm.trans hquiet)

/-- What is left of a hand-over arms no timer that is not cancelled. -/
theorem Stilled.schedule {s s' : StatsThreads F} (h : s.Stilled) {k : ℕ} {point : SchedulePoint}
    {next : Option SchedulePoint} (hquiet : s.Quiet k (.scheduling point))
    (hstep : s.schedule point = .ok (s', next)) :
    s'.Stilled ∧ s'.collector = s.collector ∧
      ∀ point', next = some point' → s'.Quiet k (.scheduling point') := by
  cases point with
  | create => exact absurd hquiet id
  | daemon =>
      cases htimer : s.timer with
      | none => simp [StatsThreads.schedule, htimer] at hstep
      | some m =>
          simp only [StatsThreads.schedule, htimer] at hstep
          split at hstep
          · obtain ⟨rfl, rfl⟩ := Prod.mk.inj (Except.ok.inj hstep)
            refine ⟨h, rfl, fun point' hpoint' => ?_⟩
            obtain rfl := Option.some.inj hpoint'
            trivial
          · cases hstep
  | load =>
      cases htimer : s.timer with
      | none => simp [StatsThreads.schedule, htimer] at hstep
      | some m =>
          simp only [StatsThreads.schedule, htimer] at hstep
          obtain ⟨rfl, rfl⟩ := Prod.mk.inj (Except.ok.inj hstep)
          refine ⟨h, rfl, fun point' hpoint' => ?_⟩
          obtain rfl := Option.some.inj hpoint'
          exact h.timer m htimer
  | start m =>
      simp only [StatsThreads.schedule] at hstep
      split at hstep
      · obtain ⟨rfl, rfl⟩ := Prod.mk.inj (Except.ok.inj hstep)
        exact ⟨h.setPoint hquiet, rfl, nofun⟩
      · cases hstep

/-- The timer that is created and has not fired is the one in the field, and the thread
before it will at most start it. -/
theorem Chained.unfired {s : StatsThreads F} {k j : ℕ} (h : s.Chained k) (hcreated : j < s.created)
    (hfired : ¬ s.Fired j) : s.timer = some j ∧ (s.cancel j).Quiet k (s.timers k).point := by
  have hunfired : (s.timers j).point = .created ∨ (s.timers j).point = .waiting := by
    by_contra hnot
    exact hfired (not_or.mp hnot)
  have hle : k ≤ j := by
    by_contra hlt
    rw [h.ended j (Nat.not_le.mp hlt)] at hunfired
    simp at hunfired
  have hlink := h.link
  cases hpoint : (s.timers k).point with
  | created =>
      rw [hpoint] at hlink
      exact absurd hlink id
  | waiting =>
      rw [hpoint] at hlink
      obtain ⟨htimer, hcount⟩ := hlink
      obtain rfl : j = k := by omega
      exact ⟨htimer, cancel_finished_self⟩
  | scheduling point =>
      have hne : j ≠ k := by
        rintro rfl
        rw [hpoint] at hunfired
        simp at hunfired
      rw [hpoint] at hlink
      cases point with
      | create =>
          obtain ⟨-, hcount⟩ := hlink
          omega
      | daemon =>
          obtain ⟨htimer, hcount⟩ := hlink
          obtain rfl : j = k + 1 := by omega
          exact ⟨htimer, trivial⟩
      | load =>
          obtain ⟨htimer, hcount⟩ := hlink
          obtain rfl : j = k + 1 := by omega
          exact ⟨htimer, trivial⟩
      | start m =>
          obtain ⟨rfl, htimer, hcount⟩ := hlink
          obtain rfl : j = k + 1 := by omega
          exact ⟨htimer, cancel_finished_self⟩
  | _ =>
      rw [hpoint] at hlink
      obtain ⟨-, hcount⟩ := hlink
      obtain rfl : j = k := by omega
      rw [hpoint] at hunfired
      simp at hunfired

/-- The timer that is cancelled has not fired, so nothing is printed or armed any more. -/
theorem Chained.cancel {s : StatsThreads F} {k j : ℕ} (h : s.Chained k) (hcreated : j < s.created)
    (hfired : ¬ s.Fired j) : (s.cancel j).Stilled := by
  obtain ⟨htimer, hquiet⟩ := h.unfired hcreated hfired
  constructor
  · intro i
    rw [cancel_point]
    rcases lt_trichotomy i k with hlt | rfl | hgt
    · rw [h.ended i hlt]
      trivial
    · exact hquiet
    · rw [h.fresh i hgt]
      trivial
  · intro i hi
    obtain rfl : j = i := Option.some.inj (htimer.symm.trans hi)
    exact cancel_finished_self

/-! ## The main thread -/

/-- What holds at a point of the main thread. -/
def Holds (s : StatsThreads F) : MainPoint → Prop
  | .idle | .scheduling .create => s.timer = none ∧ s.created = 0 ∧ ∀ j, s.timers j = {}
  | .scheduling .daemon | .scheduling .load =>
      s.timer = some 0 ∧ s.created = 1 ∧ ∀ j, s.timers j = {}
  | .scheduling (.start m) => m = 0 ∧ s.timer = some 0 ∧ s.created = 1 ∧ ∀ j, s.timers j = {}
  | .started | .loading => ∃ k, s.Chained k
  | .cancelling j => j < s.created ∧ ∃ k, s.Chained k
  | .clearing | .printing | .stopped | .raised => s.Stilled

theorem Holds.congr {s s' : StatsThreads F} {point : MainPoint} (h : s.Holds point)
    (htimer : s'.timer = s.timer) (hcreated : s'.created = s.created)
    (htimers : s'.timers = s.timers) : s'.Holds point := by
  cases point with
  | started =>
      obtain ⟨k, hk⟩ := h
      exact ⟨k, hk.congr htimer hcreated htimers⟩
  | loading =>
      obtain ⟨k, hk⟩ := h
      exact ⟨k, hk.congr htimer hcreated htimers⟩
  | cancelling j =>
      obtain ⟨hj, k, hk⟩ := h
      exact ⟨hj.trans_eq hcreated.symm, k, hk.congr htimer hcreated htimers⟩
  | idle =>
      unfold Holds at h ⊢
      rw [htimer, hcreated, htimers]
      exact h
  | scheduling point =>
      cases point with
      | _ =>
          unfold Holds at h ⊢
          rw [htimer, hcreated, htimers]
          exact h
  | _ => exact Stilled.congr h htimer htimers

section

variable [StatsRuntime F] (percents : Percents F)

theorem Stilled.runTimer {s : StatsThreads F} (h : s.Stilled) (i : ℕ) (now : F) :
    (s.runTimer percents i now).Stilled ∧
      (s.runTimer percents i now).collector = s.collector := by
  have hquiet := h.quiet i
  cases hpoint : (s.timers i).point with
  | created =>
      simp only [StatsThreads.runTimer, hpoint, and_true]
      exact h
  | waiting =>
      rw [hpoint] at hquiet
      have hfinished : (s.timers i).finished = true := hquiet
      simp only [StatsThreads.runTimer, hpoint, hfinished, if_true]
      exact ⟨h.returns i, rfl⟩
  | printing =>
      rw [hpoint] at hquiet
      exact absurd hquiet id
  | scheduling point =>
      rw [hpoint] at hquiet
      cases hstep : s.schedule point with
      | error e =>
          simp only [StatsThreads.runTimer, hpoint, hstep]
          exact ⟨h.setPoint trivial, rfl⟩
      | ok result =>
          obtain ⟨s', next⟩ := result
          obtain ⟨hstilled, hcollector, hnext⟩ := h.schedule hquiet hstep
          cases next with
          | none =>
              simp only [StatsThreads.runTimer, hpoint, hstep]
              exact ⟨hstilled.returns i, hcollector⟩
          | some point' =>
              simp only [StatsThreads.runTimer, hpoint, hstep]
              exact ⟨hstilled.setPoint (hnext point' rfl), hcollector⟩
  | ended =>
      simp only [StatsThreads.runTimer, hpoint, and_true]
      exact h

/-! ## Runs -/

theorem runTimer_keeps (s : StatsThreads F) (i : ℕ) (now : F) :
    (s.runTimer percents i now).main = s.main ∧
      s.created ≤ (s.runTimer percents i now).created := by
  fun_cases runTimer percents s i now with
  | case6 point hpoint s' point' hstep =>
      have hkeeps := schedule_keeps hstep
      exact hkeeps
  | case7 point hpoint s' hstep =>
      have hkeeps := schedule_keeps hstep
      exact hkeeps
  | _ => exact ⟨rfl, le_rfl⟩

theorem runTimer_of_fresh {s : StatsThreads F} {i : ℕ} (h : s.timers i = {}) (now : F) :
    s.runTimer percents i now = s := by
  simp only [runTimer, h]

theorem Holds.runTimer {s : StatsThreads F} {point : MainPoint} (h : s.Holds point) (i : ℕ)
    (now : F) : (s.runTimer percents i now).Holds point := by
  cases point with
  | idle =>
      rw [runTimer_of_fresh percents (h.2.2 i)]
      exact h
  | scheduling point =>
      cases point with
      | start m =>
          rw [runTimer_of_fresh percents (h.2.2.2 i)]
          exact h
      | _ =>
          rw [runTimer_of_fresh percents (h.2.2 i)]
          exact h
  | cancelling j =>
      obtain ⟨hj, k, hk⟩ := h
      exact ⟨hj.trans_le (runTimer_keeps percents s i now).2, hk.runTimer percents i now⟩
  | started =>
      obtain ⟨k, hk⟩ := h
      exact hk.runTimer percents i now
  | loading =>
      obtain ⟨k, hk⟩ := h
      exact hk.runTimer percents i now
  | _ => exact (Stilled.runTimer percents h i now).1

theorem Holds.runMain {s : StatsThreads F} (h : s.Holds s.main) (now : F)
    (htimely : s.TimelyStep (.main now)) :
    (s.runMain percents now).Holds (s.runMain percents now).main := by
  cases hpoint : s.main with
  | idle =>
      rw [hpoint] at h
      simp only [StatsThreads.runMain, hpoint]
      exact h
  | scheduling point =>
      rw [hpoint] at h
      cases point with
      | create =>
          obtain ⟨-, hcreated, hfresh⟩ := h
          simp only [StatsThreads.runMain, hpoint, schedule]
          exact ⟨congrArg some hcreated, congrArg Nat.succ hcreated, hfresh⟩
      | daemon =>
          obtain ⟨htimer, hcreated, hfresh⟩ := h
          simp only [StatsThreads.runMain, hpoint, schedule, htimer, hfresh 0, if_true]
          exact ⟨rfl, hcreated, hfresh⟩
      | load =>
          obtain ⟨htimer, hcreated, hfresh⟩ := h
          simp only [StatsThreads.runMain, hpoint, schedule, htimer]
          exact ⟨rfl, rfl, hcreated, hfresh⟩
      | start m =>
          obtain ⟨rfl, htimer, hcreated, hfresh⟩ := h
          simp only [StatsThreads.runMain, hpoint, schedule, hfresh 0, if_true]
          exact ⟨0, (Chained.first htimer hcreated hfresh).congr rfl rfl rfl⟩
  | started =>
      rw [hpoint] at h
      obtain ⟨k, hk⟩ := h
      obtain ⟨m, -, htimer⟩ := hk.exists_timer
      simp only [StatsThreads.runMain, hpoint, htimer, Option.isSome_some, if_true]
      exact ⟨k, hk.congr htimer.symm rfl rfl⟩
  | loading =>
      rw [hpoint] at h
      obtain ⟨k, hk⟩ := h
      obtain ⟨m, hm, htimer⟩ := hk.exists_timer
      simp only [StatsThreads.runMain, hpoint, htimer]
      exact ⟨hm, k, hk.congr htimer.symm rfl rfl⟩
  | cancelling j =>
      rw [hpoint] at h
      obtain ⟨hj, k, hk⟩ := h
      simp only [StatsThreads.runMain, hpoint]
      simp only [TimelyStep, hpoint] at htimely
      exact (hk.cancel hj htimely).congr rfl rfl
  | clearing =>
      rw [hpoint] at h
      simp only [StatsThreads.runMain, hpoint]
      exact ⟨h.quiet, nofun⟩
  | printing =>
      rw [hpoint] at h
      simp only [StatsThreads.runMain, hpoint]
      split
      · exact Stilled.congr h rfl rfl
      · exact Stilled.congr h rfl rfl
  | _ =>
      rw [hpoint] at h
      simp only [StatsThreads.runMain, hpoint]
      exact h

theorem Holds.act {s : StatsThreads F} (h : s.Holds s.main) (move : Move F)
    (htimely : s.TimelyStep move) : (s.act percents move).Holds (s.act percents move).main := by
  cases move with
  | main now => exact h.runMain percents now htimely
  | timer k now =>
      change Holds _ (s.runTimer percents k now).main
      rw [(runTimer_keeps percents s k now).1]
      exact h.runTimer percents k now
  | event event => exact h.congr rfl rfl rfl

/-- In a run whose cancellation is timely the invariant holds throughout. -/
theorem Holds.run {s : StatsThreads F} (h : s.Holds s.main) {moves : List (Move F)}
    (htimely : Timely percents s moves) :
    (s.run percents moves).Holds (s.run percents moves).main := by
  induction moves generalizing s with
  | nil => exact h
  | cons move moves ih => exact ih (h.act percents move htimely.1) htimely.2

theorem Stilled.act {s : StatsThreads F} (h : s.Stilled) (hstopped : s.main = .stopped)
    (move : Move F) :
    (s.act percents move).Stilled ∧ (s.act percents move).main = .stopped ∧
      (s.act percents move).collector.stream = s.collector.stream := by
  cases move with
  | main now =>
      have hsame : s.runMain percents now = s := by simp only [StatsThreads.runMain, hstopped]
      change (s.runMain percents now).Stilled ∧ (s.runMain percents now).main = .stopped ∧
        (s.runMain percents now).collector.stream = _
      rw [hsame]
      exact ⟨h, hstopped, rfl⟩
  | timer k now =>
      obtain ⟨hstilled, hcollector⟩ := h.runTimer percents k now
      refine ⟨hstilled, (runTimer_keeps percents s k now).1.trans hstopped, ?_⟩
      exact congrArg StatsCollector.stream hcollector
  | event event => exact ⟨h.congr rfl rfl, hstopped, s.collector.onEvents_stream [event]⟩

/-- What is written when `stop` has returned is all that is ever written. -/
theorem Stilled.run {s : StatsThreads F} (h : s.Stilled) (hstopped : s.main = .stopped)
    (moves : List (Move F)) :
    (s.run percents moves).Stilled ∧
      (s.run percents moves).collector.stream = s.collector.stream := by
  induction moves generalizing s with
  | nil => exact ⟨h, rfl⟩
  | cons move moves ih =>
      obtain ⟨hstilled, hstopped', hstream⟩ := h.act percents hstopped move
      obtain ⟨hstilled', hstream'⟩ := ih hstilled hstopped'
      exact ⟨hstilled', hstream'.trans hstream⟩

/-- In a run in which `stop` cancels a timer that has not fired, the record it prints is
the last one and no timer is pending when it has returned. -/
theorem stopped_final (pid : ℤ) (jsonMode : Bool) (moves : List (Move F))
    (htimely : Timely percents (init pid jsonMode) moves) :
    let s := (init pid jsonMode).run percents moves
    s.main = .stopped → ∀ later : List (Move F),
      (s.run percents later).collector.stream = s.collector.stream ∧
        ∀ k, ¬ (s.run percents later).Pending k := by
  intro s hstopped later
  have hinit : (init pid jsonMode : StatsThreads F).Holds .idle := ⟨rfl, rfl, fun _ => rfl⟩
  have hholds : s.Holds s.main := Holds.run percents hinit htimely
  rw [hstopped] at hholds
  obtain ⟨hstilled, hstream⟩ := Stilled.run percents hholds hstopped later
  exact ⟨hstream, hstilled.not_pending⟩

end

/-- `start` and then `stop`, while the timer waits. -/
theorem stopped_final_waiting :
    let s := (init 1 true : StatsThreads ℚ).run exactPercents (List.replicate 10 (.main 0))
    s.main = .stopped ∧ (s.run exactPercents [.timer 0 1, .timer 0 1]).collector.stream =
      s.collector.stream := by
  intro s
  have hstopped : s.main = .stopped := rfl
  have htimely : Timely exactPercents (init 1 true) (List.replicate 10 (.main 0)) := by
    refine ⟨trivial, trivial, trivial, trivial, trivial, trivial, trivial, ?_, trivial, trivial,
      trivial⟩
    rintro ⟨-, hfired⟩
    exact hfired rfl
  exact ⟨hstopped, (stopped_final exactPercents 1 true _ htimely hstopped _).1⟩

/-- `stop` comes while the timer's thread is about to print. -/
theorem exists_not_final :
    ∃ moves later : List (Move ℚ),
      let s := (init 1 true).run exactPercents moves
      s.main = .stopped ∧ (s.run exactPercents later).collector.stream ≠ s.collector.stream ∧
        (s.run exactPercents later).Pending 1 := by
  refine ⟨List.replicate 5 (.main 0) ++ .timer 0 1 :: List.replicate 5 (.main 1),
    List.replicate 5 (.timer 0 2), rfl, ?_, ?_⟩
  · intro h
    have hlength := congrArg List.length h
    exact absurd hlength (by decide)
  · exact ⟨rfl, rfl⟩

end StatsThreads

end Blocksnoop
