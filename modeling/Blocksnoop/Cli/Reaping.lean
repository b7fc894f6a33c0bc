import Blocksnoop.Cli.Main

/-!
# No orphaned target

The loop stops its target or waits for it, whatever its callbacks do.  The stages
of a run keep one of two facts: the target has been waited for, or the teardown
has come as far as its stage says.
-/

namespace Blocksnoop.Cli

open Blocksnoop.Support

/-! ## Marks -/

/-- How far the teardown has come when the mark is made. -/
def rank : Mark → ℕ
  | .began .stop => 1
  | .began (.stopPart _) => 1
  | .returned (.stopPart _) => 1
  | .raised (.stopPart _) => 1
  | .returned .stop => 2
  | .raised .stop => 2
  | .began (.onExit _) => 3
  | .returned (.onExit _) => 4
  | .raised (.onExit _) => 4
  | .began .stopChild => 5
  | .returned .stopChild => 6
  | _ => 0

/-- The marks of a teardown that has come no further than `k`. -/
def UpTo (k : ℕ) (l : List Mark) : Prop :=
  ∀ m ∈ l, rank m ≤ k

def StopRunning (l : List Mark) : Prop :=
  UpTo 1 l ∧ .began .stop ∈ l

/-- `stop` has ended and `on_exit` has not begun. -/
def StopEnded (l : List Mark) : Prop :=
  UpTo 2 l ∧ Ended .stop l

def ExitRunning (reason : String) (l : List Mark) : Prop :=
  UpTo 3 l ∧ Ended .stop l ∧ ∀ reason', .began (.onExit reason') ∈ l ↔ reason' = reason

/-- `on_exit` has ended if it was called, and `_stop_child` has not. -/
def ExitEnded (l : List Mark) : Prop :=
  UpTo 5 l ∧ Ended .stop l ∧
    ∀ reason, .began (.onExit reason) ∈ l → Ended (.onExit reason) l

def ChildStopped (l : List Mark) : Prop :=
  .returned .stopChild ∈ l

section

variable {l : List Mark} {m : Mark}

theorem UpTo.concat {k k' : ℕ} (h : UpTo k l) (hk : k ≤ k') (hm : rank m ≤ k') :
    UpTo k' (l ++ [m]) := by
  have hearlier : ∀ m' ∈ l, rank m' ≤ k' := fun m' hm' => (h m' hm').trans hk
  exact List.forall_mem_append.mpr ⟨hearlier, List.forall_mem_singleton.mpr hm⟩

theorem UpTo.not_mem {k : ℕ} (h : UpTo k l) (hm : k < rank m) : m ∉ l :=
  fun hmem => absurd (h m hmem) (by omega)

theorem Ended.concat {c : Call} (h : Ended c l) (m : Mark) : Ended c (l ++ [m]) := by
  rcases h with h | h
  · exact Or.inl (List.mem_append_left _ h)
  · exact Or.inr (List.mem_append_left _ h)

theorem ended_of_ending {c : Call} (hm : m = .returned c ∨ m = .raised c) :
    Ended c (l ++ [m]) := by
  rcases hm with rfl | rfl
  · exact Or.inl (by simp)
  · exact Or.inr (by simp)

/-! ### The phases in which a signal does no harm -/

theorem UpTo.not_reapPhase (h : UpTo 0 l) : ¬ ReapPhase l := by
  rintro (⟨hbegan, -⟩ | ⟨reason, hbegan, -⟩ | hreturned)
  · exact h.not_mem (by simp [rank]) hbegan
  · exact h.not_mem (by simp [rank]) hbegan
  · exact h.not_mem (by simp [rank]) hreturned

theorem StopEnded.not_reapPhase (h : StopEnded l) : ¬ ReapPhase l := by
  rintro (⟨-, hended⟩ | ⟨reason, hbegan, -⟩ | hreturned)
  · exact hended h.2
  · exact h.1.not_mem (by simp [rank]) hbegan
  · exact h.1.not_mem (by simp [rank]) hreturned

theorem ExitEnded.not_reapPhase (h : ExitEnded l) : ¬ ReapPhase l := by
  rintro (⟨-, hended⟩ | ⟨reason, hbegan, hended⟩ | hreturned)
  · exact hended h.2.1
  · exact hended (h.2.2 reason hbegan)
  · exact h.1.not_mem (by simp [rank]) hreturned

/-! ### The steps of the teardown -/

theorem UpTo.stopRunning (h : UpTo 0 l) : StopRunning (l ++ [.began .stop]) :=
  ⟨h.concat (by omega) le_rfl, by simp⟩

theorem StopRunning.concat (h : StopRunning l) (hm : rank m ≤ 1) : StopRunning (l ++ [m]) :=
  ⟨h.1.concat le_rfl hm, List.mem_append_left _ h.2⟩

theorem StopRunning.stopEnded (h : StopRunning l)
    (hm : m = .returned .stop ∨ m = .raised .stop) : StopEnded (l ++ [m]) := by
  refine ⟨h.1.concat (by omega) ?_, ended_of_ending hm⟩
  rcases hm with rfl | rfl
  · exact le_rfl
  · exact le_rfl

theorem StopEnded.exitRunning (h : StopEnded l) (reason : String) :
    ExitRunning reason (l ++ [.began (.onExit reason)]) := by
  refine ⟨h.1.concat (by omega) le_rfl, h.2.concat _, ?_⟩
  intro reason'
  have hnew : .began (.onExit reason') ∉ l := h.1.not_mem (show 2 < 3 by omega)
  simp [hnew]

theorem ExitRunning.signal {reason : String} (h : ExitRunning reason l) (signum : Signal) :
    ExitRunning reason (l ++ [.signal signum]) := by
  refine ⟨h.1.concat le_rfl (Nat.zero_le 3), h.2.1.concat _, ?_⟩
  intro reason'
  rw [← h.2.2 reason']
  simp

theorem ExitRunning.exitEnded {reason : String} (h : ExitRunning reason l)
    (hm : m = .returned (.onExit reason) ∨ m = .raised (.onExit reason)) :
    ExitEnded (l ++ [m]) := by
  refine ⟨h.1.concat (by omega) ?_, h.2.1.concat _, ?_⟩
  · rcases hm with rfl | rfl
    · exact Nat.le_succ 4
    · exact Nat.le_succ 4
  · intro reason' hmem
    obtain rfl : reason' = reason := by
      rw [← h.2.2 reason']
      rcases List.mem_append.mp hmem with hmem | hmem
      · exact hmem
      · rcases hm with rfl | rfl <;> simp at hmem
    exact ended_of_ending hm

theorem ExitEnded.began (h : ExitEnded l) : ExitEnded (l ++ [.began .stopChild]) := by
  refine ⟨h.1.concat le_rfl le_rfl, h.2.1.concat _, ?_⟩
  intro reason hmem
  refine (h.2.2 reason ?_).concat _
  simpa using hmem

end

/-! ## Worlds -/

section

variable {χ ι : Type}

/-- After the flag, the target has been waited for or the marks are as `P` says. -/
def Tracked (P : List Mark → Prop) (s : World χ ι) : Prop :=
  s.cleanedUp = true ∧ (Waited s.child ∨ P (marks s.history))

theorem Tracked.record {P R : List Mark → Prop} {s : World χ ι} {mark : Mark}
    (hs : Tracked P s) (h : ∀ l, P l → R (l ++ [mark])) : Tracked R (s.record mark) := by
  refine ⟨hs.1, hs.2.imp_right ?_⟩
  intro hP
  rw [marks_record]
  exact h _ hP

/-- Where the phase is not safe, a signal finds the target waited for. -/
theorem Tracked.signal {P : List Mark → Prop} {s : World χ ι} {signum : Signal}
    (hs : Tracked P s) (hP : ∀ l, P l → ¬ ReapPhase l)
    (hfine : s.record (.signal signum) ∈ fineAlong ι (@HarmlessToChild χ))
    (R : List Mark → Prop) : Tracked R (s.record (.signal signum)) := by
  refine ⟨hs.1, Or.inl ?_⟩
  rcases (record_mem_fineAlong.mp hfine).2 signum rfl with hflag | hwaited | hphase
  · exact absurd (hflag.symm.trans hs.1) Bool.false_ne_true
  · exact hwaited
  · exact hs.2.elim id fun h => absurd hphase (hP _ h)

variable [Environment χ ι]

theorem stable_tracked (P : List Mark → Prop) : Stable (Tracked (χ := χ) (ι := ι) P) := by
  refine Stable.of_advance ?_
  rintro s env schedule ⟨hflag, hs⟩
  refine ⟨by rw [World.advance_cleanedUp, hflag], ?_⟩
  rcases hs with hwaited | hP
  · exact Or.inl (hwaited.advance env schedule)
  · exact Or.inr (by rwa [World.advance_history])

theorem settled_tracked {fine : LowerSet (World χ ι)} {P : List Mark → Prop}
    (hP : ∀ l signum, P l → P (l ++ [.signal signum])) : Settled fine (Tracked P) where
  stable := stable_tracked P
  signal signum _ hs _ := hs.record fun l => hP l signum
  cleanedUp _ hs := hs.1

/-- The teardown has not begun. -/
def Before (s : World χ ι) : Prop :=
  s.cleanedUp = false ∧ UpTo 0 (marks s.history)

omit [Environment χ ι] in
theorem Before.record {s : World χ ι} {mark : Mark} (hs : Before s) (hmark : rank mark = 0) :
    Before (s.record mark) :=
  ⟨hs.1, by rw [marks_record]; exact hs.2.concat le_rfl hmark.le⟩

theorem stable_before : Stable (Before (χ := χ) (ι := ι)) := by
  refine Stable.of_advance ?_
  rintro s env schedule ⟨hflag, hmarks⟩
  refine ⟨by rw [World.advance_cleanedUp, hflag], ?_⟩
  rw [World.advance_history]
  exact hmarks

/-- How far the target is looked after in each stage of a run. -/
def reaping (χ ι : Type) [Environment χ ι] : Stages (fineAlong ι (@HarmlessToChild χ)) where
  Initial := Before
  Open := Before
  Due _ := Before
  Flagged _ := Tracked (UpTo 0)
  Stopped _ := Tracked StopEnded
  Exited := Tracked ExitEnded
  Final := Tracked ChildStopped
  Always _ := True
  initial_stable := stable_before
  open_stable := stable_before
  due_stable _ := stable_before
  flagged_stable _ := stable_tracked _
  stopped_stable _ := stable_tracked _
  exited_stable := stable_tracked _
  final_stable := stable_tracked _
  cleanedUp_of_due _ _ h := h.1
  cleanedUp_of_stopped _ _ h := h.1
  cleanedUp_of_exited _ h := h.1
  cleanedUp_of_final _ h := h.1
  always_of_initial _ _ := trivial
  always_of_open _ _ := trivial
  always_of_due _ _ _ := trivial
  always_of_flagged _ _ _ := trivial
  always_of_stopped _ _ _ := trivial
  always_of_exited _ _ := trivial
  always_of_final _ _ := trivial
  initial_signal _ _ h _ := h.record rfl
  open_signal _ _ h _ := h.record rfl
  due_signal _ _ _ h _ := h.record rfl
  flagged_signal _ _ _ h hfine :=
    ⟨h.signal (fun _ hl => hl.not_reapPhase) hfine _,
      h.signal (fun _ hl => hl.not_reapPhase) hfine _,
      h.signal (fun _ hl => hl.not_reapPhase) hfine _⟩
  stopped_signal _ _ _ h hfine :=
    ⟨h.signal (fun _ hl => hl.not_reapPhase) hfine _,
      h.signal (fun _ hl => hl.not_reapPhase) hfine _,
      h.signal (fun _ hl => hl.not_reapPhase) hfine _⟩
  exited_signal _ _ h hfine :=
    ⟨h.signal (fun _ hl => hl.not_reapPhase) hfine _,
      h.signal (fun _ hl => hl.not_reapPhase) hfine _⟩
  final_signal _ _ h _ := h.record fun _ hl => List.mem_append_left _ hl
  flagged_of_due _ _ h := ⟨rfl, Or.inr h.2⟩
  open_poll _ h := h
  due_poll _ _ h := h
  open_observed _ _ h _ _ := h.record rfl

/-! ## Unknown callbacks respect the stages -/

variable {handler : Handler χ ι} {s : World χ ι}

/-- `start` and the health checks leave an open run open. -/
theorem opening_spec {c : Call} (hbegan : rank (.began c) = 0) (hreturned : rank (.returned c) = 0)
    (hraised : rank (.raised c) = 0) (hhandler : (reaping χ ι).Handles handler)
    (hs : Before s) :
    wp (fineAlong ι (@HarmlessToChild χ)) (call c (unknown handler))
      ((reaping χ ι).ends (fun _ => Before) fun _ s' => Before s' ∨ Tracked ChildStopped s') s := by
  refine wp_call (fun _ => Stages.unknown_open hhandler (hs.record hbegan)) ?_ ?_
  · intro _ s' hs' _
    exact hs'.record hreturned
  · rintro e s' (hs' | hs') _
    · exact Or.inl (hs'.record hraised)
    · exact Or.inr (hs'.record fun _ hl => List.mem_append_left _ hl)

theorem stopCallback_spec (parts : ℕ) (hhandler : (reaping χ ι).Handles handler)
    (hs : Tracked (UpTo 0) s) :
    wp (fineAlong ι (@HarmlessToChild χ))
      (call .stop ((unknownCallbacks χ ι parts).stop handler))
      ((reaping χ ι).ends (fun _ => Tracked StopEnded) fun _ => Tracked StopEnded) s := by
  have hsettled : Settled (fineAlong ι (@HarmlessToChild χ)) (Tracked (ι := ι) StopRunning) :=
    settled_tracked fun _ _ hl => hl.concat (Nat.zero_le 1)
  have hpart : ∀ part ∈ List.replicate parts (unknown (χ := χ) (ι := ι)),
      ∀ s, Tracked StopRunning s →
        wp (fineAlong ι (@HarmlessToChild χ)) (part handler)
          ((reaping χ ι).ends (fun _ => Tracked StopRunning) fun _ => Tracked StopRunning) s := by
    intro part hmem s hs
    obtain ⟨-, rfl⟩ := List.mem_replicate.mp hmem
    exact Stages.unknown_settled hhandler hsettled (fun _ _ => trivial) hs
  have hrecord : ∀ i s, Tracked (χ := χ) (ι := ι) StopRunning s →
      Tracked StopRunning (s.record (.began (.stopPart i))) ∧
        Tracked StopRunning (s.record (.returned (.stopPart i))) ∧
        Tracked StopRunning (s.record (.raised (.stopPart i))) := by
    intro i s hs
    exact ⟨hs.record fun _ hl => hl.concat le_rfl, hs.record fun _ hl => hl.concat le_rfl,
      hs.record fun _ hl => hl.concat le_rfl⟩
  have hbegan : Tracked StopRunning (s.record (.began .stop)) :=
    hs.record fun _ hl => hl.stopRunning
  refine wp_call (fun _ => (Stages.ticks_settled hhandler hsettled
    fun _ _ => trivial).stopParts_spec hrecord hpart 0 hbegan) ?_ ?_
  · intro _ s' hs' _
    exact hs'.record fun _ hl => hl.stopEnded (Or.inl rfl)
  · intro e s' hs' _
    exact hs'.record fun _ hl => hl.stopEnded (Or.inr rfl)

theorem exitCallback_spec (reason : String) (hhandler : (reaping χ ι).Handles handler)
    (hs : Tracked StopEnded s) :
    wp (fineAlong ι (@HarmlessToChild χ)) (call (.onExit reason) (unknown handler))
      ((reaping χ ι).ends (fun _ => Tracked ExitEnded) fun _ => Tracked ExitEnded) s := by
  have hsettled : Settled (fineAlong ι (@HarmlessToChild χ))
      (Tracked (ι := ι) (ExitRunning reason)) :=
    settled_tracked fun _ signum hl => hl.signal signum
  have hbegan : Tracked (ExitRunning reason) (s.record (.began (.onExit reason))) :=
    hs.record fun _ hl => hl.exitRunning reason
  refine wp_call (fun _ => Stages.unknown_settled hhandler hsettled
    (fun _ _ => trivial) hbegan) ?_ ?_
  · intro _ s' hs' _
    exact hs'.record fun _ hl => hl.exitEnded (Or.inl rfl)
  · intro e s' hs' _
    exact hs'.record fun _ hl => hl.exitEnded (Or.inr rfl)

theorem reaping_exitEnded : (reaping χ ι).Reaping (Tracked ExitEnded) where
  stable := stable_tracked _
  polled _ h := ⟨h.1, h.2.imp_left Waited.poll⟩
  signal _ _ h hfine := h.signal (fun _ hl => hl.not_reapPhase) hfine _
  always _ _ := trivial

theorem unknownCallbacks_reap (parts : ℕ) :
    Respects (reaping χ ι) (unknownCallbacks χ ι parts) where
  start _ hhandler _ hs := opening_spec rfl rfl rfl hhandler hs
  checkHealth _ hhandler _ hs := opening_spec rfl rfl rfl hhandler hs
  stop _ _ hhandler _ hs := stopCallback_spec parts hhandler hs
  onExit reason _ hhandler _ hs := exitCallback_spec reason hhandler hs
  stopChild _ hhandler s hs :=
    reaping_exitEnded.stopChild_spec hhandler (fun _ => hs.record fun _ hl => hl.began)
      (fun _ h _ => h.record fun _ _ => by simp [ChildStopped])
      (fun _ h _ => h.record fun _ hl => List.mem_append_left _ hl)

/-! ## The steps before the loop -/

/-- Nothing has been torn down and nobody has waited for the target. -/
def Fresh (s : World χ ι) : Prop :=
  Before s ∧ Unwaited s.child

omit [Environment χ ι] in
theorem Fresh.record {mark : Mark} (hs : Fresh s) (hmark : rank mark = 0) :
    Fresh (s.record mark) :=
  ⟨hs.1.record hmark, hs.2⟩

omit [Environment χ ι] in
theorem Fresh.not_childHandled (hs : Fresh s) : ¬ ChildHandled s := by
  rintro (hwaited | hstopped)
  · exact hs.2.not_waited hwaited
  · exact hs.1.2.not_mem (by simp [rank]) hstopped

theorem Fresh.advance {entry : Entry ι} {rest : List (Entry ι)} (hs : Fresh s)
    (hschedule : s.schedule = entry :: rest) : Fresh (s.advance entry.env rest) :=
  ⟨stable_before s entry rest hschedule hs.1, hs.2.advance entry.env rest⟩

/-- The first `n` steps of the schedule return. -/
def Return (n : ℕ) (schedule : List (Entry ι)) : Prop :=
  ∀ entry ∈ schedule.take n, entry.behaviour.2 = none

omit [Environment χ ι] in
theorem return_cons {n : ℕ} {entry : Entry ι} {rest : List (Entry ι)} :
    Return (n + 1) (entry :: rest) ↔ entry.behaviour.2 = none ∧ Return n rest := by
  simp [Return]

theorem construct_spec {fine : LowerSet (World χ ι)} (step : Construction) (hs : Fresh s)
    {Q : Post (World χ ι) PyException Unit}
    (hpaused : ∀ s', Q.paused s')
    (hok : ∀ entry s', s.schedule = entry :: s'.schedule → entry.behaviour.2 = none →
      Fresh s' → Q.ok () s')
    (hraised : ∀ entry s' e, s.schedule = entry :: s'.schedule → entry.behaviour.2 ≠ none →
      Fresh s' → Q.raised e s') :
    wp fine (construct step) Q s := by
  refine wp_modify_bind fun _ => ?_
  have hbegan : Fresh (s.record (.began (.construct step))) := hs.record rfl
  refine wp_tryElse (wp_bind (wp_interruptible (fun _ => hpaused _) ?_ ?_))
  · intro s₁ behaviour hoffer
    unfold World.offerQuiet at hoffer
    split at hoffer
    · cases hoffer
    · rename_i entry rest hschedule
      obtain ⟨rfl, rfl⟩ : _ ∧ _ := by simpa using hoffer
      have hadvance := hbegan.advance hschedule
      have hnext : ∀ mark, s.schedule = entry ::
          (((s.record (.began (.construct step))).advance entry.env rest).record mark).schedule :=
        fun _ => hschedule
      dsimp only
      cases hbehaviour : entry.behaviour.2 with
      | none =>
          refine wp_pure ?_
          refine wp_modify_bind fun _ => wp_pure ?_
          exact hok entry _ (hnext _) hbehaviour (hadvance.record rfl)
      | some e =>
          refine wp_raise ?_
          refine wp_modify_bind fun _ => wp_raise ?_
          exact hraised entry _ e (hnext _) (by simp [hbehaviour]) (hadvance.record rfl)
  · intro s₁ interrupt
    exact nomatch interrupt

/-- The constructions succeed exactly when their steps return. -/
theorem constructAll_spec {fine : LowerSet (World χ ι)} (steps : List Construction)
    (hs : Fresh s) :
    wp fine (constructAll steps)
      { ok := fun _ s' => Return steps.length s.schedule ∧
          s'.schedule = s.schedule.drop steps.length ∧ Fresh s'
        raised := fun _ s' => ¬ Return steps.length s.schedule ∧ Fresh s'
        paused := fun _ => True } s := by
  induction steps generalizing s with
  | nil => exact wp_pure ⟨by simp [Return], rfl, hs⟩
  | cons step rest ih =>
      refine wp_bind (construct_spec step hs (fun _ => trivial) ?_ ?_)
      · intro entry s₁ hschedule hbehaviour hs₁
        have hiff : Return (step :: rest).length s.schedule ↔
            Return rest.length s₁.schedule := by
          rw [hschedule, List.length_cons, return_cons]
          exact and_iff_right hbehaviour
        have hdrop : s.schedule.drop (step :: rest).length = s₁.schedule.drop rest.length := by
          rw [hschedule, List.length_cons, List.drop_succ_cons]
        rw [hiff, hdrop]
        exact ih hs₁
      · intro entry s₁ e hschedule hbehaviour hs₁
        refine ⟨?_, hs₁⟩
        rw [hschedule, List.length_cons, return_cons]
        exact fun h => hbehaviour h.1

/-- The components that are built before the loop. -/
def constructions (stats : Bool) : List Construction :=
  if stats then statsConstructions else normalConstructions

/-! ## The steps before the handlers -/

/-- No signal arrives in the first `n` steps of the schedule. -/
def Silent (n : ℕ) (schedule : List (Entry ι)) : Prop :=
  ∀ entry ∈ schedule.take n, entry.signal = none

omit [Environment χ ι] in
theorem silent_cons {n : ℕ} {entry : Entry ι} {rest : List (Entry ι)} :
    Silent (n + 1) (entry :: rest) ↔ entry.signal = none ∧ Silent n rest := by
  simp [Silent]

theorem stable_fresh : Stable (Fresh (χ := χ) (ι := ι)) :=
  fun _ _ _ hschedule hs => hs.advance hschedule

/-- What signals and the rest of the world keep, the previous handlers keep. -/
theorem tick_previous {fine : LowerSet (World χ ι)} {P : World χ ι → Prop} (hP : Stable P)
    (hsignal : ∀ signum s, P s → P (s.record (.signal signum))) (hs : P s) :
    wp fine (tick previousHandler)
      { ok := fun _ => P
        raised := fun _ => P
        paused := fun _ => True } s := by
  refine wp_tick hP hs trivial (fun _ _ hs' => hs') ?_
  intro signum s' _ hs' _
  cases signum with
  | sigint => exact wp_raise (hsignal .sigint s' hs')
  | sigterm => exact wp_pause trivial

theorem ticks_previous {fine : LowerSet (World χ ι)} {P : World χ ι → Prop} (hP : Stable P)
    (hsignal : ∀ signum s, P s → P (s.record (.signal signum))) (n : ℕ) (hs : P s) :
    wp fine (ticks previousHandler n)
      { ok := fun _ => P
        raised := fun _ => P
        paused := fun _ => True } s := by
  induction n generalizing s with
  | zero => exact wp_pure hs
  | succ n ih =>
      exact wp_bind ((tick_previous hP hsignal hs).mono (fun _ _ _ hs' => ih hs')
        (fun _ _ _ hs' => hs') fun _ _ _ => trivial)

/-- Before the handlers a signal leads out of the loop, and the target stays as it is. -/
theorem tick_fresh {fine : LowerSet (World χ ι)} (hs : Fresh s) :
    wp fine (tick previousHandler)
      { ok := fun _ s' => (∀ n, Silent (n + 1) s.schedule ↔ Silent n s'.schedule) ∧ Fresh s'
        raised := fun _ s' => (∀ n, ¬ Silent (n + 1) s.schedule) ∧ Fresh s'
        paused := fun _ => True } s := by
  refine wp_tick_entry trivial ?_ ?_
  · intro entry rest hschedule hquiet
    refine ⟨fun n => ?_, hs.advance hschedule⟩
    rw [hschedule, silent_cons]
    exact and_iff_right hquiet
  · intro entry rest signum hschedule hsome _
    have hloud : ∀ n, ¬ Silent (n + 1) s.schedule := by
      intro n hsilent
      rw [hschedule, silent_cons, hsome] at hsilent
      cases hsilent.1
    cases signum with
    | sigint => exact wp_raise ⟨hloud, (hs.advance hschedule).record rfl⟩
    | sigterm => exact wp_pause trivial

/-- The child has been stopped, or waited for behind the flag. -/
theorem settled_childStopped :
    Settled (fineAlong ι (@HarmlessToChild χ)) (Tracked (ι := ι) ChildStopped) :=
  settled_tracked fun _ _ hl => List.mem_append_left _ hl

omit [Environment χ ι] in
theorem record_childStopped (signum : Signal) (s : World χ ι) (hs : Tracked ChildStopped s) :
    Tracked ChildStopped (s.record (.signal signum)) :=
  hs.record fun _ hl => List.mem_append_left _ hl

/-- Once the child is looked after, putting the previous handlers back leaves it so. -/
theorem restore_childStopped {silent : Prop} {e : PyException}
    (hhandler : (reaping χ ι).Handles handler) (hsilent : silent) (hs : Tracked ChildStopped s) :
    wp (fineAlong ι (@HarmlessToChild χ))
      (do
        let _ ← tick (sigintHandler handler)
        ticks previousHandler 1
        Prog.raise e : Main χ ι Behaviour)
      { ok := fun _ _ => False
        raised := fun _ s' => silent ↔ ChildHandled s'
        paused := fun _ => True } s := by
  have hout : ∀ s', Tracked ChildStopped s' → (silent ↔ ChildHandled (χ := χ) (ι := ι) s') :=
    fun s' hs' => iff_of_true hsilent hs'.2
  refine wp_bind (wp_tick settled_childStopped.stable hs trivial ?_ ?_)
  · intro _ s₁ hs₁
    exact wp_bind ((ticks_previous (stable_tracked _) record_childStopped 1 hs₁).mono
      (fun _ s' _ hs' => wp_raise (hout s' hs')) (fun _ s' _ hs' => hout s' hs')
      fun _ _ _ => trivial)
  · intro signum s₁ _ hs₁ _
    cases signum with
    | sigterm => exact wp_pause trivial
    | sigint =>
        exact (hhandler.idle _ settled_childStopped .sigint _
          (record_childStopped .sigint s₁ hs₁)).mono (fun _ _ _ h => h.elim)
          (fun _ s' _ h => hout s' h.2) fun _ _ _ => trivial

/-- The handlers get installed exactly when no signal arrives before the first of them; the
signal that the first one handles ends the run as any later one does. -/
theorem installHandlers_spec (hhandler : (reaping χ ι).Handles handler) (hs : Fresh s) :
    wp (fineAlong ι (@HarmlessToChild χ)) (installHandlers handler)
      { ok := fun _ s' => Silent 2 s.schedule ∧ Before s'
        raised := fun _ s' => Silent 2 s.schedule ↔ ChildHandled s'
        paused := fun _ => True } s := by
  refine wp_bind ((tick_fresh hs).mono ?_ ?_ fun _ _ _ => trivial)
  · rintro _ s₁ - ⟨hfirst, hs₁⟩
    rw [hfirst 1]
    refine wp_bind (wp_tryCatch ((tick_fresh hs₁).mono ?_ ?_ fun _ _ _ => trivial))
    · rintro _ s₂ - ⟨hsecond, hs₂⟩
      have hsilent : Silent 1 s₁.schedule := (hsecond 0).mpr (by simp [Silent])
      refine wp_bind (wp_tryCatch (wp_tick stable_before hs₂.1 trivial ?_ ?_))
      · exact fun _ s₃ hs₃ => wp_pure ⟨hsilent, hs₃⟩
      · intro signum s₃ _ hs₃ hfine
        cases signum with
        | sigterm => exact wp_pause trivial
        | sigint =>
            have hdue : Before (s₃.record (.signal .sigint)) := hs₃.record rfl
            refine (hhandler.teardown .sigint _ hdue).mono (fun _ _ _ h => h.elim) ?_
              fun _ _ _ => trivial
            intro e s₄ _ hs₄
            exact (restore_childStopped hhandler hsilent hs₄).mono (fun _ _ _ h => h.elim)
              (fun _ _ _ h => h) fun _ _ _ => trivial
    · rintro e s₂ - ⟨hloud, hs₂⟩
      have hout : ∀ s', Fresh s' → (Silent 1 s₁.schedule ↔ ChildHandled (χ := χ) (ι := ι) s') :=
        fun s' hs' => iff_of_false (hloud 0) hs'.not_childHandled
      exact wp_bind ((ticks_previous stable_fresh (fun _ _ h => h.record rfl) 2 hs₂).mono
        (fun _ s' _ hs' => wp_raise (hout s' hs')) (fun _ s' _ hs' => hout s' hs')
        fun _ _ _ => trivial)
  · rintro e s₁ - ⟨hloud, hs₁⟩
    exact iff_of_false (hloud 1) hs₁.not_childHandled

/-! ## The target of a command that has ended -/

/-- A run of the loop from its first line handles its child exactly when no signal comes
before the handlers. -/
theorem runLoopFromEntry_spec (parts : ℕ) (hs : Fresh s) :
    wp (fineAlong ι (@HarmlessToChild χ)) (runLoopFromEntry (unknownCallbacks χ ι parts))
      { ok := fun _ s' => Silent 2 s.schedule ∧ ChildHandled s'
        raised := fun _ s' => Silent 2 s.schedule ↔ ChildHandled s'
        paused := fun _ => True } s := by
  have hcallbacks := unknownCallbacks_reap (χ := χ) (ι := ι) parts
  refine wp_get_bind (wp_bind ((installHandlers_spec
    (hcallbacks.handles_shutdown s.schedule.length) hs).mono ?_ (fun _ _ _ h => h)
    fun _ _ _ => trivial))
  rintro _ s₁ - ⟨hsilent, hs₁⟩
  refine wp_bind ((hcallbacks.runLoop_spec hs₁).mono ?_ ?_ fun _ _ _ => trivial)
  · rintro returncode s₂ - ⟨hs₂, -⟩
    refine wp_bind ((tick_previous (stable_tracked _) record_childStopped hs₂).mono ?_ ?_
      fun _ _ _ => trivial)
    · exact fun _ s₃ _ hs₃ => wp_pure ⟨hsilent, hs₃.2⟩
    · exact fun _ s₃ _ hs₃ => iff_of_true hsilent hs₃.2
  · exact fun _ s₂ _ hs₂ => iff_of_true hsilent hs₂.2

/-- What the schedule says of the steps before the handlers: `n` constructions, which return,
and the first two steps of the loop, in which no signal arrives. -/
def Reached (n : ℕ) (schedule : List (Entry ι)) : Prop :=
  Return n schedule ∧ Silent 2 (schedule.drop n)

/-- A run of the pipeline handles its child exactly when it gets to its handlers. -/
theorem pipeline_spec (parts : ℕ) (steps : List Construction) (hs : Fresh s) :
    wp (fineAlong ι (@HarmlessToChild χ))
      (do
        constructAll steps
        runLoopFromEntry (unknownCallbacks χ ι parts))
      { ok := fun _ s' => Reached steps.length s.schedule ∧ ChildHandled s'
        raised := fun _ s' => Reached steps.length s.schedule ↔ ChildHandled s'
        paused := fun _ => True } s := by
  refine wp_bind ((constructAll_spec steps hs).mono ?_ ?_ ?_)
  · rintro _ s₁ - ⟨hreturn, hschedule, hs₁⟩
    have hreached : Reached steps.length s.schedule ↔ Silent 2 s₁.schedule := by
      rw [hschedule]
      exact and_iff_right hreturn
    rw [hreached]
    exact runLoopFromEntry_spec parts hs₁
  · rintro e s₁ - ⟨hraise, hs₁⟩
    exact iff_of_false (fun hreached => hraise hreached.1) hs₁.not_childHandled
  · exact fun _ _ _ => trivial

theorem main_spec (parts : ℕ) (stats : Bool) (policyFailed : χ → Bool) (hs : Fresh s) :
    wp (fineAlong ι (@HarmlessToChild χ)) (main stats policyFailed (unknownCallbacks χ ι parts))
      { ok := fun _ s' => Reached (constructions stats).length s.schedule ↔ ChildHandled s'
        raised := fun _ s' => Reached (constructions stats).length s.schedule ↔ ChildHandled s'
        paused := fun _ => True } s := by
  have hrun : (if stats then runStats (unknownCallbacks χ ι parts)
      else runNormal (unknownCallbacks χ ι parts)) =
      (do
        constructAll (constructions stats)
        runLoopFromEntry (unknownCallbacks χ ι parts)) := by
    cases stats
    · rfl
    · rfl
  unfold main
  rw [hrun]
  refine wp_bind (wp_tryCatch ((pipeline_spec parts (constructions stats) hs).mono ?_ ?_
    (fun _ _ _ => trivial)))
  · rintro returncode s₁ - ⟨hreached, hhandled⟩
    refine wp_get_bind ?_
    have hiff := iff_of_true hreached hhandled
    split
    · exact wp_raise hiff
    · split
      · exact wp_raise hiff
      · exact wp_pure hiff
  · intro e s₁ _ hiff
    dsimp only
    split
    · exact wp_raise hiff
    · exact wp_raise hiff

/-- When the signals that the loop handles do no harm, a run of the command that ends has
handled its child if and only if every construction step before the loop returned and no
signal arrived in the loop before its handler of `SIGINT` was installed. -/
theorem main_childHandled_iff (parts : ℕ) (stats : Bool) (policyFailed : χ → Bool)
    (s : World χ ι) (hflag : s.cleanedUp = false) (hhistory : s.history = [])
    (hlaunched : Unwaited s.child)
    (hended : ((main stats policyFailed (unknownCallbacks χ ι parts)).run s).1.ended = true)
    (hharmless : Along HarmlessToChild
      ((main stats policyFailed (unknownCallbacks χ ι parts)).run s).2.history) :
    ChildHandled ((main stats policyFailed (unknownCallbacks χ ι parts)).run s).2 ↔
      (∀ entry ∈ s.schedule.take (constructions stats).length, entry.behaviour.2 = none) ∧
        ∀ entry ∈ (s.schedule.drop (constructions stats).length).take 2,
          entry.signal = none := by
  have hfresh : Fresh s := by
    refine ⟨⟨hflag, ?_⟩, hlaunched⟩
    rw [hhistory]
    intro m hm
    exact absurd hm List.not_mem_nil
  have hspec := main_spec parts stats policyFailed hfresh hharmless
  revert hended hspec
  rcases (main stats policyFailed (unknownCallbacks χ ι parts)).run s with ⟨outcome, s'⟩
  intro hended hspec
  cases outcome with
  | ok => exact hspec.symm
  | raised e => exact hspec.symm
  | paused => exact absurd hended Bool.false_ne_true

end

/-- A running target, and a signal at the `n`-th step of the command. -/
def launchedAt (n : ℕ) : World Unit Empty where
  inner := ()
  child := some {}
  schedule := List.replicate n {} ++ { signal := some .sigterm } :: List.replicate 24 {}

theorem main_childHandled_iff_poll :
    ChildHandled ((main false (fun _ => false) (unknownCallbacks Unit Empty 2)).run
      (launchedAt 10)).2 ↔
      (∀ entry ∈ (launchedAt 10).schedule.take (constructions false).length,
          entry.behaviour.2 = none) ∧
        ∀ entry ∈ ((launchedAt 10).schedule.drop (constructions false).length).take 2,
          entry.signal = none := by
  refine main_childHandled_iff 2 false (fun _ => false) (launchedAt 10) rfl rfl
    ⟨{}, rfl, rfl⟩ (by decide) ?_
  refine along_of_signals (fun event => !event.cleanedUp) ?_ (by decide)
  intro before event hflag signum hsignum
  exact Or.inl (by simpa using hflag signum hsignum)

/-- The log file cannot be opened: the command ends without a signal, and nobody
stops the target or waits for it. -/
theorem exists_not_childHandled :
    ∃ s : World Unit Empty, s.cleanedUp = false ∧ s.history = [] ∧ Unwaited s.child ∧
      ((main false (fun _ => false) (unknownCallbacks Unit Empty 2)).run s).1.ended = true ∧
      (∀ entry ∈ s.schedule, entry.signal = none) ∧
      ¬ ChildHandled ((main false (fun _ => false) (unknownCallbacks Unit Empty 2)).run s).2 := by
  have hunwaited : Unwaited (some { : Child }) := ⟨{}, rfl, rfl⟩
  refine ⟨{ inner := (), child := some {}
            schedule := [{ behaviour := (0, some (.other "FileNotFoundError")) }] },
    rfl, rfl, hunwaited, by decide, by decide, ?_⟩
  rintro (hwaited | hstopped)
  · exact hunwaited.not_waited hwaited
  · revert hstopped
    decide

end Blocksnoop.Cli
