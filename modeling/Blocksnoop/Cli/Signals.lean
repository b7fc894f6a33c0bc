import Blocksnoop.Cli.Teardown

/-!
# Teardown under signals

What the loop owes its caller once it has ended: `stop` was started once and
reached all its parts, `on_exit` was called once after it, and the child was
stopped.  A signal can spoil this only while a step of the teardown is due that
nobody else will take: between the flag and the last part of `stop`, between
`stop` and `on_exit`, and between `on_exit` and the end of `_stop_child`.
-/

namespace Blocksnoop.Cli

open Blocksnoop.Support

/-! ## Marks -/

def isExitBegan : Mark → Bool
  | .began (.onExit _) => true
  | _ => false

/-- The marks of a part of `stop`, or of a signal. -/
def isPart : Mark → Bool
  | .began (.stopPart _) => true
  | .returned (.stopPart _) => true
  | .raised (.stopPart _) => true
  | m => isSignal m

/-- The marks of `start`, of the health checks and of signals. -/
def isPrelude : Mark → Bool
  | .began .start => true
  | .returned .start => true
  | .raised .start => true
  | .began .checkHealth => true
  | .returned .checkHealth => true
  | .raised .checkHealth => true
  | .observed _ => true
  | m => isSignal m

/-- The marks after the child has been stopped: calls that the handler cut short
end, and signals arrive. -/
def isLate : Mark → Bool
  | .raised .stopChild => true
  | m => isPrelude m

theorem isLate_of_isPrelude {m : Mark} (h : isPrelude m = true) : isLate m = true := by
  unfold isLate
  split
  · rfl
  · exact h

theorem isPart_of_isSignal {m : Mark} (h : isSignal m = true) : isPart m = true := by
  cases m with
  | signal signum => rfl
  | began c => cases h
  | returned c => cases h
  | raised c => cases h
  | observed returncode => cases h
  | deadlocked => cases h

/-- What the loop owes its caller. -/
structure TornDown (parts : ℕ) (l : List Mark) : Prop where
  stopOnce : l.count (.began .stop) = 1
  /-- Every part of `stop` was called, unless one before it raised on its own. -/
  partsCalled : ∀ i < parts, .began (.stopPart i) ∈ l ∨
    ∃ j < i, [.began (.stopPart j), .raised (.stopPart j)] <:+: l
  exitOnce : l.countP isExitBegan = 1
  exitAfterStop : ∃ before reason after,
    l = before ++ .began (.onExit reason) :: after ∧ Ended .stop before
  childStopped : .returned .stopChild ∈ l

/-- The teardown is under way and a signal does not harm it: the last part of
`stop` has begun, or `on_exit` is running, or the child has been stopped. -/
def SafePhase (last : ℕ) (l : List Mark) : Prop :=
  (.began (.stopPart last) ∈ l ∧ ¬ Ended .stop l) ∨
    (∃ reason, .began (.onExit reason) ∈ l ∧ ¬ Ended (.onExit reason) l) ∨
    .returned .stopChild ∈ l

/-- A signal arrives before the flag is set or in a safe phase. -/
def Harmless {χ : Type} (last : ℕ) (before : List (Event χ)) (event : Event χ) : Prop :=
  ∀ signum, event.mark = .signal signum →
    event.cleanedUp = false ∨ SafePhase last (marks before)

/-! ## The marks of a run, stage by stage -/

/-- `stop` has ended: its parts were called in turn. -/
def StopMarks (last : ℕ) (l : List Mark) : Prop :=
  ∃ prelude parts ending, l = prelude ++ .began .stop :: (parts ++ [ending]) ∧
    (∀ m ∈ prelude, isPrelude m = true) ∧ (∀ m ∈ parts, isPart m = true) ∧
    (∀ i ≤ last, .began (.stopPart i) ∈ parts ∨
      ∃ j < i, [.began (.stopPart j), .raised (.stopPart j)] <:+: parts) ∧
    (ending = .returned .stop ∨ ending = .raised .stop)

/-- `on_exit` has ended. -/
def ExitMarks (last : ℕ) (l : List Mark) : Prop :=
  ∃ stopped reason signals ending, StopMarks last stopped ∧
    l = stopped ++ .began (.onExit reason) :: (signals ++ [ending]) ∧
    (∀ m ∈ signals, isSignal m = true) ∧
    (ending = .returned (.onExit reason) ∨ ending = .raised (.onExit reason))

/-- The child has been stopped. -/
def FinalMarks (last : ℕ) (l : List Mark) : Prop :=
  ∃ exited after, ExitMarks last exited ∧
    l = exited ++ .began .stopChild :: .returned .stopChild :: after ∧
    ∀ m ∈ after, isLate m = true

section

variable {last : ℕ} {l : List Mark}

/-- The marks up to the end of `stop`. -/
def isUpToStop : Mark → Bool
  | .began .stop => true
  | .returned .stop => true
  | .raised .stop => true
  | m => isPrelude m || isPart m

theorem isUpToStop_of_isPrelude {m : Mark} (h : isPrelude m = true) :
    isUpToStop m = true := by
  unfold isUpToStop
  split <;> simp [h]

theorem isUpToStop_of_isPart {m : Mark} (h : isPart m = true) : isUpToStop m = true := by
  unfold isUpToStop
  split <;> simp [h]

theorem StopMarks.isUpToStop (h : StopMarks last l) {m : Mark} (hm : m ∈ l) :
    isUpToStop m = true := by
  obtain ⟨prelude, parts, ending, rfl, hprelude, hparts, -, hending⟩ := h
  simp only [List.mem_append, List.mem_cons, List.not_mem_nil, or_false] at hm
  rcases hm with hm | rfl | hm | rfl
  · exact isUpToStop_of_isPrelude (hprelude m hm)
  · rfl
  · exact isUpToStop_of_isPart (hparts m hm)
  · rcases hending with rfl | rfl <;> rfl

theorem StopMarks.ended (h : StopMarks last l) : Ended .stop l := by
  obtain ⟨prelude, parts, ending, rfl, -, -, -, hending⟩ := h
  rcases hending with rfl | rfl
  · exact Or.inl (by simp)
  · exact Or.inr (by simp)

theorem not_safePhase_of_isPrelude (h : ∀ m ∈ l, isPrelude m = true) :
    ¬ SafePhase last l := by
  rintro (⟨hbegan, -⟩ | ⟨reason, hbegan, -⟩ | hreturned)
  · exact Bool.false_ne_true (h _ hbegan)
  · exact Bool.false_ne_true (h _ hbegan)
  · exact Bool.false_ne_true (h _ hreturned)

theorem StopMarks.not_safePhase (h : StopMarks last l) : ¬ SafePhase last l := by
  rintro (⟨-, hended⟩ | ⟨reason, hbegan, -⟩ | hreturned)
  · exact hended h.ended
  · exact Bool.false_ne_true (h.isUpToStop hbegan)
  · exact Bool.false_ne_true (h.isUpToStop hreturned)

theorem ExitMarks.not_safePhase (h : ExitMarks last l) : ¬ SafePhase last l := by
  obtain ⟨stopped, reason, signals, ending, hstopped, rfl, hsignals, hending⟩ := h
  have hmem : ∀ {m}, m ∈ stopped ++ .began (.onExit reason) :: (signals ++ [ending]) →
      isUpToStop m = true ∨ m = .began (.onExit reason) ∨ m = .returned (.onExit reason) ∨
        m = .raised (.onExit reason) := by
    intro m hm
    simp only [List.mem_append, List.mem_cons, List.not_mem_nil, or_false] at hm
    rcases hm with hm | rfl | hm | rfl
    · exact Or.inl (hstopped.isUpToStop hm)
    · exact Or.inr (Or.inl rfl)
    · exact Or.inl (isUpToStop_of_isPart (isPart_of_isSignal (hsignals m hm)))
    · exact Or.inr (Or.inr hending)
  rintro (⟨-, hended⟩ | ⟨reason', hbegan, hended⟩ | hreturned)
  · refine hended ?_
    rcases hstopped.ended with h | h
    · exact Or.inl (by simp [h])
    · exact Or.inr (by simp [h])
  · obtain rfl : reason' = reason := by
      rcases hmem hbegan with h | h | h | h
      · exact absurd h Bool.false_ne_true
      · simpa using h
      · cases h
      · cases h
    refine hended ?_
    rcases hending with rfl | rfl
    · exact Or.inl (by simp)
    · exact Or.inr (by simp)
  · rcases hmem hreturned with h | h | h | h
    · exact absurd h Bool.false_ne_true
    · cases h
    · cases h
    · cases h

/-! ## From the stages to the teardown -/

theorem count_began_stop_eq_zero (h : ∀ m ∈ l, isLate m = true ∨ isPart m = true) :
    l.count (.began .stop) = 0 := by
  refine List.count_eq_zero.mpr fun hm => ?_
  rcases h _ hm with h | h
  · exact Bool.false_ne_true h
  · exact Bool.false_ne_true h

theorem StopMarks.count_began_stop (h : StopMarks last l) : l.count (.began .stop) = 1 := by
  obtain ⟨prelude, parts, ending, rfl, hprelude, hparts, -, hending⟩ := h
  rw [List.count_append, List.count_cons, List.count_append,
    count_began_stop_eq_zero fun m hm => Or.inl (isLate_of_isPrelude (hprelude m hm)),
    count_began_stop_eq_zero fun m hm => Or.inr (hparts m hm)]
  rcases hending with rfl | rfl <;> rfl

theorem countP_isExitBegan_eq_zero (h : ∀ m ∈ l, isUpToStop m = true ∨ isLate m = true) :
    l.countP isExitBegan = 0 := by
  refine List.countP_eq_zero.mpr fun m hm hexit => ?_
  have hcases := h m hm
  unfold isExitBegan at hexit
  split at hexit
  · rcases hcases with h | h
    · exact Bool.false_ne_true h
    · exact Bool.false_ne_true h
  · exact Bool.false_ne_true hexit

theorem FinalMarks.tornDown (h : FinalMarks last l) : TornDown (last + 1) l := by
  obtain ⟨exited, after, ⟨stopped, reason, signals, ending, hstopped, rfl, hsignals, hending⟩,
    rfl, hafter⟩ := h
  have hsignalPart : ∀ m ∈ signals, isPart m = true :=
    fun m hm => isPart_of_isSignal (hsignals m hm)
  refine ⟨?_, ?_, ?_, ?_, ?_⟩
  · simp only [List.count_append, List.count_cons, hstopped.count_began_stop,
      count_began_stop_eq_zero fun m hm => Or.inr (hsignalPart m hm),
      count_began_stop_eq_zero fun m hm => Or.inl (hafter m hm)]
    rcases hending with rfl | rfl <;> rfl
  · intro i hi
    obtain ⟨prelude, parts, stopEnding, rfl, -, -, hcalled, -⟩ := hstopped
    rcases hcalled i (by omega) with hbegan | ⟨j, hj, hraised⟩
    · exact Or.inl (by simp [hbegan])
    · refine Or.inr ⟨j, hj, hraised.trans ?_⟩
      exact ⟨prelude ++ [.began .stop], [stopEnding] ++ (.began (.onExit reason) ::
        (signals ++ [ending])) ++ (.began .stopChild :: .returned .stopChild :: after), by simp⟩
  · simp only [List.countP_append, List.countP_cons,
      countP_isExitBegan_eq_zero fun m hm => Or.inl (hstopped.isUpToStop hm),
      countP_isExitBegan_eq_zero fun m hm => Or.inl (isUpToStop_of_isPart (hsignalPart m hm)),
      countP_isExitBegan_eq_zero fun m hm => Or.inr (hafter m hm)]
    rcases hending with rfl | rfl <;> rfl
  · exact ⟨stopped, reason, _, by rw [List.append_assoc, List.cons_append], hstopped.ended⟩
  · simp

end

/-! ## The worlds of a run, stage by stage -/

section

variable {χ ι : Type} {last : ℕ}

/-- The flag of a world, and what its marks say. -/
def At (cleanedUp : Bool) (P : List Mark → Prop) (s : World χ ι) : Prop :=
  s.cleanedUp = cleanedUp ∧ P (marks s.history)

theorem At.record {cleanedUp : Bool} {P R : List Mark → Prop} {s : World χ ι} {mark : Mark}
    (hs : At cleanedUp P s) (h : ∀ l, P l → R (l ++ [mark])) :
    At cleanedUp R (s.record mark) := by
  refine ⟨hs.1, ?_⟩
  rw [marks_record]
  exact h _ hs.2

/-- No signal is harmless after the flag unless the phase is safe. -/
theorem At.no_signal {P : List Mark → Prop} {s : World χ ι} {signum : Signal}
    (hs : At true P s) (hP : ∀ l, P l → ¬ SafePhase last l)
    (hfine : s.record (.signal signum) ∈ fineAlong ι (@Harmless χ last)) : False := by
  have hharmless := (record_mem_fineAlong.mp hfine).2 signum rfl
  rcases hharmless with hflag | hsafe
  · exact Bool.false_ne_true (hflag.symm.trans hs.1)
  · exact hP _ hs.2 hsafe

variable [Environment χ ι]

theorem stable_at (cleanedUp : Bool) (P : List Mark → Prop) :
    Stable (At (χ := χ) (ι := ι) cleanedUp P) := by
  refine Stable.of_advance ?_
  rintro s env schedule ⟨hflag, hmarks⟩
  refine ⟨?_, ?_⟩
  · rw [World.advance_cleanedUp]
    exact hflag
  · rw [World.advance_history]
    exact hmarks

/-- After the flag, a condition on the marks that every signal in a safe phase keeps. -/
theorem settled_at {P : List Mark → Prop}
    (hP : ∀ l signum, P l → SafePhase last l → P (l ++ [.signal signum])) :
    Settled (fineAlong ι (@Harmless χ last)) (At true P) where
  stable := stable_at true P
  signal := by
    intro signum s hs hfine
    rcases (record_mem_fineAlong.mp hfine).2 signum rfl with hflag | hsafe
    · exact absurd (hflag.symm.trans hs.1) Bool.false_ne_true
    · refine ⟨hs.1, ?_⟩
      rw [marks_record]
      exact hP _ signum hs.2 hsafe
  cleanedUp s hs := hs.1

/-- Only `start`, the health checks and signals so far. -/
def PreludeMarks (l : List Mark) : Prop :=
  ∀ m ∈ l, isPrelude m = true

theorem PreludeMarks.concat {l : List Mark} {m : Mark} (h : PreludeMarks l)
    (hm : isPrelude m = true) : PreludeMarks (l ++ [m]) :=
  List.forall_mem_append.mpr ⟨h, List.forall_mem_singleton.mpr hm⟩

theorem FinalMarks.concat {l : List Mark} {m : Mark} (h : FinalMarks last l)
    (hm : isLate m = true) : FinalMarks last (l ++ [m]) := by
  obtain ⟨exited, after, hexited, rfl, hafter⟩ := h
  refine ⟨exited, after ++ [m], hexited, by simp, ?_⟩
  exact List.forall_mem_append.mpr ⟨hafter, List.forall_mem_singleton.mpr hm⟩

/-- The marks in each stage of a run whose signals are harmless to the teardown. -/
def tearingDown (χ ι : Type) [Environment χ ι] (last : ℕ) :
    Stages (fineAlong ι (@Harmless χ last)) where
  Initial := At false PreludeMarks
  Open := At false PreludeMarks
  Due _ := At false PreludeMarks
  Flagged _ := At true PreludeMarks
  Stopped _ := At true (StopMarks last)
  Exited := At true (ExitMarks last)
  Final := At true (FinalMarks last)
  Always _ := True
  initial_stable := stable_at _ _
  open_stable := stable_at _ _
  due_stable _ := stable_at _ _
  flagged_stable _ := stable_at _ _
  stopped_stable _ := stable_at _ _
  exited_stable := stable_at _ _
  final_stable := stable_at _ _
  cleanedUp_of_due _ _ h := h.1
  cleanedUp_of_stopped _ _ h := h.1
  cleanedUp_of_exited _ h := h.1
  cleanedUp_of_final _ h := h.1
  always_of_initial _ _ := trivial
  always_of_open _ _ := trivial
  always_of_due _ _ _ := trivial
  always_of_flagged _ _ _ := trivial
  always_of_stopped _ _ _ := trivial
  always_of_exited _ _ := trivial
  always_of_final _ _ := trivial
  initial_signal _ _ h _ := h.record fun _ hl => hl.concat rfl
  open_signal _ _ h _ := h.record fun _ hl => hl.concat rfl
  due_signal _ _ _ h _ := h.record fun _ hl => hl.concat rfl
  flagged_signal _ _ _ h hfine :=
    (h.no_signal (fun _ hl => not_safePhase_of_isPrelude hl) hfine).elim
  stopped_signal _ _ _ h hfine := (h.no_signal (fun _ hl => hl.not_safePhase) hfine).elim
  exited_signal _ _ h hfine := (h.no_signal (fun _ hl => hl.not_safePhase) hfine).elim
  final_signal _ _ h _ := h.record fun _ hl => hl.concat rfl
  flagged_of_due _ _ h := ⟨rfl, h.2⟩
  open_poll _ h := h
  due_poll _ _ h := h
  open_observed _ _ h _ _ := h.record fun _ hl => hl.concat rfl

end

/-! ## While `stop` runs -/

/-- `stop` has begun, and `called` holds of the marks since then. -/
def StopBegan (called : List Mark → Prop) (l : List Mark) : Prop :=
  ∃ prelude parts, l = prelude ++ .began .stop :: parts ∧ PreludeMarks prelude ∧
    (∀ m ∈ parts, isPart m = true) ∧ called parts

/-- The first `i` parts were called. -/
def Called (i : ℕ) (parts : List Mark) : Prop :=
  ∀ j, .began (.stopPart j) ∈ parts ↔ j < i

/-- Every part was called, unless one before it raised on its own. -/
def CalledOrRaised (last : ℕ) (parts : List Mark) : Prop :=
  ∀ i ≤ last, .began (.stopPart i) ∈ parts ∨
    ∃ j < i, [.began (.stopPart j), .raised (.stopPart j)] <:+: parts

section

variable {last : ℕ} {l : List Mark} {called : List Mark → Prop}

theorem StopBegan.mono {called' : List Mark → Prop} (h : StopBegan called l)
    (himp : ∀ parts, called parts → called' parts) : StopBegan called' l := by
  obtain ⟨prelude, parts, hl, hprelude, hparts, hcalled⟩ := h
  exact ⟨prelude, parts, hl, hprelude, hparts, himp parts hcalled⟩

theorem StopBegan.concat {called' : List Mark → Prop} {m : Mark} (h : StopBegan called l)
    (hm : isPart m = true) (himp : ∀ parts, called parts → called' (parts ++ [m])) :
    StopBegan called' (l ++ [m]) := by
  obtain ⟨prelude, parts, rfl, hprelude, hparts, hcalled⟩ := h
  refine ⟨prelude, parts ++ [m], by simp, hprelude, ?_, himp parts hcalled⟩
  exact List.forall_mem_append.mpr ⟨hparts, List.forall_mem_singleton.mpr hm⟩

theorem StopBegan.mem_cases (h : StopBegan called l) {m : Mark} (hm : m ∈ l) :
    isPrelude m = true ∨ m = .began .stop ∨ isPart m = true := by
  obtain ⟨prelude, parts, rfl, hprelude, hparts, -⟩ := h
  simp only [List.mem_append, List.mem_cons] at hm
  rcases hm with hm | rfl | hm
  · exact Or.inl (hprelude m hm)
  · exact Or.inr (Or.inl rfl)
  · exact Or.inr (Or.inr (hparts m hm))

/-- The phase is not safe before the last part has begun. -/
theorem StopBegan.not_safePhase {i : ℕ} (h : StopBegan (Called i) l) (hi : i ≤ last) :
    ¬ SafePhase last l := by
  rintro (⟨hbegan, -⟩ | ⟨reason, hbegan, -⟩ | hreturned)
  · obtain ⟨prelude, parts, rfl, hprelude, -, hcalled⟩ := h
    simp only [List.mem_append, List.mem_cons] at hbegan
    rcases hbegan with hbegan | hbegan | hbegan
    · exact Bool.false_ne_true (hprelude _ hbegan)
    · cases hbegan
    · exact absurd ((hcalled last).mp hbegan) (by omega)
  · rcases h.mem_cases hbegan with h | h | h <;> cases h
  · rcases h.mem_cases hreturned with h | h | h <;> cases h

/-- A mark other than the start of a part leaves the calls as they are. -/
theorem Called.concat {i : ℕ} {parts : List Mark} {m : Mark} (h : Called i parts)
    (hm : ∀ j, m ≠ .began (.stopPart j)) : Called i (parts ++ [m]) := by
  intro j
  rw [← h j, List.mem_append, List.mem_singleton]
  exact or_iff_left fun heq => hm j heq.symm

theorem Called.concat_began {i : ℕ} {parts : List Mark} (h : Called i parts) :
    Called (i + 1) (parts ++ [.began (.stopPart i)]) := by
  intro j
  rw [List.mem_append, List.mem_singleton, h j]
  simp only [Mark.began.injEq, Call.stopPart.injEq]
  omega

theorem Called.calledOrRaised {parts : List Mark} (h : Called (last + 1) parts) :
    CalledOrRaised last parts :=
  fun i hi => Or.inl ((h i).mpr (by omega))

/-- A part that raises on its own accounts for the parts after it. -/
theorem Called.calledOrRaised_raised {i : ℕ} {parts : List Mark} (h : Called i parts) :
    CalledOrRaised last (parts ++ [.began (.stopPart i)] ++ [.raised (.stopPart i)]) := by
  intro k hk
  rcases Nat.lt_trichotomy k i with hlt | rfl | hgt
  · exact Or.inl (by simp [(h k).mpr hlt])
  · exact Or.inl (by simp)
  · exact Or.inr ⟨i, hgt, parts, [], by simp⟩

theorem StopBegan.stopMarks {ending : Mark} (h : StopBegan (CalledOrRaised last) l)
    (hending : ending = .returned .stop ∨ ending = .raised .stop) :
    StopMarks last (l ++ [ending]) := by
  obtain ⟨prelude, parts, rfl, hprelude, hparts, hcalled⟩ := h
  exact ⟨prelude, parts, ending, by simp, hprelude, hparts, hcalled, hending⟩

end

/-! ## Unknown callbacks respect the stages -/

section

variable {χ ι : Type} [Environment χ ι] {last : ℕ} {handler : Handler χ ι} {s : World χ ι}

/-- A part before the last one: no signal is harmless while it runs, so that it
leaves no marks but its own. -/
theorem stopPart_spec {i : ℕ} (hi : i < last)
    (hhandler : (tearingDown χ ι last).Handles handler) (hs : At true (StopBegan (Called i)) s) :
    wp (fineAlong ι (@Harmless χ last)) (call (.stopPart i) (unknown handler))
      ((tearingDown χ ι last).ends (fun _ => At true (StopBegan (Called (i + 1))))
        fun _ => At true (StopBegan (CalledOrRaised last))) s := by
  obtain ⟨hflag, prelude, parts, hmarks, hprelude, hparts, hcalled⟩ := hs
  have hbegan : StopBegan (Called (i + 1)) (marks s.history ++ [.began (.stopPart i)]) :=
    StopBegan.concat ⟨prelude, parts, hmarks, hprelude, hparts, hcalled⟩ rfl
      fun parts hcalled => Called.concat_began hcalled
  -- Until the part ends the marks are the ones at its start.
  have hquiet : Settled (fineAlong ι (@Harmless χ last))
      (At true fun l => l = marks s.history ++ [.began (.stopPart i)]) := by
    refine settled_at fun l signum hl hsafe => ?_
    rw [hl] at hsafe
    exact absurd hsafe (hbegan.not_safePhase hi)
  refine wp_call (fun _ => Stages.unknown_settled hhandler hquiet (fun _ _ => trivial)
    ⟨hflag, marks_record _ _⟩) ?_ ?_
  · intro _ s' hs' _
    refine hs'.record fun l hl => ?_
    rw [hl]
    exact hbegan.concat rfl fun parts hcalled => hcalled.concat (by simp)
  · intro e s' hs' _
    refine hs'.record fun l hl => ?_
    refine ⟨prelude, parts ++ [.began (.stopPart i)] ++ [.raised (.stopPart i)], ?_, hprelude,
      ?_, hcalled.calledOrRaised_raised⟩
    · rw [hl, hmarks]
      simp
    · intro m hm
      simp only [List.mem_append, List.mem_singleton] at hm
      rcases hm with (hm | rfl) | rfl
      · exact hparts m hm
      · rfl
      · rfl

theorem settled_false : Settled (fineAlong ι (@Harmless χ last)) fun _ => False where
  stable _ _ _ _ h := h
  signal _ _ h _ := h.elim
  cleanedUp _ h := h.elim

/-- Signals do no harm once the last part has begun. -/
theorem settled_lastPart : Settled (fineAlong ι (@Harmless χ last))
    (At true (StopBegan (Called (last + 1)))) :=
  settled_at fun _ _ hl _ => hl.concat rfl fun _ hcalled => hcalled.concat (by simp)

theorem lastPart_spec (hhandler : (tearingDown χ ι last).Handles handler)
    (hs : At true (StopBegan (Called last)) s) :
    wp (fineAlong ι (@Harmless χ last)) (call (.stopPart last) (unknown handler))
      ((tearingDown χ ι last).ends (fun _ => At true (StopBegan (Called (last + 1))))
        fun _ => At true (StopBegan (CalledOrRaised last))) s := by
  refine wp_call (fun _ => Stages.unknown_settled hhandler settled_lastPart
    (fun _ _ => trivial)
    (hs.record fun l hl => hl.concat rfl fun _ hcalled => hcalled.concat_began)) ?_ ?_
  · intro _ s' hs' _
    exact hs'.record fun l hl => hl.concat rfl fun _ hcalled => hcalled.concat (by simp)
  · intro e s' hs' _
    exact hs'.record fun l hl => hl.concat rfl fun _ hcalled =>
      (hcalled.concat (by simp)).calledOrRaised

/-- The parts of `stop` from the `i`-th on, by induction on how many are left. -/
theorem stopParts_spec (hhandler : (tearingDown χ ι last).Handles handler) (n : ℕ) {i : ℕ}
    (hi : i + n = last + 1) (hs : At true (StopBegan (Called i)) s) :
    wp (fineAlong ι (@Harmless χ last)) (stopParts (List.replicate n unknown) handler i)
      ((tearingDown χ ι last).ends (fun _ => At true (StopBegan (CalledOrRaised last)))
        fun _ => At true (StopBegan (CalledOrRaised last))) s := by
  induction n generalizing i s with
  | zero =>
      obtain rfl : i = last + 1 := by omega
      exact wp_pure ⟨hs.1, hs.2.mono fun _ h => h.calledOrRaised⟩
  | succ n ih =>
      rw [List.replicate_succ]
      rcases Nat.lt_or_ge i last with hlt | hge
      · refine wp_bind_ends (stopPart_spec hlt hhandler hs) ?_ (fun _ _ h => h)
        intro _ s₁ _ hs₁
        refine wp_bind_ends (Stages.tick_settled hhandler (stable_at _ _) settled_false
          (fun _ _ => trivial) (fun _ h => h.elim)
          (fun signum s h hfine => h.no_signal (fun _ hl => hl.not_safePhase hlt) hfine) hs₁) ?_
          (fun _ _ h => h.2.elim)
        intro _ s₂ _ hs₂
        exact ih (by omega) hs₂
      · obtain rfl : i = last := by omega
        obtain rfl : n = 0 := by omega
        refine wp_bind_ends (lastPart_spec hhandler hs) ?_ (fun _ _ h => h)
        intro _ s₁ _ hs₁
        refine wp_bind_ends (Stages.ends_of_keeping
          (Stages.tick_keeping hhandler settled_lastPart hs₁) fun _ _ => trivial) ?_
          (fun _ s' h => ⟨h.2.1, h.2.2.mono fun _ h => h.calledOrRaised⟩)
        intro _ s₂ _ hs₂
        exact ih (by omega) hs₂

theorem stop_spec (hhandler : (tearingDown χ ι last).Handles handler)
    (hs : At true PreludeMarks s) :
    wp (fineAlong ι (@Harmless χ last))
      (call .stop ((unknownCallbacks χ ι (last + 1)).stop handler))
      ((tearingDown χ ι last).ends (fun _ => At true (StopMarks last))
        fun _ => At true (StopMarks last)) s := by
  have hbegan : At true (StopBegan (Called 0)) (s.record (.began .stop)) :=
    hs.record fun l hl => ⟨l, [], rfl, hl, by simp, by simp [Called]⟩
  refine wp_call (fun _ => stopParts_spec hhandler (last + 1) (by omega) hbegan) ?_ ?_
  · intro _ s' hs' _
    exact hs'.record fun l hl => hl.stopMarks (Or.inl rfl)
  · intro e s' hs' _
    exact hs'.record fun l hl => hl.stopMarks (Or.inr rfl)

/-! ### After `stop` -/

/-- `on_exit` runs; only signals have arrived since it began. -/
def ExitBegan (last : ℕ) (reason : String) (l : List Mark) : Prop :=
  ∃ stopped signals, StopMarks last stopped ∧ l = stopped ++ .began (.onExit reason) :: signals ∧
    ∀ m ∈ signals, isSignal m = true

omit [Environment χ ι] in
theorem ExitBegan.exitMarks {reason : String} {l : List Mark} {ending : Mark}
    (h : ExitBegan last reason l)
    (hending : ending = .returned (.onExit reason) ∨ ending = .raised (.onExit reason)) :
    ExitMarks last (l ++ [ending]) := by
  obtain ⟨stopped, signals, hstopped, rfl, hsignals⟩ := h
  exact ⟨stopped, reason, signals, ending, hstopped, by simp, hsignals, hending⟩

theorem settled_exitBegan (reason : String) :
    Settled (fineAlong ι (@Harmless χ last)) (At true (ExitBegan last reason)) := by
  refine settled_at ?_
  rintro l signum ⟨stopped, signals, hstopped, rfl, hsignals⟩ -
  refine ⟨stopped, signals ++ [.signal signum], hstopped, by simp, ?_⟩
  exact List.forall_mem_append.mpr ⟨hsignals, List.forall_mem_singleton.mpr rfl⟩

theorem onExit_spec (reason : String) (hhandler : (tearingDown χ ι last).Handles handler)
    (hs : At true (StopMarks last) s) :
    wp (fineAlong ι (@Harmless χ last)) (call (.onExit reason) (unknown handler))
      ((tearingDown χ ι last).ends (fun _ => At true (ExitMarks last))
        fun _ => At true (ExitMarks last)) s := by
  have hbegan : At true (ExitBegan last reason) (s.record (.began (.onExit reason))) :=
    hs.record fun l hl => ⟨l, [], hl, rfl, by simp⟩
  refine wp_call (fun _ => Stages.unknown_settled hhandler (settled_exitBegan reason)
    (fun _ _ => trivial) hbegan) ?_ ?_
  · intro _ s' hs' _
    exact hs'.record fun l hl => hl.exitMarks (Or.inl rfl)
  · intro e s' hs' _
    exact hs'.record fun l hl => hl.exitMarks (Or.inr rfl)

/-- The child is being stopped. -/
def ReapBegan (last : ℕ) (l : List Mark) : Prop :=
  ∃ exited, ExitMarks last exited ∧ l = exited ++ [.began .stopChild]

omit [Environment χ ι] in
theorem ReapBegan.not_safePhase {l : List Mark} (h : ReapBegan last l) :
    ¬ SafePhase last l := by
  obtain ⟨exited, hexited, rfl⟩ := h
  intro hsafe
  refine hexited.not_safePhase ?_
  simpa [SafePhase, Ended] using hsafe

theorem reaping_reapBegan : (tearingDown χ ι last).Reaping (At true (ReapBegan last)) where
  stable := stable_at _ _
  polled _ h := h
  signal _ _ h hfine := (h.no_signal (fun _ hl => hl.not_safePhase) hfine).elim
  always _ _ := trivial

theorem stopChild_spec (hhandler : (tearingDown χ ι last).Handles handler)
    (hs : At true (ExitMarks last) s) :
    wp (fineAlong ι (@Harmless χ last)) (stopChild handler)
      ((tearingDown χ ι last).ends (fun _ => At true (FinalMarks last))
        fun _ => At true (FinalMarks last)) s := by
  refine reaping_reapBegan.stopChild_spec hhandler ?_ ?_ ?_
  · intro _
    exact hs.record fun l hl => ⟨l, hl, rfl⟩
  · intro s' hs' _
    refine hs'.record ?_
    rintro l ⟨exited, hexited, rfl⟩
    exact ⟨exited, [], hexited, by simp, by simp⟩
  · intro s' hs' _
    exact hs'.record fun l hl => hl.concat rfl

/-- `start` and the health checks leave an open run open. -/
theorem prelude_spec {c : Call} (hbegan : isPrelude (.began c) = true)
    (hreturned : isPrelude (.returned c) = true) (hraised : isPrelude (.raised c) = true)
    (hhandler : (tearingDown χ ι last).Handles handler) (hs : At false PreludeMarks s) :
    wp (fineAlong ι (@Harmless χ last)) (call c (unknown handler))
      ((tearingDown χ ι last).ends (fun _ => At false PreludeMarks)
        fun _ s' => At false PreludeMarks s' ∨ At true (FinalMarks last) s') s := by
  refine wp_call (fun _ => Stages.unknown_open hhandler
    (hs.record fun _ hl => hl.concat hbegan)) ?_ ?_
  · intro _ s' hs' _
    exact hs'.record fun _ hl => hl.concat hreturned
  · rintro e s' (hs' | hs') _
    · exact Or.inl (hs'.record fun _ hl => hl.concat hraised)
    · exact Or.inr (hs'.record fun _ hl => hl.concat (isLate_of_isPrelude hraised))

theorem unknownCallbacks_respects :
    Respects (tearingDown χ ι last) (unknownCallbacks χ ι (last + 1)) where
  start _ hhandler _ hs := prelude_spec rfl rfl rfl hhandler hs
  checkHealth _ hhandler _ hs := prelude_spec rfl rfl rfl hhandler hs
  stop _ _ hhandler _ hs := stop_spec hhandler hs
  onExit reason _ hhandler _ hs := onExit_spec reason hhandler hs
  stopChild _ hhandler _ hs := stopChild_spec hhandler hs

end

/-! ## Runs that have torn down -/

/-- Every run of the loop that ends has torn everything down, whatever `start`,
the health checks, the parts of `stop` and `on_exit` do, when each signal arrives
before the flag is set or in a safe phase. -/
theorem runLoop_tornDown {χ ι : Type} [Environment χ ι] (last : ℕ) (s : World χ ι)
    (hflag : s.cleanedUp = false) (hhistory : s.history = [])
    (hended : ((runLoop (unknownCallbacks χ ι (last + 1))).run s).1.ended = true)
    (hharmless : Along (Harmless last)
      ((runLoop (unknownCallbacks χ ι (last + 1))).run s).2.history) :
    TornDown (last + 1)
      (marks ((runLoop (unknownCallbacks χ ι (last + 1))).run s).2.history) := by
  have hopen : At false PreludeMarks s := by
    refine ⟨hflag, ?_⟩
    rw [hhistory]
    intro m hm
    exact absurd hm (List.not_mem_nil)
  have hrespects := @unknownCallbacks_respects χ ι _ last
  have hends := hrespects.runLoop_spec hopen hharmless
  revert hended hends
  rcases (runLoop (unknownCallbacks χ ι (last + 1))).run s with ⟨outcome, s'⟩
  intro hended hends
  cases outcome with
  | ok returncode => exact hends.1.2.tornDown
  | raised e => exact hends.2.tornDown
  | paused => exact absurd hended Bool.false_ne_true

/-- A target that has exited with code 0, and a signal at the `n`-th step. -/
def signalAt (n : ℕ) : World Unit Empty where
  inner := ()
  child := some { exitCode := some 0 }
  schedule := List.replicate n {} ++ { signal := some .sigint } :: List.replicate 20 {}

theorem runLoop_tornDown_start :
    TornDown 2 (marks ((runLoop (unknownCallbacks Unit Empty 2)).run (signalAt 2)).2.history) := by
  refine runLoop_tornDown 1 (signalAt 2) rfl rfl (by decide) ?_
  refine along_of_signals (fun event => !event.cleanedUp) ?_ (by decide)
  intro before event hflag signum hsignum
  exact Or.inl (by simpa using hflag signum hsignum)

/-- A signal right after the flag is set: `stop` is never called. -/
theorem exists_not_tornDown :
    ∃ s : World Unit Empty, s.cleanedUp = false ∧ s.history = [] ∧
      ((runLoop (unknownCallbacks Unit Empty 2)).run s).1.ended = true ∧
      ¬ TornDown 2 (marks ((runLoop (unknownCallbacks Unit Empty 2)).run s).2.history) := by
  refine ⟨signalAt 9, rfl, rfl, by decide, ?_⟩
  intro htornDown
  have hcount : (marks ((runLoop (unknownCallbacks Unit Empty 2)).run
      (signalAt 9)).2.history).count (.began .stop) = 0 := by
    decide
  rw [htornDown.stopOnce] at hcount
  exact absurd hcount one_ne_zero

end Blocksnoop.Cli
