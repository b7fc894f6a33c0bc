import Blocksnoop.Cli.Signals

/-!
# The termination reason

What `on_exit` is told is true of the run before it: a run is clean, or ended by
its child, only when `start`, every health check and `stop` returned, and a signal
is blamed only when there was one.  The callbacks are unknown; what each of them
raises is noted in the state.

A signal between the flag and the start of `stop` makes the loop call `on_exit`
although `stop` was never called.
-/

namespace Blocksnoop.Cli

open Blocksnoop.Support

/-! ## Callbacks whose exceptions are noted -/

/-- Besides the child there is nothing that acts on the notes. -/
instance : Environment (List PyException) Empty where
  act action _ := nomatch action

section

variable {ι : Type} [Environment (List PyException) ι]

def World.note (e : PyException) (s : World (List PyException) ι) :
    World (List PyException) ι :=
  { s with inner := s.inner ++ [e] }

/-- Unknown code that notes what it raises. -/
def noting (handler : Handler (List PyException) ι) : Main (List PyException) ι Unit := do
  let behaviour ← tick handler
  ticks handler behaviour.1
  match behaviour.2 with
  | none => Prog.pure ()
  | some e => do
      Prog.modify (World.note e) fun s => List.prefix_refl s.history
      Prog.raise e

def notingCallbacks (ι : Type) [Environment (List PyException) ι] :
    Callbacks (List PyException) ι where
  start := noting
  stop := noting
  checkHealth := noting
  onExit _ := noting

/-- Noting code passes step boundaries until it raises. -/
theorem Ticks.noting_spec {fine : LowerSet (World (List PyException) ι)}
    {Always : World (List PyException) ι → Prop} {handler : Handler (List PyException) ι}
    {P E : World (List PyException) ι → Prop} {Q : PyException → World (List PyException) ι → Prop}
    {s : World (List PyException) ι} (h : Ticks fine Always handler P E)
    (hnote : ∀ e s, P s → Q e (s.note e)) (hs : P s) :
    wp fine (noting handler) (ends Always (fun _ => P) fun e s' => Q e s' ∨ E s') s := by
  refine wp_bind_ends (h s hs) ?_ (fun _ _ h => Or.inr h)
  intro behaviour s₁ _ hs₁
  refine wp_bind_ends (h.ticks_spec behaviour.1 hs₁) ?_ (fun _ _ h => Or.inr h)
  intro _ s₂ _ hs₂
  cases behaviour.2 with
  | none => exact wp_pure hs₂
  | some e =>
      refine wp_modify_bind fun _ => ?_
      exact wp_raise (Or.inl (hnote e s₂ hs₂))

end

/-! ## Truthful reasons -/

/-- `start` and every health check have returned. -/
def Completed (l : List Mark) : Prop :=
  .returned .start ∈ l ∧ l.count (.began .checkHealth) = l.count (.returned .checkHealth)

/-- What a reason says about the marks, the child and the exceptions so far. -/
structure Justified (reason : String) (l : List Mark) (child : Option Child)
    (noted : List PyException) : Prop where
  clean : reason = "clean" → Completed l ∧ child.bind Child.exitCode = some 0
  childExit : reason = "child_exit" →
    Completed l ∧ ∃ returncode ≠ 0, child.bind Child.exitCode = some returncode
  signal : reason = "signal" → (∃ signum, .signal signum ∈ l) ∨ .keyboardInterrupt ∈ noted

/-- The reasons that say that `stop` returned. -/
def saysStopped (reason : String) : Prop :=
  reason = "clean" ∨ reason = "child_exit" ∨ reason = "signal"

/-- `on_exit` may be called with the reason. -/
structure TruthfulExit (reason : String) (before : List (Event (List PyException)))
    (event : Event (List PyException)) : Prop where
  stopEnded : Ended .stop (marks before)
  exitOnce : ∀ other, .began (.onExit other) ∉ marks before
  stopReturned : saysStopped reason → .returned .stop ∈ marks before
  justified : Justified reason (marks before) event.child event.inner

/-- An event of a truthful run. -/
structure Truthful (before : List (Event (List PyException)))
    (event : Event (List PyException)) : Prop where
  stopOnce : event.mark = .began .stop → .began .stop ∉ marks before
  exit : ∀ reason, event.mark = .began (.onExit reason) → TruthfulExit reason before event

/-- A signal arrives before the flag is set or once `stop` has begun. -/
def Prompt {χ : Type} (before : List (Event χ)) (event : Event χ) : Prop :=
  ∀ signum, event.mark = .signal signum →
    event.cleanedUp = false ∨ .began .stop ∈ marks before

/-- The marks that begin the teardown or report it. -/
def isReport : Mark → Bool
  | .began .stop => true
  | .began (.onExit _) => true
  | _ => false

/-- The marks that `Completed` counts. -/
def isCheck : Mark → Bool
  | .began .checkHealth => true
  | .returned .checkHealth => true
  | _ => false

section

variable {reason : String} {l : List Mark} {m : Mark} {child : Option Child}
  {noted : List PyException}

theorem truthful_of_not_isReport {before : List (Event (List PyException))}
    {event : Event (List PyException)} (h : isReport event.mark = false) :
    Truthful before event := by
  constructor
  · intro hmark
    rw [hmark] at h
    cases h
  · intro reason hmark
    rw [hmark] at h
    cases h

theorem not_isReport_of_isPrelude (h : isPrelude m = true) : isReport m = false := by
  unfold isReport
  split
  · cases h
  · cases h
  · rfl

theorem Completed.concat (h : Completed l) (hm : isCheck m = false) : Completed (l ++ [m]) := by
  have hbegan : m ≠ .began .checkHealth := by
    rintro rfl
    cases hm
  have hreturned : m ≠ .returned .checkHealth := by
    rintro rfl
    cases hm
  refine ⟨List.mem_append_left _ h.1, ?_⟩
  rw [List.count_append, List.count_append, List.count_singleton, List.count_singleton,
    if_neg (by simpa using hbegan), if_neg (by simpa using hreturned), h.2]

theorem Justified.concat (h : Justified reason l child noted) (hm : isCheck m = false) :
    Justified reason (l ++ [m]) child noted where
  clean heq := (h.clean heq).imp_left fun hl => hl.concat hm
  childExit heq := (h.childExit heq).imp_left fun hl => hl.concat hm
  signal heq := (h.signal heq).imp_left fun ⟨signum, hmem⟩ =>
    ⟨signum, List.mem_append_left _ hmem⟩

theorem Justified.note (h : Justified reason l child noted) (e : PyException) :
    Justified reason l child (noted ++ [e]) where
  clean := h.clean
  childExit := h.childExit
  signal heq := (h.signal heq).imp_right (List.mem_append_left _)

/-- A poll does not change the exit code. -/
theorem Justified.collect (h : Justified reason l child noted) :
    Justified reason l (child.map Child.collect) noted where
  clean heq := by
    rw [Respects.bind_exitCode_collect]
    exact h.clean heq
  childExit heq := by
    rw [Respects.bind_exitCode_collect]
    exact h.childExit heq
  signal := h.signal

/-- No reason at all is needed for an error. -/
theorem justified_runtime_error : Justified "runtime_error" l child noted where
  clean heq := absurd heq (by decide)
  childExit heq := absurd heq (by decide)
  signal heq := absurd heq (by decide)

theorem justified_signal (h : (∃ signum, .signal signum ∈ l) ∨ .keyboardInterrupt ∈ noted) :
    Justified "signal" l child noted where
  clean heq := absurd heq (by decide)
  childExit heq := absurd heq (by decide)
  signal _ := h

theorem justified_endReason {e : PyException} (he : e ∈ noted) :
    Justified (endReason e) l child noted := by
  unfold endReason
  split
  · rename_i heq
    exact justified_signal (Or.inr (heq ▸ he))
  · exact justified_runtime_error

theorem justified_exitReason {returncode : ℤ} (hl : Completed l)
    (hcode : child.bind Child.exitCode = some returncode) :
    Justified (exitReason (some returncode)) l child noted := by
  by_cases hzero : returncode = 0
  · subst hzero
    exact ⟨fun _ => ⟨hl, hcode⟩, fun heq => absurd heq (by decide),
      fun heq => absurd heq (by decide)⟩
  · have hreason : exitReason (some returncode) = "child_exit" := by
      simp [exitReason, hzero]
    rw [hreason]
    exact ⟨fun heq => absurd heq (by decide), fun _ => ⟨hl, returncode, hzero, hcode⟩,
      fun heq => absurd heq (by decide)⟩

end

/-! ## The worlds of a run, stage by stage -/

section

variable {reason : String} {s : World (List PyException) Empty}

/-- The run so far justifies the reason. -/
def World.Justifies (reason : String) (s : World (List PyException) Empty) : Prop :=
  Justified reason (marks s.history) s.child s.inner

theorem World.Justifies.record {m : Mark} (h : s.Justifies reason) (hm : isCheck m = false) :
    (s.record m).Justifies reason := by
  unfold World.Justifies
  rw [marks_record]
  exact h.concat hm

theorem inner_advance (s : World (List PyException) Empty) (env : List (EnvAction Empty))
    (schedule : List (Entry Empty)) : (s.advance env schedule).inner = s.inner :=
  advance_inner (P := fun noted => noted = s.inner) (fun action => nomatch action) env schedule rfl

theorem stable_justifies : Stable (World.Justifies reason) := by
  refine Stable.of_advance ?_
  intro s env schedule hs
  unfold World.Justifies
  rw [World.advance_history, inner_advance]
  constructor
  · intro heq
    obtain ⟨hl, hcode⟩ := hs.clean heq
    exact ⟨hl, Respects.exitCode_advance env schedule hcode⟩
  · intro heq
    obtain ⟨hl, returncode, hne, hcode⟩ := hs.childExit heq
    exact ⟨hl, returncode, hne, Respects.exitCode_advance env schedule hcode⟩
  · exact hs.signal

/-- The flag is set, and what was reported is true. -/
def Quiet (s : World (List PyException) Empty) : Prop :=
  s.cleanedUp = true ∧ Along Truthful s.history

theorem Quiet.record {m : Mark} (hs : Quiet s) (hm : isReport m = false) : Quiet (s.record m) :=
  ⟨hs.1, along_concat.mpr ⟨hs.2, truthful_of_not_isReport hm⟩⟩

theorem stable_quiet : Stable Quiet := by
  refine Stable.of_advance ?_
  rintro s env schedule ⟨hflag, hhistory⟩
  refine ⟨by rw [World.advance_cleanedUp, hflag], ?_⟩
  rw [World.advance_history]
  exact hhistory

theorem along_truthful_of_prelude (hs : PreludeMarks (marks s.history)) :
    Along Truthful s.history := by
  intro before event after heq
  refine truthful_of_not_isReport (not_isReport_of_isPrelude (hs _ ?_))
  exact List.mem_map_of_mem (by rw [heq]; simp)

/-- `stop` has begun and `on_exit` has not; `P` holds of the marks. -/
def Unreported (P : List Mark → Prop) (reason : String)
    (s : World (List PyException) Empty) : Prop :=
  Quiet s ∧ (.began .stop ∈ marks s.history ∧ ∀ other, .began (.onExit other) ∉ marks s.history) ∧
    P (marks s.history) ∧ s.Justifies reason

theorem Unreported.record {P R : List Mark → Prop} {m : Mark} (hs : Unreported P reason s)
    (hreport : isReport m = false) (hcheck : isCheck m = false)
    (h : ∀ l, P l → R (l ++ [m])) : Unreported R reason (s.record m) := by
  obtain ⟨hquiet, ⟨hbegan, hexit⟩, hP, hjustified⟩ := hs
  refine ⟨hquiet.record hreport, ?_, ?_, hjustified.record hcheck⟩
  · rw [marks_record]
    refine ⟨List.mem_append_left _ hbegan, ?_⟩
    intro other hmem
    rcases List.mem_append.mp hmem with hmem | hmem
    · exact hexit other hmem
    · obtain rfl := List.mem_singleton.mp hmem
      cases hreport
  · rw [marks_record]
    exact h _ hP

theorem stable_unreported (P : List Mark → Prop) : Stable (Unreported P reason) := by
  refine stable_quiet.and (Stable.and (Stable.of_advance ?_)
    (Stable.and (Stable.of_advance ?_) stable_justifies))
  · intro s env schedule hs
    rw [World.advance_history]
    exact hs
  · intro s env schedule hs
    rw [World.advance_history]
    exact hs

/-- `stop` has ended as the reason says. -/
def StopEndedAs (reason : String) (l : List Mark) : Prop :=
  Ended .stop l ∧ (saysStopped reason → .returned .stop ∈ l)

theorem StopEndedAs.concat {l : List Mark} (h : StopEndedAs reason l) (m : Mark) :
    StopEndedAs reason (l ++ [m]) :=
  ⟨h.1.imp (List.mem_append_left _) (List.mem_append_left _),
    fun hreason => List.mem_append_left _ (h.2 hreason)⟩

/-- Only `start` and the health checks so far, each check returned. -/
def Checking (P : List Mark → Prop) (s : World (List PyException) Empty) : Prop :=
  At false (fun l => PreludeMarks l ∧ P l) s

theorem Checking.record {P R : List Mark → Prop} {m : Mark} (hs : Checking P s)
    (hm : isPrelude m = true) (h : ∀ l, P l → R (l ++ [m])) : Checking R (s.record m) :=
  At.record hs fun l hl => ⟨hl.1.concat hm, h l hl.2⟩

/-- The reason is justified and the flag has the given value. -/
def DueAt (cleanedUp : Bool) (reason : String) (s : World (List PyException) Empty) : Prop :=
  At cleanedUp PreludeMarks s ∧ s.Justifies reason

theorem stable_dueAt (cleanedUp : Bool) : Stable (DueAt cleanedUp reason) :=
  (stable_at _ _).and stable_justifies

/-- A signal justifies the end of the run. -/
theorem dueAt_signal {signum : Signal} (hs : At false PreludeMarks s) :
    DueAt false "signal" (s.record (.signal signum)) := by
  refine ⟨hs.record fun _ hl => hl.concat rfl, ?_⟩
  unfold World.Justifies
  rw [marks_record]
  exact justified_signal (Or.inl ⟨signum, by simp⟩)

theorem Checking.at {P : List Mark → Prop} (hs : Checking P s) : At false PreludeMarks s :=
  ⟨hs.1, hs.2.1⟩

/-- No signal is prompt after the flag while only the loop has run. -/
theorem DueAt.no_signal {signum : Signal} (hs : DueAt true reason s)
    (hfine : s.record (.signal signum) ∈ fineAlong Empty (@Prompt (List PyException))) :
    False := by
  rcases (record_mem_fineAlong.mp hfine).2 signum rfl with hflag | hbegan
  · exact Bool.false_ne_true (hflag.symm.trans hs.1.1)
  · exact Bool.false_ne_true (hs.1.2 _ hbegan)

/-- Every health check that began has returned. -/
def Balanced (l : List Mark) : Prop :=
  l.count (.began .checkHealth) = l.count (.returned .checkHealth)

/-- What is noted of the callbacks in each stage of a run whose reason is truthful. -/
def reporting : Stages (fineAlong Empty (@Prompt (List PyException))) where
  Initial := Checking Balanced
  Open := Checking Completed
  Due := DueAt false
  Flagged := DueAt true
  Stopped reason := Unreported (StopEndedAs reason) reason
  Exited := Quiet
  Final := Quiet
  Always s := Along Truthful s.history
  initial_stable := stable_at _ _
  open_stable := stable_at _ _
  due_stable _ := stable_dueAt _
  flagged_stable _ := stable_dueAt _
  stopped_stable _ := stable_unreported _
  exited_stable := stable_quiet
  final_stable := stable_quiet
  cleanedUp_of_due _ _ h := h.1.1
  cleanedUp_of_stopped _ _ h := h.1.1
  cleanedUp_of_exited _ h := h.1
  cleanedUp_of_final _ h := h.1
  always_of_initial _ h := along_truthful_of_prelude h.2.1
  always_of_open _ h := along_truthful_of_prelude h.2.1
  always_of_due _ _ h := along_truthful_of_prelude h.1.2
  always_of_flagged _ _ h := along_truthful_of_prelude h.1.2
  always_of_stopped _ _ h := h.1.2
  always_of_exited _ h := h.2
  always_of_final _ h := h.2
  initial_signal _ _ h _ := dueAt_signal h.at
  open_signal _ _ h _ := dueAt_signal h.at
  due_signal _ _ _ h _ := dueAt_signal h.1
  flagged_signal _ _ _ h hfine := (h.no_signal hfine).elim
  stopped_signal _ _ _ h _ :=
    ⟨h.record rfl rfl fun _ hl => hl.concat _, h.1.record rfl, h.1.record rfl⟩
  exited_signal _ _ h _ := ⟨h.record rfl, h.record rfl⟩
  final_signal _ _ h _ := h.record rfl
  flagged_of_due _ _ h := ⟨⟨rfl, h.1.2⟩, h.2⟩
  open_poll _ h := h
  due_poll _ _ h := ⟨h.1, h.2.collect⟩
  open_observed returncode s h hcode _ := by
    refine ⟨h.at.record fun _ hl => hl.concat rfl, World.Justifies.record ?_ rfl⟩
    exact justified_exitReason h.2.2 hcode

/-! ## The callbacks respect the stages -/

variable {handler : Handler (List PyException) Empty}

theorem ticks_quiet (hhandler : reporting.Handles handler) :
    Ticks (fineAlong Empty (@Prompt (List PyException))) reporting.Always handler Quiet Quiet := by
  refine Stages.ticks_settled hhandler ?_ (fun _ h => h.2)
  exact ⟨stable_quiet, fun _ _ h _ => h.record rfl, fun _ h => h.1⟩

/-- A call before the teardown, from `P` to `R` by way of `Q`. -/
theorem opening_noting_spec {c : Call} {P Q R : List Mark → Prop}
    (hbegan : ∀ l, P l → Q (l ++ [.began c])) (hreturned : ∀ l, Q l → R (l ++ [.returned c]))
    (hprelude : isPrelude (.began c) = true ∧ isPrelude (.returned c) = true ∧
      isPrelude (.raised c) = true)
    (hhandler : reporting.Handles handler) (hs : Checking P s) :
    wp (fineAlong Empty (@Prompt (List PyException))) (call c (noting handler))
      (reporting.ends (fun _ => Checking R)
        fun e s' => reporting.Due (endReason e) s' ∨ reporting.Final s') s := by
  have hticks : Ticks (fineAlong Empty (@Prompt (List PyException))) reporting.Always handler
      (Checking Q) Quiet := by
    intro s hs
    refine Stages.tick_open hhandler (stable_at _ _)
      (fun _ h => along_truthful_of_prelude h.2.1) (fun _ _ h _ => dueAt_signal h.at) hs
  refine wp_call
    (E := fun e s' => (At false PreludeMarks s' ∧ e ∈ s'.inner) ∨ Quiet s')
    (fun _ => hticks.noting_spec ?_ (hs.record hprelude.1 hbegan)) ?_ ?_
  · intro e s' hs'
    exact ⟨hs'.at, List.mem_append_right _ (List.mem_singleton.mpr rfl)⟩
  · intro _ s' hs' _
    exact hs'.record hprelude.2.1 hreturned
  · rintro e s' (⟨hs', he⟩ | hs') _
    · exact Or.inl ⟨hs'.record fun _ hl => hl.concat hprelude.2.2, justified_endReason he⟩
    · exact Or.inr (hs'.record (not_isReport_of_isPrelude hprelude.2.2))

theorem start_reporting (hhandler : reporting.Handles handler) (hs : Checking Balanced s) :
    wp (fineAlong Empty (@Prompt (List PyException))) (call .start (noting handler))
      (reporting.ends (fun _ => Checking Completed)
        fun e s' => reporting.Due (endReason e) s' ∨ reporting.Final s') s := by
  refine opening_noting_spec (Q := Balanced) ?_ ?_ ⟨rfl, rfl, rfl⟩ hhandler hs
  · intro l hl
    simpa [Balanced] using hl
  · intro l hl
    exact ⟨by simp, by simpa [Balanced] using hl⟩

theorem checkHealth_reporting (hhandler : reporting.Handles handler) (hs : Checking Completed s) :
    wp (fineAlong Empty (@Prompt (List PyException))) (call .checkHealth (noting handler))
      (reporting.ends (fun _ => Checking Completed)
        fun e s' => reporting.Due (endReason e) s' ∨ reporting.Final s') s := by
  refine opening_noting_spec (Q := fun l => .returned .start ∈ l ∧
    l.count (.began .checkHealth) = l.count (.returned .checkHealth) + 1) ?_ ?_
    ⟨rfl, rfl, rfl⟩ hhandler hs
  · intro l hl
    exact ⟨List.mem_append_left _ hl.1, by simp [hl.2]⟩
  · intro l hl
    exact ⟨List.mem_append_left _ hl.1, by simp [hl.2]⟩

theorem stop_reporting (hhandler : reporting.Handles handler) (hs : DueAt true reason s) :
    wp (fineAlong Empty (@Prompt (List PyException))) (call .stop (noting handler))
      (reporting.ends (fun _ => Unreported (StopEndedAs reason) reason)
        fun _ => Unreported (StopEndedAs "runtime_error") "runtime_error") s := by
  have hsettled : Settled (fineAlong Empty (@Prompt (List PyException)))
      (Unreported (fun _ => True) reason) :=
    ⟨stable_unreported _, fun _ _ h _ => h.record rfl rfl fun _ _ => trivial, fun _ h => h.1.1⟩
  have hbegan : Unreported (fun _ => True) reason (s.record (.began .stop)) := by
    refine ⟨⟨hs.1.1, ?_⟩, ?_, trivial, hs.2.record rfl⟩
    · refine along_concat.mpr ⟨along_truthful_of_prelude hs.1.2, ?_, ?_⟩
      · intro _ hmem
        exact Bool.false_ne_true (hs.1.2 _ hmem)
      · intro other hmark
        cases hmark
    · rw [marks_record]
      refine ⟨by simp, ?_⟩
      intro other hmem
      rcases List.mem_append.mp hmem with hmem | hmem
      · exact Bool.false_ne_true (hs.1.2 _ hmem)
      · cases List.mem_singleton.mp hmem
  refine wp_call (E := fun _ => Unreported (fun _ => True) reason) (fun _ => wp_weaken
    ((Stages.ticks_settled hhandler hsettled fun _ h => h.1.2).noting_spec
      (Q := fun _ => Unreported (fun _ => True) reason) ?_ hbegan)
    (fun _ _ h => h) fun _ _ h => or_self_iff.mp h) ?_ ?_
  · rintro e s' ⟨hquiet, hmarks, -, hjustified⟩
    exact ⟨hquiet, hmarks, trivial, hjustified.note e⟩
  · intro _ s' hs' _
    exact hs'.record rfl rfl fun l _ => ⟨Or.inl (by simp), fun _ => by simp⟩
  · intro e s' hs' _
    obtain ⟨hquiet, hmarks, hended, -⟩ : Unreported (StopEndedAs "runtime_error") reason
        (s'.record (.raised .stop)) :=
      hs'.record rfl rfl fun l _ =>
        ⟨Or.inr (by simp), fun hreason => absurd hreason (by simp [saysStopped])⟩
    exact ⟨hquiet, hmarks, hended, justified_runtime_error⟩

theorem onExit_reporting (hhandler : reporting.Handles handler)
    (hs : Unreported (StopEndedAs reason) reason s) :
    wp (fineAlong Empty (@Prompt (List PyException))) (call (.onExit reason) (noting handler))
      (reporting.ends (fun _ => Quiet) fun _ => Quiet) s := by
  obtain ⟨hquiet, ⟨-, hexit⟩, ⟨hended, hreturned⟩, hjustified⟩ := hs
  have hbegan : Quiet (s.record (.began (.onExit reason))) := by
    refine ⟨hquiet.1, along_concat.mpr ⟨hquiet.2, ?_, ?_⟩⟩
    · intro hmark
      cases hmark
    · intro other hmark
      obtain rfl : reason = other := by simpa using hmark
      exact ⟨hended, hexit, hreturned, hjustified⟩
  refine wp_call (E := fun _ => Quiet) (fun _ => wp_weaken
    ((ticks_quiet hhandler).noting_spec (Q := fun _ => Quiet) (fun _ _ h => h) hbegan)
    (fun _ _ h => h) fun _ _ h => or_self_iff.mp h) ?_ ?_
  · intro _ s' hs' _
    exact hs'.record rfl
  · intro _ s' hs' _
    exact hs'.record rfl

theorem reaping_quiet : reporting.Reaping Quiet where
  stable := stable_quiet
  polled _ h := h
  signal _ _ h _ := h.record rfl
  always _ h := h.2

theorem notingCallbacks_respect : Respects reporting (notingCallbacks Empty) where
  start _ hhandler _ hs := start_reporting hhandler hs
  checkHealth _ hhandler _ hs := checkHealth_reporting hhandler hs
  stop _ _ hhandler _ hs := stop_reporting hhandler hs
  onExit _ _ hhandler _ hs := onExit_reporting hhandler hs
  stopChild _ hhandler _ hs :=
    reaping_quiet.stopChild_spec hhandler (fun _ => hs.record rfl) (fun _ h _ => h.record rfl)
      (fun _ h _ => h.record rfl)

end

/-! ## Runs with a truthful reason -/

/-- Every run of the loop is truthful, however far it has come, when no signal
arrives between the flag and the start of `stop`. -/
theorem runLoop_truthful (s : World (List PyException) Empty)
    (hflag : s.cleanedUp = false) (hhistory : s.history = [])
    (hprompt : Along Prompt ((runLoop (notingCallbacks Empty)).run s).2.history) :
    Along Truthful ((runLoop (notingCallbacks Empty)).run s).2.history := by
  have hinitial : Checking Balanced s := by
    refine ⟨hflag, ?_, ?_⟩
    · rw [hhistory]
      intro m hm
      exact absurd hm List.not_mem_nil
    · rw [hhistory]
      rfl
  have hspec := notingCallbacks_respect.runLoop_spec hinitial hprompt
  revert hspec
  rcases (runLoop (notingCallbacks Empty)).run s with ⟨outcome, s'⟩
  intro hspec
  cases outcome with
  | ok returncode => exact hspec.1.2
  | raised e => exact hspec.2
  | paused => exact hspec

/-- A target that has exited with code 0, and a signal at the `n`-th step. -/
def notedSignalAt (n : ℕ) : World (List PyException) Empty where
  inner := []
  child := some { exitCode := some 0 }
  schedule := List.replicate n {} ++ { signal := some .sigterm } :: List.replicate 20 {}

theorem runLoop_truthful_start :
    Along Truthful ((runLoop (notingCallbacks Empty)).run (notedSignalAt 3)).2.history := by
  refine runLoop_truthful (notedSignalAt 3) rfl rfl ?_
  refine along_of_signals (fun event => !event.cleanedUp) ?_ (by decide)
  intro before event hflag signum hsignum
  exact Or.inl (by simpa using hflag signum hsignum)

/-- A truthful run calls `on_exit` only after `stop` has ended. -/
theorem ended_of_truthful {history : List (Event (List PyException))} {reason : String}
    (h : Along Truthful history) (hexit : .began (.onExit reason) ∈ marks history) :
    Ended .stop (marks history) := by
  obtain ⟨event, hevent, hmark⟩ := List.mem_map.mp hexit
  obtain ⟨before, after, heq⟩ := List.append_of_mem hevent
  have hended := ((h before event after heq).exit reason hmark).stopEnded
  rw [heq]
  refine hended.imp ?_ ?_
  · intro hmem
    simpa [marks] using Or.inl (List.mem_map.mp hmem)
  · intro hmem
    simpa [marks] using Or.inl (List.mem_map.mp hmem)

/-- A signal while `stop` is about to be called: `on_exit` is called without it. -/
theorem exists_not_truthful :
    ∃ s : World (List PyException) Empty, s.cleanedUp = false ∧ s.history = [] ∧
      ¬ Along Truthful ((runLoop (notingCallbacks Empty)).run s).2.history := by
  refine ⟨notedSignalAt 10, rfl, rfl, ?_⟩
  intro htruthful
  have hexit : .began (.onExit "runtime_error") ∈
      marks ((runLoop (notingCallbacks Empty)).run (notedSignalAt 10)).2.history := by
    decide
  rcases ended_of_truthful htruthful hexit with hreturned | hraised
  · exact absurd hreturned (by decide)
  · exact absurd hraised (by decide)

end Blocksnoop.Cli
