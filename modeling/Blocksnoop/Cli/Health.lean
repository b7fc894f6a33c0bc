import Blocksnoop.Cli.Deadlock
import Blocksnoop.CoreBackend.Reading

/-!
# A detector that stopped collecting

An error that the reader records after the handshake is only seen by
`check_health`.  A child that exits is seen by the poll before it.  So a run of a
command is clean although the detector had stopped exactly when no health check
came in between.
-/

namespace Blocksnoop.Cli

open Blocksnoop.Support Blocksnoop.CoreBackend

section

variable {F : Type}

/-- An error is recorded that `check_health` would raise. -/
def Pipeline.failed (p : Pipeline F) : Bool :=
  p.detector.runtimeError.isSome

/-- A run in which an error is recorded before the loop observes the exit code 0
is not reported as clean, and the loop does not return 0. -/
def NotClean (run : Outcome PyException (Option ℤ) × World (Pipeline F) (Move F)) : Prop :=
  ∀ before event after, run.2.history = before ++ event :: after →
    event.inner.failed = true → .observed 0 ∉ marks before →
    .began (.onExit "clean") ∉ marks run.2.history ∧ run.1 ≠ .ok (some 0)

/-- The loop observes the exit code 0 after an error only if a health check has
begun in between. -/
def CheckedFirst (before : List (Event (Pipeline F))) (event : Event (Pipeline F)) : Prop :=
  event.mark = .observed 0 → event.inner.failed = true →
    ∃ earlier ∈ before, earlier.mark = .began .checkHealth ∧ earlier.inner.failed = true

/-! ## Errors last -/

/-- Once an error is recorded it is there at every later event. -/
def Lasting (before : List (Event (Pipeline F))) (event : Event (Pipeline F)) : Prop :=
  (∃ earlier ∈ before, earlier.inner.failed = true) → event.inner.failed = true

/-- No health check has begun with an error. -/
def ChecksHealthy (history : List (Event (Pipeline F))) : Prop :=
  ∀ event ∈ history, event.mark = .began .checkHealth → event.inner.failed = false

/-- The loop has observed the exit code 0 while there was no error. -/
def FoundHealthy (history : List (Event (Pipeline F))) : Prop :=
  ∃ event ∈ history, event.mark = .observed 0 ∧ event.inner.failed = false

theorem FoundHealthy.mono {history history' : List (Event (Pipeline F))}
    (h : FoundHealthy history) (hle : history <+: history') : FoundHealthy history' := by
  obtain ⟨event, hevent, hmark, hfailed⟩ := h
  exact ⟨event, hle.subset hevent, hmark, hfailed⟩

/-- What is known of the errors in every world of a run. -/
structure Kept (s : World (Pipeline F) (Move F)) : Prop where
  along : Along Lasting s.history
  now : (∃ event ∈ s.history, event.inner.failed = true) → s.inner.failed = true
  idle : s.inner.reader = .notStarted → s.inner.failed = false
  clean : .began (.onExit "clean") ∈ marks s.history → FoundHealthy s.history

variable {s : World (Pipeline F) (Move F)}

theorem Kept.record {m : Mark} (hs : Kept s)
    (hm : m = .began (.onExit "clean") → FoundHealthy s.history) : Kept (s.record m) where
  along := along_concat.mpr ⟨hs.along, hs.now⟩
  now := by
    rintro ⟨event, hevent, hfailed⟩
    rcases List.mem_append.mp hevent with hevent | hevent
    · exact hs.now ⟨event, hevent, hfailed⟩
    · obtain rfl := List.mem_singleton.mp hevent
      exact hfailed
  idle := hs.idle
  clean hmem := by
    rw [marks_record, List.mem_append, List.mem_singleton] at hmem
    have hfound : FoundHealthy s.history := hmem.elim hs.clean fun heq => hm heq.symm
    exact hfound.mono (List.prefix_append _ _)

/-- A change that leaves the errors alone, and the reader or its start. -/
theorem Kept.mapInner {f : Pipeline F → Pipeline F} (hs : Kept s)
    (hfailed : (f s.inner).failed = s.inner.failed)
    (hreader : (f s.inner).reader = .notStarted → s.inner.reader = .notStarted) :
    Kept (s.mapInner f) where
  along := hs.along
  now h := hfailed.trans (hs.now h)
  idle h := hfailed.trans (hs.idle (hreader h))
  clean := hs.clean

/-- The end of a run that observed a healthy detector. -/
theorem Kept.notClean {outcome : Outcome PyException (Option ℤ)} (hs : Kept s)
    (hreturned : outcome = .ok (some 0) → FoundHealthy s.history) : NotClean (outcome, s) := by
  intro before event after heq hfailed hobserved
  have hnot : ¬ FoundHealthy s.history := by
    rintro ⟨found, hfound, hmark, hhealthy⟩
    change s.history = before ++ event :: after at heq
    rw [heq, List.mem_append, List.mem_cons] at hfound
    rcases hfound with hfound | rfl | hfound
    · exact hobserved (List.mem_map.mpr ⟨found, hfound, hmark⟩)
    · exact Bool.false_ne_true (hhealthy.symm.trans hfailed)
    · obtain ⟨between, rest, rfl⟩ := List.append_of_mem hfound
      have hlasting := hs.along (before ++ event :: between) found rest
        (by rw [heq]; simp) ⟨event, by simp, hfailed⟩
      exact Bool.false_ne_true (hhealthy.symm.trans hlasting)
  exact ⟨fun hmem => hnot (hs.clean hmem), fun houtcome => hnot (hreturned houtcome)⟩

variable [PyRuntime F]

/-! ### The moves of the rest of the world -/

omit [PyRuntime F] in
theorem Pipeline.failed_setErrorStep (p : Pipeline F) (error : String) (h : p.failed = true) :
    (p.setErrorStep error).1.failed = true := by
  unfold setErrorStep
  split
  · rename_i hready
    unfold Pipeline.failed at h ⊢
    dsimp only [CoreDetector.setError]
    rw [if_pos hready]
    obtain ⟨recorded, hrecorded⟩ := Option.isSome_iff_exists.mp h
    simp [hrecorded]
  · exact h

theorem Pipeline.failed_readerStep (p : Pipeline F) (step : ReaderStep F) (h : p.failed = true) :
    (p.readerStep step).1.failed = true := by
  fun_cases readerStep p step with
  | case3 error => exact p.failed_setErrorStep error h
  | _ => exact h

theorem Pipeline.failed_act (p : Pipeline F) (move : Move F) (h : p.failed = true) :
    (p.act move).failed = true := by
  fun_cases act p move with
  | case4 =>
      fun_cases readerRuns p with
      | case4 step steps _ hfinish p' due hstep =>
          have hfailed := p.failed_readerStep step h
          rw [hstep] at hfailed
          exact hfailed
      | _ => exact h
  | _ => exact h

/-- Until the reader is started there is nobody to record an error. -/
theorem Pipeline.act_notStarted (p : Pipeline F) (move : Move F) (h : p.reader = .notStarted) :
    (p.act move).reader = .notStarted ∧ (p.act move).failed = p.failed := by
  fun_cases act p move with
  | case4 =>
      have hruns : p.readerRuns = p := by
        unfold readerRuns
        rw [h]
      rw [hruns]
      exact ⟨h, rfl⟩
  | _ => exact ⟨h, rfl⟩

theorem Pipeline.notStarted_of_act (p : Pipeline F) (move : Move F)
    (h : (p.act move).reader = .notStarted) : p.reader = .notStarted := by
  revert h
  fun_cases act p move with
  | case4 =>
      fun_cases readerRuns p with
      | case1 hreader => exact fun _ => hreader
      | case2 => exact id
      | case3 => exact fun h => by cases h
      | case4 => exact fun h => by cases h
      | case5 => exact fun h => by cases h
      | case6 => exact fun h => by cases h
      | case7 => exact fun h => by cases h
      | case8 => exact id
  | _ => exact id

theorem stable_kept : Stable (Kept (F := F)) := by
  refine Stable.of_advance ?_
  intro s env schedule hs
  have hfailed : s.inner.failed = true → (s.advance env schedule).inner.failed = true :=
    fun h => advance_inner (P := fun p : Pipeline F => p.failed = true)
      (fun move p hp => p.failed_act move hp) env schedule h
  have hidle : (s.advance env schedule).inner.reader = .notStarted →
      (s.advance env schedule).inner.failed = false := by
    refine advance_inner (P := fun p : Pipeline F => p.reader = .notStarted → p.failed = false)
      ?_ env schedule hs.idle
    intro move p hp hreader
    have hbefore := p.notStarted_of_act move hreader
    exact (p.act_notStarted move hbefore).2.trans (hp hbefore)
  constructor
  · rw [World.advance_history]
    exact hs.along
  · rw [World.advance_history]
    exact fun h => hfailed (hs.now h)
  · exact hidle
  · rw [World.advance_history]
    exact hs.clean

/-! ## The worlds of a run, stage by stage -/

/-- The flag of a world whose errors are kept. -/
def Watched (cleanedUp : Bool) (s : World (Pipeline F) (Move F)) : Prop :=
  s.cleanedUp = cleanedUp ∧ Kept s

/-- The loop is running, and no health check has found an error. -/
def Watching (s : World (Pipeline F) (Move F)) : Prop :=
  Watched false s ∧ ChecksHealthy s.history

/-- The reason may be handed to `on_exit`. -/
def Blaming (cleanedUp : Bool) (reason : String) (s : World (Pipeline F) (Move F)) : Prop :=
  Watched cleanedUp s ∧ (reason = "clean" → FoundHealthy s.history)

section

variable {cleanedUp : Bool} {reason : String} {m : Mark}

omit [PyRuntime F]

theorem Watched.record (hs : Watched cleanedUp s) (hm : m ≠ .began (.onExit "clean")) :
    Watched cleanedUp (s.record m) :=
  ⟨hs.1, hs.2.record fun heq => absurd heq hm⟩

theorem Watching.record (hs : Watching s) (hm : m ≠ .began (.onExit "clean"))
    (hcheck : m ≠ .began .checkHealth) : Watching (s.record m) := by
  refine ⟨hs.1.record hm, ?_⟩
  intro event hevent hmark
  rcases List.mem_append.mp hevent with hevent | hevent
  · exact hs.2 event hevent hmark
  · obtain rfl := List.mem_singleton.mp hevent
    exact absurd hmark hcheck

theorem Blaming.record (hs : Blaming cleanedUp reason s) (hm : m ≠ .began (.onExit "clean")) :
    Blaming cleanedUp reason (s.record m) :=
  ⟨hs.1.record hm, fun heq => (hs.2 heq).mono (List.prefix_append _ _)⟩

/-- Reasons other than a clean end need nothing. -/
theorem Watched.blaming (hs : Watched cleanedUp s) (hreason : reason ≠ "clean") :
    Blaming cleanedUp reason s :=
  ⟨hs, fun heq => absurd heq hreason⟩

theorem Watched.mapInner {f : Pipeline F → Pipeline F} (hs : Watched cleanedUp s)
    (hfailed : (f s.inner).failed = s.inner.failed)
    (hreader : (f s.inner).reader = .notStarted → s.inner.reader = .notStarted) :
    Watched cleanedUp (s.mapInner f) :=
  ⟨hs.1, hs.2.mapInner hfailed hreader⟩

theorem endReason_ne_clean (e : PyException) : endReason e ≠ "clean" := by
  unfold endReason
  split
  · decide
  · decide

/-- A poll that sees the exit code 0 finds a healthy detector, since a health check
would have found the error. -/
theorem Watching.observed (hs : Watching s)
    (hfine : s.record (.observed 0) ∈ fineAlong (Move F) (@CheckedFirst F)) :
    s.inner.failed = false := by
  have hchecked := (record_mem_fineAlong.mp hfine).2 rfl
  cases hfailed : s.inner.failed with
  | false => rfl
  | true =>
      obtain ⟨earlier, hearlier, hmark, herror⟩ := hchecked hfailed
      exact absurd ((hs.2 earlier hearlier hmark).symm.trans herror) Bool.false_ne_true

end

theorem stable_watched (cleanedUp : Bool) : Stable (Watched (F := F) cleanedUp) := by
  refine Stable.and (Stable.of_advance ?_) stable_kept
  intro s env schedule hs
  rw [World.advance_cleanedUp, hs]

theorem stable_watching : Stable (Watching (F := F)) := by
  refine (stable_watched false).and (Stable.of_advance ?_)
  intro s env schedule hs
  rw [World.advance_history]
  exact hs

theorem stable_blaming (cleanedUp : Bool) (reason : String) :
    Stable (Blaming (F := F) cleanedUp reason) := by
  refine (stable_watched cleanedUp).and (Stable.of_advance ?_)
  intro s env schedule hs
  rw [World.advance_history]
  exact hs

/-- The stages of a run that is not clean once the detector has recorded an error: `Watching`
until the loop is left, and then the error is blamed on the reason. -/
def watching (F : Type) [PyRuntime F] : Stages (fineAlong (Move F) (@CheckedFirst F)) where
  Initial := Unstarted Watching
  Open := Watching
  Due := Blaming false
  Flagged := Blaming true
  Stopped := Blaming true
  Exited := Watched true
  Final := Watched true
  Always := Kept
  initial_stable := stable_unstarted stable_watching
  open_stable := stable_watching
  due_stable := stable_blaming false
  flagged_stable := stable_blaming true
  stopped_stable := stable_blaming true
  exited_stable := stable_watched true
  final_stable := stable_watched true
  cleanedUp_of_due _ _ h := h.1.1
  cleanedUp_of_stopped _ _ h := h.1.1
  cleanedUp_of_exited _ h := h.1
  cleanedUp_of_final _ h := h.1
  always_of_initial _ h := h.1.1.2
  always_of_open _ h := h.1.2
  always_of_due _ _ h := h.1.2
  always_of_flagged _ _ h := h.1.2
  always_of_stopped _ _ h := h.1.2
  always_of_exited _ h := h.2
  always_of_final _ h := h.2
  initial_signal _ _ h _ := (h.1.1.record (by simp)).blaming (by decide)
  open_signal _ _ h _ := (h.1.record (by simp)).blaming (by decide)
  due_signal _ _ _ h _ := (h.1.record (by simp)).blaming (by decide)
  flagged_signal _ _ _ h _ :=
    ⟨(h.1.record (by simp)).blaming (by decide), h.1.record (by simp), h.1.record (by simp)⟩
  stopped_signal _ _ _ h _ :=
    ⟨h.record (by simp), h.1.record (by simp), h.1.record (by simp)⟩
  exited_signal _ _ h _ := ⟨h.record (by simp), h.record (by simp)⟩
  final_signal _ _ h _ := h.record (by simp)
  flagged_of_due _ _ h := ⟨⟨rfl, h.1.2.along, h.1.2.now, h.1.2.idle, h.1.2.clean⟩, h.2⟩
  open_poll _ h := ⟨⟨h.1.1, h.1.2.along, h.1.2.now, h.1.2.idle, h.1.2.clean⟩, h.2⟩
  due_poll _ _ h := ⟨⟨h.1.1, h.1.2.along, h.1.2.now, h.1.2.idle, h.1.2.clean⟩, h.2⟩
  open_observed returncode s h _ hfine := by
    refine ⟨h.1.record (by simp), ?_⟩
    intro hreason
    obtain rfl : returncode = 0 := by
      by_contra hne
      simp [exitReason, hne] at hreason
    exact ⟨_, List.mem_append_right _ (List.mem_singleton.mpr rfl), rfl, h.observed hfine⟩

/-! ## The callbacks respect the stages -/

variable {handler : Handler (Pipeline F) (Move F)}

theorem settled_blaming (reason : String) :
    Settled (fineAlong (Move F) (@CheckedFirst F)) (Blaming true reason) where
  stable := stable_blaming true reason
  signal _ _ hs _ := hs.record (by simp)
  cleanedUp _ hs := hs.1.1

/-- `stop` once the flag is set. -/
theorem locking_blaming (reason : String) (hhandler : (watching F).Handles handler) :
    Locking (fineAlong (Move F) (@CheckedFirst F)) Kept handler (Blaming true reason)
      (Blaming true reason) where
  outside := Stages.ticks_settled hhandler (settled_blaming reason) fun _ h => h.1.2
  inside := Stages.ticks_settled hhandler (settled_blaming reason) fun _ h => h.1.2
  acquired _ hs _ := ⟨hs.1.mapInner rfl id, hs.2⟩
  released _ hs := ⟨hs.1.mapInner rfl id, hs.2⟩
  deadlocked _ hs _ _ := hs.record (by simp)
  stopRequested _ hs := ⟨hs.1.mapInner rfl id, hs.2⟩
  cleared _ hs := ⟨hs.1.mapInner rfl id, hs.2⟩
  always _ hs := hs.1.2

/-- While `start` runs the loop is watching, or has been torn down. -/
def WatchingOrFinal (s : World (Pipeline F) (Move F)) : Prop :=
  Watching s ∨ Watched true s

omit [PyRuntime F] in
theorem Watching.mapInner {f : Pipeline F → Pipeline F} (hs : Watching s)
    (hfailed : (f s.inner).failed = s.inner.failed)
    (hreader : (f s.inner).reader = .notStarted → s.inner.reader = .notStarted) :
    Watching (s.mapInner f) :=
  ⟨hs.1.mapInner hfailed hreader, hs.2⟩

omit [PyRuntime F] in
theorem WatchingOrFinal.mapInner {f : Pipeline F → Pipeline F} (hs : WatchingOrFinal s)
    (hfailed : (f s.inner).failed = s.inner.failed)
    (hreader : (f s.inner).reader = .notStarted → s.inner.reader = .notStarted) :
    WatchingOrFinal (s.mapInner f) :=
  hs.imp (fun h => h.mapInner hfailed hreader) fun h => h.mapInner hfailed hreader

theorem ticks_watching (hhandler : (watching F).Handles handler)
    {P : World (Pipeline F) (Move F) → Prop} (hP : Stable P) (hopen : ∀ s, P s → Watching s) :
    Ticks (fineAlong (Move F) (@CheckedFirst F)) Kept handler P WatchingOrFinal :=
  (Stages.ticks_of_open hhandler hP hopen).weaken fun _ => Or.inr

theorem ticks_watchingOrFinal (hhandler : (watching F).Handles handler) :
    Ticks (fineAlong (Move F) (@CheckedFirst F)) Kept handler WatchingOrFinal
      WatchingOrFinal := by
  have hsettled : Settled (fineAlong (Move F) (@CheckedFirst F)) (Watched (F := F) true) :=
    Stages.settled_final (S := watching F)
  exact ((Stages.ticks_of_open hhandler stable_watching fun _ h => h).or
    (Stages.ticks_settled hhandler hsettled fun _ h => h.2)).weaken
      fun _ h => Or.inr (or_self_iff.mp h)

theorem starting_watching (hhandler : (watching F).Handles handler) :
    Starting (fineAlong (Move F) (@CheckedFirst F)) Kept handler Watching Watching
      WatchingOrFinal WatchingOrFinal where
  outside := ticks_watchingOrFinal hhandler
  inside := ticks_watchingOrFinal hhandler
  acquired _ hs _ := hs.mapInner rfl id
  released _ hs := hs.mapInner rfl id
  deadlocked _ hs _ _ := hs.imp (fun h => h.record (by simp) (by simp)) fun h => h.record (by simp)
  stopRequested _ hs := hs.mapInner rfl id
  cleared _ hs := hs.mapInner rfl id
  always _ hs := hs.elim (fun h => h.1.2) fun h => h.2
  idle := ticks_watching hhandler stable_watching fun _ h => h
  idle_unstarted := ticks_watching hhandler (stable_unstarted stable_watching) fun _ h => h.1
  locked := ticks_watching hhandler stable_watching fun _ h => h
  locked_unstarted := ticks_watching hhandler (stable_unstarted stable_watching) fun _ h => h.1
  out_of_idle _ hs := Or.inl hs
  in_of_locked _ hs := Or.inl hs
  idle_acquired _ hs _ := hs.mapInner rfl id
  locked_released _ hs := hs.mapInner rfl id
  reset _ hs := hs.1.mapInner (hs.1.1.2.idle hs.2).symm id
  built s path command d hs hcommand := by
    obtain ⟨pid, tid, dev, ino, thresholdNs, -, hd, -⟩ := CoreDetector.buildCommand_eq_ok hcommand
    rw [hd]
    exact hs.1.mapInner rfl id
  spawned _ hs := hs.1.mapInner rfl id
  readerHandle _ hs := hs.1.mapInner rfl id
  stderrHandle _ hs := hs.1.mapInner rfl id
  started _ hs := hs.1.mapInner rfl fun h => by cases h
  stderrStarted _ hs := hs.mapInner rfl id

theorem start_watching (mode : Mode) (hhandler : (watching F).Handles handler)
    (hs : Unstarted Watching s) :
    wp (fineAlong (Move F) (@CheckedFirst F)) (call .start ((callbacks F mode).start handler))
      ((watching F).ends (fun _ => Watching)
        fun e s' => Blaming false (endReason e) s' ∨ Watched true s') s := by
  have hstart := fun s hs => (starting_watching hhandler).start_spec
    (fun _ _ h => h.mapInner rfl id) (fun _ _ h => h.mapInner rfl id) mode (s := s) hs
  refine wp_call (fun _ => hstart _ ⟨hs.1.record (by simp) (by simp), hs.2⟩) ?_ ?_
  · intro _ s' h _
    exact h.record (by simp) (by simp)
  · rintro e s' (h | h) _
    · exact Or.inl ((h.1.record (by simp)).blaming (endReason_ne_clean e))
    · exact Or.inr (h.record (by simp))

theorem stable_failed : Stable fun s : World (Pipeline F) (Move F) => s.inner.failed = true := by
  refine Stable.of_advance ?_
  intro s env schedule hs
  exact advance_inner (P := fun p : Pipeline F => p.failed = true)
    (fun move p hp => p.failed_act move hp) env schedule hs

/-- A health check that finds an error does not return. -/
theorem checkHealth_failed (hhandler : (watching F).Handles handler) (hs : Watched false s)
    (hfailed : s.inner.failed = true) :
    wp (fineAlong (Move F) (@CheckedFirst F)) (checkHealth handler)
      (ends Kept (fun _ _ => False) fun _ s' => Watched false s' ∨ Watched true s') s := by
  have htick : wp (fineAlong (Move F) (@CheckedFirst F)) (tick handler)
      ((watching F).ends (fun _ s' => Watched false s' ∧ s'.inner.failed = true)
        fun _ => Watched true) s :=
    Stages.tick_open hhandler ((stable_watched false).and stable_failed) (fun _ h => h.1.2)
      (fun _ _ h _ => (h.1.record (by simp)).blaming (by decide)) ⟨hs, hfailed⟩
  refine wp_bind_ends htick ?_ (fun _ _ h => Or.inr h)
  rintro _ s₁ _ ⟨hs₁, hfailed₁⟩
  refine wp_get_bind ?_
  obtain ⟨error, herror⟩ := Option.isSome_iff_exists.mp hfailed₁
  rw [herror]
  exact wp_raise (Or.inl hs₁)

theorem checkHealth_watching (hhandler : (watching F).Handles handler) (hs : Watching s) :
    wp (fineAlong (Move F) (@CheckedFirst F)) (call .checkHealth (checkHealth handler))
      ((watching F).ends (fun _ => Watching)
        fun e s' => Blaming false (endReason e) s' ∨ Watched true s') s := by
  have hbegan : Watched false (s.record (.began .checkHealth)) := hs.1.record (by simp)
  have hbody : wp (fineAlong (Move F) (@CheckedFirst F)) (checkHealth handler)
      (ends Kept (fun _ => Watching) fun _ s' => Watched false s' ∨ Watched true s')
      (s.record (.began .checkHealth)) := by
    cases hfailed : s.inner.failed with
    | true =>
        refine wp_weaken (checkHealth_failed hhandler hbegan hfailed) ?_ (fun _ _ h => h)
        intro _ _ hfalse
        exact hfalse.elim
    | false =>
        have hwatching : Watching (s.record (.began .checkHealth)) := by
          refine ⟨hbegan, ?_⟩
          intro event hevent hmark
          rcases List.mem_append.mp hevent with hevent | hevent
          · exact hs.2 event hevent hmark
          · obtain rfl := List.mem_singleton.mp hevent
            exact hfailed
        have hticks := Stages.ticks_of_open hhandler stable_watching fun _ h => h
        refine wp_weaken (checkHealth_spec hticks hwatching) (fun _ _ h => h) ?_
        intro _ _ h
        exact h.imp_left fun h => h.1
  refine wp_call (fun _ => hbody) ?_ ?_
  · intro _ s' h _
    exact h.record (by simp) (by simp)
  · rintro e s' (h | h) _
    · exact Or.inl ((h.record (by simp)).blaming (endReason_ne_clean e))
    · exact Or.inr (h.record (by simp))

theorem stop_watching (mode : Mode) (reason : String) (hhandler : (watching F).Handles handler)
    (hs : Blaming true reason s) :
    wp (fineAlong (Move F) (@CheckedFirst F)) (call .stop ((callbacks F mode).stop handler))
      ((watching F).ends (fun _ => Blaming true reason) fun _ => Blaming true "runtime_error")
      s := by
  refine wp_call (fun _ => (locking_blaming reason hhandler).stop_spec ?_ mode
    (hs.record (by simp))) ?_ ?_
  · intro i s hs
    exact ⟨hs.record (by simp), hs.record (by simp), hs.record (by simp)⟩
  · intro _ s' h _
    exact h.record (by simp)
  · intro _ s' h _
    exact (h.1.record (by simp)).blaming (by decide)

theorem ticks_watched (hhandler : (watching F).Handles handler) :
    Ticks (fineAlong (Move F) (@CheckedFirst F)) Kept handler (Watched true) (Watched true) :=
  Stages.ticks_settled hhandler (Stages.settled_final (S := watching F)) fun _ h => h.2

theorem onExit_watching (mode : Mode) (reason : String)
    (hhandler : (watching F).Handles handler) (hs : Blaming true reason s) :
    wp (fineAlong (Move F) (@CheckedFirst F))
      (call (.onExit reason) ((callbacks F mode).onExit reason handler))
      ((watching F).ends (fun _ => Watched true) fun _ => Watched true) s := by
  have hbegan : Watched true (s.record (.began (.onExit reason))) := by
    refine ⟨hs.1.1, hs.1.2.record ?_⟩
    intro heq
    exact hs.2 (by simpa using heq)
  have hbody : wp (fineAlong (Move F) (@CheckedFirst F)) ((callbacks F mode).onExit reason handler)
      (ends Kept (fun _ => Watched true) fun _ => Watched true)
      (s.record (.began (.onExit reason))) := by
    have hticks := ticks_watched hhandler
    cases mode with
    | stats => exact hticks.unknown_keeps hbegan
    | normal =>
        refine wp_bind_ends (reporterSummary_spec reason hticks (fun _ _ h => h.mapInner rfl id)
          (fun _ _ h => h.mapInner rfl id) hbegan) ?_ (fun _ _ h => h)
        intro _ s₁ _ hs₁
        exact hticks.unknown_keeps hs₁
  refine wp_call (fun _ => hbody) ?_ ?_
  · intro _ s' h _
    exact h.record (by simp)
  · intro _ s' h _
    exact h.record (by simp)

theorem reaping_watched : (watching F).Reaping (Watched true) where
  stable := stable_watched true
  polled _ h := ⟨h.1, h.2.along, h.2.now, h.2.idle, h.2.clean⟩
  signal _ _ h _ := h.record (by simp)
  always _ h := h.2

theorem callbacks_watching (mode : Mode) : Respects (watching F) (callbacks F mode) where
  start _ hhandler _ hs := start_watching mode hhandler hs
  checkHealth handler hhandler s hs := by
    have hcheck : (callbacks F mode).checkHealth handler = checkHealth handler := by
      cases mode
      · rfl
      · rfl
    rw [hcheck]
    exact checkHealth_watching hhandler hs
  stop reason _ hhandler _ hs := stop_watching mode reason hhandler hs
  onExit reason _ hhandler _ hs := onExit_watching mode reason hhandler hs
  stopChild _ hhandler _ hs :=
    reaping_watched.stopChild_spec hhandler (fun _ => hs.record (by simp))
      (fun _ h _ => h.record (by simp)) (fun _ h _ => h.record (by simp))

/-! ## Runs that are not clean -/

/-- No run of a command is clean after the detector has recorded an error, when a
health check begins between the error and a poll that sees the exit code 0. -/
theorem runLoop_notClean (mode : Mode) (s : World (Pipeline F) (Move F))
    (hflag : s.cleanedUp = false) (hreader : s.inner.reader = .notStarted)
    (herror : s.inner.detector.runtimeError = none) (hhistory : s.history = [])
    (hchecked : Along CheckedFirst ((runLoop (callbacks F mode)).run s).2.history) :
    NotClean ((runLoop (callbacks F mode)).run s) := by
  have hkept : Kept s := by
    constructor
    · rw [hhistory]
      intro before event after heq
      simp at heq
    · rw [hhistory]
      rintro ⟨event, hevent, -⟩
      cases hevent
    · intro _
      unfold Pipeline.failed
      rw [herror]
      rfl
    · rw [hhistory]
      intro hmem
      cases hmem
  have hwatching : Watching s := by
    refine ⟨⟨hflag, hkept⟩, ?_⟩
    rw [hhistory]
    intro event hevent
    cases hevent
  have hspec := (callbacks_watching mode).runLoop_spec ⟨hwatching, hreader⟩ hchecked
  revert hspec
  rcases (runLoop (callbacks F mode)).run s with ⟨outcome, s'⟩
  intro hspec
  cases outcome with
  | ok returncode =>
      obtain ⟨hfinal, earlier, hdue, hle⟩ := hspec
      refine hfinal.2.notClean ?_
      intro houtcome
      obtain rfl : returncode = some 0 := by simpa using houtcome
      exact (hdue.2 (by decide)).mono hle
  | raised e => exact hspec.2.notClean fun h => by cases h
  | paused => exact Kept.notClean hspec fun h => by cases h

end

/-- A pipeline for a target in a private namespace, with a sidecar. -/
def commandPipeline : Pipeline ℚ :=
  { idlePipeline .normal with
    proc := nestedProc
    sidecarPath := some "/bin/sidecar"
    detector := nestedDetector }

/-- A launched target whose sidecar is ready while `start` waits for it.  In the
`n`-th step after that the sidecar exits, the reader records the error and the
target exits with code 0. -/
def collapsingAfter (n : ℕ) : World (Pipeline ℚ) (Move ℚ) where
  inner := commandPipeline
  child := some {}
  schedule := List.replicate 14 {} ++
    { env := [.inner (.output (some sampleReadyLine)), .inner .readerRuns, .inner .readerRuns,
        .inner .readerRuns] } ::
    (List.replicate n {} ++
      { env := [.inner .sidecarExits, .inner .readerRuns, .inner .readerRuns,
          .inner .readerRuns, .childExits 0] } ::
      List.replicate 30 {})

/-- The error is recorded between a poll and the health check after it. -/
theorem runLoop_notClean_check :
    NotClean ((runLoop (callbacks ℚ .normal)).run (collapsingAfter 4)) := by
  refine runLoop_notClean .normal (collapsingAfter 4) rfl rfl rfl rfl ?_
  have hnone : ((runLoop (callbacks ℚ .normal)).run (collapsingAfter 4)).2.history.all
      (fun event => event.mark ≠ .observed 0) = true := by
    decide +kernel
  intro before event after heq hmark
  have hevent := List.all_eq_true.mp hnone event (by rw [heq]; simp)
  exact absurd hmark (by simpa using hevent)

/-- A run that observes the exit code 0 once, while an error is recorded, and is
reported as clean. -/
theorem not_notClean_of_observed {F : Type}
    {run : Outcome PyException (Option ℤ) × World (Pipeline F) (Move F)}
    (hobserved : run.2.history.any
      (fun event => event.mark = .observed 0 && event.inner.failed) = true)
    (honce : (marks run.2.history).count (.observed 0) = 1)
    (hclean : .began (.onExit "clean") ∈ marks run.2.history) : ¬ NotClean run := by
  intro hnotClean
  obtain ⟨event, hevent, hfound⟩ := List.any_eq_true.mp hobserved
  obtain ⟨hmark, hfailed⟩ : event.mark = .observed 0 ∧ event.inner.failed = true := by
    simpa using hfound
  obtain ⟨before, after, heq⟩ := List.append_of_mem hevent
  have hnot : .observed 0 ∉ marks before := by
    rw [heq, marks, List.map_append, List.map_cons, List.count_append, hmark,
      List.count_cons_self] at honce
    exact List.count_eq_zero.mp (by unfold marks; omega)
  exact (hnotClean before event after heq hfailed hnot).1 hclean

/-- The sidecar dies between the handshake and the first poll, and the target is
done: the run is clean. -/
theorem exists_not_notClean :
    ∃ s : World (Pipeline ℚ) (Move ℚ), s.cleanedUp = false ∧
      s.inner.reader.isStarted = false ∧ s.inner.detector.runtimeError = none ∧
      s.history = [] ∧ ¬ NotClean ((runLoop (callbacks ℚ .normal)).run s) := by
  refine ⟨collapsingAfter 2, rfl, rfl, rfl, rfl, ?_⟩
  apply not_notClean_of_observed
  · decide +kernel
  · decide +kernel
  · decide +kernel

end Blocksnoop.Cli
