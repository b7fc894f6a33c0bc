import Blocksnoop.Cli.Pipeline
import Blocksnoop.Cli.Teardown

/-!
# Rules for the detector

What the programs of `CoreDetector` on the main thread keep.  A property of runs gives
two conditions, one outside and one under the lock, and shows that they pass the step
boundaries and the few changes the programs make; the programs are followed here
once for all such properties.
-/

namespace Blocksnoop.Cli

open Blocksnoop.Support Blocksnoop.CoreBackend

section

variable {F : Type} [PyRuntime F] {fine : LowerSet (World (Pipeline F) (Move F))}
  {Always : World (Pipeline F) (Move F) → Prop} {handler : Handler (Pipeline F) (Move F)}
  {s : World (Pipeline F) (Move F)}

/-! ## Stopping -/

/-- `Out` holds outside the lock and `In` under it, whatever is raised. -/
structure Locking (fine : LowerSet (World (Pipeline F) (Move F)))
    (Always : World (Pipeline F) (Move F) → Prop) (handler : Handler (Pipeline F) (Move F))
    (Out In : World (Pipeline F) (Move F) → Prop) : Prop where
  outside : Ticks fine Always handler Out Out
  inside : Ticks fine Always handler In In
  acquired : ∀ s, Out s → s.inner.lockHeld = false → In (s.mapInner (Pipeline.setLock true))
  released : ∀ s, In s → Out (s.mapInner (Pipeline.setLock false))
  deadlocked : ∀ s, Out s → s.inner.lockHeld = true → s.record .deadlocked ∈ fine →
    Out (s.record .deadlocked)
  stopRequested : ∀ s, In s → In (s.mapInner Pipeline.requestStop)
  cleared : ∀ s, In s → In (s.mapInner Pipeline.clearHandles)
  always : ∀ s, Out s → Always s

namespace Locking

variable {Out In : World (Pipeline F) (Move F) → Prop}

/-- The wait for a lock of one's own does not end by itself. -/
theorem waitForLock_spec (h : Locking fine Always handler Out In) (steps : ℕ) (hs : Out s) :
    wp fine (waitForLock handler steps) (ends Always (fun _ _ => False) fun _ => Out) s := by
  induction steps generalizing s with
  | zero => exact wp_pause (h.always s hs)
  | succ steps ih =>
      refine wp_bind_ends (h.outside s hs) ?_ (fun _ _ h => h)
      intro _ s₁ _ hs₁
      exact ih hs₁

/-- Taking the lock leads under it, from any condition `P` that is kept as far. -/
theorem acquire_spec (h : Locking fine Always handler Out In)
    {P Q : World (Pipeline F) (Move F) → Prop} (hP : ∀ s, P s → Out s)
    (hacquired : ∀ s, P s → s.inner.lockHeld = false → Q (s.mapInner (Pipeline.setLock true)))
    (hs : P s) :
    wp fine (acquire handler) (ends Always (fun _ => Q) fun _ => Out) s := by
  refine wp_get_bind ?_
  cases hlock : s.inner.lockHeld with
  | false =>
      rw [if_neg Bool.false_ne_true]
      exact wp_modify fun _ => hacquired s hs hlock
  | true =>
      rw [if_pos rfl]
      refine wp_modify_bind fun hfine => wp_get_bind ?_
      refine wp_weaken (h.waitForLock_spec _ (h.deadlocked s (hP s hs) hlock hfine)) ?_
        (fun _ _ h => h)
      intro _ _ hfalse
      exact hfalse.elim

/-- The rule of `with self._lock`, for a body that leads from `Q` to `A`. -/
theorem withLock_spec (h : Locking fine Always handler Out In) {α : Type} {body : Program F α}
    {P Q : World (Pipeline F) (Move F) → Prop} {A B : α → World (Pipeline F) (Move F) → Prop}
    (hP : ∀ s, P s → Out s) (houtside : Ticks fine Always handler P Out)
    (hacquired : ∀ s, P s → s.inner.lockHeld = false → Q (s.mapInner (Pipeline.setLock true)))
    (hinside : Ticks fine Always handler Q In)
    (hbody : ∀ s, Q s → wp fine body (ends Always A fun _ => In) s)
    (hreleased : ∀ a s, A a s → B a (s.mapInner (Pipeline.setLock false))) (hs : P s) :
    wp fine (withLock handler body) (ends Always B fun _ => Out) s := by
  refine wp_bind_ends (houtside s hs) ?_ (fun _ _ h => h)
  intro _ s₁ _ hs₁
  refine wp_bind_ends (h.acquire_spec hP hacquired hs₁) ?_ (fun _ _ h => h)
  intro _ s₂ _ hs₂
  have htick : wp fine
      (do
        let _ ← tick handler
        body)
      (ends Always A fun _ => In) s₂ := by
    refine wp_bind_ends (hinside s₂ hs₂) ?_ (fun _ _ h => h)
    intro _ s₃ _ hs₃
    exact hbody s₃ hs₃
  refine wp_tryFinally_ends htick ?_ ?_
  · intro a s₃ _ hs₃
    exact wp_modify fun _ => hreleased a s₃ hs₃
  · intro _ s₃ _ hs₃
    exact wp_modify fun _ => h.released s₃ hs₃

theorem join_spec (h : Locking fine Always handler Out In) (isStarted : Pipeline F → Bool)
    (hs : In s) :
    wp fine (join handler isStarted) (ends Always (fun _ => In) fun _ => In) s := by
  refine wp_bind_ends (h.inside s hs) ?_ (fun _ _ h => h)
  intro behaviour s₁ _ hs₁
  refine wp_get_bind ?_
  cases isStarted s₁.inner with
  | true => exact h.inside.ticks_spec behaviour.1 hs₁
  | false => exact wp_raise hs₁

theorem reaps (h : Locking fine Always handler Out In) :
    Reaps fine Always handler sidecarExited In In fun _ => In where
  tick := h.inside
  exited _ hs := wp_get hs
  fails _ _ _ hs := hs
  caught _ _ hs _ := hs
  raised _ _ hs _ := hs

omit [PyRuntime F] in
theorem runIf_spec {P : World (Pipeline F) (Move F) → Prop} {condition : Bool}
    {p : Program F Unit} (hp : wp fine p (ends Always (fun _ => P) fun _ => P) s) (hs : P s) :
    wp fine (runIf condition p) (ends Always (fun _ => P) fun _ => P) s := by
  cases condition with
  | true => exact hp
  | false => exact wp_pure hs

theorem cleanupLocked_spec (h : Locking fine Always handler Out In) (hs : In s) :
    wp fine (cleanupLocked handler) (ends Always (fun _ => In) fun _ => In) s := by
  refine wp_get_bind (wp_modify_bind fun _ => ?_)
  have hcleared := h.cleared s hs
  refine wp_bind_ends (runIf_spec (h.reaps.reap_spec hcleared) hcleared) ?_ (fun _ _ h => h)
  intro _ s₁ _ hs₁
  refine wp_bind_ends (runIf_spec (h.join_spec _ hs₁) hs₁) ?_ (fun _ _ h => h)
  intro _ s₂ _ hs₂
  exact runIf_spec (h.join_spec _ hs₂) hs₂

/-- `stop` keeps what holds outside the lock. -/
theorem detectorStop_spec (h : Locking fine Always handler Out In) (hs : Out s) :
    wp fine (detectorStop handler) (ends Always (fun _ => Out) fun _ => Out) s := by
  refine h.withLock_spec (fun _ h => h) h.outside h.acquired h.inside ?_
    (fun _ s h' => h.released s h') hs
  intro s₁ hs₁
  refine wp_modify_bind fun _ => ?_
  refine wp_bind_ends (h.inside _ (h.stopRequested s₁ hs₁)) ?_ (fun _ _ h => h)
  intro _ s₂ _ hs₂
  exact h.cleanupLocked_spec hs₂

end Locking

/-! ## Starting -/

/-- The reader thread has not been started. -/
def Unstarted (P : World (Pipeline F) (Move F) → Prop) (s : World (Pipeline F) (Move F)) :
    Prop :=
  P s ∧ s.inner.reader = .notStarted

theorem stable_unstarted {P : World (Pipeline F) (Move F) → Prop} (hP : Stable P) :
    Stable (Unstarted P) := by
  refine hP.and (Stable.of_advance ?_)
  intro s env schedule hs
  refine advance_inner (P := fun p : Pipeline F => p.reader = .notStarted) ?_ env schedule hs
  intro move p hp
  change (p.act move).reader = .notStarted
  cases move with
  | readerRuns => simp [Pipeline.act, Pipeline.readerRuns, hp]
  | output line =>
      rw [Pipeline.act, apply_ite Pipeline.reader]
      exact ite_eq_iff'.mpr ⟨fun _ => hp, fun _ => hp⟩
  | stderrOutput chunk =>
      rw [Pipeline.act, apply_ite Pipeline.reader]
      exact ite_eq_iff'.mpr ⟨fun _ => hp, fun _ => hp⟩
  | sidecarExits => exact hp
  | sample timestampNs stack => exact hp
  | clock reading monotonicNs => exact hp

/-- `Idle` and `Locked` hold while a start-up goes well, outside the lock and
under it; once something has been raised, only `Out` and `In` do. -/
structure Starting (fine : LowerSet (World (Pipeline F) (Move F)))
    (Always : World (Pipeline F) (Move F) → Prop) (handler : Handler (Pipeline F) (Move F))
    (Idle Locked Out In : World (Pipeline F) (Move F) → Prop) : Prop
    extends Locking fine Always handler Out In where
  idle : Ticks fine Always handler Idle Out
  idle_unstarted : Ticks fine Always handler (Unstarted Idle) Out
  locked : Ticks fine Always handler Locked In
  locked_unstarted : Ticks fine Always handler (Unstarted Locked) In
  out_of_idle : ∀ s, Idle s → Out s
  in_of_locked : ∀ s, Locked s → In s
  idle_acquired : ∀ s, Idle s → s.inner.lockHeld = false →
    Locked (s.mapInner (Pipeline.setLock true))
  locked_released : ∀ s, Locked s → Idle (s.mapInner (Pipeline.setLock false))
  reset : ∀ s, Unstarted Locked s →
    Locked (s.mapInner fun p => { p with detector := p.detector.reset })
  built : ∀ s path command d, Unstarted Locked s →
    s.inner.detector.buildCommand s.inner.proc path = .ok (command, d) →
    Locked (s.mapInner fun p => { p with detector := d })
  spawned : ∀ s, Unstarted Locked s →
    Locked (s.mapInner fun p => { p with process := true, sidecar := {} })
  readerHandle : ∀ s, Unstarted Locked s →
    Locked (s.mapInner fun p => { p with readerHandle := true })
  stderrHandle : ∀ s, Unstarted Locked s →
    Locked (s.mapInner fun p => { p with stderrHandle := true })
  started : ∀ s, Unstarted Locked s →
    Locked (s.mapInner fun p => { p with reader := .running [.openStdout] })
  stderrStarted : ∀ s, Locked s →
    Locked (s.mapInner fun p => { p with stderrStarted := true })

namespace Starting

variable {Idle Locked Out In : World (Pipeline F) (Move F) → Prop}

theorem launch_spec (h : Starting fine Always handler Idle Locked Out In)
    (hs : Unstarted Locked s) :
    wp fine (launch handler) (ends Always (fun _ => Locked) fun _ => In) s := by
  refine wp_bind_ends (h.locked_unstarted s hs) ?_ (fun _ _ h => h)
  intro popen s₁ _ hs₁
  cases popen.2 with
  | some e => exact wp_bind (wp_raise (h.in_of_locked s₁ hs₁.1))
  | none =>
      refine wp_modify_bind fun _ => ?_
      refine wp_bind_ends (h.locked_unstarted _ ⟨h.spawned s₁ hs₁, hs₁.2⟩) ?_ (fun _ _ h => h)
      intro _ s₂ _ hs₂
      refine wp_modify_bind fun _ => ?_
      refine wp_bind_ends (h.locked_unstarted _ ⟨h.readerHandle s₂ hs₂, hs₂.2⟩) ?_
        (fun _ _ h => h)
      intro _ s₃ _ hs₃
      refine wp_modify_bind fun _ => ?_
      refine wp_bind_ends (h.locked_unstarted _ ⟨h.stderrHandle s₃ hs₃, hs₃.2⟩) ?_
        (fun _ _ h => h)
      intro readerStart s₄ _ hs₄
      cases readerStart.2 with
      | some e => exact wp_bind (wp_raise (h.in_of_locked s₄ hs₄.1))
      | none =>
          refine wp_modify_bind fun _ => ?_
          refine wp_bind_ends (h.locked _ (h.started s₄ hs₄)) ?_ (fun _ _ h => h)
          intro stderrStart s₅ _ hs₅
          cases stderrStart.2 with
          | some e => exact wp_raise (h.in_of_locked s₅ hs₅)
          | none => exact wp_modify fun _ => h.stderrStarted s₅ hs₅

theorem spawn_spec (h : Starting fine Always handler Idle Locked Out In) (path : String)
    (hs : Unstarted Locked s) :
    wp fine (spawn handler path) (ends Always (fun _ => Locked) fun _ => In) s := by
  refine wp_tryElse_ends (A := fun _ => Locked) (E := fun _ => In) ?body
    (fun _ _ _ h => wp_pure h) ?_
  case body =>
    refine wp_bind_ends (h.locked_unstarted s hs) ?_ (fun _ _ h => h)
    intro _ s₁ _ hs₁
    refine wp_get_bind ?_
    cases hcommand : s₁.inner.detector.buildCommand s₁.inner.proc path with
    | error e => exact wp_bind (wp_raise (h.in_of_locked s₁ hs₁.1))
    | ok built =>
        refine wp_modify_bind fun _ => ?_
        exact h.launch_spec ⟨h.built s₁ path built.1 built.2 hs₁ hcommand, hs₁.2⟩
  intro e s₁ _ hs₁
  have hcleanup : ∀ e, wp fine
      (do
        cleanupLocked handler
        Prog.raise e : Program F Unit)
      (ends Always (fun _ => Locked) fun _ => In) s₁ := by
    intro e
    refine wp_bind_ends (h.cleanupLocked_spec hs₁) ?_ (fun _ _ h => h)
    intro _ s₂ _ hs₂
    exact wp_raise hs₂
  split
  · exact hcleanup _
  · split
    · exact hcleanup _
    · exact wp_raise hs₁

theorem startLocked_spec (h : Starting fine Always handler Idle Locked Out In)
    (hs : Unstarted Locked s) :
    wp fine (startLocked handler) (ends Always (fun _ => Locked) fun _ => In) s := by
  refine wp_get_bind ?_
  split
  · exact wp_pure hs.1
  · refine wp_bind_ends (h.locked_unstarted s hs) ?_ (fun _ _ h => h)
    intro _ s₁ _ hs₁
    split
    · exact wp_raise (h.in_of_locked s₁ hs₁.1)
    · rename_i path _
      split
      · exact wp_raise (h.in_of_locked s₁ hs₁.1)
      · refine wp_bind_ends (h.locked_unstarted s₁ hs₁) ?_ (fun _ _ h => h)
        intro _ s₂ _ hs₂
        refine wp_modify_bind fun _ => ?_
        refine wp_bind_ends (h.spawn_spec path ⟨h.reset s₂ hs₂, hs₂.2⟩) ?_ (fun _ _ h => h)
        intro _ s₃ _ hs₃
        exact wp_pure hs₃

/-- The `stop` calls of `start` itself, which end in an error. -/
theorem stopAndRaise_spec (h : Starting fine Always handler Idle Locked Out In)
    {e : CoreDetector F → PyException} (hs : Idle s) :
    wp fine
      (do
        detectorStop handler
        let d ← Prog.get fun s => s.inner.detector
        Prog.raise (e d) : Program F Unit)
      (ends Always (fun _ => Idle) fun _ => Out) s := by
  refine wp_bind_ends (h.detectorStop_spec (h.out_of_idle s hs)) ?_ (fun _ _ h => h)
  intro _ s₁ _ hs₁
  exact wp_get_bind (wp_raise hs₁)

/-- `start` leads from an idle detector to an idle detector, or raises. -/
theorem detectorStart_spec (h : Starting fine Always handler Idle Locked Out In)
    (hs : Unstarted Idle s) :
    wp fine (detectorStart handler) (ends Always (fun _ => Idle) fun _ => Out) s := by
  have hlocked : wp fine (withLock handler (startLocked handler))
      (ends Always (fun _ => Idle) fun _ => Out) s :=
    h.withLock_spec (fun s hs => h.out_of_idle s hs.1) h.idle_unstarted
      (fun s hs hlock => ⟨h.idle_acquired s hs.1 hlock, hs.2⟩) h.locked_unstarted
      (fun _ hs => h.startLocked_spec hs) (fun _ s hs => h.locked_released s hs) hs
  refine wp_bind_ends hlocked ?_ (fun _ _ h => h)
  intro launched s₁ _ hs₁
  split
  · refine wp_bind_ends (h.idle s₁ hs₁) ?_ (fun _ _ h => h)
    intro behaviour s₂ _ hs₂
    refine wp_bind_ends (h.idle.ticks_spec behaviour.1 hs₂) ?_ (fun _ _ h => h)
    intro _ s₃ _ hs₃
    refine wp_get_bind ?_
    split
    · refine wp_bind_ends (h.detectorStop_spec (h.out_of_idle s₃ hs₃)) ?_ (fun _ _ h => h)
      intro _ s₄ _ hs₄
      exact wp_raise hs₄
    · refine wp_bind_ends (h.idle s₃ hs₃) ?_ (fun _ _ h => h)
      intro _ s₄ _ hs₄
      refine wp_get_bind ?_
      split
      · exact wp_pure hs₄
      · exact h.stopAndRaise_spec hs₄
  · exact wp_pure hs₁

end Starting

/-! ## The other parts of the callbacks -/

section

variable {P E : World (Pipeline F) (Move F) → Prop}

theorem reporterStart_spec (h : Ticks fine Always handler P E)
    (hreporter : ∀ s reporter, P s → P (s.mapInner fun p => { p with reporter := reporter }))
    (hrecords : ∀ s records, P s →
      P (s.mapInner fun p => { p with records := p.records ++ records })) (hs : P s) :
    wp fine (reporterStart handler) (ends Always (fun _ => P) fun _ => E) s := by
  refine wp_bind_ends (h s hs) ?_ (fun _ _ h => h)
  intro _ s₁ _ hs₁
  refine wp_get_bind (wp_modify_bind fun _ => ?_)
  refine wp_bind_ends (h _ (hreporter s₁ _ hs₁)) ?_ (fun _ _ h => h)
  intro _ s₂ _ hs₂
  exact wp_modify fun _ => hrecords s₂ _ hs₂

theorem reporterSummary_spec (terminationReason : String) (h : Ticks fine Always handler P E)
    (hreporter : ∀ s reporter, P s → P (s.mapInner fun p => { p with reporter := reporter }))
    (hrecords : ∀ s records, P s →
      P (s.mapInner fun p => { p with records := p.records ++ records })) (hs : P s) :
    wp fine (reporterSummary terminationReason handler) (ends Always (fun _ => P) fun _ => E) s := by
  refine wp_bind_ends (h s hs) ?_ (fun _ _ h => h)
  intro _ s₁ _ hs₁
  refine wp_get_bind ?_
  refine wp_bind_ends (h s₁ hs₁) ?_ (fun _ _ h => h)
  intro _ s₂ _ hs₂
  refine wp_get_bind ?_
  refine wp_bind_ends (h s₂ hs₂) ?_ (fun _ _ h => h)
  intro _ s₃ _ hs₃
  refine wp_get_bind (wp_modify_bind fun _ => ?_)
  refine wp_bind_ends (h _ (hreporter s₃ _ hs₃)) ?_ (fun _ _ h => h)
  intro _ s₄ _ hs₄
  exact wp_modify fun _ => hrecords s₄ _ hs₄

/-- `check_health` changes nothing; it may raise where no signal arrives. -/
theorem checkHealth_spec (h : Ticks fine Always handler P E) (hs : P s) :
    wp fine (checkHealth handler) (ends Always (fun _ => P) fun _ s' => P s' ∨ E s') s := by
  refine wp_bind_ends (h s hs) ?_ (fun _ _ h => Or.inr h)
  intro _ s₁ _ hs₁
  refine wp_get_bind ?_
  split
  · exact wp_raise (Or.inl hs₁)
  · refine wp_bind_ends (h s₁ hs₁) ?_ (fun _ _ h => Or.inr h)
    intro _ s₂ _ hs₂
    refine wp_get_bind ?_
    split
    · exact wp_raise (Or.inl hs₂)
    · exact wp_pure hs₂

end

/-- Both `stop` callbacks keep what holds outside the lock. -/
theorem Locking.stop_spec {Out In : World (Pipeline F) (Move F) → Prop}
    (h : Locking fine Always handler Out In)
    (hmarks : ∀ i s, Out s → Out (s.record (.began (.stopPart i))) ∧
      Out (s.record (.returned (.stopPart i))) ∧ Out (s.record (.raised (.stopPart i))))
    (mode : Mode) (hs : Out s) :
    wp fine ((callbacks F mode).stop handler) (ends Always (fun _ => Out) fun _ => Out) s := by
  have hparts : wp fine (stopParts [detectorStop, unknown] handler 0)
      (ends Always (fun _ => Out) fun _ => Out) s := by
    refine h.outside.stopParts_spec hmarks ?_ 0 hs
    intro part hmem s hs
    rcases List.mem_pair.mp hmem with rfl | rfl
    · exact h.detectorStop_spec hs
    · exact h.outside.unknown_keeps hs
  cases mode
  · exact hparts
  · exact hparts

section

variable {Idle Locked Out In : World (Pipeline F) (Move F) → Prop}

/-- The start of the sampler or the collector, and of the detector. -/
theorem Starting.afterReporter_spec (h : Starting fine Always handler Idle Locked Out In)
    (hs : Unstarted Idle s) :
    wp fine
      (do
        unknown handler
        detectorStart handler)
      (ends Always (fun _ => Idle) fun _ => Out) s := by
  refine wp_bind_ends (h.idle_unstarted.unknown_spec hs) ?_ ?_
  · intro _ s₁ _ hs₁
    exact h.detectorStart_spec hs₁
  · intro _ s₁ hs₁
    exact hs₁.elim (fun h' => h.out_of_idle s₁ h'.1) id

/-- Both `start` callbacks, for conditions that do not depend on the reporter. -/
theorem Starting.start_spec (h : Starting fine Always handler Idle Locked Out In)
    (hreporter : ∀ s reporter, Idle s →
      Idle (s.mapInner fun p => { p with reporter := reporter }))
    (hrecords : ∀ s records, Idle s →
      Idle (s.mapInner fun p => { p with records := p.records ++ records }))
    (mode : Mode) (hs : Unstarted Idle s) :
    wp fine ((callbacks F mode).start handler) (ends Always (fun _ => Idle) fun _ => Out) s := by
  cases mode with
  | stats => exact h.afterReporter_spec hs
  | normal =>
      have hstart : wp fine (reporterStart handler)
          (ends Always (fun _ => Unstarted Idle) fun _ => Out) s :=
        reporterStart_spec h.idle_unstarted (fun s r hs => ⟨hreporter s r hs.1, hs.2⟩)
          (fun s r hs => ⟨hrecords s r hs.1, hs.2⟩) hs
      refine wp_bind_ends hstart ?_ (fun _ _ h => h)
      intro _ s₁ _ hs₁
      exact h.afterReporter_spec hs₁

end

end

end Blocksnoop.Cli
