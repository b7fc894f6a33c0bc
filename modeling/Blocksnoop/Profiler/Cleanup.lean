import Blocksnoop.Profiler.Sampler

/-!
# What the sampler leaves behind

`stop` removes the wrapper only when an Austin was constructed, and only the wrapper that
was recorded.  So a start that is cut short loses the file exactly if it is left between
the creation of the file and the assignment of the Austin, or in its own cleaning up.
-/

namespace Blocksnoop.AustinSampler

open Blocksnoop.Support Blocksnoop.Support.Faulty

/-- What happens at the points of `start`. -/
abbrev Plan := SamplerPoint → Fault String

/-- The exceptions that `terminate` and `join` raise in `stop`. -/
def stopPlan (raised : SamplerPoint → Option String) : Plan := fun point =>
  match raised point with
  | none => .none
  | some error => .raises error

/-- `start` and then `stop`. -/
def session (host : SamplerHost) (plan : Plan) (raised : SamplerPoint → Option String)
    (s : Sampling) : Sampling :=
  (stop.run (stopPlan raised) ((start host).run plan s).2).2

/-- No wrapper, none recorded, and no Austin. -/
def Clean (host : SamplerHost) (s : Sampling) : Prop :=
  host.tempName ∉ s.files ∧ s.sampler.nsenterWrapper = none ∧ s.sampler.austin = none

/-! ## The windows -/

/-- `_create_nsenter_wrapper` comes to the creation of the file. -/
def ComesToFile (host : SamplerHost) (plan : Plan) : Prop :=
  host.austinPath ≠ none ∧ firstFault plan [.which] = .none ∧ firstFault plan [.muslLinker] = .none

/-- The file is there and its name is lost. -/
def Orphaned (plan : Plan) : Prop :=
  plan .mkstemp = .exitAfter ∨
    (plan .mkstemp = .none ∧
      ((firstFault plan [.fdopen, .write, .close, .chmod]).IsExit ∨
        ((∃ error, firstFault plan [.fdopen, .write, .close, .chmod] = .raises error) ∧
          plan .unlinkPartial = .exitBefore) ∨
        (firstFault plan [.fdopen, .write, .close, .chmod] = .none ∧
          ((plan .returned).IsExit ∨ plan .record = .exitBefore))))

/-- The name is recorded. -/
def Recorded (plan : Plan) : Prop :=
  plan .mkstemp = .none ∧ firstFault plan [.fdopen, .write, .close, .chmod] = .none ∧
    ¬ (plan .returned).IsExit ∧ plan .record ≠ .exitBefore

/-- An exit in the cleaning up, before the record is cleared. -/
def CutCleanup (plan : Plan) : Prop :=
  (plan .unlink).IsExit ∨ plan .clearWrapper = .exitBefore

/-- The launch is left without an Austin, or in the middle of the cleaning up. -/
def LaunchCut (plan : Plan) : Prop :=
  (firstFault plan [.construct]).IsExit ∨
    ((∃ error, firstFault plan [.construct] = .raises error) ∧
      ((plan .clearAustin).IsExit ∨ CutCleanup plan)) ∨
    (firstFault plan [.construct] = .none ∧
      (plan .setAustin = .exitBefore ∨
        (¬ (plan .setAustin).IsExit ∧ ¬ (plan .setBinaryPath).IsExit ∧
          (∃ error, plan .austinStart = .raises error) ∧
          (plan .clearAustin = .exitAfter ∨
            (¬ (plan .clearAustin).IsExit ∧ CutCleanup plan)))))

/-- `start` is left with the name recorded and without an Austin. -/
def Stranded (plan : Plan) : Prop :=
  Recorded plan ∧
    (plan .record = .exitAfter ∨
      firstFault plan [.resolvePid, .resolveTid, .logNsenter] ≠ .none ∨ LaunchCut plan)

/-- The branch for another mount namespace leaves something of the wrapper. -/
def Left (host : SamplerHost) (plan : Plan) : Prop :=
  ComesToFile host plan ∧ (Orphaned plan ∨ Stranded plan)

/-- The starts that are cut where nothing cleans up. -/
def Leaks (host : SamplerHost) (plan : Plan) (pid : ℤ) : Prop :=
  firstFault plan [.logStarting, .sameMountNs] = .none ∧ host.sameMountNs pid = false ∧
    Left host plan

/-! ## Stopping -/

/-- What `stop` can clean up. -/
def Settled (host : SamplerHost) (s : Sampling) : Prop :=
  match s.sampler.austin with
  | none => host.tempName ∉ s.files ∧ s.sampler.nsenterWrapper = none
  | some _ => host.tempName ∈ s.files → s.sampler.nsenterWrapper = some host.tempName

theorem not_isExit_stopPlan (raised : SamplerPoint → Option String) (point : SamplerPoint) :
    ¬ (stopPlan raised point).IsExit := by
  unfold stopPlan Fault.IsExit
  cases raised point with
  | none => simp
  | some error => simp

/-- A statement of `stop`; nothing interrupts it. -/
theorem ensures_step_stop {raised : SamplerPoint → Option String} {point : SamplerPoint} {α : Type}
    {p : SamplerProgram α} {Q : Except (Raised String) α → Sampling → Prop} {s : Sampling}
    (h : ensures (stopPlan raised) p Q s) : ensures (stopPlan raised) (step point p) Q s := by
  have hexit := not_isExit_stopPlan raised point
  exact ensures_step (fun _ => h) (fun hbefore => absurd (.inl hbefore) hexit)
    (fun hafter => absurd (.inr hafter) hexit)

/-- A call of `stop` whose exceptions are only logged. -/
theorem ensures_logged_call {raised : SamplerPoint → Option String} {point : SamplerPoint}
    {Q : Except (Raised String) Unit → Sampling → Prop} {s : Sampling} (h : Q (.ok ()) s) :
    ensures (stopPlan raised) (tryExcept (calls [point]) fun _ => pure ()) Q s := by
  apply ensures_tryExcept
  apply ensures_calls
  · exact fun _ => h
  · exact fun _ _ => h
  · intro hexit
    have hfirst : firstFault (stopPlan raised) [point] = stopPlan raised point := by
      unfold firstFault firstFault
      split <;> simp [*]
    rw [hfirst] at hexit
    exact absurd hexit (not_isExit_stopPlan raised point)

theorem ensures_cleanup_stop {raised : SamplerPoint → Option String} {s : Sampling}
    {Q : Except (Raised String) Unit → Sampling → Prop}
    (hnone : s.sampler.nsenterWrapper = none → Q (.ok ()) s)
    (hsome : ∀ wrapper, s.sampler.nsenterWrapper = some wrapper →
      Q (.ok ()) ((s.unlink wrapper).setNsenterWrapper none)) :
    ensures (stopPlan raised) cleanupNsenterWrapper Q s := by
  apply ensures_then
  apply ensures_get
  dsimp only
  cases hwrapper : s.sampler.nsenterWrapper with
  | none => exact ensures_pure (hnone hwrapper)
  | some wrapper =>
      apply ensures_then
      apply ensures_step_stop
      apply ensures_modify
      apply ensures_step_stop
      apply ensures_modify
      exact hsome wrapper hwrapper

theorem clean_stop_iff (host : SamplerHost) (raised : SamplerPoint → Option String) (s : Sampling) :
    Clean host (stop.run (stopPlan raised) s).2 ↔ Settled host s := by
  suffices h : ensures (stopPlan raised) stop (fun _ s' => Clean host s' ↔ Settled host s) s from h
  apply ensures_then
  apply ensures_step_stop
  apply ensures_modify
  apply ensures_then
  apply ensures_get
  dsimp only
  rw [Sampling.austin_setHealthTimer]
  cases haustin : s.sampler.austin with
  | none =>
      apply ensures_pure
      simp [Clean, Settled, haustin]
  | some austin =>
      apply ensures_then
      apply ensures_step_stop
      apply ensures_pure
      apply ensures_then
      apply ensures_logged_call
      apply ensures_then
      apply ensures_logged_call
      apply ensures_then
      apply ensures_step_stop
      apply ensures_modify
      apply ensures_cleanup_stop
      · intro hwrapper
        have hnone : s.sampler.nsenterWrapper = none := hwrapper
        simp [Clean, Settled, haustin, hnone]
      · intro wrapper hwrapper
        have hsome : s.sampler.nsenterWrapper = some wrapper := hwrapper
        have hremoved : host.tempName ∉ s.files.filter (· ≠ wrapper) ↔
            (host.tempName ∈ s.files → wrapper = host.tempName) := by
          rw [List.mem_filter, not_and]
          refine imp_congr_right fun _ => ?_
          rw [decide_eq_true_iff, not_not]
          exact eq_comm
        simp only [Clean, Settled, haustin, hsome, Sampling.files_setNsenterWrapper,
          Sampling.files_unlink, Sampling.files_setAustin, Sampling.files_setHealthTimer,
          Sampling.nsenterWrapper_setNsenterWrapper, Sampling.austin_setNsenterWrapper,
          Sampling.sampler_unlink, Sampling.austin_setAustin, hremoved, Option.some.injEq]
        simp

/-! ## Launching -/

section

variable {host : SamplerHost} {plan : Plan} {s : Sampling}

/-- With an Austin, and with the wrapper recorded, `stop` does the rest. -/
theorem settled_of_austin {austin : Austin} (haustin : s.sampler.austin = some austin)
    (hwrapper : s.sampler.nsenterWrapper = some host.tempName) : Settled host s := by
  simp [Settled, haustin, hwrapper]

theorem not_settled_of_recorded (haustin : s.sampler.austin = none)
    (hwrapper : s.sampler.nsenterWrapper = some host.tempName) : ¬ Settled host s := by
  simp [Settled, haustin, hwrapper]

theorem settled_of_removed (haustin : s.sampler.austin = none) :
    Settled host ((s.unlink host.tempName).setNsenterWrapper none) := by
  simp [Settled, haustin]

/-- What the `except` clause leaves, for a wrapper that is recorded. -/
theorem ensures_abandon {error : String} (hwrapper : s.sampler.nsenterWrapper = some host.tempName) :
    ensures plan (abandon error) (fun result s' => (∃ raised, result = .error raised) ∧
      (Settled host s' ↔
        if plan .clearAustin = .exitBefore then s.sampler.austin ≠ none
        else plan .clearAustin ≠ .exitAfter ∧ ¬ CutCleanup plan)) s := by
  apply ensures_then
  apply ensures_step
  · intro hclear
    obtain ⟨hbefore, hafter⟩ := not_or.mp hclear
    simp only [if_neg hbefore, hafter, Ne, not_false_iff, true_and]
    apply ensures_modify
    apply ensures_then
    apply ensures_then
    apply ensures_get
    dsimp only
    rw [Sampling.nsenterWrapper_setAustin, hwrapper]
    apply ensures_then
    apply ensures_step
    · intro hunlink
      apply ensures_modify
      apply ensures_step
      · intro hclearWrapper
        apply ensures_modify
        apply ensures_raise
        refine ⟨⟨_, rfl⟩, iff_of_true (settled_of_removed rfl) ?_⟩
        rintro (hcut | hcut)
        · exact hunlink hcut
        · exact hclearWrapper (.inl hcut)
      · intro hclearWrapper
        exact ⟨⟨_, rfl⟩, iff_of_false (not_settled_of_recorded rfl hwrapper)
          (not_not.mpr (.inr hclearWrapper))⟩
      · intro hclearWrapper
        refine ⟨⟨_, rfl⟩, iff_of_true (settled_of_removed rfl) ?_⟩
        rintro (hcut | hcut)
        · exact hunlink hcut
        · rw [hclearWrapper] at hcut
          cases hcut
    · intro hunlink
      exact ⟨⟨_, rfl⟩, iff_of_false (not_settled_of_recorded rfl hwrapper)
        (not_not.mpr (.inl (.inl hunlink)))⟩
    · intro hunlink
      exact ⟨⟨_, rfl⟩, iff_of_false (not_settled_of_recorded rfl hwrapper)
        (not_not.mpr (.inl (.inr hunlink)))⟩
  · intro hbefore
    rw [if_pos hbefore]
    refine ⟨⟨_, rfl⟩, ?_⟩
    cases haustin : s.sampler.austin with
    | none => simpa using not_settled_of_recorded haustin hwrapper
    | some austin => simpa using settled_of_austin haustin hwrapper
  · intro hafter
    have hbefore : plan .clearAustin ≠ .exitBefore := by simp [hafter]
    rw [if_neg hbefore]
    exact ⟨⟨_, rfl⟩, iff_of_false (not_settled_of_recorded rfl hwrapper) fun h => h.1 hafter⟩

/-- Where an exception of the launch is handled, the clause decides. -/
theorem launchCut_of_raises {error : String} (h : firstFault plan [.construct] = .raises error) :
    LaunchCut plan ↔ (plan .clearAustin).IsExit ∨ CutCleanup plan := by
  simp [LaunchCut, h, Fault.IsExit]

theorem launchCut_of_constructed (h : firstFault plan [.construct] = .none) :
    LaunchCut plan ↔ plan .setAustin = .exitBefore ∨
      (¬ (plan .setAustin).IsExit ∧ ¬ (plan .setBinaryPath).IsExit ∧
        (∃ error, plan .austinStart = .raises error) ∧
        (plan .clearAustin = .exitAfter ∨
          (¬ (plan .clearAustin).IsExit ∧ CutCleanup plan))) := by
  simp [LaunchCut, h, Fault.IsExit]

theorem launchCut_of_start_raises {error : String} (hconstruct : firstFault plan [.construct] = .none)
    (hset : ¬ (plan .setAustin).IsExit) (hbinary : ¬ (plan .setBinaryPath).IsExit)
    (hstart : plan .austinStart = .raises error) :
    LaunchCut plan ↔ plan .clearAustin = .exitAfter ∨
      (¬ (plan .clearAustin).IsExit ∧ CutCleanup plan) := by
  rw [launchCut_of_constructed hconstruct]
  simp only [(not_or.mp hset).1, hset, hbinary, hstart, not_false_iff, true_and, false_or,
    Fault.raises.injEq, exists_eq']

/-- What the `try` statement of `start` leaves, for a wrapper that is recorded. -/
theorem ensures_launch {intervalUs : ℤ} {l : Launch} {wrapper : String}
    (hl : l.nsenterWrapper = some wrapper) (haustin : s.sampler.austin = none)
    (hwrapper : s.sampler.nsenterWrapper = some host.tempName) :
    ensures plan (tryExcept (launch intervalUs l) abandon) (fun result s' =>
      (Settled host s' ↔ ¬ LaunchCut plan) ∧
        (result = .ok () → Settled host s')) s := by
  have harmed : ∀ {raised : Except (Raised String) Unit} {s' : Sampling} {austin : Austin},
      s'.sampler.austin = some austin → s'.sampler.nsenterWrapper = some host.tempName →
      ¬ LaunchCut plan →
      (Settled host s' ↔ ¬ LaunchCut plan) ∧ (raised = .ok () → Settled host s') :=
    fun haustin hwrapper hcut =>
      ⟨iff_of_true (settled_of_austin haustin hwrapper) hcut,
        fun _ => settled_of_austin haustin hwrapper⟩
  apply ensures_tryExcept
  apply ensures_then
  apply ensures_calls
  · intro hconstruct
    have hcut := launchCut_of_constructed hconstruct
    apply ensures_then
    apply ensures_step
    · intro hset
      have hset' := (not_or.mp hset).1
      apply ensures_modify
      apply ensures_then
      unfold overrideBinaryPath
      dsimp only
      rw [hl]
      apply ensures_step
      · intro hbinary
        apply ensures_modify
        apply ensures_call
        · intro hstart
          apply ensures_modify
          exact harmed rfl hwrapper (by simp [hcut, hset', hstart])
        · intro error hstart
          change ensures plan (abandon error) _ _
          refine ensures.mono (@ensures_abandon host _ _ _ ?_) ?_
          · exact hwrapper
          · rintro result s' ⟨⟨raised, rfl⟩, hsettled⟩
            refine ⟨hsettled.trans ?_, by simp⟩
            rw [launchCut_of_start_raises hconstruct hset hbinary hstart, Sampling.austin_setAustin]
            by_cases hbefore : plan .clearAustin = .exitBefore
            · simp [hbefore, Fault.IsExit]
            · by_cases hafter : plan .clearAustin = .exitAfter
              · simp [hafter]
              · simp [hbefore, hafter, Fault.IsExit]
        · intro hstart
          exact harmed rfl hwrapper (by simp [hcut, hset', hstart])
        · intro hstart
          exact harmed rfl hwrapper (by simp [hcut, hset', hstart])
      · intro hbinary
        exact harmed rfl hwrapper (by simp [hcut, hset', hbinary, Fault.IsExit])
      · intro hbinary
        exact harmed rfl hwrapper (by simp [hcut, hset', hbinary, Fault.IsExit])
    · intro hset
      exact ⟨iff_of_false (not_settled_of_recorded haustin hwrapper)
        (not_not.mpr (hcut.mpr (.inl hset))), by simp⟩
    · intro hset
      exact harmed rfl hwrapper (by simp [hcut, hset, Fault.IsExit])
  · intro error hconstruct
    change ensures plan (abandon error) _ _
    refine ensures.mono (ensures_abandon hwrapper) ?_
    rintro result s' ⟨⟨raised, rfl⟩, hsettled⟩
    refine ⟨hsettled.trans ?_, by simp⟩
    rw [launchCut_of_raises hconstruct]
    by_cases hbefore : plan .clearAustin = .exitBefore
    · simp [hbefore, haustin, Fault.IsExit]
    · simp [hbefore, Fault.IsExit]
  · intro hexit
    exact ⟨iff_of_false (not_settled_of_recorded haustin hwrapper) (not_not.mpr (.inl hexit)), by simp⟩

/-- No wrapper. -/
def Untouched (host : SamplerHost) (s : Sampling) : Prop :=
  host.tempName ∉ s.files ∧ s.sampler.nsenterWrapper = none

theorem Untouched.settled (h : Untouched host s) : Settled host s := by
  obtain ⟨hfile, hwrapper⟩ := h
  cases haustin : s.sampler.austin with
  | none => simp [Settled, haustin, hfile, hwrapper]
  | some austin => simp [Settled, haustin, hfile]

/-- In the mount namespace of the target there is nothing to lose. -/
theorem ensures_launch_untouched {intervalUs : ℤ} {l : Launch} (hl : l.nsenterWrapper = none)
    (h : Untouched host s) :
    ensures plan (tryExcept (launch intervalUs l) abandon) (fun _ s' => Untouched host s') s := by
  have habandon : ∀ {error : String} {s' : Sampling}, Untouched host s' →
      ensures plan (abandon error) (fun _ s'' => Untouched host s'') s' := by
    intro error s' h'
    apply ensures_then
    apply ensures_step
    · intro _
      apply ensures_modify
      apply ensures_then
      apply ensures_then
      apply ensures_get
      rw [Sampling.nsenterWrapper_setAustin, h'.2]
      apply ensures_pure
      apply ensures_raise
      exact h'
    · exact fun _ => h'
    · exact fun _ => h'
  apply ensures_tryExcept
  apply ensures_then
  apply ensures_calls
  · intro _
    apply ensures_then
    apply ensures_step
    · intro _
      apply ensures_modify
      apply ensures_then
      unfold overrideBinaryPath
      dsimp only
      rw [hl]
      apply ensures_pure
      apply ensures_call
      · exact fun _ => h
      · exact fun _ _ => habandon h
      · exact fun _ => h
      · exact fun _ => h
    · exact fun _ => h
    · exact fun _ => h
  · exact fun _ _ => habandon h
  · exact fun _ => h

/-- The health timer changes nothing that `stop` cleans up. -/
theorem ensures_startHealthTimer (h : Settled host s) :
    ensures plan startHealthTimer (fun _ s' => Settled host s') s := by
  apply ensures_then
  apply ensures_calls
  · intro _
    apply ensures_then
    apply ensures_step
    · intro _
      apply ensures_modify
      apply ensures_calls
      · exact fun _ => h
      · exact fun _ _ => h
      · exact fun _ => h
    · exact fun _ => h
    · exact fun _ => h
  · exact fun _ _ => h
  · exact fun _ => h

/-! ## Creating the wrapper -/

/-- The file that `mkstemp` creates. -/
def created (host : SamplerHost) (s : Sampling) : Sampling :=
  { s with files := host.tempName :: s.files }

/-- The wrapper is written and returned. -/
def Written (plan : Plan) : Prop :=
  plan .mkstemp = .none ∧ firstFault plan [.fdopen, .write, .close, .chmod] = .none ∧
    ¬ (plan .returned).IsExit

theorem ensures_writeWrapper {Q : Except (Raised String) Unit → Sampling → Prop}
    (hwritten : firstFault plan [.fdopen, .write, .close, .chmod] = .none → Q (.ok ()) s)
    (hcut : (firstFault plan [.fdopen, .write, .close, .chmod]).IsExit ∨
      ((∃ error, firstFault plan [.fdopen, .write, .close, .chmod] = .raises error) ∧
        plan .unlinkPartial = .exitBefore) → ∀ raised, Q (.error raised) s)
    (hremoved : (∃ error, firstFault plan [.fdopen, .write, .close, .chmod] = .raises error) →
      plan .unlinkPartial ≠ .exitBefore →
      ∀ raised, Q (.error raised) (s.unlink host.tempName)) :
    ensures plan (writeWrapper host) Q s := by
  apply ensures_tryExcept
  apply ensures_calls
  · exact hwritten
  · intro error herror
    apply ensures_then
    apply ensures_step
    · intro hunlink
      apply ensures_modify
      apply ensures_raise
      exact hremoved ⟨error, herror⟩ (not_or.mp hunlink).1 _
    · intro hunlink
      exact hcut (.inr ⟨⟨error, herror⟩, hunlink⟩) _
    · intro hunlink
      exact hremoved ⟨error, herror⟩ (by simp [hunlink]) _
  · intro hexit
    exact hcut (.inl hexit) _

/-- Nothing is created, or the name is lost, or the file is removed again, or returned. -/
theorem ensures_createNsenterWrapper {Q : Except (Raised String) String → Sampling → Prop}
    (hkept : ¬ ComesToFile host plan ∨ ((plan .mkstemp) ≠ .none ∧ plan .mkstemp ≠ .exitAfter) →
      ∀ raised, Q (.error raised) s)
    (horphaned : ComesToFile host plan → Orphaned plan →
      ∀ raised, Q (.error raised) (created host s))
    (hremoved : ComesToFile host plan → plan .mkstemp = .none →
      (∃ error, firstFault plan [.fdopen, .write, .close, .chmod] = .raises error) →
      plan .unlinkPartial ≠ .exitBefore →
      ∀ raised, Q (.error raised) ((created host s).unlink host.tempName))
    (hwritten : ComesToFile host plan → Written plan → Q (.ok host.tempName) (created host s)) :
    ensures plan (createNsenterWrapper host) Q s := by
  apply ensures_then
  apply ensures_calls
  · intro hwhich
    dsimp only
    cases hpath : host.austinPath with
    | none =>
        apply ensures_raise
        exact hkept (.inl fun h => h.1 hpath) _
    | some path =>
        apply ensures_then
        apply ensures_calls
        · intro hmusl
          have hcomes : ComesToFile host plan := ⟨by simp [hpath], hwhich, hmusl⟩
          apply ensures_then
          apply ensures_call
          · intro hmkstemp
            apply ensures_modify
            apply ensures_then
            apply ensures_writeWrapper
            · intro hcalls
              apply ensures_step
              · intro hreturned
                apply ensures_pure
                exact hwritten hcomes ⟨hmkstemp, hcalls, hreturned⟩
              · intro hreturned
                exact horphaned hcomes (.inr ⟨hmkstemp, .inr (.inr ⟨hcalls, .inl (.inl hreturned)⟩)⟩) _
              · intro hreturned
                exact horphaned hcomes (.inr ⟨hmkstemp, .inr (.inr ⟨hcalls, .inl (.inr hreturned)⟩)⟩) _
            · rintro (hexit | hcut) raised
              · exact horphaned hcomes (.inr ⟨hmkstemp, .inl hexit⟩) _
              · exact horphaned hcomes (.inr ⟨hmkstemp, .inr (.inl hcut)⟩) _
            · exact fun herror hunlink raised => hremoved hcomes hmkstemp herror hunlink raised
          · exact fun error hmkstemp => hkept (.inr ⟨by simp [hmkstemp], by simp [hmkstemp]⟩) _
          · exact fun hmkstemp => hkept (.inr ⟨by simp [hmkstemp], by simp [hmkstemp]⟩) _
          · exact fun hmkstemp => horphaned hcomes (.inl hmkstemp) _
        · intro error hmusl
          refine hkept (.inl fun h => ?_) _
          simp [h.2.2] at hmusl
        · intro hmusl
          refine hkept (.inl fun h => ?_) _
          simp [h.2.2, Fault.IsExit] at hmusl
  · intro error hwhich
    refine hkept (.inl fun h => ?_) _
    simp [h.2.1] at hwhich
  · intro hwhich
    refine hkept (.inl fun h => ?_) _
    simp [h.2.1, Fault.IsExit] at hwhich

theorem not_left_of_removed (hmkstemp : plan .mkstemp = .none)
    (hraises : ∃ error, firstFault plan [.fdopen, .write, .close, .chmod] = .raises error)
    (hunlink : plan .unlinkPartial ≠ .exitBefore) : ¬ Left host plan := by
  obtain ⟨error, hraises⟩ := hraises
  rintro ⟨-, horphaned | ⟨hrecorded, -⟩⟩
  · simp [Orphaned, hmkstemp, hraises, hunlink, Fault.IsExit] at horphaned
  · simp [Recorded, hraises] at hrecorded

theorem not_left_of_kept
    (h : ¬ ComesToFile host plan ∨ (plan .mkstemp ≠ .none ∧ plan .mkstemp ≠ .exitAfter)) :
    ¬ Left host plan := by
  rintro ⟨hcomes, hcut⟩
  rcases h with h | ⟨hnone, hafter⟩
  · exact h hcomes
  · simp [Orphaned, Stranded, Recorded, hnone, hafter] at hcut

theorem left_iff_of_written (hcomes : ComesToFile host plan) (hwritten : Written plan) :
    Left host plan ↔ plan .record = .exitBefore ∨ plan .record = .exitAfter ∨
      firstFault plan [.resolvePid, .resolveTid, .logNsenter] ≠ .none ∨ LaunchCut plan := by
  obtain ⟨hmkstemp, hcalls, hreturned⟩ := hwritten
  have hrecorded : Recorded plan ↔ plan .record ≠ .exitBefore := by
    simp only [Recorded, hmkstemp, hcalls, hreturned, not_false_iff, true_and]
  have horphaned : Orphaned plan ↔ plan .record = .exitBefore := by
    simp [Orphaned, hmkstemp, hcalls, hreturned]
  simp only [Left, Stranded, hcomes, hrecorded, horphaned, true_and]
  by_cases hrecord : plan .record = .exitBefore
  · simp [hrecord]
  · simp [hrecord]

theorem not_settled_created (haustin : s.sampler.austin = none) : ¬ Settled host (created host s) := by
  simp [Settled, created, haustin]

theorem ensures_enterNamespaces {pid tid : ℤ} (hfile : host.tempName ∉ s.files)
    (haustin : s.sampler.austin = none) (hwrapper : s.sampler.nsenterWrapper = none) :
    ensures plan (enterNamespaces host pid tid) (fun result s' =>
      match result with
      | .error _ => (Settled host s' ↔ ¬ Left host plan)
      | .ok l => l.nsenterWrapper = some host.tempName ∧ s'.sampler.austin = none ∧
          s'.sampler.nsenterWrapper = some host.tempName ∧ (Left host plan ↔ LaunchCut plan)) s := by
  apply ensures_then
  apply ensures_createNsenterWrapper
  · intro hkept raised
    exact iff_of_true (by simp [Settled, haustin, hfile, hwrapper]) (not_left_of_kept hkept)
  · intro hcomes horphaned raised
    exact iff_of_false (not_settled_created haustin) (not_not.mpr ⟨hcomes, .inl horphaned⟩)
  · intro hcomes hmkstemp hraises hunlink raised
    exact iff_of_true (by simp [Settled, created, haustin, hwrapper])
      (not_left_of_removed hmkstemp hraises hunlink)
  · intro hcomes hwritten
    have hleft := left_iff_of_written hcomes hwritten
    have hstranded : ∀ {s' : Sampling}, s'.sampler.austin = none →
        s'.sampler.nsenterWrapper = some host.tempName → Left host plan →
        (Settled host s' ↔ ¬ Left host plan) := fun haustin hwrapper hleft =>
      iff_of_false (not_settled_of_recorded haustin hwrapper) (not_not.mpr hleft)
    apply ensures_then
    apply ensures_step
    · intro hrecord
      obtain ⟨hbefore, hafter⟩ := not_or.mp hrecord
      apply ensures_modify
      apply ensures_then
      apply ensures_calls
      · intro hresolve
        apply ensures_pure
        refine ⟨rfl, haustin, rfl, hleft.trans ?_⟩
        simp [hbefore, hafter, hresolve]
      · exact fun error hresolve => hstranded haustin rfl (hleft.mpr (by simp [hresolve]))
      · intro hresolve
        refine hstranded haustin rfl (hleft.mpr (.inr (.inr (.inl fun hnone => ?_))))
        simp [hnone, Fault.IsExit] at hresolve
    · intro hbefore
      exact iff_of_false (not_settled_created haustin) (not_not.mpr (hleft.mpr (.inl hbefore)))
    · intro hafter
      exact hstranded haustin rfl (hleft.mpr (.inr (.inl hafter)))

/-- What `start` leaves of a fresh sampler. -/
theorem ensures_start (hfile : host.tempName ∉ s.files) (haustin : s.sampler.austin = none)
    (hwrapper : s.sampler.nsenterWrapper = none) :
    ensures plan (start host) (fun result s' =>
      (Settled host s' ↔ ¬ Leaks host plan s.sampler.pid) ∧
        (result = .ok () → Settled host s')) s := by
  have hfresh : Settled host s := by simp [Settled, haustin, hfile, hwrapper]
  apply ensures_then
  apply ensures_get
  dsimp only
  rw [haustin]
  apply ensures_then
  apply ensures_get
  apply ensures_then
  apply ensures_calls
  · intro hfirst
    apply ensures_then
    unfold prepare
    cases hsame : host.sameMountNs s.sampler.pid with
    | true =>
        have hkept : ¬ Leaks host plan s.sampler.pid := fun h => by simp [h.2.1] at hsame
        rw [if_pos rfl]
        apply ensures_pure
        apply ensures_then
        refine ensures.mono (ensures_launch_untouched rfl ⟨hfile, hwrapper⟩) ?_
        rintro (raised | ⟨⟩) s₁ huntouched
        · exact ⟨iff_of_true huntouched.settled hkept, by simp⟩
        · refine ensures.mono (ensures_startHealthTimer huntouched.settled) ?_
          exact fun _ _ hsettled => ⟨iff_of_true hsettled hkept, fun _ => hsettled⟩
    | false =>
        have hleaks : Leaks host plan s.sampler.pid ↔ Left host plan := by
          simp [Leaks, hfirst, hsame]
        rw [if_neg Bool.false_ne_true, hleaks]
        refine ensures.mono (ensures_enterNamespaces hfile haustin hwrapper) ?_
        rintro (raised | l) s₁ hentered
        · exact ⟨hentered, by simp⟩
        · obtain ⟨hl, haustin₁, hwrapper₁, hleft⟩ := hentered
          dsimp only
          apply ensures_then
          refine ensures.mono (ensures_launch hl haustin₁ hwrapper₁) ?_
          rintro (raised | ⟨⟩) s₂ ⟨hsettled, hok⟩
          · exact ⟨by rw [hsettled, hleft], by simp⟩
          · refine ensures.mono (ensures_startHealthTimer (hok rfl)) ?_
            intro result s₃ hsettled₃
            refine ⟨iff_of_true hsettled₃ ?_, fun _ => hsettled₃⟩
            rw [hleft]
            exact hsettled.mp (hok rfl)
  · intro error hfirst
    exact ⟨iff_of_true hfresh fun h => by simp [h.1] at hfirst, by simp⟩
  · intro hfirst
    exact ⟨iff_of_true hfresh fun h => by simp [h.1] at hfirst, by simp⟩

end

/-- A successful start can be stopped; so can every other, unless it leaks. -/
theorem clean_session_iff (host : SamplerHost) (plan : Plan) (raised : SamplerPoint → Option String)
    (s : Sampling) (h : Settled host s) :
    (Clean host (session host plan raised s) ↔
      (s.sampler.austin = none → ¬ Leaks host plan s.sampler.pid)) ∧
      (((start host).run plan s).1 = .ok () → Clean host (session host plan raised s)) := by
  rw [session, clean_stop_iff]
  cases haustin : s.sampler.austin with
  | none =>
      have hfresh : host.tempName ∉ s.files ∧ s.sampler.nsenterWrapper = none := by
        simpa only [Settled, haustin] using h
      obtain ⟨hiff, hok⟩ : (Settled host ((start host).run plan s).2 ↔
            ¬ Leaks host plan s.sampler.pid) ∧
          (((start host).run plan s).1 = .ok () → Settled host ((start host).run plan s).2) :=
        ensures_start hfresh.1 haustin hfresh.2
      exact ⟨by simp [hiff], hok⟩
  | some austin =>
      have hstart : ensures plan (start host) (fun _ s' => s' = s) s := by
        apply ensures_then
        apply ensures_get
        dsimp only
        rw [haustin]
        exact ensures_pure rfl
      have hsame : ((start host).run plan s).2 = s := hstart
      rw [hsame]
      exact ⟨iff_of_true h (by simp), fun _ => h⟩

/-- A target in another mount namespace. -/
def elsewhere : SamplerHost where
  sameMountNs _ := false
  austinPath := some "/usr/bin/austin"
  tempName := "/tmp/.austin-nsenter-x"
  resolveNsPid pid := pid

/-- A sampler that was not started. -/
def unstarted : Sampling where
  sampler := { pid := 99006, tid := 99006, intervalUs := 33000 }
  files := []

/-- SIGTERM arrives while `_resolve_ns_pid` reads the status of the target. -/
def terminated : Plan
  | .resolvePid => .exitBefore
  | _ => .none

theorem clean_session_elsewhere :
    Settled elsewhere unstarted ∧
      Clean elsewhere (session elsewhere (fun _ => .none) (fun _ => some "OSError") unstarted) := by
  have hsettled : Settled elsewhere unstarted := by simp [Settled, unstarted]
  exact ⟨hsettled, (clean_session_iff elsewhere (fun _ => .none) (fun _ => some "OSError") unstarted
    hsettled).2 rfl⟩

theorem exists_not_clean :
    ∃ (host : SamplerHost) (plan : Plan) (raised : SamplerPoint → Option String) (s : Sampling),
      Clean host s ∧ ¬ Clean host (session host plan raised s) := by
  refine ⟨elsewhere, terminated, fun _ => none, unstarted, by simp [Clean, elsewhere, unstarted], ?_⟩
  rintro ⟨hfile, -⟩
  exact hfile (by decide)

end Blocksnoop.AustinSampler
