import Blocksnoop.Cli.Restart

/-!
# Earlier sessions

A detector that has been used and one that is new go the same way: they differ only in what
the next session clears or replaces before it spawns, and nothing of an earlier session is
left that could run in between.
-/

namespace Blocksnoop.Cli

open Blocksnoop.Support Blocksnoop.CoreBackend

section

variable {F : Type}

namespace Sessions

variable {s s' : Sessions F}

/-! ## A detector that has been used -/

/-- The detector without the identity of a target. -/
def anonymous (d : CoreDetector F) : CoreDetector F :=
  expecting d none none 0 none

theorem anonymous_expecting (d : CoreDetector F) (dev ino : Option ℤ) (pid : ℤ) (tid : Option ℤ) :
    anonymous (expecting d dev ino pid tid) = anonymous d :=
  rfl

/-- The detectors differ at most in what a session leaves behind. -/
def SameConfig (d d' : CoreDetector F) : Prop :=
  anonymous d.reset = anonymous d'.reset

theorem SameConfig.config {d d' : CoreDetector F} (h : SameConfig d d') : d.config = d'.config := by
  have hsame := congrArg CoreDetector.config h
  exact hsame

theorem SameConfig.executable {d d' : CoreDetector F} (h : SameConfig d d') :
    d.executable = d'.executable := by
  have hsame := congrArg CoreDetector.executable h
  exact hsame

theorem sameConfig_of_anonymous {d d' : CoreDetector F} (h : anonymous d = anonymous d') :
    SameConfig d d' := by
  have hreset : (anonymous d).reset = (anonymous d').reset := by rw [h]
  exact hreset

theorem identify_eq_expecting (d : CoreDetector F) (proc : ProcSnapshot) :
    ∃ dev ino pid tid, identify d proc = expecting d dev ino pid tid := by
  unfold identify
  split
  · exact ⟨d.pidnsDev, d.pidnsIno, d.expectedPid, d.expectedTid, rfl⟩
  · dsimp only
    split
    · exact ⟨_, _, d.expectedPid, d.expectedTid, rfl⟩
    · split
      · exact ⟨_, _, _, d.expectedTid, rfl⟩
      · split
        · exact ⟨_, _, _, d.expectedTid, rfl⟩
        · split
          · exact ⟨_, _, _, d.expectedTid, rfl⟩
          · exact ⟨_, _, _, _, rfl⟩

theorem anonymous_identify (d : CoreDetector F) (proc : ProcSnapshot) :
    anonymous (identify d proc) = anonymous d := by
  obtain ⟨dev, ino, pid, tid, hidentify⟩ := identify_eq_expecting d proc
  rw [hidentify, anonymous_expecting]

section

variable [PyRuntime F]

/-- The command replaces the whole identity. -/
theorem buildCommand_of_anonymous {d d' : CoreDetector F} (h : anonymous d = anonymous d')
    (proc : ProcSnapshot) (path : String) :
    d.buildCommand proc path = d'.buildCommand proc path := by
  calc
    d.buildCommand proc path = (anonymous d).buildCommand proc path := rfl
    _ = (anonymous d').buildCommand proc path := by rw [h]
    _ = d'.buildCommand proc path := rfl

end

/-- The detectors agree in what the caller has cleared; no session has begun. -/
def Agrees (d d' : CoreDetector F) : CallerPoint → Prop
  | .between _ => SameConfig d d'
  | .starting _ => SameConfig d d'
  | .checking _ => SameConfig d d'
  | .finding _ => SameConfig d d'
  | .resetting _ _ fields =>
      anonymous (fields.foldl SessionField.clear d) = anonymous (fields.foldl SessionField.clear d')
  | .building _ _ => anonymous d = anonymous d'
  | .releasing (.between _) => SameConfig d d'
  | .stopping purpose => (∀ error, purpose ≠ .rejected error) ∧ SameConfig d d'
  | .requesting purpose => (∀ error, purpose ≠ .rejected error) ∧ SameConfig d d'
  | .clearing purpose => (∀ error, purpose ≠ .rejected error) ∧ SameConfig d d'
  | .polling purpose _ => (∀ error, purpose ≠ .rejected error) ∧ SameConfig d d'
  | .terminating purpose _ => (∀ error, purpose ≠ .rejected error) ∧ SameConfig d d'
  | .awaiting purpose _ => (∀ error, purpose ≠ .rejected error) ∧ SameConfig d d'
  | .killing purpose _ => (∀ error, purpose ≠ .rejected error) ∧ SameConfig d d'
  | .awaitingKilled purpose _ => (∀ error, purpose ≠ .rejected error) ∧ SameConfig d d'
  | .joiningReader purpose _ => (∀ error, purpose ≠ .rejected error) ∧ SameConfig d d'
  | .joiningStderrReader purpose _ => (∀ error, purpose ≠ .rejected error) ∧ SameConfig d d'
  | _ => False

/-- The two differ in the detector only, and no session of it has begun. -/
structure Renewed (n : ℕ) (s t : Sessions F) : Prop where
  same : s = t.setDetector s.detector
  count : s.count = n
  handles : s.handles = {}
  held : heldAt {} s.point = {}
  agrees : Agrees s.detector t.detector s.point

namespace Renewed

variable {n : ℕ} {t : Sessions F}

theorem point (h : Renewed n s t) : t.point = s.point := by
  rw [h.same]
  rfl

theorem moveTo (h : Renewed n s t) {next : CallerPoint} (hheld : heldAt {} next = {})
    (hagrees : Agrees s.detector t.detector next) : Renewed n (s.moveTo next) (t.moveTo next) where
  same := by
    rw [h.same]
    rfl
  count := h.count
  handles := h.handles
  held := hheld
  agrees := hagrees

theorem update (h : Renewed n s t) (k : ℕ) (f : SpawnedSidecar → SpawnedSidecar) :
    Renewed n (s.update k f) (t.update k f) where
  same := by
    rw [h.same]
    rfl
  count := h.count
  handles := h.handles
  held := h.held
  agrees := h.agrees

theorem setDetector (h : Renewed n s t) {d d' : CoreDetector F} {next : CallerPoint}
    (hheld : heldAt {} next = {}) (hagrees : Agrees d d' next) :
    Renewed n ((s.setDetector d).moveTo next) ((t.setDetector d').moveTo next) where
  same := by
    rw [h.same]
    rfl
  count := h.count
  handles := h.handles
  held := hheld
  agrees := hagrees

theorem acquire (h : Renewed n s t) {next : CallerPoint} (hheld : heldAt {} next = {})
    (hagrees : Agrees s.detector t.detector next) :
    Renewed n (s.acquire next) (t.acquire next) := by
  have hlock : t.lockHeld = s.lockHeld := by
    rw [h.same]
    rfl
  unfold Sessions.acquire
  rw [hlock]
  split
  · exact h
  · constructor
    · rw [h.same]
      rfl
    · exact h.count
    · exact h.handles
    · exact hheld
    · exact hagrees

theorem abandonStart (h : Renewed n s t) {d d' : CoreDetector F} {path : String} {e : PyException}
    (hconfig : SameConfig d d') :
    Renewed n ((s.setDetector d).moveTo (abandonStart path e))
      ((t.setDetector d').moveTo (Blocksnoop.Cli.abandonStart path e)) := by
  refine h.setDetector (heldAt_abandonStart {} path e) ?_
  unfold Blocksnoop.Cli.abandonStart
  split
  · exact ⟨by simp, hconfig⟩
  · split
    · exact ⟨by simp, hconfig⟩
    · exact hconfig

section

variable [PyRuntime F]

/-- A turn of the caller, before it has built the command. -/
theorem callerRuns (h : Renewed n s t) (fault : Option String) :
    Renewed n (s.callerRuns fault) (t.callerRuns fault) ∨
      s.callerRuns fault = t.callerRuns fault := by
  have hpoint_t := h.point
  have hheld := h.held
  have hagrees := h.agrees
  have hprocess : s.handles.process.isSome = false := by rw [h.handles]; rfl
  have hhandles : t.handles = {} := by rw [← h.handles, h.same]; rfl
  cases hpoint : s.point with
  | between last =>
      rw [hpoint] at hpoint_t
      simp only [Sessions.callerRuns, hpoint, hpoint_t]
      exact .inl h
  | starting c =>
      rw [hpoint] at hpoint_t hagrees
      simp only [Sessions.callerRuns, hpoint, hpoint_t]
      exact .inl (h.acquire rfl hagrees)
  | checking c =>
      rw [hpoint] at hpoint_t hagrees
      simp only [Sessions.callerRuns, launchRuns, hpoint, hpoint_t, h.handles, hhandles]
      exact .inl (h.moveTo rfl hagrees)
  | finding c =>
      rw [hpoint] at hpoint_t hagrees
      have herror : notFoundError s.detector = notFoundError t.detector := by
        unfold notFoundError
        rw [SameConfig.executable hagrees]
      have htid : s.detector.config.tid.isNone = t.detector.config.tid.isNone := by
        rw [SameConfig.config hagrees]
      simp only [Sessions.callerRuns, launchRuns, hpoint, hpoint_t]
      cases c.sidecarPath with
      | none =>
          dsimp only
          rw [herror]
          exact .inl (h.moveTo rfl hagrees)
      | some path =>
          dsimp only
          rw [htid]
          split
          · exact .inl (h.moveTo rfl hagrees)
          · exact .inl (h.moveTo rfl hagrees)
  | resetting c path fields =>
      rw [hpoint] at hpoint_t hagrees
      cases fields with
      | nil =>
          simp only [Sessions.callerRuns, launchRuns, hpoint, hpoint_t]
          exact .inl (h.moveTo rfl hagrees)
      | cons field fields =>
          simp only [Sessions.callerRuns, launchRuns, hpoint, hpoint_t]
          exact .inl (h.setDetector rfl hagrees)
  | building c path =>
      rw [hpoint] at hpoint_t hagrees
      have hbuild := buildCommand_of_anonymous hagrees c.proc path
      simp only [Sessions.callerRuns, buildRuns, hpoint, hpoint_t, hbuild]
      cases t.detector.buildCommand c.proc path with
      | error e =>
          refine .inl (h.abandonStart (sameConfig_of_anonymous ?_))
          rw [anonymous_identify, anonymous_identify]
          exact hagrees
      | ok built =>
          dsimp only
          right
          rw [h.same]
          rfl
  | releasing next =>
      rw [hpoint] at hpoint_t hagrees
      simp only [Sessions.callerRuns, hpoint, hpoint_t]
      cases next with
      | between last =>
          left
          constructor
          · rw [h.same]
            rfl
          · exact h.count
          · exact h.handles
          · rfl
          · exact hagrees
      | _ => exact hagrees.elim
  | stopping purpose =>
      rw [hpoint] at hpoint_t hagrees
      simp only [Sessions.callerRuns, hpoint, hpoint_t]
      exact .inl (h.acquire rfl hagrees)
  | requesting purpose =>
      rw [hpoint] at hpoint_t hagrees
      simp only [Sessions.callerRuns, hpoint, hpoint_t]
      exact .inl (h.setDetector rfl hagrees)
  | clearing purpose =>
      rw [hpoint] at hpoint_t hagrees
      simp only [Sessions.callerRuns, cleanupRuns, hpoint, hpoint_t, h.handles, hhandles]
      left
      constructor
      · rw [h.same]
        rfl
      · exact h.count
      · rfl
      · rfl
      · exact hagrees
  | polling purpose taken =>
      rw [hpoint] at hpoint_t hagrees hheld
      obtain rfl : taken = {} := hheld
      simp only [Sessions.callerRuns, cleanupRuns, awaitExit, hpoint, hpoint_t]
      exact .inl (h.moveTo rfl hagrees)
  | terminating purpose taken =>
      rw [hpoint] at hpoint_t hagrees hheld
      simp only [Sessions.callerRuns, cleanupRuns, hpoint, hpoint_t]
      split
      · exact .inl (h.moveTo hheld hagrees)
      · exact .inl (h.moveTo hheld hagrees)
  | awaiting purpose taken =>
      rw [hpoint] at hpoint_t hagrees hheld
      obtain rfl : taken = {} := hheld
      simp only [Sessions.callerRuns, cleanupRuns, awaitExit, hpoint, hpoint_t]
      exact .inl (h.moveTo rfl hagrees)
  | killing purpose taken =>
      rw [hpoint] at hpoint_t hagrees hheld
      simp only [Sessions.callerRuns, cleanupRuns, hpoint, hpoint_t]
      exact .inl (h.moveTo hheld hagrees)
  | awaitingKilled purpose taken =>
      rw [hpoint] at hpoint_t hagrees hheld
      obtain rfl : taken = {} := hheld
      simp only [Sessions.callerRuns, cleanupRuns, awaitExit, hpoint, hpoint_t]
      exact .inl (h.moveTo rfl hagrees)
  | joiningReader purpose taken =>
      rw [hpoint] at hpoint_t hagrees hheld
      have hreader : taken.reader = none := congrArg Handles.reader hheld
      have hstderrReader : taken.stderrReader = none := congrArg Handles.stderrReader hheld
      simp only [Sessions.callerRuns, cleanupRuns, hpoint, hpoint_t, hreader, Option.map_none,
        joinThread]
      refine .inl (h.moveTo ?_ hagrees)
      simp only [heldAt, hstderrReader]
  | joiningStderrReader purpose taken =>
      rw [hpoint] at hpoint_t hagrees hheld
      have hstderrReader : taken.stderrReader = none := congrArg Handles.stderrReader hheld
      simp only [Sessions.callerRuns, cleanupRuns, hpoint, hpoint_t, hstderrReader,
        Option.map_none, joinThread]
      cases purpose with
      | rejected error => exact absurd rfl (hagrees.1 error)
      | failed e => exact .inl (h.moveTo rfl hagrees.2)
      | stop => exact .inl (h.moveTo rfl hagrees.2)
  | _ =>
      rw [hpoint] at hagrees
      exact hagrees.elim

theorem step (h : Renewed n s t) (hinv : Inv s) (turn : SessionTurn) :
    Renewed n (s.step turn) (t.step turn) ∨ s.step turn = t.step turn := by
  have hpoint_t := h.point
  have hagrees := h.agrees
  have hsidecars : t.sidecars = s.sidecars := by
    rw [h.same]
    rfl
  cases turn with
  | call call =>
      left
      unfold Sessions.step
      dsimp only
      cases hpoint : s.point with
      | between last =>
          rw [hpoint] at hpoint_t hagrees
          rw [hpoint_t]
          cases call with
          | start c => exact h.moveTo rfl hagrees
          | stop => exact h.moveTo rfl ⟨by simp, hagrees⟩
      | _ =>
          rw [hpoint] at hpoint_t
          rw [hpoint_t]
          exact h
  | caller fault => exact h.callerRuns fault
  | reader k =>
      have hstopped : ¬ (s.sidecars k).reader.IsRunning := fun hrunning => by
        have hnamed := (hinv.covered k).reader hrunning
        simp [h.handles, h.held] at hnamed
      left
      change Renewed n (s.readerRuns k) (t.readerRuns k)
      rw [readerRuns_of_not_running hstopped, readerRuns_of_not_running (hsidecars ▸ hstopped)]
      exact h
  | stderrReader k =>
      have hstopped : ¬ (s.sidecars k).stderrReader.IsRunning := fun hrunning => by
        have hnamed := (hinv.covered k).stderrReader hrunning
        simp [h.handles, h.held] at hnamed
      left
      change Renewed n (s.stderrReaderRuns k) (t.stderrReaderRuns k)
      rw [stderrReaderRuns_of_not_running hstopped,
        stderrReaderRuns_of_not_running (hsidecars ▸ hstopped)]
      exact h
  | output k line =>
      left
      change Renewed n (s.outputs k line) (t.outputs k line)
      unfold outputs
      rw [hsidecars]
      split
      · exact h
      · exact h.update k _
  | errorOutput k chunk =>
      left
      change Renewed n (s.outputsError k chunk) (t.outputsError k chunk)
      unfold outputsError
      rw [hsidecars]
      split
      · exact h
      · exact h.update k _
  | exits k =>
      left
      change Renewed n (s.exits k) (t.exits k)
      exact h.update k _

theorem run (h : Renewed n s t) (hinv : Inv s) (turns : List SessionTurn) :
    Renewed n (s.run turns) (t.run turns) ∨ s.run turns = t.run turns := by
  induction turns generalizing s t with
  | nil => exact .inl h
  | cons turn turns ih =>
      rcases h.step hinv turn with hstep | hstep
      · exact ih hstep (inv_step hinv turn)
      · right
        rw [run_cons, run_cons, hstep]

end

end Renewed

/-! ## Histories -/

/-- A new detector, and no sidecar. -/
def initial (d : CoreDetector F) (readyTimeoutS : ℕ) : Sessions F where
  detector := d
  readyTimeoutS := readyTimeoutS

/-- The detector as its constructor makes it. -/
def constructed (d : CoreDetector F) : CoreDetector F where
  config := d.config
  executable := d.executable
  expectedPid := d.config.pid
  expectedTid := d.config.tid

/-- A new detector takes the place of this one. -/
def renew (s : Sessions F) : Sessions F :=
  { s with
    detector := constructed s.detector
    handles := {}
    lockHeld := false
    point := .between none }

/-- What a start that spawns begins with. -/
structure Cleared (d : CoreDetector F) : Prop where
  ready : d.ready = false
  stopRequested : d.stopRequested = false
  startupError : d.startupError = none
  runtimeError : d.runtimeError = none
  stderrTail : d.stderrTail = ""
  lossCounts : d.lossCounts = []

theorem cleared_of_isClear {d : CoreDetector F} (h : ∀ field : SessionField, field.IsClear d) :
    Cleared d where
  ready := (congrArg CoreDetector.ready (h .ready)).symm
  stopRequested := (congrArg CoreDetector.stopRequested (h .stopRequested)).symm
  startupError := (congrArg CoreDetector.startupError (h .startupError)).symm
  runtimeError := (congrArg CoreDetector.runtimeError (h .runtimeError)).symm
  stderrTail := (congrArg CoreDetector.stderrTail (h .stderrTail)).symm
  lossCounts := (congrArg CoreDetector.lossCounts (h .lossCounts)).symm

/-- `_process` is `None`, and no sidecar is running or unreaped. -/
def Ended (s : Sessions F) : Prop :=
  s.handles.process = none ∧ ∀ k, (s.sidecars k).IsGone

theorem Inv.ended {last : CallEnd} (hinv : Inv s) (hpoint : s.point = .between (some last))
    (hlast : last ≠ .started) : Ended s := by
  obtain ⟨⟨-, hcleared⟩, hcovered⟩ := hinv.at_point hpoint
  have hempty := hcleared fun h => hlast (Option.some.inj h)
  have hprocess : s.handles.process = none := by rw [hempty]
  exact ⟨hprocess, fun k => (hcovered k).isGone hprocess⟩

theorem Inv.alive_eq (hinv : Inv s) {k k' : ℕ} (hk : (s.sidecars k).IsAlive)
    (hk' : (s.sidecars k').IsAlive) : k = k' := by
  have hheld : ∀ {j}, (s.sidecars j).IsAlive →
      (heldAt s.handles s.point).process = some j := fun halive =>
    (hinv.covered _).process fun hgone => Bool.false_ne_true (halive.symm.trans hgone.1)
  exact Option.some.inj ((hheld hk).symm.trans (hheld hk'))

section

variable [PyRuntime F]

theorem reachable (d : CoreDetector F) (readyTimeoutS : ℕ) (turns : List SessionTurn) :
    Inv ((initial d readyTimeoutS).run turns) ∧ Locked ((initial d readyTimeoutS).run turns) := by
  have hrun : ∀ {s : Sessions F}, Inv s → Locked s → Inv (s.run turns) ∧ Locked (s.run turns) := by
    induction turns with
    | nil => exact fun hinv hlocked => ⟨hinv, hlocked⟩
    | cons turn turns ih =>
        exact fun hinv hlocked => ih (inv_step hinv turn) (locked_step hlocked hinv turn)
  refine hrun ⟨fun k => ?_, fun k hstarted => absurd rfl hstarted, ?_⟩ rfl
  · exact ⟨fun hgone => absurd ⟨rfl, rfl⟩ hgone, False.elim, False.elim⟩
  · exact ⟨Handles.whole_empty, fun _ => rfl⟩

/-- A start between two sessions meets what the start of a new detector meets. -/
theorem renewed_renew {last : Option CallEnd} (hinv : Inv s) (hlocked : Locked s)
    (hpoint : s.point = .between last) (hprocess : s.handles.process = none)
    (c : Circumstances) :
    Renewed s.count (s.step (.call (.start c))) (s.renew.step (.call (.start c))) := by
  have hlanded : Landed s.handles (.between last) := (hinv.at_point hpoint).1
  have hempty := hlanded.1.eq_empty hprocess
  have hfree : s.lockHeld = false := by
    rw [hlocked, hpoint]
    rfl
  have hstep : s.step (.call (.start c)) = s.moveTo (.starting c) := by
    simp only [step, hpoint, begins]
  rw [hstep]
  constructor
  · change s.moveTo (.starting c) = { s with handles := {}, lockHeld := false, point := .starting c }
    rw [← hempty, ← hfree]
    rfl
  · rfl
  · exact hempty
  · rfl
  · rfl

/-- Over every history of calls: a start that raises and a stop leave nothing behind, a
start that spawns begins with a cleared detector, at most one sidecar is alive, and what a
start between two sessions leads to, turn by turn, is what it would lead to with a new
detector. -/
theorem restartable (d : CoreDetector F) (readyTimeoutS : ℕ) (history : List SessionTurn) :
    let s := (initial d readyTimeoutS).run history
    (∀ e, s.point = .between (some (.startRaised e)) → Ended s) ∧
      (∀ path, s.point = .spawning path → Cleared s.detector) ∧
      (∀ last, s.point = .between last → s.handles.process = none → ∀ c turns,
        let used := s.run (.call (.start c) :: turns)
        let new := s.renew.run (.call (.start c) :: turns)
        used = new.setDetector used.detector ∧ (used.count ≠ s.count → used = new)) ∧
      (∀ k k', (s.sidecars k).IsAlive → (s.sidecars k').IsAlive → k = k') ∧
      (s.point = .between (some .stopped) → Ended s) ∧
      ∀ e, s.point = .between (some (.stopRaised e)) → Ended s := by
  obtain ⟨hinv, hlocked⟩ := reachable d readyTimeoutS history
  refine ⟨fun e hpoint => hinv.ended hpoint (by simp), fun path hpoint => ?_, ?_, ?_,
    fun hpoint => hinv.ended hpoint (by simp), fun e hpoint => hinv.ended hpoint (by simp)⟩
  · exact cleared_of_isClear (hinv.at_point hpoint).1.2
  · intro last hpoint hprocess c turns
    have hrenewed := renewed_renew hinv hlocked hpoint hprocess c
    rcases hrenewed.run (inv_step hinv _) turns with h | h
    · exact ⟨h.same, fun hcount => absurd h.count hcount⟩
    · dsimp only
      rw [run_cons, run_cons, h]
      exact ⟨rfl, fun _ => rfl⟩
  · exact fun k k' hk hk' => hinv.alive_eq hk hk'

end

end Sessions

end

end Blocksnoop.Cli
