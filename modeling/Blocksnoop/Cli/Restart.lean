import Blocksnoop.Cli.Sessions

/-!
# Restarting the detector

Whatever runs is held by a handle: a sidecar that has not been waited for by `_process`, or
by what `_cleanup_locked` has taken, and a thread by `_reader` or `_stderr_reader`.  When
the handles are gone nothing is left of the earlier sessions, so a start that spawns clears
the detector undisturbed.
-/

namespace Blocksnoop.Cli

open Blocksnoop.Support Blocksnoop.CoreBackend

/-! ## What the handles hold -/

def SpawnedSidecar.IsAlive (x : SpawnedSidecar) : Prop :=
  x.exited = false

/-- Exited, and waited for. -/
def SpawnedSidecar.IsGone (x : SpawnedSidecar) : Prop :=
  x.exited = true ∧ x.reaped = true

namespace Handles

/-- What runs of sidecar `k` is held. -/
structure Covers (h : Handles) (k : ℕ) (x : SpawnedSidecar) : Prop where
  process : ¬ x.IsGone → h.process = some k
  reader : x.reader.IsRunning → h.reader = some k
  stderrReader : x.stderrReader.IsRunning → h.stderrReader = some k

def all (k : ℕ) : Handles where
  process := some k
  reader := some k
  stderrReader := some k

/-- All are set, for one sidecar, or none is. -/
def Whole (h : Handles) : Prop :=
  h = {} ∨ ∃ k, h = all k

theorem whole_empty : Whole {} :=
  .inl rfl

theorem whole_all (k : ℕ) : Whole (all k) :=
  .inr ⟨k, rfl⟩

theorem Whole.eq_empty {h : Handles} (hwhole : h.Whole) (hprocess : h.process = none) : h = {} := by
  rcases hwhole with hempty | ⟨k, rfl⟩
  · exact hempty
  · simp [all] at hprocess

theorem Whole.stderrReader_eq {h : Handles} (hwhole : h.Whole) : h.stderrReader = h.reader := by
  rcases hwhole with rfl | ⟨k, rfl⟩
  · rfl
  · rfl

theorem Covers.isGone {h : Handles} {k : ℕ} {x : SpawnedSidecar} (hcovers : h.Covers k x)
    (hprocess : h.process = none) : x.IsGone := by
  by_contra hgone
  have hheld := hcovers.process hgone
  simp [hprocess] at hheld

theorem Covers.mono {h h' : Handles} {k : ℕ} {x : SpawnedSidecar} (hcovers : h.Covers k x)
    (hprocess : h.process = some k → h'.process = some k)
    (hreader : h.reader = some k → h'.reader = some k)
    (hstderrReader : h.stderrReader = some k → h'.stderrReader = some k) : h'.Covers k x where
  process hgone := hprocess (hcovers.process hgone)
  reader hrunning := hreader (hcovers.reader hrunning)
  stderrReader hrunning := hstderrReader (hcovers.stderrReader hrunning)

end Handles

/-- The handles that count: those of the detector, or those `_cleanup_locked` has taken and
not yet dealt with. -/
def heldAt (handles : Handles) : CallerPoint → Handles
  | .polling _ taken => taken
  | .terminating _ taken => taken
  | .awaiting _ taken => taken
  | .killing _ taken => taken
  | .awaitingKilled _ taken => taken
  | .joiningReader _ taken => { taken with process := none }
  | .joiningStderrReader _ taken => { stderrReader := taken.stderrReader }
  | _ => handles

section

variable {F : Type}

/-- The detector with another identity of the target. -/
def expecting (d : CoreDetector F) (dev ino : Option ℤ) (pid : ℤ) (tid : Option ℤ) :
    CoreDetector F :=
  { d with pidnsDev := dev, pidnsIno := ino, expectedPid := pid, expectedTid := tid }

namespace SessionField

theorem clear_expecting (d : CoreDetector F) (dev ino : Option ℤ) (pid : ℤ) (tid : Option ℤ)
    (field : SessionField) :
    field.clear (expecting d dev ino pid tid) = expecting (field.clear d) dev ino pid tid := by
  cases field with
  | _ => rfl

/-- There is nothing to clear. -/
def IsClear (d : CoreDetector F) (field : SessionField) : Prop :=
  field.clear d = d

theorem isClear_clear (d : CoreDetector F) (field : SessionField) : field.IsClear (field.clear d) := by
  cases field with
  | _ => rfl

theorem IsClear.clear {d : CoreDetector F} {field : SessionField} (h : field.IsClear d)
    (other : SessionField) : field.IsClear (other.clear d) := by
  unfold IsClear at h ⊢
  calc
    field.clear (other.clear d) = other.clear (field.clear d) := by
      cases field <;> cases other <;> rfl
    _ = other.clear d := by rw [h]

theorem IsClear.expecting {d : CoreDetector F} {field : SessionField} (h : field.IsClear d)
    (dev ino : Option ℤ) (pid : ℤ) (tid : Option ℤ) :
    field.IsClear (expecting d dev ino pid tid) := by
  unfold IsClear
  rw [clear_expecting, h]

end SessionField

namespace Sessions

/-! ## The invariant -/

/-- What holds of the handles behind a `with` block. -/
def Landed (handles : Handles) : CallerPoint → Prop
  | .between last => handles.Whole ∧ (last ≠ some .started → handles = {})
  | .waiting => handles.Whole
  | .raising _ => handles = {}
  | _ => False

/-- What the caller has done as far. -/
def Located (s : Sessions F) : CallerPoint → Prop
  | .between last => Landed s.handles (.between last)
  | .finding _ => s.handles = {}
  | .resetting _ _ fields =>
      s.handles = {} ∧ ∀ field : SessionField, field ∉ fields → field.IsClear s.detector
  | .building _ _ => s.handles = {} ∧ ∀ field : SessionField, field.IsClear s.detector
  | .spawning _ => s.handles = {} ∧ ∀ field : SessionField, field.IsClear s.detector
  | .namingReader _ k => s.handles = { process := some k }
  | .namingStderrReader _ k => s.handles = { process := some k, reader := some k }
  | .startingReader _ k =>
      s.handles = .all k
  | .startingStderrReader _ k =>
      s.handles = .all k ∧ (s.sidecars k).reader ≠ .unstarted
  | .releasing next => Landed s.handles next
  | .raising _ => s.handles = {}
  | .polling _ taken => s.handles = {} ∧ taken.Whole
  | .terminating _ taken => s.handles = {} ∧ taken.Whole
  | .awaiting _ taken => s.handles = {} ∧ taken.Whole
  | .killing _ taken => s.handles = {} ∧ taken.Whole
  | .awaitingKilled _ taken => s.handles = {} ∧ taken.Whole
  | .joiningReader _ taken => s.handles = {} ∧ taken.Whole
  | .joiningStderrReader _ _ => s.handles = {}
  | _ => s.handles.Whole

structure Inv (s : Sessions F) : Prop where
  covered : ∀ k, (heldAt s.handles s.point).Covers k (s.sidecars k)
  /-- The reader is started before the reader of the standard error. -/
  ordered : ∀ k, (s.sidecars k).stderrReader ≠ .unstarted → (s.sidecars k).reader ≠ .unstarted
  located : s.Located s.point

variable {s s' : Sessions F}

/-! ## The threads and the sidecars -/

/-- A thread that runs goes on or ends. -/
def Continues {σ : Type} (r r' : ReadingThread σ) : Prop :=
  r' = r ∨ r.IsRunning ∧ r' ≠ .unstarted

theorem Continues.isRunning {σ : Type} {r r' : ReadingThread σ} (h : Continues r r')
    (hrunning : r'.IsRunning) : r.IsRunning := by
  rcases h with rfl | ⟨h, -⟩
  · exact hrunning
  · exact h

theorem Continues.unstarted_iff {σ : Type} {r r' : ReadingThread σ} (h : Continues r r') :
    r' = .unstarted ↔ r = .unstarted := by
  rcases h with rfl | ⟨hrunning, hstarted⟩
  · exact Iff.rfl
  · refine iff_of_false hstarted ?_
    rintro rfl
    exact hrunning

/-- What a turn of a thread or of a sidecar does. -/
structure Moved (s s' : Sessions F) : Prop where
  point : s'.point = s.point
  handles : s'.handles = s.handles
  lockHeld : s'.lockHeld = s.lockHeld
  exited : ∀ k, (s.sidecars k).exited = true → (s'.sidecars k).exited = true
  reaped : ∀ k, (s'.sidecars k).reaped = (s.sidecars k).reaped
  reader : ∀ k, Continues (s.sidecars k).reader (s'.sidecars k).reader
  stderrReader : ∀ k, Continues (s.sidecars k).stderrReader (s'.sidecars k).stderrReader
  detector : s'.detector = s.detector ∨
    ∃ k, (s.sidecars k).reader.IsRunning ∨ (s.sidecars k).stderrReader.IsRunning

theorem Moved.refl (s : Sessions F) : Moved s s where
  point := rfl
  handles := rfl
  lockHeld := rfl
  exited _ h := h
  reaped _ := rfl
  reader _ := .inl rfl
  stderrReader _ := .inl rfl
  detector := .inl rfl

/-- Where no handle is left, nothing runs that could change the detector. -/
theorem Moved.detector_eq (h : Moved s s') (hinv : Inv s)
    (hheld : heldAt s.handles s.point = {}) : s'.detector = s.detector := by
  rcases h.detector with hsame | ⟨k, hreader | hreader⟩
  · exact hsame
  · have hnamed := (hinv.covered k).reader hreader
    simp [hheld] at hnamed
  · have hnamed := (hinv.covered k).stderrReader hreader
    simp [hheld] at hnamed

theorem Located.moved {point : CallerPoint} (h : s.Located point) (hhandles : s'.handles = s.handles)
    (hreader : ∀ k, (s.sidecars k).reader ≠ .unstarted → (s'.sidecars k).reader ≠ .unstarted)
    (hdetector : heldAt s.handles point = {} → s'.detector = s.detector) : s'.Located point := by
  cases point with
  | resetting c path fields =>
      have hsame := hdetector h.1
      exact ⟨hhandles.trans h.1, by rw [hsame]; exact h.2⟩
  | building c path =>
      have hsame := hdetector h.1
      exact ⟨hhandles.trans h.1, by rw [hsame]; exact h.2⟩
  | spawning path =>
      have hsame := hdetector h.1
      exact ⟨hhandles.trans h.1, by rw [hsame]; exact h.2⟩
  | startingStderrReader path k => exact ⟨hhandles.trans h.1, hreader k h.2⟩
  | _ =>
      unfold Located at h ⊢
      rw [hhandles]
      exact h

theorem Moved.inv (h : Moved s s') (hinv : Inv s) : Inv s' where
  covered k := by
    rw [h.handles, h.point]
    exact
      { process := fun hgone => (hinv.covered k).process fun hbefore =>
          hgone ⟨h.exited k hbefore.1, (h.reaped k).trans hbefore.2⟩
        reader := fun hreader => (hinv.covered k).reader ((h.reader k).isRunning hreader)
        stderrReader := fun hreader =>
          (hinv.covered k).stderrReader ((h.stderrReader k).isRunning hreader) }
  ordered k hstarted := by
    rw [Ne, (h.reader k).unstarted_iff]
    rw [Ne, (h.stderrReader k).unstarted_iff] at hstarted
    exact hinv.ordered k hstarted
  located := by
    rw [h.point]
    refine hinv.located.moved h.handles (fun k hstarted => ?_) (h.detector_eq hinv)
    rw [Ne, (h.reader k).unstarted_iff]
    exact hstarted

theorem Moved.trans {s'' : Sessions F} (h : Moved s s') (h' : Moved s' s'') : Moved s s'' where
  point := h'.point.trans h.point
  handles := h'.handles.trans h.handles
  lockHeld := h'.lockHeld.trans h.lockHeld
  exited k hexited := h'.exited k (h.exited k hexited)
  reaped k := (h'.reaped k).trans (h.reaped k)
  reader k := by
    rcases h'.reader k with hsame | ⟨hrunning, hstarted⟩
    · rw [hsame]
      exact h.reader k
    · exact .inr ⟨(h.reader k).isRunning hrunning, hstarted⟩
  stderrReader k := by
    rcases h'.stderrReader k with hsame | ⟨hrunning, hstarted⟩
    · rw [hsame]
      exact h.stderrReader k
    · exact .inr ⟨(h.stderrReader k).isRunning hrunning, hstarted⟩
  detector := by
    rcases h'.detector with hsame | ⟨k, hrunning⟩
    · rw [hsame]
      exact h.detector
    · exact .inr ⟨k, hrunning.imp (h.reader k).isRunning (h.stderrReader k).isRunning⟩

/-- What an update leaves alone. -/
theorem sidecars_update {α : Type} (g : SpawnedSidecar → α) {k : ℕ}
    {f : SpawnedSidecar → SpawnedSidecar} (h : g (f (s.sidecars k)) = g (s.sidecars k)) (j : ℕ) :
    g ((s.update k f).sidecars j) = g (s.sidecars j) := by
  unfold update
  dsimp only
  rcases eq_or_ne j k with rfl | hj
  · rw [Function.update_self, h]
  · rw [Function.update_of_ne hj]

theorem moved_update (k : ℕ) (f : SpawnedSidecar → SpawnedSidecar)
    (hexited : (s.sidecars k).exited = true → (f (s.sidecars k)).exited = true)
    (hreaped : (f (s.sidecars k)).reaped = (s.sidecars k).reaped)
    (hreader : Continues (s.sidecars k).reader (f (s.sidecars k)).reader)
    (hstderrReader : Continues (s.sidecars k).stderrReader (f (s.sidecars k)).stderrReader) :
    Moved s (s.update k f) := by
  have hof : ∀ P : SpawnedSidecar → SpawnedSidecar → Prop, (∀ x, P x x) →
      P (s.sidecars k) (f (s.sidecars k)) → ∀ j, P (s.sidecars j) ((s.update k f).sidecars j) := by
    intro P hrefl hk j
    unfold update
    dsimp only
    rcases eq_or_ne j k with rfl | hj
    · rw [Function.update_self]
      exact hk
    · rw [Function.update_of_ne hj]
      exact hrefl _
  constructor
  · rfl
  · rfl
  · rfl
  · exact hof (fun x y => x.exited = true → y.exited = true) (fun _ h => h) hexited
  · exact hof (fun x y => y.reaped = x.reaped) (fun _ => rfl) hreaped
  · exact hof (fun x y => Continues x.reader y.reader) (fun _ => .inl rfl) hreader
  · exact hof (fun x y => Continues x.stderrReader y.stderrReader) (fun _ => .inl rfl) hstderrReader
  · exact .inl rfl

theorem moved_setReader {k : ℕ} {reader : ReadingThread ReadStep}
    (hrunning : (s.sidecars k).reader.IsRunning) (hstarted : reader ≠ .unstarted) :
    Moved s (s.setReader k reader) := by
  apply moved_update
  · exact fun h => h
  · rfl
  · exact .inr ⟨hrunning, hstarted⟩
  · exact .inl rfl

theorem moved_setStderrReader {k : ℕ} {reader : ReadingThread StderrStep}
    (hrunning : (s.sidecars k).stderrReader.IsRunning) (hstarted : reader ≠ .unstarted) :
    Moved s (s.setStderrReader k reader) := by
  apply moved_update
  · exact fun h => h
  · rfl
  · exact .inl rfl
  · exact .inr ⟨hrunning, hstarted⟩

theorem moved_setDetector {d : CoreDetector F}
    (hrunning : ∃ k, (s.sidecars k).reader.IsRunning ∨ (s.sidecars k).stderrReader.IsRunning) :
    Moved s (s.setDetector d) := by
  constructor
  · rfl
  · rfl
  · rfl
  · exact fun _ h => h
  · exact fun _ => rfl
  · exact fun _ => .inl rfl
  · exact fun _ => .inl rfl
  · exact .inr hrunning

/-- A change of the pipes only. -/
theorem moved_pipes (k : ℕ) (stdout stderr : List (Option String)) :
    Moved s (s.update k fun x => { x with stdout := stdout, stderr := stderr }) := by
  apply moved_update
  · exact fun h => h
  · rfl
  · exact .inl rfl
  · exact .inl rfl

theorem moved_exits (k : ℕ) : Moved s (s.exits k) := by
  apply moved_update
  · exact fun _ => rfl
  · rfl
  · exact .inl rfl
  · exact .inl rfl

theorem moved_outputs (k : ℕ) (line : Option String) : Moved s (s.outputs k line) := by
  unfold outputs
  split
  · exact Moved.refl s
  · exact moved_pipes k _ (s.sidecars k).stderr

theorem moved_outputsError (k : ℕ) (chunk : Option String) : Moved s (s.outputsError k chunk) := by
  unfold outputsError
  split
  · exact Moved.refl s
  · exact moved_pipes k (s.sidecars k).stdout _

theorem moved_readStep {k : ℕ} (hrunning : (s.sidecars k).reader.IsRunning) (source : Option ℕ)
    (steps : List ReadStep) (step : ReadStep) : Moved s (s.readStep k source steps step) := by
  have hdetector : ∀ d reader, reader ≠ .unstarted →
      Moved s ((s.setDetector d).setReader k reader) := fun d reader hstarted =>
    (moved_setDetector ⟨k, .inl hrunning⟩).trans (moved_setReader hrunning hstarted)
  fun_cases readStep s k source steps step with
  | case3 error hready => exact hdetector _ _ (by simp)
  | case4 error hready => exact hdetector _ _ (by simp)
  | case5 => exact hdetector _ _ (by simp)
  | case6 event => exact hdetector _ _ (by simp)
  | case7 event =>
      apply moved_update
      · exact fun h => h
      · rfl
      · exact .inr ⟨hrunning, by simp⟩
      · exact .inl rfl
  | _ => exact moved_setReader hrunning (by simp)

theorem moved_readChunk {k : ℕ} (hrunning : (s.sidecars k).stderrReader.IsRunning) (process : ℕ) :
    Moved s (s.readChunk k process) := by
  have hpipes : ∀ chunks, Moved s (s.update process fun x => { x with stderr := chunks }) :=
    fun chunks => moved_pipes process (s.sidecars process).stdout chunks
  have hstill : ∀ chunks, ((s.update process fun x => { x with stderr := chunks }).sidecars
      k).stderrReader.IsRunning := by
    intro chunks
    rw [sidecars_update SpawnedSidecar.stderrReader rfl]
    exact hrunning
  fun_cases readChunk s k process with
  | case1 hchunks hexited => exact moved_setStderrReader hrunning (by simp)
  | case2 hchunks hexited => exact Moved.refl s
  | case3 chunks hchunks =>
      exact (hpipes chunks).trans (moved_setStderrReader (hstill chunks) (by simp))
  | case4 chunk chunks hchunks =>
      exact (hpipes chunks).trans (moved_setDetector ⟨k, .inr (hstill chunks)⟩)

theorem stderrReaderRuns_of_not_running {k : ℕ}
    (h : ¬ (s.sidecars k).stderrReader.IsRunning) : s.stderrReaderRuns k = s := by
  have hrunning : ∀ {source steps}, (s.sidecars k).stderrReader ≠ .running source steps := by
    intro source steps hthread
    rw [hthread] at h
    exact h trivial
  fun_cases stderrReaderRuns s k with
  | case1 source steps hthread hprocess => exact absurd hthread hrunning
  | case2 source steps hthread process hprocess => exact absurd hthread hrunning
  | case3 process hthread => exact absurd hthread hrunning
  | case4 => rfl

theorem moved_stderrReaderRuns (k : ℕ) : Moved s (s.stderrReaderRuns k) := by
  fun_cases stderrReaderRuns s k with
  | case1 source steps hthread hprocess =>
      exact moved_setStderrReader (by simp [hthread, ReadingThread.IsRunning]) (by simp)
  | case2 source steps hthread process hprocess =>
      exact moved_setStderrReader (by simp [hthread, ReadingThread.IsRunning]) (by simp)
  | case3 process hthread =>
      exact moved_readChunk (by simp [hthread, ReadingThread.IsRunning]) process
  | case4 => exact Moved.refl s

section

variable [PyRuntime F]

theorem moved_readLine {k : ℕ} (hrunning : (s.sidecars k).reader.IsRunning) (process : ℕ) :
    Moved s (s.readLine k process) := by
  have hpipes : ∀ lines, Moved s (s.update process fun x => { x with stdout := lines }) :=
    fun lines => moved_pipes process lines (s.sidecars process).stderr
  have hstill : ∀ lines, ((s.update process fun x => { x with stdout := lines }).sidecars
      k).reader.IsRunning := by
    intro lines
    rw [sidecars_update SpawnedSidecar.reader rfl]
    exact hrunning
  fun_cases readLine s k process with
  | case1 hlines hexited => exact moved_setReader hrunning (by simp)
  | case2 hlines hexited => exact Moved.refl s
  | case3 lines hlines => exact (hpipes lines).trans (moved_setReader (hstill lines) (by simp))
  | case4 line lines hlines =>
      exact (hpipes lines).trans (moved_setReader (hstill lines) (by simp))

theorem readerRuns_of_not_running {k : ℕ} (h : ¬ (s.sidecars k).reader.IsRunning) :
    s.readerRuns k = s := by
  have hrunning : ∀ {source steps}, (s.sidecars k).reader ≠ .running source steps := by
    intro source steps hthread
    rw [hthread] at h
    exact h trivial
  fun_cases readerRuns s k with
  | case1 source step steps hthread => exact absurd hthread hrunning
  | case2 process hthread => exact absurd hthread hrunning
  | case3 => rfl

theorem moved_readerRuns (k : ℕ) : Moved s (s.readerRuns k) := by
  fun_cases readerRuns s k with
  | case1 source step steps hthread =>
      exact moved_readStep (by simp [hthread, ReadingThread.IsRunning]) source steps step
  | case2 process hthread =>
      exact moved_readLine (by simp [hthread, ReadingThread.IsRunning]) process
  | case3 => exact Moved.refl s

end

/-! ## The caller -/

theorem Inv.of_sidecars_eq (hinv : Inv s) (hsidecars : s'.sidecars = s.sidecars)
    (hheld : heldAt s'.handles s'.point = heldAt s.handles s.point)
    (hlocated : s'.Located s'.point) : Inv s' where
  covered k := by
    rw [hheld, hsidecars]
    exact hinv.covered k
  ordered k := by
    rw [hsidecars]
    exact hinv.ordered k
  located := hlocated

theorem Inv.at_point (hinv : Inv s) {point : CallerPoint} (hpoint : s.point = point) :
    s.Located point ∧ ∀ k, (heldAt s.handles point).Covers k (s.sidecars k) := by
  rw [← hpoint]
  exact ⟨hinv.located, hinv.covered⟩

theorem Inv.acquire (hinv : Inv s) {point next : CallerPoint} (hpoint : s.point = point)
    (hheld : heldAt s.handles next = heldAt s.handles point) (hlocated : s.Located next) :
    Inv (s.acquire next) := by
  unfold Sessions.acquire
  split
  · exact hinv
  · refine hinv.of_sidecars_eq rfl ?_ (hlocated.moved rfl (fun _ h => h) fun _ => rfl)
    rw [hpoint]
    exact hheld

theorem Inv.moveTo (hinv : Inv s) {point next : CallerPoint} (hpoint : s.point = point)
    (hheld : heldAt s.handles next = heldAt s.handles point) (hlocated : s.Located next) :
    Inv (s.moveTo next) := by
  refine hinv.of_sidecars_eq rfl ?_ (hlocated.moved rfl (fun _ h => h) fun _ => rfl)
  rw [hpoint]
  exact hheld

/-- Behind the `except` clauses nothing is left. -/
theorem located_abandonStart {path : String} {e : PyException} (hwhole : s.handles.Whole)
    (hempty : e.isException = false → s.handles = {}) : s.Located (abandonStart path e) := by
  unfold abandonStart
  split
  · exact hwhole
  · split
    · exact hwhole
    · rename_i hexception
      exact ⟨hwhole, fun _ => hempty (by simpa using hexception)⟩

theorem heldAt_abandonStart (handles : Handles) (path : String) (e : PyException) :
    heldAt handles (abandonStart path e) = handles := by
  unfold abandonStart
  split
  · rfl
  · split
    · rfl
    · rfl

theorem inv_spawn {path : String} (hinv : Inv s) (hpoint : s.point = .spawning path) :
    Inv (s.spawn path) := by
  obtain ⟨⟨hempty, -⟩, hcovered⟩ := hinv.at_point hpoint
  refine ⟨fun j => ?_, fun j => ?_, ?_⟩
  · change ({ s.handles with process := some s.count } : Handles).Covers j
      (Function.update s.sidecars s.count { exited := false, reaped := false } j)
    rcases eq_or_ne j s.count with rfl | hj
    · rw [Function.update_self]
      exact ⟨fun _ => rfl, False.elim, False.elim⟩
    · rw [Function.update_of_ne hj]
      refine (hcovered j).mono (fun hprocess => ?_) id id
      change s.handles.process = some j at hprocess
      rw [hempty] at hprocess
      cases hprocess
  · change (Function.update s.sidecars s.count _ j).stderrReader ≠ .unstarted →
      (Function.update s.sidecars s.count _ j).reader ≠ .unstarted
    rcases eq_or_ne j s.count with rfl | hj
    · rw [Function.update_self]
      exact fun hstarted => absurd rfl hstarted
    · rw [Function.update_of_ne hj]
      exact hinv.ordered j
  · change { s.handles with process := some s.count } = ({ process := some s.count } : Handles)
    rw [hempty]

theorem inv_startsReader {path : String} {k : ℕ} (hinv : Inv s)
    (hpoint : s.point = .startingReader path k) :
    Inv (s.startsReader k (.startingStderrReader path k)) := by
  obtain ⟨hhandles, hcovered⟩ := hinv.at_point hpoint
  change s.handles = .all k at hhandles
  refine ⟨fun j => ?_, fun j => ?_, ?_⟩
  · change s.handles.Covers j
      (Function.update s.sidecars k { s.sidecars k with reader := .running none [.openStdout] } j)
    rcases eq_or_ne j k with rfl | hj
    · rw [Function.update_self, hhandles]
      exact ⟨fun _ => rfl, fun _ => rfl, fun _ => rfl⟩
    · rw [Function.update_of_ne hj]
      exact hcovered j
  · change (Function.update s.sidecars k _ j).stderrReader ≠ .unstarted →
      (Function.update s.sidecars k _ j).reader ≠ .unstarted
    rcases eq_or_ne j k with rfl | hj
    · rw [Function.update_self]
      exact fun _ => by simp
    · rw [Function.update_of_ne hj]
      exact hinv.ordered j
  · refine ⟨hhandles, ?_⟩
    change (Function.update s.sidecars k _ k).reader ≠ .unstarted
    rw [Function.update_self]
    simp

theorem inv_startsStderrReader {path : String} {k : ℕ} (hinv : Inv s)
    (hpoint : s.point = .startingStderrReader path k) :
    Inv (s.startsStderrReader k (.releasing .waiting)) := by
  obtain ⟨⟨hhandles, hstarted⟩, hcovered⟩ := hinv.at_point hpoint
  refine ⟨fun j => ?_, fun j => ?_, ?_⟩
  · change s.handles.Covers j (Function.update s.sidecars k
      { s.sidecars k with stderrReader := .running none [.openStderr] } j)
    rcases eq_or_ne j k with rfl | hj
    · rw [Function.update_self, hhandles]
      exact ⟨fun _ => rfl, fun _ => rfl, fun _ => rfl⟩
    · rw [Function.update_of_ne hj]
      exact hcovered j
  · change (Function.update s.sidecars k _ j).stderrReader ≠ .unstarted →
      (Function.update s.sidecars k _ j).reader ≠ .unstarted
    rcases eq_or_ne j k with rfl | hj
    · rw [Function.update_self]
      exact fun _ => hstarted
    · rw [Function.update_of_ne hj]
      exact hinv.ordered j
  · change s.handles.Whole
    rw [hhandles]
    exact Handles.whole_all k

theorem inv_abandonStart {point : CallerPoint} {path name : String} (hinv : Inv s)
    (hpoint : s.point = point) (hheld : heldAt s.handles point = s.handles)
    (hwhole : s.handles.Whole) : Inv (s.moveTo (abandonStart path (.other name))) := by
  refine hinv.moveTo hpoint ?_ (located_abandonStart hwhole (by simp [PyException.isException]))
  rw [heldAt_abandonStart, hheld]

/-- The steps of `start` under the lock. -/
theorem inv_launchRuns (hinv : Inv s) (fault : Option String) : Inv (s.launchRuns fault) := by
  fun_cases launchRuns s fault with
  | case1 fault c hpoint =>
      obtain ⟨hwhole, -⟩ := hinv.at_point hpoint
      change s.handles.Whole at hwhole
      split
      · exact hinv.moveTo hpoint rfl ⟨hwhole, fun h => absurd rfl h⟩
      · rename_i hprocess
        refine hinv.moveTo hpoint rfl (hwhole.eq_empty ?_)
        simpa using hprocess
  | case2 fault c hpoint hpath =>
      obtain ⟨hempty, -⟩ := hinv.at_point hpoint
      change s.handles = {} at hempty
      exact hinv.moveTo hpoint rfl ⟨.inl hempty, fun _ => hempty⟩
  | case3 fault c hpoint path hpath =>
      obtain ⟨hempty, -⟩ := hinv.at_point hpoint
      change s.handles = {} at hempty
      split
      · exact hinv.moveTo hpoint rfl ⟨.inl hempty, fun _ => hempty⟩
      · refine hinv.moveTo hpoint rfl ⟨hempty, fun field hfield => ?_⟩
        cases field <;> simp [sessionFields] at hfield
  | case4 fault c path hpoint =>
      obtain ⟨⟨hempty, hclear⟩, -⟩ := hinv.at_point hpoint
      exact hinv.moveTo hpoint rfl ⟨hempty, fun field => hclear field List.not_mem_nil⟩
  | case5 fault c path field fields hpoint =>
      obtain ⟨⟨hempty, hclear⟩, -⟩ := hinv.at_point hpoint
      refine hinv.of_sidecars_eq rfl (by rw [hpoint]; rfl) ⟨hempty, fun other hother => ?_⟩
      change other.IsClear (field.clear s.detector)
      rcases eq_or_ne other field with rfl | hne
      · exact other.isClear_clear s.detector
      · refine SessionField.IsClear.clear (hclear other ?_) field
        simp [hne, hother]
  | case6 path hpoint => exact inv_spawn hinv hpoint
  | case7 path hpoint name =>
      obtain ⟨⟨hempty, -⟩, -⟩ := hinv.at_point hpoint
      exact inv_abandonStart hinv hpoint rfl (.inl hempty)
  | case8 fault path k hpoint =>
      obtain ⟨hhandles, hcovered⟩ := hinv.at_point hpoint
      change s.handles = { process := some k } at hhandles
      refine ⟨fun j => ?_, hinv.ordered, ?_⟩
      · refine (hcovered j).mono id (fun hreader => ?_) id
        change s.handles.reader = some j at hreader
        rw [hhandles] at hreader
        cases hreader
      · change { s.handles with reader := some k } = _
        rw [hhandles]
  | case9 fault path k hpoint =>
      obtain ⟨hhandles, hcovered⟩ := hinv.at_point hpoint
      change s.handles = { process := some k, reader := some k } at hhandles
      refine ⟨fun j => ?_, hinv.ordered, ?_⟩
      · refine (hcovered j).mono id id (fun hreader => ?_)
        change s.handles.stderrReader = some j at hreader
        rw [hhandles] at hreader
        cases hreader
      · change { s.handles with stderrReader := some k } = _
        rw [hhandles]
        rfl
  | case10 path k hpoint => exact inv_startsReader hinv hpoint
  | case11 path k hpoint name =>
      obtain ⟨hhandles, -⟩ := hinv.at_point hpoint
      exact inv_abandonStart hinv hpoint rfl (.inr ⟨k, hhandles⟩)
  | case12 path k hpoint => exact inv_startsStderrReader hinv hpoint
  | case13 path k hpoint name =>
      obtain ⟨⟨hhandles, -⟩, -⟩ := hinv.at_point hpoint
      exact inv_abandonStart hinv hpoint rfl (.inr ⟨k, hhandles⟩)
  | case14 => exact hinv

/-- The process that `_cleanup_locked` has taken has exited, or is still waited for. -/
theorem inv_awaitExit {point : CallerPoint} {purpose : Purpose} {taken : Handles}
    {onFault : Sessions F} (hinv : Inv s) (hpoint : s.point = point)
    (hheld : heldAt s.handles point = taken) (hempty : s.handles = {}) (hwhole : taken.Whole)
    (hfault : Inv onFault) : Inv (s.awaitExit purpose taken onFault) := by
  obtain ⟨-, hcovered⟩ := hinv.at_point hpoint
  rw [hheld] at hcovered
  fun_cases awaitExit s purpose taken onFault with
  | case1 hprocess =>
      refine hinv.moveTo hpoint ?_ ⟨hempty, hwhole⟩
      rw [hheld]
      change { taken with process := none } = taken
      rw [← hprocess]
  | case2 k hprocess hexited =>
      refine ⟨fun j => ?_, fun j => ?_, ⟨hempty, hwhole⟩⟩
      · change ({ taken with process := none } : Handles).Covers j
          (Function.update s.sidecars k { s.sidecars k with reaped := true } j)
        rcases eq_or_ne j k with rfl | hj
        · rw [Function.update_self]
          exact ⟨fun hgone => absurd ⟨hexited, rfl⟩ hgone, (hcovered j).reader,
            (hcovered j).stderrReader⟩
        · rw [Function.update_of_ne hj]
          refine (hcovered j).mono (fun hnamed => ?_) id id
          rw [hprocess] at hnamed
          exact absurd (Option.some.inj hnamed).symm hj
      · have hreader := sidecars_update (s := s) (k := k) (f := fun x => { x with reaped := true })
          SpawnedSidecar.reader rfl j
        have hstderrReader := sidecars_update (s := s) (k := k)
          (f := fun x => { x with reaped := true }) SpawnedSidecar.stderrReader rfl j
        change ((s.reap k).sidecars j).stderrReader ≠ .unstarted →
          ((s.reap k).sidecars j).reader ≠ .unstarted
        rw [reap, hreader, hstderrReader]
        exact hinv.ordered j
  | case3 => exact hfault

theorem located_next (hempty : s.handles = {}) (purpose : Purpose) :
    s.Located (.releasing purpose.next) := by
  cases purpose with
  | rejected error => exact hempty
  | _ => exact ⟨.inl hempty, fun _ => hempty⟩

theorem located_raised (hempty : s.handles = {}) (purpose : Purpose) (e : PyException) :
    s.Located (.releasing (purpose.raised e)) := by
  cases purpose with
  | _ => exact ⟨.inl hempty, fun _ => hempty⟩

theorem inv_joiningReader {purpose : Purpose} {taken : Handles} (hinv : Inv s)
    (hpoint : s.point = .joiningReader purpose taken) :
    Inv (s.joinThread purpose (.joiningStderrReader purpose taken)
      (taken.reader.map fun k => (s.sidecars k).reader)) := by
  obtain ⟨⟨hempty, hwhole⟩, hcovered⟩ := hinv.at_point hpoint
  -- Neither way on is taken while the thread of the handle runs.
  have hended : (∀ k, taken.reader = some k → ¬ (s.sidecars k).reader.IsRunning) →
      ∀ j, ¬ (s.sidecars j).reader.IsRunning := fun hstopped j hrunning =>
    hstopped j ((hcovered j).reader hrunning) hrunning
  have hnext : (∀ k, taken.reader = some k → ¬ (s.sidecars k).reader.IsRunning) →
      Inv (s.moveTo (.joiningStderrReader purpose taken)) := by
    intro hstopped
    refine ⟨fun j => ⟨(hcovered j).process, fun hrunning => ?_, (hcovered j).stderrReader⟩,
      hinv.ordered, hempty⟩
    exact absurd hrunning (hended hstopped j)
  unfold joinThread
  cases hreader : taken.reader with
  | none => exact hnext fun k hk => by simp [hreader] at hk
  | some k =>
      dsimp only [Option.map]
      cases hthread : (s.sidecars k).reader with
      | unstarted =>
          refine ⟨fun j => ?_, hinv.ordered, located_raised hempty purpose _⟩
          change s.handles.Covers j (s.sidecars j)
          rw [hempty]
          refine ⟨(hcovered j).process, fun hrunning => ?_, fun hrunning => ?_⟩
          · refine absurd hrunning (hended (fun k' hk' => ?_) j)
            obtain rfl : k = k' := Option.some.inj (hreader.symm.trans hk')
            rw [hthread]
            exact id
          · have hj : taken.reader = some j :=
              hwhole.stderrReader_eq.symm.trans ((hcovered j).stderrReader hrunning)
            obtain rfl : k = j := Option.some.inj (hreader.symm.trans hj)
            refine absurd hthread (hinv.ordered k fun hunstarted => ?_)
            change (s.sidecars k).stderrReader.IsRunning at hrunning
            rw [hunstarted] at hrunning
            exact hrunning
      | running source steps => exact hinv
      | ended =>
          refine hnext fun k' hk' => ?_
          obtain rfl : k = k' := Option.some.inj (hreader.symm.trans hk')
          rw [hthread]
          exact id

theorem inv_joiningStderrReader {purpose : Purpose} {taken : Handles} (hinv : Inv s)
    (hpoint : s.point = .joiningStderrReader purpose taken) :
    Inv (s.joinThread purpose (.releasing purpose.next)
      (taken.stderrReader.map fun k => (s.sidecars k).stderrReader)) := by
  obtain ⟨hempty, hcovered⟩ := hinv.at_point hpoint
  change s.handles = {} at hempty
  have hnext : ∀ {next : CallerPoint}, heldAt s.handles next = s.handles → s.Located next →
      (∀ k, taken.stderrReader = some k → ¬ (s.sidecars k).stderrReader.IsRunning) →
      Inv (s.moveTo next) := by
    intro next hheld hlocated hstopped
    refine ⟨fun j => ?_, hinv.ordered, hlocated.moved rfl (fun _ h => h) fun _ => rfl⟩
    change (heldAt s.handles next).Covers j (s.sidecars j)
    rw [hheld, hempty]
    refine ⟨(hcovered j).process, (hcovered j).reader, fun hrunning => ?_⟩
    exact absurd hrunning (hstopped j ((hcovered j).stderrReader hrunning))
  unfold joinThread
  cases hreader : taken.stderrReader with
  | none => exact hnext rfl (located_next hempty purpose) fun k hk => by simp [hreader] at hk
  | some k =>
      have hstopped : ∀ {thread : ReadingThread StderrStep}, (s.sidecars k).stderrReader = thread →
          ¬ thread.IsRunning → ∀ k', taken.stderrReader = some k' →
            ¬ (s.sidecars k').stderrReader.IsRunning := by
        rintro thread hthread hrunning k' hk'
        obtain rfl : k = k' := Option.some.inj (hreader.symm.trans hk')
        rw [hthread]
        exact hrunning
      dsimp only [Option.map]
      cases hthread : (s.sidecars k).stderrReader with
      | unstarted => exact hnext rfl (located_raised hempty purpose _) (hstopped hthread id)
      | running source steps => exact hinv
      | ended => exact hnext rfl (located_next hempty purpose) (hstopped hthread id)

theorem inv_cleanupRuns (hinv : Inv s) (fault : Option String) : Inv (s.cleanupRuns fault) := by
  fun_cases cleanupRuns s fault with
  | case1 purpose hpoint =>
      obtain ⟨hwhole, hcovered⟩ := hinv.at_point hpoint
      exact ⟨hcovered, hinv.ordered, rfl, hwhole⟩
  | case2 purpose taken hpoint =>
      obtain ⟨⟨hempty, hwhole⟩, -⟩ := hinv.at_point hpoint
      exact inv_awaitExit hinv hpoint rfl hempty hwhole (hinv.moveTo hpoint rfl ⟨hempty, hwhole⟩)
  | case3 purpose taken hpoint =>
      obtain ⟨⟨hempty, hwhole⟩, -⟩ := hinv.at_point hpoint
      split
      · exact hinv.moveTo hpoint rfl ⟨hempty, hwhole⟩
      · exact hinv.moveTo hpoint rfl ⟨hempty, hwhole⟩
  | case4 purpose taken hpoint =>
      obtain ⟨⟨hempty, hwhole⟩, -⟩ := hinv.at_point hpoint
      apply inv_awaitExit hinv hpoint rfl hempty hwhole
      split
      · exact hinv.moveTo hpoint rfl ⟨hempty, hwhole⟩
      · exact hinv
  | case5 purpose taken hpoint =>
      obtain ⟨⟨hempty, hwhole⟩, -⟩ := hinv.at_point hpoint
      exact hinv.moveTo hpoint rfl ⟨hempty, hwhole⟩
  | case6 purpose taken hpoint =>
      obtain ⟨⟨hempty, hwhole⟩, -⟩ := hinv.at_point hpoint
      exact inv_awaitExit hinv hpoint rfl hempty hwhole hinv
  | case7 purpose taken hpoint => exact inv_joiningReader hinv hpoint
  | case8 purpose taken hpoint => exact inv_joiningStderrReader hinv hpoint
  | case9 => exact hinv

theorem inv_begins {last : Option CallEnd} (hinv : Inv s) (hpoint : s.point = .between last)
    (call : DetectorCall) : Inv (s.begins call) := by
  have hwhole : s.handles.Whole := (hinv.at_point hpoint).1.1
  cases call with
  | start c => exact hinv.moveTo hpoint rfl hwhole
  | stop => exact hinv.moveTo hpoint rfl hwhole

section

variable [PyRuntime F]

theorem inv_buildRuns {c : Circumstances} {path : String} (hinv : Inv s)
    (hpoint : s.point = .building c path) : Inv (s.buildRuns c path) := by
  obtain ⟨⟨hempty, hclear⟩, hcovered⟩ := hinv.at_point hpoint
  fun_cases buildRuns s c path with
  | case1 e hbuild =>
      refine hinv.of_sidecars_eq rfl ?_ ?_
      · rw [hpoint]
        exact heldAt_abandonStart s.handles path e
      · change Located _ (abandonStart path e)
        exact located_abandonStart (.inl hempty) fun _ => hempty
  | case2 command launched hbuild =>
      refine hinv.of_sidecars_eq rfl (by rw [hpoint]; rfl) ⟨hempty, fun field => ?_⟩
      obtain ⟨pid, tid, dev, ino, thresholdNs, -, rfl, -⟩ := CoreDetector.buildCommand_eq_ok hbuild
      exact (hclear field).expecting (some dev) (some ino) pid (some tid)

theorem inv_callerRuns (hinv : Inv s) (fault : Option String) : Inv (s.callerRuns fault) := by
  fun_cases callerRuns s fault with
  | case1 last hpoint => exact hinv
  | case2 c hpoint => exact hinv.acquire hpoint rfl (hinv.at_point hpoint).1
  | case3 c path hpoint => exact inv_buildRuns hinv hpoint
  | case4 next hpoint =>
      have hlanded : Landed s.handles next := (hinv.at_point hpoint).1
      obtain ⟨hheld, hlocated⟩ : heldAt s.handles next = s.handles ∧ s.Located next := by
        cases next with
        | between last => exact ⟨rfl, hlanded⟩
        | waiting => exact ⟨rfl, hlanded⟩
        | raising error => exact ⟨rfl, hlanded⟩
        | _ => exact hlanded.elim
      refine hinv.of_sidecars_eq rfl ?_ (hlocated.moved rfl (fun _ h => h) fun _ => rfl)
      rw [hpoint]
      exact hheld
  | case5 hpoint hfault => exact hinv.moveTo hpoint rfl (hinv.at_point hpoint).1
  | case6 hpoint hfault hready => exact hinv.moveTo hpoint rfl (hinv.at_point hpoint).1
  | case7 => exact hinv
  | case8 hpoint herror =>
      exact hinv.moveTo hpoint rfl ⟨(hinv.at_point hpoint).1, fun h => absurd rfl h⟩
  | case9 hpoint error herror => exact hinv.moveTo hpoint rfl (hinv.at_point hpoint).1
  | case10 error hpoint =>
      have hempty : s.handles = {} := (hinv.at_point hpoint).1
      exact hinv.moveTo hpoint rfl ⟨.inl hempty, fun _ => hempty⟩
  | case11 purpose hpoint => exact hinv.acquire hpoint rfl (hinv.at_point hpoint).1
  | case12 purpose hpoint =>
      refine hinv.of_sidecars_eq rfl (by rw [hpoint]; rfl) ?_
      exact (hinv.at_point hpoint).1
  | case13 c hpoint => exact inv_launchRuns hinv fault
  | case14 c hpoint => exact inv_launchRuns hinv fault
  | case15 c path fields hpoint => exact inv_launchRuns hinv fault
  | case16 path hpoint => exact inv_launchRuns hinv fault
  | case17 path k hpoint => exact inv_launchRuns hinv fault
  | case18 path k hpoint => exact inv_launchRuns hinv fault
  | case19 path k hpoint => exact inv_launchRuns hinv fault
  | case20 path k hpoint => exact inv_launchRuns hinv fault
  | _ => exact inv_cleanupRuns hinv fault

theorem inv_step (hinv : Inv s) (turn : SessionTurn) : Inv (s.step turn) := by
  cases turn with
  | call call =>
      unfold step
      dsimp only
      split
      · rename_i last hpoint
        exact inv_begins hinv hpoint call
      · exact hinv
  | caller fault => exact inv_callerRuns hinv fault
  | reader k => exact (moved_readerRuns k).inv hinv
  | stderrReader k => exact (moved_stderrReaderRuns k).inv hinv
  | output k line => exact (moved_outputs k line).inv hinv
  | errorOutput k chunk => exact (moved_outputsError k chunk).inv hinv
  | exits k => exact (moved_exits k).inv hinv

end

/-! ## The lock -/

/-- The points under the lock. -/
def isUnderLock : CallerPoint → Bool
  | .between _ => false
  | .starting _ => false
  | .waiting => false
  | .deciding => false
  | .raising _ => false
  | .stopping _ => false
  | _ => true

/-- The caller holds the lock where it should, so it never waits for it. -/
def Locked (s : Sessions F) : Prop :=
  s.lockHeld = isUnderLock s.point

theorem isUnderLock_abandonStart (path : String) (e : PyException) :
    isUnderLock (abandonStart path e) = true := by
  unfold abandonStart
  split
  · rfl
  · split
    · rfl
    · rfl

theorem Locked.moveTo (h : Locked s) {next : CallerPoint}
    (hnext : isUnderLock next = isUnderLock s.point) : Locked (s.moveTo next) :=
  h.trans hnext.symm

theorem Locked.acquire (h : Locked s) {next : CallerPoint} (hfree : isUnderLock s.point = false)
    (hnext : isUnderLock next = true) : Locked (s.acquire next) := by
  unfold Sessions.acquire
  rw [h, hfree, if_neg Bool.false_ne_true]
  exact hnext.symm

theorem locked_cleanupRuns (h : Locked s) (fault : Option String) : Locked (s.cleanupRuns fault) := by
  have hjoin : ∀ {σ : Type} {purpose : Purpose} {next : CallerPoint}
      (thread : Option (ReadingThread σ)), isUnderLock s.point = true →
      isUnderLock next = true → Locked (s.joinThread purpose next thread) := by
    intro σ purpose next thread hpoint hnext
    unfold joinThread
    split
    · exact h.moveTo (hnext.trans hpoint.symm)
    · exact h.moveTo hpoint.symm
    · exact h
    · exact h.moveTo (hnext.trans hpoint.symm)
  have hawait : ∀ {purpose : Purpose} {taken : Handles} {onFault : Sessions F},
      isUnderLock s.point = true → Locked onFault →
      Locked (s.awaitExit purpose taken onFault) := by
    intro purpose taken onFault hpoint hfault
    unfold awaitExit
    split
    · exact h.moveTo hpoint.symm
    · split
      · exact h.trans hpoint
      · exact hfault
  fun_cases cleanupRuns s fault with
  | case1 purpose hpoint => exact h.trans (by rw [hpoint]; rfl)
  | case2 purpose taken hpoint =>
      have hunder : isUnderLock s.point = true := by rw [hpoint]; rfl
      exact hawait hunder (h.moveTo hunder.symm)
  | case3 purpose taken hpoint =>
      have hunder : isUnderLock s.point = true := by rw [hpoint]; rfl
      split
      · exact h.moveTo hunder.symm
      · exact h.moveTo hunder.symm
  | case4 purpose taken hpoint =>
      have hunder : isUnderLock s.point = true := by rw [hpoint]; rfl
      apply hawait hunder
      split
      · exact h.moveTo hunder.symm
      · exact h
  | case5 purpose taken hpoint => exact h.moveTo (by rw [hpoint]; rfl)
  | case6 purpose taken hpoint => exact hawait (by rw [hpoint]; rfl) h
  | case7 purpose taken hpoint => exact hjoin _ (by rw [hpoint]; rfl) rfl
  | case8 purpose taken hpoint => exact hjoin _ (by rw [hpoint]; rfl) rfl
  | case9 => exact h

theorem locked_launchRuns (h : Locked s) (fault : Option String) : Locked (s.launchRuns fault) := by
  fun_cases launchRuns s fault with
  | case1 fault c hpoint =>
      split
      · exact h.moveTo (by rw [hpoint]; rfl)
      · exact h.moveTo (by rw [hpoint]; rfl)
  | case2 fault c hpoint hpath => exact h.moveTo (by rw [hpoint]; rfl)
  | case3 fault c hpoint path hpath =>
      split
      · exact h.moveTo (by rw [hpoint]; rfl)
      · exact h.moveTo (by rw [hpoint]; rfl)
  | case4 fault c path hpoint => exact h.moveTo (by rw [hpoint]; rfl)
  | case7 path hpoint name =>
      exact h.moveTo (by rw [hpoint, isUnderLock_abandonStart]; rfl)
  | case11 path k hpoint name =>
      exact h.moveTo (by rw [hpoint, isUnderLock_abandonStart]; rfl)
  | case13 path k hpoint name =>
      exact h.moveTo (by rw [hpoint, isUnderLock_abandonStart]; rfl)
  | case5 fault c path field fields hpoint => exact h.trans (by rw [hpoint]; rfl)
  | case6 path hpoint => exact h.trans (by rw [hpoint]; rfl)
  | case8 fault path k hpoint => exact h.trans (by rw [hpoint]; rfl)
  | case9 fault path k hpoint => exact h.trans (by rw [hpoint]; rfl)
  | case10 path k hpoint => exact h.trans (by rw [hpoint]; rfl)
  | case12 path k hpoint => exact h.trans (by rw [hpoint]; rfl)
  | case14 => exact h

theorem Moved.locked (h : Moved s s') (hlocked : Locked s) : Locked s' := by
  unfold Locked
  rw [h.lockHeld, h.point]
  exact hlocked

section

variable [PyRuntime F]

theorem locked_callerRuns (h : Locked s) (hinv : Inv s) (fault : Option String) :
    Locked (s.callerRuns fault) := by
  fun_cases callerRuns s fault with
  | case1 last hpoint => exact h
  | case2 c hpoint => exact h.acquire (by rw [hpoint]; rfl) rfl
  | case3 c path hpoint =>
      unfold buildRuns
      split
      · exact h.trans (by rw [hpoint]; exact (isUnderLock_abandonStart path _).symm)
      · exact h.trans (by rw [hpoint]; rfl)
  | case4 next hpoint =>
      have hlanded : Landed s.handles next := (hinv.at_point hpoint).1
      cases next with
      | between last => rfl
      | waiting => rfl
      | raising error => rfl
      | _ => exact hlanded.elim
  | case5 hpoint hfault => exact h.moveTo (by rw [hpoint]; rfl)
  | case6 hpoint hfault hready => exact h.moveTo (by rw [hpoint]; rfl)
  | case7 => exact h
  | case8 hpoint herror => exact h.moveTo (by rw [hpoint]; rfl)
  | case9 hpoint error herror => exact h.moveTo (by rw [hpoint]; rfl)
  | case10 error hpoint => exact h.moveTo (by rw [hpoint]; rfl)
  | case11 purpose hpoint => exact h.acquire (by rw [hpoint]; rfl) rfl
  | case12 purpose hpoint => exact h.trans (by rw [hpoint]; rfl)
  | case13 c hpoint => exact locked_launchRuns h fault
  | case14 c hpoint => exact locked_launchRuns h fault
  | case15 c path fields hpoint => exact locked_launchRuns h fault
  | case16 path hpoint => exact locked_launchRuns h fault
  | case17 path k hpoint => exact locked_launchRuns h fault
  | case18 path k hpoint => exact locked_launchRuns h fault
  | case19 path k hpoint => exact locked_launchRuns h fault
  | case20 path k hpoint => exact locked_launchRuns h fault
  | _ => exact locked_cleanupRuns h fault

theorem locked_step (h : Locked s) (hinv : Inv s) (turn : SessionTurn) : Locked (s.step turn) := by
  cases turn with
  | call call =>
      unfold step
      dsimp only
      split
      · rename_i last hpoint
        cases call with
        | start c => exact h.moveTo (by rw [hpoint]; rfl)
        | stop => exact h.moveTo (by rw [hpoint]; rfl)
      · exact h
  | caller fault => exact locked_callerRuns h hinv fault
  | reader k => exact (moved_readerRuns k).locked h
  | stderrReader k => exact (moved_stderrReaderRuns k).locked h
  | output k line => exact (moved_outputs k line).locked h
  | errorOutput k chunk => exact (moved_outputsError k chunk).locked h
  | exits k => exact (moved_exits k).locked h

end

end Sessions

end

end Blocksnoop.Cli
