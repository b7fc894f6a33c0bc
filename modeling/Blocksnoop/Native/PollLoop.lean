import Blocksnoop.Bpf.Program

/-!
# The poll loop

`main` of `native/blocksnoop_ebpf.c` from the ready message to its end, beside the attached
program that fills the perf buffers.  An output of the program either queues one record of
full size or adds one to a count of losses; a poll that is not interrupted passes everything
that was queued to the callbacks, an interrupted one passes nothing.  The loop looks at the
request to stop before each poll and not at the buffers, so what is queued behind the last
poll is neither written nor counted.
-/

namespace Blocksnoop.Native

/-- What waits in the perf buffers: a record, with the number of bytes behind its struct, or
a count of lost records. -/
inductive Pending where
  | sample (event : BlockingEvent) (padding : ℕ)
  | lost (count : UInt64)
  deriving Repr, DecidableEq

/-- A line of the standard output. -/
inductive Line where
  | ready
  | event (event : BlockingEvent)
  | lost (count : UInt64)
  | fatal (message : String)
  deriving Repr, DecidableEq

/-- Where `main` is. -/
inductive PollPoint where
  /-- `emit_ready`, with the signal handlers installed. -/
  | announcing
  /-- `while (!stopping)` -/
  | checking
  /-- The wait of `perf_buffer__poll`. -/
  | polling
  /-- `perf_buffer__poll` still has to pass so many records. -/
  | passing (due : ℕ)
  /-- `bpf_link__destroy` -/
  | detaching (status : ℕ)
  /-- `perf_buffer__free` -/
  | freeing (status : ℕ)
  | exited (status : ℕ)
  deriving Repr, DecidableEq

structure Collector where
  map : Bpf.CallbackStart := fun _ => none
  queue : List Pending := []
  stopping : Bool := false
  point : PollPoint := .announcing
  lines : List Line := []
  /-- How many gap events the program has output before the loop ended. -/
  outputs : ℕ := 0

inductive PollTurn where
  /-- A hit of a tracepoint.  A record that is output is lost, or is queued with so many
  bytes behind it. -/
  | hit (hit : Bpf.Hit) (queued : Option ℕ)
  /-- `main` runs for a step. -/
  | main
  /-- The poll passes a record that was queued after it had begun. -/
  | more
  /-- The poll returns `-EINTR`. -/
  | interrupted
  /-- The poll returns another error. -/
  | fails
  /-- `on_signal` -/
  | signal
  deriving Repr, DecidableEq

/-! ## Lines -/

def Line.text (config : DetectorConfig) (enabled : EpollVariant → Bool) : Line → String
  | .ready => emitReady config enabled
  | .event gap => emitEvent gap config
  | .lost count => emitLost count "perf_buffer" config
  | .fatal message => emitFatal message

/-- The line of `handle_sample`. -/
def sampleLine (event : BlockingEvent) (size : ℕ) : Option Line :=
  if size < 24 then none else some (.event event)

/-- The line of the callback that is handed the record. -/
def Pending.line : Pending → Option Line
  | sample event padding => sampleLine event (24 + padding)
  | lost count => some (.lost count)

/-! ## The buffers -/

/-- One more loss; a count that is full is followed by a new one. -/
def addLoss : List Pending → List Pending
  | [] => [.lost 1]
  | [.lost count] => if count.toNat + 1 < 2 ^ 64 then [.lost (count + 1)] else [.lost count, .lost 1]
  | pending :: rest => pending :: addLoss rest

/-- `bpf_perf_event_output` -/
def perfEventOutput (queued : Option ℕ) (queue : List Pending) (event : BlockingEvent) :
    List Pending :=
  match queued with
  | none => addLoss queue
  | some padding => queue ++ [.sample event padding]

/-- The loop has not ended. -/
def PollPoint.isLooping : PollPoint → Bool
  | detaching _ => false
  | freeing _ => false
  | exited _ => false
  | _ => true

/-- The programs are attached. -/
def PollPoint.isAttached : PollPoint → Bool
  | freeing _ => false
  | exited _ => false
  | _ => true

namespace Collector

variable (config : DetectorConfig) (enabled : EpollVariant → Bool) (s : Collector)

def hits (hit : Bpf.Hit) (queued : Option ℕ) : Collector :=
  if s.point.isAttached then
    let next := (Bpf.attached config enabled).step s.map hit
    { s with
      map := next.1
      queue := next.2.foldl (perfEventOutput queued) s.queue
      outputs := if s.point.isLooping then s.outputs + next.2.length else s.outputs }
  else s

/-- A record is passed to its callback. -/
def pass : Collector :=
  match s.queue with
  | [] => s
  | pending :: queue => { s with queue := queue, lines := s.lines ++ pending.line.toList }

def mainRuns : Collector :=
  match s.point with
  | .announcing => { s with point := .checking, lines := s.lines ++ [.ready] }
  | .checking => { s with point := if s.stopping then .detaching 0 else .polling }
  | .polling => { s with point := .passing s.queue.length }
  | .passing 0 => { s with point := .checking }
  | .passing (due + 1) => { s.pass with point := .passing due }
  | .detaching status => { s with point := .freeing status }
  | .freeing status => { s with point := .exited status, queue := [] }
  | .exited _ => s

def step : PollTurn → Collector
  | .hit hit queued => s.hits config enabled hit queued
  | .main => s.mainRuns
  | .more =>
      match s.point with
      | .passing 0 => s.pass
      | _ => s
  | .interrupted =>
      match s.point with
      | .polling => { s with point := .checking }
      | _ => s
  | .fails =>
      match s.point with
      | .polling =>
          { s with point := .detaching 1, lines := s.lines ++ [.fatal "perf buffer polling failed"] }
      | _ => s
  | .signal =>
      match s.point with
      | .polling => { s with point := .checking, stopping := true }
      | _ => { s with stopping := true }

def run (turns : List PollTurn) : Collector :=
  turns.foldl (fun s turn => s.step config enabled turn) s

end Collector

/-! ## The accounts -/

def Pending.weight : Pending → ℕ
  | sample _ _ => 1
  | lost count => count.toNat

def Line.isEvent : Line → Bool
  | event _ => true
  | _ => false

def Line.lostCount : Line → ℕ
  | lost count => count.toNat
  | _ => 0

/-- The event lines, and the sum of the counts in the lost lines. -/
def accounted (lines : List Line) : ℕ :=
  lines.countP Line.isEvent + (lines.map Line.lostCount).sum

/-- The gap events that wait in the buffers. -/
def waiting (queue : List Pending) : ℕ :=
  (queue.map Pending.weight).sum

namespace Collector

/-- Every gap event is written or counted. -/
def Conserved (s : Collector) : Prop :=
  s.outputs = accounted s.lines

/-- The loop is about to see the request to stop. -/
def Observes (s : Collector) : Prop :=
  s.point = .checking ∧ s.stopping = true

end Collector

theorem accounted_append (lines more : List Line) :
    accounted (lines ++ more) = accounted lines + accounted more := by
  unfold accounted
  rw [List.countP_append, List.map_append, List.sum_append]
  omega

theorem waiting_append (queue more : List Pending) :
    waiting (queue ++ more) = waiting queue + waiting more := by
  unfold waiting
  rw [List.map_append, List.sum_append]

theorem waiting_cons (pending : Pending) (queue : List Pending) :
    waiting (pending :: queue) = pending.weight + waiting queue := by
  unfold waiting
  rw [List.map_cons, List.sum_cons]

/-- A record of full size is written. -/
theorem accounted_line (pending : Pending) :
    accounted pending.line.toList = pending.weight := by
  cases pending with
  | sample event padding =>
      have hsize : ¬ 24 + padding < 24 := by omega
      simp [Pending.line, sampleLine, hsize, accounted, Line.isEvent, Line.lostCount,
        Pending.weight]
  | lost count => simp [Pending.line, accounted, Line.isEvent, Line.lostCount, Pending.weight]

theorem waiting_addLoss (queue : List Pending) : waiting (addLoss queue) = waiting queue + 1 := by
  fun_induction addLoss queue with
  | case1 => rfl
  | case2 count hcount =>
      have hnext : (count + 1).toNat = count.toNat + 1 := by
        rw [UInt64.toNat_add]
        exact Nat.mod_eq_of_lt hcount
      simp only [waiting, List.map_cons, List.map_nil, Pending.weight, hnext, List.sum_cons,
        List.sum_nil]
      omega
  | case3 count hcount => rfl
  | case4 pending rest hpending ih =>
      rw [waiting_cons, ih, waiting_cons]
      omega

theorem waiting_perfEventOutput (queued : Option ℕ) (queue : List Pending) (event : BlockingEvent) :
    waiting (perfEventOutput queued queue event) = waiting queue + 1 := by
  unfold perfEventOutput
  cases queued with
  | none => exact waiting_addLoss queue
  | some padding => exact waiting_append queue [.sample event padding]

theorem waiting_outputs (queued : Option ℕ) (queue : List Pending) (events : List BlockingEvent) :
    waiting (events.foldl (perfEventOutput queued) queue) = waiting queue + events.length := by
  induction events generalizing queue with
  | nil => rfl
  | cons event events ih =>
      rw [List.foldl_cons, ih, waiting_perfEventOutput, List.length_cons]
      omega

namespace Collector

variable {config : DetectorConfig} {enabled : EpollVariant → Bool} {s : Collector}

/-- What has been output is written, counted or waiting. -/
def Balanced (s : Collector) : Prop :=
  s.outputs = accounted s.lines + waiting s.queue

theorem balanced_pass (h : s.Balanced) : s.pass.Balanced := by
  unfold Balanced at h ⊢
  fun_cases pass s with
  | case1 hqueue => exact h
  | case2 pending queue hqueue =>
      rw [hqueue, waiting_cons] at h
      dsimp only
      rw [accounted_append, accounted_line, h]
      omega

theorem balanced_hits (h : s.Balanced) (hlooping : s.point.isLooping = true) (hit : Bpf.Hit)
    (queued : Option ℕ) : (s.hits config enabled hit queued).Balanced := by
  unfold Balanced at h ⊢
  unfold hits
  split
  · simp only [waiting_outputs, h]
    omega
  · exact h

theorem balanced_mainRuns (h : s.Balanced) (hlooping : s.point.isLooping = true) :
    s.mainRuns.Balanced := by
  fun_cases mainRuns s with
  | case1 hpoint =>
      unfold Balanced at h ⊢
      dsimp only
      rw [accounted_append]
      exact h
  | case5 due hpoint => exact balanced_pass h
  | case7 status hpoint =>
      rw [hpoint] at hlooping
      cases hlooping
  | _ => exact h

/-- A turn of the loop keeps the balance. -/
theorem balanced_step (h : s.Balanced) (hlooping : s.point.isLooping = true) (turn : PollTurn) :
    (s.step config enabled turn).Balanced := by
  fun_cases step config enabled s turn with
  | case1 hit queued => exact balanced_hits h hlooping hit queued
  | case2 => exact balanced_mainRuns h hlooping
  | case3 hpoint => exact balanced_pass h
  | case7 hpoint =>
      unfold Balanced at h ⊢
      dsimp only
      rw [accounted_append]
      exact h
  | _ => exact h

/-- `main` is behind the loop, with this exit status. -/
def HasLeft (s : Collector) (status : ℕ) : Prop :=
  s.point = .detaching status ∨ s.point = .freeing status ∨ s.point = .exited status

/-- Behind the loop nothing is written, and no output counts. -/
theorem hasLeft_step (config : DetectorConfig) (enabled : EpollVariant → Bool) {status : ℕ}
    (h : s.HasLeft status) (turn : PollTurn) :
    (s.step config enabled turn).HasLeft status ∧
      (s.step config enabled turn).outputs = s.outputs ∧
      (s.step config enabled turn).lines = s.lines := by
  have hlooping : s.point.isLooping = false := by
    rcases h with hpoint | hpoint | hpoint
    all_goals rw [hpoint]; rfl
  cases turn with
  | hit hit queued =>
      change (s.hits config enabled hit queued).HasLeft status ∧
        (s.hits config enabled hit queued).outputs = _ ∧
        (s.hits config enabled hit queued).lines = _
      unfold hits
      split
      · refine ⟨h, ?_, rfl⟩
        simp only [hlooping, Bool.false_eq_true, if_false]
      · exact ⟨h, rfl, rfl⟩
  | main =>
      change s.mainRuns.HasLeft status ∧ s.mainRuns.outputs = _ ∧ s.mainRuns.lines = _
      unfold mainRuns HasLeft
      rcases h with hpoint | hpoint | hpoint
      · rw [hpoint]
        exact ⟨.inr (.inl rfl), rfl, rfl⟩
      · rw [hpoint]
        exact ⟨.inr (.inr rfl), rfl, rfl⟩
      · rw [hpoint]
        exact ⟨.inr (.inr hpoint), rfl, rfl⟩
  | _ =>
      unfold step HasLeft
      dsimp only
      rcases h with hpoint | hpoint | hpoint
      all_goals rw [hpoint]; simp [hpoint]

theorem hasLeft_run (config : DetectorConfig) (enabled : EpollVariant → Bool) {status : ℕ}
    (h : s.HasLeft status) (turns : List PollTurn) :
    (s.run config enabled turns).HasLeft status ∧
      (s.run config enabled turns).outputs = s.outputs ∧
      (s.run config enabled turns).lines = s.lines := by
  induction turns generalizing s with
  | nil => exact ⟨h, rfl, rfl⟩
  | cons turn turns ih =>
      obtain ⟨hleft, houtputs, hlines⟩ := hasLeft_step config enabled h turn
      obtain ⟨hrun, hrunOutputs, hrunLines⟩ := ih hleft
      exact ⟨hrun, hrunOutputs.trans houtputs, hrunLines.trans hlines⟩

theorem hasLeft_zero_mainRuns (h : s.mainRuns.HasLeft 0) : s.HasLeft 0 ∨ s.Observes := by
  unfold HasLeft at h ⊢
  revert h
  fun_cases mainRuns s with
  | case2 hpoint =>
      intro h
      cases hstopping : s.stopping with
      | true => exact .inr ⟨hpoint, hstopping⟩
      | false => simp [hstopping] at h
  | case6 status hpoint =>
      intro h
      obtain rfl : status = 0 := by simpa using h
      exact .inl (.inl hpoint)
  | case7 status hpoint =>
      intro h
      obtain rfl : status = 0 := by simpa using h
      exact .inl (.inr (.inl hpoint))
  | case8 status hpoint => exact .inl
  | _ =>
      intro h
      simp at h

/-- The loop is left with status 0 only when it sees the request to stop. -/
theorem hasLeft_zero_step {turn : PollTurn} (h : (s.step config enabled turn).HasLeft 0) :
    s.HasLeft 0 ∨ (turn = .main ∧ s.Observes) := by
  revert h
  fun_cases step config enabled s turn with
  | case1 hit queued =>
      intro h
      unfold hits at h
      left
      split at h
      · exact h
      · exact h
  | case2 => exact fun h => (hasLeft_zero_mainRuns h).imp id fun hobserves => ⟨rfl, hobserves⟩
  | case3 hpoint =>
      intro h
      have hpass : s.pass.point = s.point := by
        unfold pass
        split
        · rfl
        · rfl
      unfold HasLeft at h
      rw [hpass] at h
      exact .inl h
  | case5 hpoint =>
      intro h
      simp [HasLeft] at h
  | case7 hpoint =>
      intro h
      simp [HasLeft] at h
  | case9 hpoint =>
      intro h
      simp [HasLeft] at h
  | _ => exact .inl

/-- Either the loop goes on in balance, or it was left in the turn that saw the request. -/
theorem exists_observes_of_hasLeft (turns : List PollTurn)
    (h : (s.run config enabled turns).HasLeft 0) (hstart : ¬ s.HasLeft 0) :
    ∃ before after, turns = before ++ .main :: after ∧ (s.run config enabled before).Observes := by
  induction turns generalizing s with
  | nil => exact absurd h hstart
  | cons turn turns ih =>
      by_cases hnext : (s.step config enabled turn).HasLeft 0
      · rcases hasLeft_zero_step hnext with hleft | ⟨rfl, hobserves⟩
        · exact absurd hleft hstart
        · exact ⟨[], turns, rfl, hobserves⟩
      · obtain ⟨before, after, rfl, hobserves⟩ := ih h hnext
        exact ⟨turn :: before, after, rfl, hobserves⟩

/-- The turn that sees the request leaves the loop; nothing is written behind it. -/
theorem hasLeft_of_observes (config : DetectorConfig) (enabled : EpollVariant → Bool)
    (h : s.Observes) (after : List PollTurn) :
    (s.run config enabled (.main :: after)).HasLeft 0 ∧
      (s.run config enabled (.main :: after)).outputs = s.outputs ∧
      (s.run config enabled (.main :: after)).lines = s.lines := by
  obtain ⟨hpoint, hstopping⟩ := h
  have hstep : s.step config enabled .main = { s with point := .detaching 0 } := by
    change s.mainRuns = _
    unfold mainRuns
    rw [hpoint]
    simp [hstopping]
  have hleft : ({ s with point := .detaching 0 } : Collector).HasLeft 0 := .inl rfl
  change (run config enabled (s.step config enabled .main) after).HasLeft 0 ∧ _
  rw [hstep]
  obtain ⟨hend, houtputs, hlines⟩ := hasLeft_run config enabled hleft after
  refine ⟨hend, ?_, ?_⟩
  · change (run config enabled (s.step config enabled .main) after).outputs = _
    rw [hstep]
    exact houtputs
  · change (run config enabled (s.step config enabled .main) after).lines = _
    rw [hstep]
    exact hlines

theorem exists_hasLeft (h : s.point.isLooping = false) : ∃ status, s.HasLeft status := by
  cases hpoint : s.point with
  | detaching status => exact ⟨status, .inl hpoint⟩
  | freeing status => exact ⟨status, .inr (.inl hpoint)⟩
  | exited status => exact ⟨status, .inr (.inr hpoint)⟩
  | _ =>
      rw [hpoint] at h
      cases h

theorem HasLeft.isLooping {status : ℕ} (h : s.HasLeft status) : s.point.isLooping = false := by
  rcases h with hpoint | hpoint | hpoint
  all_goals rw [hpoint]; rfl

/-- A run that is still in the loop is in balance. -/
theorem balanced_run (h : s.Balanced) (hstart : s.point.isLooping = true) (turns : List PollTurn)
    (hend : (s.run config enabled turns).point.isLooping = true) :
    (s.run config enabled turns).Balanced := by
  induction turns generalizing s with
  | nil => exact h
  | cons turn turns ih =>
      cases hnext : (s.step config enabled turn).point.isLooping with
      | true => exact ih (balanced_step h hstart turn) hnext hend
      | false =>
          obtain ⟨status, hleft⟩ := exists_hasLeft hnext
          have hfinal := (hasLeft_run config enabled hleft turns).1.isLooping
          exact absurd (hend.symm.trans hfinal) (by simp)

/-- A run that ends because it was asked to accounts for every gap event exactly if nothing
waits in the buffers when the loop sees the request. -/
theorem conserved_iff (config : DetectorConfig) (enabled : EpollVariant → Bool)
    (turns : List PollTurn) (hexit : (run config enabled {} turns).point = .exited 0) :
    (run config enabled {} turns).Conserved ↔
      ∀ before after, turns = before ++ .main :: after →
        (run config enabled {} before).Observes →
        waiting (run config enabled {} before).queue = 0 := by
  have hsplit : ∀ before after, turns = before ++ .main :: after →
      (run config enabled {} before).Observes →
      ((run config enabled {} turns).Conserved ↔
        waiting (run config enabled {} before).queue = 0) := by
    intro before after hturns hobserves
    have hrun : run config enabled {} turns =
        run config enabled (run config enabled {} before) (.main :: after) := by
      rw [hturns]
      exact List.foldl_append
    obtain ⟨-, houtputs, hlines⟩ := hasLeft_of_observes config enabled hobserves after
    have hstart : Balanced {} := rfl
    have hbalanced := balanced_run hstart rfl before (by rw [hobserves.1]; rfl)
    unfold Conserved
    rw [hrun, houtputs, hlines, hbalanced]
    omega
  obtain ⟨before, after, hturns, hobserves⟩ :=
    exists_observes_of_hasLeft turns (.inr (.inr hexit)) (by simp [HasLeft])
  constructor
  · exact fun hconserved before' after' hturns' hobserves' =>
      (hsplit before' after' hturns' hobserves').mp hconserved
  · exact fun hdrained => (hsplit before after hturns hobserves).mpr
      (hdrained before after hturns hobserves)

/-! ## Runs -/

/-- The target is thread 7, and a gap may take 100 ns. -/
def sampleConfig : DetectorConfig :=
  { targetTgid := 7, targetTid := 7, thresholdNs := 100, pidnsDev := 4, pidnsIno := 1 }

def targetHit (kind : Bpf.ProbeKind) (time : UInt64) : Bpf.Hit :=
  { kind := kind
    variant := .epollWait
    task := { pidnsDev := 4, pidnsIno := 1, tgid := 7, pid := 7 }
    time := time }

/-- The gap is output while the collector waits, and SIGTERM comes afterwards. -/
def polledGap : List PollTurn :=
  [.main, .main, .hit (targetHit .sysExit 0) (some 4), .hit (targetHit .sysEnter 500) (some 4),
    .main, .main, .main, .signal, .main, .main, .main]

/-- SIGTERM interrupts the wait, and the gap is output before the loop looks at the request. -/
def unpolledGap : List PollTurn :=
  [.main, .main, .hit (targetHit .sysExit 0) (some 4), .signal,
    .hit (targetHit .sysEnter 500) (some 4), .main, .main, .main]

theorem conserved_iff_polledGap :
    (run sampleConfig (fun _ => true) {} polledGap).point = .exited 0 ∧
      ((run sampleConfig (fun _ => true) {} polledGap).Conserved ↔
        ∀ before after, polledGap = before ++ .main :: after →
          (run sampleConfig (fun _ => true) {} before).Observes →
          waiting (run sampleConfig (fun _ => true) {} before).queue = 0) := by
  have hexit : (run sampleConfig (fun _ => true) {} polledGap).point = .exited 0 := by decide
  exact ⟨hexit, conserved_iff sampleConfig (fun _ => true) polledGap hexit⟩

/-- One gap is output before the request is seen, and the collector exits without a line
about it. -/
theorem exists_not_conserved :
    ∃ config enabled turns, (run config enabled {} turns).point = .exited 0 ∧
      ¬ (run config enabled {} turns).Conserved := by
  refine ⟨sampleConfig, fun _ => true, unpolledGap, by decide, ?_⟩
  unfold Conserved
  decide

end Collector

end Blocksnoop.Native
