import Blocksnoop.Cli.Health
import Blocksnoop.Cli.Signals
import Blocksnoop.Reporter.Reports

/-!
# The session stream

The records that the main thread and the reader thread write together: a session
start, the event records in the order of their numbers, and a summary at the end.
No lock protects the reporter.  The stream is well formed when no signal precedes
the session start, every event line has a length that a float holds, and the
reader has ended before `on_exit` writes the summary.
-/

namespace Blocksnoop.Cli

open Blocksnoop.Support Blocksnoop.CoreBackend

section

variable {F : Type}

/-! ## Streams -/

/-- A session start and `n` event records with the numbers 1 to `n`. -/
def Numbered (n : ℕ) (records : List (Record F)) : Prop :=
  ∃ start events, records = start :: events ∧ start.isSessionStart = true ∧
    events.map Record.eventNumber = (List.range n).map fun i => some (i + 1)

/-- The records of a session: a summary, if there is one, is the last record and
states how many events there are. -/
def WellFormedStream (records : List (Record F)) : Prop :=
  ∃ n, Numbered n records ∨
    ∃ streamed summary, records = streamed ++ [summary] ∧ Numbered n streamed ∧
      summary.summaryEventCount = some n

theorem Numbered.concat {n : ℕ} {records : List (Record F)} {record : Record F}
    (h : Numbered n records) (hrecord : record.eventNumber = some (n + 1)) :
    Numbered (n + 1) (records ++ [record]) := by
  obtain ⟨start, events, rfl, hstart, hevents⟩ := h
  refine ⟨start, events ++ [record], rfl, hstart, ?_⟩
  rw [List.map_append, hevents, List.range_succ, List.map_append]
  simp [hrecord]

/-! ## The reader -/

/-- The steps of a report. -/
def ReaderStep.isReport : ReaderStep F → Bool
  | .correlate _ => true
  | .count _ => true
  | .aggregate _ => true
  | .emit _ => true
  | _ => false

/-- The reader writes no more records. -/
def Reader.isDone : Reader F → Bool
  | .notStarted => true
  | .ended => true
  | .running _ => false

variable [PyRuntime F]

/-- The step that is due fits to `n` event records and `count` counted events. -/
def StepFits (n count : ℕ) : ReaderStep F → Prop
  | .correlate event => Reportable F event ∧ count = n
  | .count event => Reportable F event ∧ count = n
  | .aggregate event => Reportable F event ∧ count = n + 1
  | .emit records => count = n + 1 ∧ ∃ record, records = [record] ∧
      record.eventNumber = some (n + 1)
  | _ => count = n

/-- Only the first step of a reader belongs to a report. -/
def StepsFit (n count : ℕ) : List (ReaderStep F) → Prop
  | [] => count = n
  | step :: steps => StepFits n count step ∧ ∀ later ∈ steps, later.isReport = false

def ReaderFits (n count : ℕ) : Reader F → Prop
  | .notStarted => count = n
  | .ended => count = n
  | .running steps => StepsFit n count steps

theorem stepFits_of_not_isReport {n : ℕ} {step : ReaderStep F} (h : step.isReport = false) :
    StepFits n n step := by
  cases step with
  | correlate event => cases h
  | count event => cases h
  | aggregate event => cases h
  | emit records => cases h
  | _ => exact rfl

theorem StepFits.eq {n count : ℕ} {step : ReaderStep F} (h : StepFits n count step)
    (hstep : step.isReport = false) : count = n := by
  cases step with
  | correlate event => cases hstep
  | count event => cases hstep
  | aggregate event => cases hstep
  | emit records => cases hstep
  | _ => exact h

theorem stepsFit_of_not_isReport {n : ℕ} {steps : List (ReaderStep F)}
    (h : ∀ step ∈ steps, step.isReport = false) : StepsFit n n steps := by
  cases steps with
  | nil => exact rfl
  | cons step steps =>
      exact ⟨stepFits_of_not_isReport (h step List.mem_cons_self),
        fun later hlater => h later (List.mem_cons_of_mem _ hlater)⟩

/-! ## Lines -/

/-- The length of the event on a line, if there is one, is a float. -/
def LineReportable (F : Type) [PyRuntime F] (line : String) : Prop :=
  ∀ (d : CoreDetector F) event, handleLine d line = .event event →
    ∃ durationMs : F, PyRuntime.divInt (event.endNs - event.startNs) 1000000 = .ok durationMs

omit [PyRuntime F] in
/-- An event message has no stacks. -/
theorem pythonStacks_of_handleEvent {d : CoreDetector F} {message : List (String × Json)}
    {event : BlockingEvent} (h : handleEvent d message = .event event) :
    event.pythonStacks = [] := by
  unfold handleEvent at h
  split at h
  · cases h
  · split at h
    · cases h
    · obtain rfl := Action.event.inj h
      rfl

theorem LineReportable.reportable {line : String} (h : LineReportable F line)
    {d : CoreDetector F} {event : BlockingEvent} (hevent : handleLine d line = .event event) :
    Reportable F event := by
  refine ⟨h d event hevent, ?_⟩
  rcases handleLine_cases d line with ⟨message, -, hline⟩ | ⟨message, -, hline⟩ |
    ⟨message, -, hline⟩ | ⟨-, -, ⟨error, hline⟩ | hline⟩
  · have hdelivered := (delivered_handleReady d message).1
    rw [hline.symm.trans hevent] at hdelivered
    cases hdelivered
  · rw [pythonStacks_of_handleEvent (hline.symm.trans hevent)]
    simp
  · have hdelivered := delivered_handleLost d message
    rw [hline.symm.trans hevent] at hdelivered
    cases hdelivered
  · cases hline.symm.trans hevent
  · unfold handleLine at hevent
    rw [hline] at hevent
    cases hevent

/-- A line makes steps that fit. -/
theorem stepsFit_actionSteps {n : ℕ} {line : String} (h : LineReportable F line)
    (d : CoreDetector F) : StepsFit n n (actionSteps (F := F) (handleLine d line)) := by
  cases haction : handleLine d line with
  | event event => exact ⟨⟨h.reportable haction, rfl⟩, by simp⟩
  | setError error => exact stepsFit_of_not_isReport (by simp [actionSteps, ReaderStep.isReport])
  | ready => exact stepsFit_of_not_isReport (by simp [actionSteps, ReaderStep.isReport])
  | lost event => exact stepsFit_of_not_isReport (by simp [actionSteps, ReaderStep.isReport])
  | ignored => exact rfl
  | raised e => exact stepsFit_of_not_isReport (by simp [actionSteps, ReaderStep.isReport])

/-! ## The pipeline while it streams -/

/-- The records are numbered as far as the reader has come, and the lines in the
pipe are reportable. -/
structure Streaming (p : Pipeline F) : Prop where
  summaryOnly : p.reporter.summaryOnly = false
  lines : ∀ line, some line ∈ p.sidecar.stdout → LineReportable F line
  numbered : ∃ n, Numbered n p.records ∧ ReaderFits n p.reporter.eventCount p.reader

/-- An output line is reportable. -/
def MoveReportable : Move F → Prop
  | .output (some line) => LineReportable F line
  | _ => True

theorem Streaming.numbered_running {p : Pipeline F} {steps : List (ReaderStep F)}
    (h : Streaming p) (hreader : p.reader = .running steps) :
    ∃ n, Numbered n p.records ∧ StepsFit n p.reporter.eventCount steps := by
  obtain ⟨n, hnumbered, hfits⟩ := h.numbered
  rw [hreader] at hfits
  exact ⟨n, hnumbered, hfits⟩

theorem StepsFit.append {n count : ℕ} {due steps : List (ReaderStep F)}
    (h : StepsFit n count due) (hsteps : ∀ step ∈ steps, step.isReport = false) :
    StepsFit n count (due ++ steps) := by
  cases due with
  | nil =>
      obtain rfl : count = n := h
      exact stepsFit_of_not_isReport hsteps
  | cons step due =>
      refine ⟨h.1, ?_⟩
      intro later hlater
      rcases List.mem_append.mp hlater with hlater | hlater
      · exact h.2 later hlater
      · exact hsteps later hlater

/-- A step of the reader takes the report it belongs to one step further. -/
theorem readerStep_fits (p : Pipeline F) {step : ReaderStep F} {n : ℕ}
    (hsummary : p.reporter.summaryOnly = false) (hnumbered : Numbered n p.records)
    (hfits : StepFits n p.reporter.eventCount step) :
    (p.readerStep step).1.reporter.summaryOnly = false ∧
      ∃ n', Numbered n' (p.readerStep step).1.records ∧
        StepsFit n' (p.readerStep step).1.reporter.eventCount (p.readerStep step).2 := by
  cases step with
  | openStdout =>
      have hcount := hfits.eq rfl
      dsimp only [Pipeline.readerStep]
      split
      · exact ⟨hsummary, n, hnumbered, hcount⟩
      · exact ⟨hsummary, n, hnumbered, hcount, by simp [ReaderStep.isReport]⟩
  | setError error =>
      have hcount := hfits.eq rfl
      dsimp only [Pipeline.readerStep, Pipeline.setErrorStep]
      split
      · exact ⟨hsummary, n, hnumbered, hcount⟩
      · exact ⟨hsummary, n, hnumbered, hcount, by simp⟩
  | setReady => exact ⟨hsummary, n, hnumbered, hfits.eq rfl⟩
  | lose event => exact ⟨hsummary, n, hnumbered, hfits.eq rfl⟩
  | correlate event =>
      obtain ⟨hreportable, hcount⟩ := hfits
      dsimp only [Pipeline.readerStep]
      split
      · exact ⟨hsummary, n, hnumbered, hcount⟩
      · split
        · exact ⟨hsummary, n, hnumbered, hcount⟩
        · rename_i enriched henriched
          exact ⟨hsummary, n, hnumbered, ⟨hreportable.onEvent henriched, hcount⟩, by simp⟩
  | count event =>
      obtain ⟨hreportable, hcount⟩ := hfits
      refine ⟨hsummary, n, hnumbered, ⟨hreportable, ?_⟩, by simp⟩
      change p.reporter.eventCount + 1 = n + 1
      rw [hcount]
  | aggregate event =>
      obtain ⟨hreportable, hcount⟩ := hfits
      obtain ⟨reporter, record, hreport, hnumber, heventCount, hsummaryOnly⟩ :=
        p.reporter.reportCounted_of_reportable p.host p.clock hreportable
      dsimp only [Pipeline.readerStep]
      rw [hreport, hsummary, if_neg Bool.false_ne_true]
      refine ⟨hsummaryOnly.trans hsummary, n, hnumbered, ⟨heventCount.trans hcount, record, rfl, ?_⟩,
        by simp⟩
      rw [hnumber, hcount]
  | emit records =>
      obtain ⟨hcount, record, rfl, hnumber⟩ := hfits
      exact ⟨hsummary, n + 1, hnumbered.concat hnumber, hcount⟩
  | close =>
      have hcount := hfits.eq rfl
      refine ⟨hsummary, n, hnumbered, ?_⟩
      change StepsFit n p.reporter.eventCount (p.closeSteps ++ [.finish])
      rw [hcount]
      apply stepsFit_of_not_isReport
      intro step hstep
      unfold Pipeline.closeSteps at hstep
      split at hstep
      · obtain rfl := List.mem_singleton.mp hstep
        rfl
      · split at hstep
        · rcases List.mem_pair.mp hstep with rfl | rfl
          · rfl
          · rfl
        · rcases List.mem_pair.mp hstep with rfl | rfl
          · rfl
          · rfl
  | finish => exact ⟨hsummary, n, hnumbered, hfits.eq rfl⟩

theorem readerRuns_streaming {p : Pipeline F} (h : Streaming p) : Streaming p.readerRuns := by
  fun_cases Pipeline.readerRuns p with
  | case1 hreader => exact h
  | case2 hreader => exact h
  | case3 steps hreader =>
      obtain ⟨n, hnumbered, hfits⟩ := h.numbered_running hreader
      exact ⟨h.summaryOnly, h.lines, n, hnumbered, hfits.1.eq rfl⟩
  | case4 step steps hfinish hreader p' due hstep =>
      obtain ⟨n, hnumbered, hfits⟩ := h.numbered_running hreader
      have hnext := readerStep_fits p h.summaryOnly hnumbered hfits.1
      obtain ⟨detector, reporter, records, hframe⟩ := p.readerStep_frame step
      have hsidecar : p'.sidecar = p.sidecar := by
        rw [hstep] at hframe
        rw [show p' = _ from hframe]
      rw [hstep] at hnext
      obtain ⟨hsummary, n', hnumbered', hfits'⟩ := hnext
      refine ⟨hsummary, ?_, n', hnumbered', hfits'.append hfits.2⟩
      intro line hline
      exact h.lines line (hsidecar ▸ hline)
  | case5 hreader line lines hstdout =>
      obtain ⟨n, hnumbered, hcount⟩ := h.numbered_running hreader
      have hline : LineReportable F line := h.lines line (by rw [hstdout]; simp)
      refine ⟨h.summaryOnly, ?_, n, hnumbered, ?_⟩
      · intro line' hline'
        exact h.lines line' (by rw [hstdout]; exact List.mem_cons_of_mem _ hline')
      · change StepsFit n p.reporter.eventCount _
        rw [show p.reporter.eventCount = n from hcount]
        exact stepsFit_actionSteps hline p.detector
  | case6 hreader lines hstdout =>
      obtain ⟨n, hnumbered, hcount⟩ := h.numbered_running hreader
      refine ⟨h.summaryOnly, ?_, n, hnumbered, hcount, by simp⟩
      intro line' hline'
      exact h.lines line' (by rw [hstdout]; exact List.mem_cons_of_mem _ hline')
  | case7 hreader hstdout hexited =>
      obtain ⟨n, hnumbered, hcount⟩ := h.numbered_running hreader
      exact ⟨h.summaryOnly, h.lines, n, hnumbered, hcount, by simp⟩
  | case8 hreader hstdout hexited => exact h

theorem act_streaming {p : Pipeline F} (h : Streaming p) {move : Move F}
    (hmove : MoveReportable move) : Streaming (p.act move) := by
  fun_cases Pipeline.act p move with
  | case1 line hexited => exact h
  | case2 line hexited =>
      refine ⟨h.summaryOnly, ?_, h.numbered⟩
      intro line' hline'
      rcases List.mem_append.mp hline' with hline' | hline'
      · exact h.lines line' hline'
      · obtain rfl : some line' = line := List.mem_singleton.mp hline'
        exact hmove
  | case4 => exact readerRuns_streaming h
  | _ => exact ⟨h.summaryOnly, h.lines, h.numbered⟩

/-! ## The other states of the stream -/

/-- The summary states how many events were counted, and does not count. -/
theorem exists_summary (r : Reporter F) (clock : ClockReading F) (durationS : F)
    (lossCounts : Dict String ℤ) (terminationReason : String) :
    ∃ reporter summary, r.summary clock durationS lossCounts terminationReason =
        (reporter, summary) ∧ summary.summaryEventCount = some r.eventCount ∧
      reporter.eventCount = r.eventCount ∧ reporter.summaryOnly = r.summaryOnly :=
  ⟨_, _, rfl, rfl, rfl, rfl⟩

/-- Nothing has been written; `started` is the flag of the reporter. -/
structure Unopened (started : Bool) (p : Pipeline F) : Prop where
  records : p.records = []
  eventCount : p.reporter.eventCount = 0
  summaryOnly : p.reporter.summaryOnly = false
  started : p.reporter.started = started
  reader : p.reader = .notStarted
  lines : ∀ line, some line ∈ p.sidecar.stdout → LineReportable F line

/-- The stream has come to an end; `summary` may be written. -/
structure Closed (summary : Record F) (p : Pipeline F) : Prop where
  streaming : Streaming p
  reader : p.reader.isDone = true
  eventCount : summary.summaryEventCount = some p.reporter.eventCount

/-- The summary has been written. -/
def Summarised (p : Pipeline F) : Prop :=
  p.reader.isDone = true ∧ ∃ n streamed summary, p.records = streamed ++ [summary] ∧
    Numbered n streamed ∧ summary.summaryEventCount = some n

/-- What is left when the callbacks have run. -/
def StreamEnded (p : Pipeline F) : Prop :=
  Streaming p ∨ Summarised p

theorem Streaming.wellFormed {p : Pipeline F} (h : Streaming p) : WellFormedStream p.records := by
  obtain ⟨n, hnumbered, -⟩ := h.numbered
  exact ⟨n, Or.inl hnumbered⟩

theorem StreamEnded.wellFormed {p : Pipeline F} (h : StreamEnded p) :
    WellFormedStream p.records := by
  rcases h with h | ⟨-, n, streamed, summary, hrecords, hnumbered, hcount⟩
  · exact h.wellFormed
  · exact ⟨n, Or.inr ⟨streamed, summary, hrecords, hnumbered, hcount⟩⟩

/-- A reader that is done stays so, and writes nothing. -/
theorem act_isDone {p : Pipeline F} (h : p.reader.isDone = true) (move : Move F) :
    (p.act move).reader = p.reader ∧ (p.act move).records = p.records ∧
      (p.act move).reporter = p.reporter := by
  have hruns : p.readerRuns = p := by
    unfold Pipeline.readerRuns
    cases hreader : p.reader with
    | notStarted => rfl
    | ended => rfl
    | running steps =>
        rw [hreader] at h
        cases h
  fun_cases Pipeline.act p move with
  | case4 =>
      rw [hruns]
      exact ⟨rfl, rfl, rfl⟩
  | _ => exact ⟨rfl, rfl, rfl⟩

theorem act_lines {p : Pipeline F} (hreader : p.reader = .notStarted)
    (hlines : ∀ line, some line ∈ p.sidecar.stdout → LineReportable F line) {move : Move F}
    (hmove : MoveReportable move) :
    ∀ line, some line ∈ (p.act move).sidecar.stdout → LineReportable F line := by
  fun_cases Pipeline.act p move with
  | case2 line hexited =>
      intro line' hline'
      rcases List.mem_append.mp hline' with hline' | hline'
      · exact hlines line' hline'
      · obtain rfl : some line' = line := List.mem_singleton.mp hline'
        exact hmove
  | case4 =>
      have hruns : p.readerRuns = p := by
        unfold Pipeline.readerRuns
        rw [hreader]
      rw [hruns]
      exact hlines
  | _ => exact hlines

theorem act_unopened {started : Bool} {p : Pipeline F} (h : Unopened started p) {move : Move F}
    (hmove : MoveReportable move) : Unopened started (p.act move) := by
  have hdone : p.reader.isDone = true := by
    rw [h.reader]
    rfl
  obtain ⟨hreader, hrecords, hreporter⟩ := act_isDone hdone move
  exact ⟨hrecords.trans h.records, hreporter ▸ h.eventCount, hreporter ▸ h.summaryOnly,
    hreporter ▸ h.started, hreader.trans h.reader, act_lines h.reader h.lines hmove⟩

theorem act_closed {summary : Record F} {p : Pipeline F} (h : Closed summary p) {move : Move F}
    (hmove : MoveReportable move) : Closed summary (p.act move) := by
  obtain ⟨hreader, -, hreporter⟩ := act_isDone h.reader move
  exact ⟨act_streaming h.streaming hmove, hreader ▸ h.reader, hreporter ▸ h.eventCount⟩

theorem act_summarised {p : Pipeline F} (h : Summarised p) (move : Move F) :
    Summarised (p.act move) := by
  obtain ⟨hreader, hrecords, -⟩ := act_isDone h.1 move
  exact ⟨hreader ▸ h.1, hrecords ▸ h.2⟩

/-- The session start opens the stream. -/
theorem Unopened.streaming {p : Pipeline F} (h : Unopened true p) {start : Record F}
    (hstart : start.isSessionStart = true) :
    Streaming { p with records := p.records ++ [start] } := by
  refine ⟨h.summaryOnly, h.lines, 0, ⟨start, [], ?_, hstart, rfl⟩, ?_⟩
  · change p.records ++ [start] = [start]
    rw [h.records, List.nil_append]
  · change ReaderFits 0 p.reporter.eventCount p.reader
    rw [h.reader]
    exact h.eventCount

/-- The summary ends the stream. -/
theorem Closed.summarised {summary : Record F} {p : Pipeline F} (h : Closed summary p) :
    Summarised { p with records := p.records ++ [summary] } := by
  obtain ⟨n, hnumbered, hfits⟩ := h.streaming.numbered
  have hcount : p.reporter.eventCount = n := by
    have hdone := h.reader
    cases hreader : p.reader with
    | notStarted =>
        rw [hreader] at hfits
        exact hfits
    | ended =>
        rw [hreader] at hfits
        exact hfits
    | running steps =>
        rw [hreader] at hdone
        cases hdone
  exact ⟨h.reader, n, p.records, summary, rfl, hnumbered, h.eventCount.trans (by rw [hcount])⟩

/-! ## The worlds of a run, stage by stage -/

/-- A signal finds the session start written, and `on_exit` is called when the
reader has ended. -/
def InOrder (_ : List (Event (Pipeline F))) (event : Event (Pipeline F)) : Prop :=
  (∀ signum, event.mark = .signal signum → event.inner.records ≠ []) ∧
    ∀ reason, event.mark = .began (.onExit reason) → event.inner.reader.isDone = true

/-- All the lines that the sidecar is going to write are reportable. -/
def OutputReportable (s : World (Pipeline F) (Move F)) : Prop :=
  ∀ entry ∈ s.schedule, ∀ move, .inner move ∈ entry.env → MoveReportable move

/-- The flag and the pipeline of a world. -/
def Fed (cleanedUp : Bool) (P : Pipeline F → Prop) (s : World (Pipeline F) (Move F)) : Prop :=
  s.cleanedUp = cleanedUp ∧ OutputReportable s ∧ P s.inner

variable {s : World (Pipeline F) (Move F)}

theorem Fed.mono {cleanedUp : Bool} {P R : Pipeline F → Prop} (hs : Fed cleanedUp P s)
    (h : ∀ p, P p → R p) : Fed cleanedUp R s :=
  ⟨hs.1, hs.2.1, h s.inner hs.2.2⟩

/-- What every reportable move keeps of the pipeline is kept by reportable moves. -/
theorem foldl_applyEnv_inner {P : Pipeline F → Prop}
    (hP : ∀ p move, MoveReportable move → P p → P (p.act move)) {env : List (EnvAction (Move F))}
    (henv : ∀ move, .inner move ∈ env → MoveReportable move) (hs : P s.inner) :
    P (env.foldl World.applyEnv s).inner := by
  induction env generalizing s with
  | nil => exact hs
  | cons action env ih =>
      rw [List.foldl_cons]
      apply ih
      · exact fun move hmove => henv move (List.mem_cons_of_mem _ hmove)
      · cases action with
        | childExits returncode => exact hs
        | inner move => exact hP s.inner move (henv move List.mem_cons_self) hs

theorem stable_fed (cleanedUp : Bool) {P : Pipeline F → Prop}
    (hP : ∀ p move, MoveReportable move → P p → P (p.act move)) : Stable (Fed cleanedUp P) := by
  rintro s entry rest hschedule ⟨hflag, houtput, hs⟩
  refine ⟨by rw [World.advance_cleanedUp, hflag], ?_, ?_⟩
  · intro other hother
    exact houtput other (by rw [hschedule]; exact List.mem_cons_of_mem _ hother)
  · exact foldl_applyEnv_inner hP (houtput entry (by rw [hschedule]; exact List.mem_cons_self)) hs

theorem stable_streaming (cleanedUp : Bool) : Stable (Fed (F := F) cleanedUp Streaming) :=
  stable_fed cleanedUp fun _ _ hmove h => act_streaming h hmove

theorem stable_unopened (started : Bool) : Stable (Fed (F := F) false (Unopened started)) :=
  stable_fed false fun _ _ hmove h => act_unopened h hmove

theorem stable_streamEnded : Stable (Fed (F := F) true StreamEnded) :=
  stable_fed true fun _ move hmove h =>
    h.imp (fun h => act_streaming h hmove) fun h => act_summarised h move

/-- The records in each stage of a run whose stream is well formed. -/
def streaming (F : Type) [PyRuntime F] : Stages (fineAlong (Move F) (@InOrder F)) where
  Initial := Fed false (Unopened false)
  Open := Fed false Streaming
  Due _ := Fed false Streaming
  Flagged _ := Fed true Streaming
  Stopped _ := Fed true Streaming
  Exited := Fed true StreamEnded
  Final := Fed true StreamEnded
  Always s := s.inner.records = [] ∨ WellFormedStream s.inner.records
  initial_stable := stable_unopened false
  open_stable := stable_streaming false
  due_stable _ := stable_streaming false
  flagged_stable _ := stable_streaming true
  stopped_stable _ := stable_streaming true
  exited_stable := stable_streamEnded
  final_stable := stable_streamEnded
  cleanedUp_of_due _ _ h := h.1
  cleanedUp_of_stopped _ _ h := h.1
  cleanedUp_of_exited _ h := h.1
  cleanedUp_of_final _ h := h.1
  always_of_initial _ h := Or.inl h.2.2.records
  always_of_open _ h := Or.inr h.2.2.wellFormed
  always_of_due _ _ h := Or.inr h.2.2.wellFormed
  always_of_flagged _ _ h := Or.inr h.2.2.wellFormed
  always_of_stopped _ _ h := Or.inr h.2.2.wellFormed
  always_of_exited _ h := Or.inr h.2.2.wellFormed
  always_of_final _ h := Or.inr h.2.2.wellFormed
  initial_signal signum _ h hfine :=
    absurd h.2.2.records ((record_mem_fineAlong.mp hfine).2.1 signum rfl)
  open_signal _ _ h _ := h
  due_signal _ _ _ h _ := h
  flagged_signal _ _ _ h _ := ⟨h, h.mono fun _ => Or.inl, h.mono fun _ => Or.inl⟩
  stopped_signal _ _ _ h _ := ⟨h, h.mono fun _ => Or.inl, h.mono fun _ => Or.inl⟩
  exited_signal _ _ h _ := ⟨h, h⟩
  final_signal _ _ h _ := h
  flagged_of_due _ _ h := ⟨rfl, h.2⟩
  open_poll _ h := h
  due_poll _ _ h := h
  open_observed _ _ h _ _ := h

/-! ## The callbacks respect the stages -/

/-- The pipelines agree on what the stream depends on. -/
structure SameStream (p p' : Pipeline F) : Prop where
  reporter : p'.reporter = p.reporter
  records : p'.records = p.records
  reader : p'.reader = p.reader
  sidecar : p'.sidecar = p.sidecar

theorem Streaming.congr {p p' : Pipeline F} (h : Streaming p) (hsame : SameStream p p') :
    Streaming p' := by
  refine ⟨?_, ?_, ?_⟩
  · rw [hsame.reporter]
    exact h.summaryOnly
  · rw [hsame.sidecar]
    exact h.lines
  · rw [hsame.reporter, hsame.records, hsame.reader]
    exact h.numbered

theorem StreamEnded.congr {p p' : Pipeline F} (h : StreamEnded p) (hsame : SameStream p p') :
    StreamEnded p' := by
  refine h.imp (fun h => h.congr hsame) ?_
  rintro ⟨hreader, hsummary⟩
  refine ⟨?_, ?_⟩
  · rw [hsame.reader]
    exact hreader
  · rw [hsame.records]
    exact hsummary

variable {handler : Handler (Pipeline F) (Move F)}

theorem ticks_streaming (hhandler : (streaming F).Handles handler) :
    Ticks (fineAlong (Move F) (@InOrder F)) (streaming F).Always handler (Fed true Streaming)
      (Fed true Streaming) :=
  Stages.ticks_settled hhandler ⟨stable_streaming true, fun _ _ h _ => h, fun _ h => h.1⟩
    (fun _ h => Or.inr h.2.2.wellFormed)

/-- `stop` once the flag is set. -/
theorem locking_streaming (hhandler : (streaming F).Handles handler) :
    Locking (fineAlong (Move F) (@InOrder F)) (streaming F).Always handler (Fed true Streaming)
      (Fed true Streaming) where
  outside := ticks_streaming hhandler
  inside := ticks_streaming hhandler
  acquired _ hs _ := ⟨hs.1, hs.2.1, hs.2.2.congr ⟨rfl, rfl, rfl, rfl⟩⟩
  released _ hs := ⟨hs.1, hs.2.1, hs.2.2.congr ⟨rfl, rfl, rfl, rfl⟩⟩
  deadlocked _ hs _ _ := hs
  stopRequested _ hs := ⟨hs.1, hs.2.1, hs.2.2.congr ⟨rfl, rfl, rfl, rfl⟩⟩
  cleared _ hs := ⟨hs.1, hs.2.1, hs.2.2.congr ⟨rfl, rfl, rfl, rfl⟩⟩
  always _ hs := Or.inr hs.2.2.wellFormed

/-- While `start` runs the stream is open, or the run has been torn down. -/
def StreamingOrFinal (s : World (Pipeline F) (Move F)) : Prop :=
  Fed false Streaming s ∨ Fed true StreamEnded s

theorem StreamingOrFinal.mapInner {f : Pipeline F → Pipeline F} (hs : StreamingOrFinal s)
    (hsame : SameStream s.inner (f s.inner)) : StreamingOrFinal (s.mapInner f) :=
  hs.imp (fun h => ⟨h.1, h.2.1, h.2.2.congr hsame⟩) fun h => ⟨h.1, h.2.1, h.2.2.congr hsame⟩

theorem ticks_open (hhandler : (streaming F).Handles handler)
    {P : World (Pipeline F) (Move F) → Prop} (hP : Stable P)
    (hopen : ∀ s, P s → Fed false Streaming s) :
    Ticks (fineAlong (Move F) (@InOrder F)) (streaming F).Always handler P StreamingOrFinal :=
  (Stages.ticks_of_open hhandler hP hopen).weaken fun _ => Or.inr

theorem ticks_streamingOrFinal (hhandler : (streaming F).Handles handler) :
    Ticks (fineAlong (Move F) (@InOrder F)) (streaming F).Always handler StreamingOrFinal
      StreamingOrFinal := by
  have hsettled : Settled (fineAlong (Move F) (@InOrder F)) (Fed (F := F) true StreamEnded) :=
    Stages.settled_final (S := streaming F)
  exact ((Stages.ticks_of_open hhandler (stable_streaming false) fun _ h => h).or
    (Stages.ticks_settled hhandler hsettled fun _ h => Or.inr h.2.2.wellFormed)).weaken
      fun _ h => Or.inr (or_self_iff.mp h)

theorem starting_streaming (hhandler : (streaming F).Handles handler) :
    Starting (fineAlong (Move F) (@InOrder F)) (streaming F).Always handler
      (Fed false Streaming) (Fed false Streaming) StreamingOrFinal StreamingOrFinal where
  outside := ticks_streamingOrFinal hhandler
  inside := ticks_streamingOrFinal hhandler
  acquired _ hs _ := hs.mapInner ⟨rfl, rfl, rfl, rfl⟩
  released _ hs := hs.mapInner ⟨rfl, rfl, rfl, rfl⟩
  deadlocked _ hs _ _ := hs
  stopRequested _ hs := hs.mapInner ⟨rfl, rfl, rfl, rfl⟩
  cleared _ hs := hs.mapInner ⟨rfl, rfl, rfl, rfl⟩
  always _ hs := hs.elim (fun h => Or.inr h.2.2.wellFormed) fun h => Or.inr h.2.2.wellFormed
  idle := ticks_open hhandler (stable_streaming false) fun _ h => h
  idle_unstarted := ticks_open hhandler (stable_unstarted (stable_streaming false)) fun _ h => h.1
  locked := ticks_open hhandler (stable_streaming false) fun _ h => h
  locked_unstarted := ticks_open hhandler (stable_unstarted (stable_streaming false)) fun _ h => h.1
  out_of_idle _ hs := Or.inl hs
  in_of_locked _ hs := Or.inl hs
  idle_acquired _ hs _ := ⟨hs.1, hs.2.1, hs.2.2.congr ⟨rfl, rfl, rfl, rfl⟩⟩
  locked_released _ hs := ⟨hs.1, hs.2.1, hs.2.2.congr ⟨rfl, rfl, rfl, rfl⟩⟩
  reset _ hs := ⟨hs.1.1, hs.1.2.1, hs.1.2.2.congr ⟨rfl, rfl, rfl, rfl⟩⟩
  built _ _ _ _ hs _ := ⟨hs.1.1, hs.1.2.1, hs.1.2.2.congr ⟨rfl, rfl, rfl, rfl⟩⟩
  spawned _ hs := by
    refine ⟨hs.1.1, hs.1.2.1, hs.1.2.2.summaryOnly, ?_, hs.1.2.2.numbered⟩
    intro line hline
    cases hline
  readerHandle _ hs := ⟨hs.1.1, hs.1.2.1, hs.1.2.2.congr ⟨rfl, rfl, rfl, rfl⟩⟩
  stderrHandle _ hs := ⟨hs.1.1, hs.1.2.1, hs.1.2.2.congr ⟨rfl, rfl, rfl, rfl⟩⟩
  started s hs := by
    obtain ⟨n, hnumbered, hfits⟩ := hs.1.2.2.numbered
    rw [hs.2] at hfits
    exact ⟨hs.1.1, hs.1.2.1, hs.1.2.2.summaryOnly, hs.1.2.2.lines, n, hnumbered, hfits, by simp⟩
  stderrStarted _ hs := ⟨hs.1, hs.2.1, hs.2.2.congr ⟨rfl, rfl, rfl, rfl⟩⟩

/-- No signal is in order before the session start. -/
theorem ticks_unopened (started : Bool) :
    Ticks (fineAlong (Move F) (@InOrder F)) (streaming F).Always handler
      (Fed false (Unopened started)) fun _ => False := by
  intro s hs
  refine wp_tick (stable_unopened started) hs (Or.inl hs.2.2.records) (fun _ _ h => h) ?_
  intro signum s' _ hs' hfine
  exact absurd hs'.2.2.records ((record_mem_fineAlong.mp hfine).2.1 signum rfl)

/-- `Reporter.start` opens the stream before the reader is started. -/
theorem reporterStart_opens (hs : Fed false (Unopened false) s) :
    wp (fineAlong (Move F) (@InOrder F)) (reporterStart handler)
      (ends (streaming F).Always (fun _ => Unstarted (Fed false Streaming)) fun _ _ => False)
      s := by
  refine wp_bind_ends (ticks_unopened false s hs) ?_ (fun _ _ h => h)
  intro _ s₁ _ hs₁
  have hstart : s₁.inner.reporter.start s₁.inner.clock =
      ({ s₁.inner.reporter with started := true },
        [.sessionStart (s₁.inner.reporter.baseRecord s₁.inner.clock) s₁.inner.reporter.backend
          s₁.inner.reporter.thresholdMs s₁.inner.reporter.targetPid
          s₁.inner.reporter.targetTid]) := by
    unfold Reporter.start
    rw [hs₁.2.2.started, if_neg Bool.false_ne_true]
  refine wp_get_bind ?_
  rw [hstart]
  refine wp_modify_bind fun _ => ?_
  have hunopened : Fed false (Unopened true)
      (s₁.mapInner fun p => { p with reporter := { s₁.inner.reporter with started := true } }) :=
    ⟨hs₁.1, hs₁.2.1, hs₁.2.2.records, hs₁.2.2.eventCount, hs₁.2.2.summaryOnly, rfl,
      hs₁.2.2.reader, hs₁.2.2.lines⟩
  refine wp_bind_ends (ticks_unopened true _ hunopened) ?_ (fun _ _ h => h)
  intro _ s₂ _ hs₂
  exact wp_modify fun _ => ⟨⟨hs₂.1, hs₂.2.1, hs₂.2.2.streaming rfl⟩, hs₂.2.2.reader⟩

theorem start_streaming (hhandler : (streaming F).Handles handler)
    (hs : Fed false (Unopened false) s) :
    wp (fineAlong (Move F) (@InOrder F)) (call .start ((callbacks F .normal).start handler))
      ((streaming F).ends (fun _ => Fed false Streaming)
        fun _ s' => Fed false Streaming s' ∨ Fed true StreamEnded s') s := by
  refine wp_call (A := fun _ => Fed false Streaming) (E := fun _ => StreamingOrFinal)
    (fun _ => ?_) (fun _ _ h _ => h) (fun _ _ h _ => h)
  refine wp_bind_ends (reporterStart_opens hs) ?_ (fun _ _ h => h.elim)
  intro _ s₁ _ hs₁
  exact (starting_streaming hhandler).afterReporter_spec hs₁

theorem checkHealth_streaming (hhandler : (streaming F).Handles handler)
    (hs : Fed false Streaming s) :
    wp (fineAlong (Move F) (@InOrder F)) (call .checkHealth (checkHealth handler))
      ((streaming F).ends (fun _ => Fed false Streaming)
        fun _ s' => Fed false Streaming s' ∨ Fed true StreamEnded s') s :=
  wp_call (fun _ => checkHealth_spec
    (Stages.ticks_of_open hhandler (stable_streaming false) fun _ h => h) hs)
    (fun _ _ h _ => h) (fun _ _ h _ => h)

theorem stop_streaming (hhandler : (streaming F).Handles handler) (hs : Fed true Streaming s) :
    wp (fineAlong (Move F) (@InOrder F)) (call .stop ((callbacks F .normal).stop handler))
      ((streaming F).ends (fun _ => Fed true Streaming) fun _ => Fed true Streaming) s :=
  wp_call (fun _ => (locking_streaming hhandler).stop_spec (fun _ _ h => ⟨h, h, h⟩) .normal hs)
    (fun _ _ h _ => h) (fun _ _ h _ => h)

/-- The reader has ended, and nothing has been summed up yet. -/
def Done (p : Pipeline F) : Prop :=
  Streaming p ∧ p.reader.isDone = true

theorem stable_done : Stable (Fed (F := F) true Done) := by
  refine stable_fed true fun p move hmove h => ⟨act_streaming h.1 hmove, ?_⟩
  rw [(act_isDone h.2 move).1]
  exact h.2

theorem stable_closed (summary : Record F) : Stable (Fed true (Closed summary)) :=
  stable_fed true fun _ _ hmove h => act_closed h hmove

/-- A condition that is kept by the moves, once the flag is set. -/
theorem ticks_fed (hhandler : (streaming F).Handles handler) {P : Pipeline F → Prop}
    (hP : Stable (Fed true P)) (hended : ∀ p, P p → StreamEnded p) :
    Ticks (fineAlong (Move F) (@InOrder F)) (streaming F).Always handler (Fed true P)
      (Fed true P) :=
  Stages.ticks_settled hhandler ⟨hP, fun _ _ h _ => h, fun _ h => h.1⟩
    (fun _ h => Or.inr (hended _ h.2.2).wellFormed)

/-- The summary is written behind the records of the reader that has ended. -/
theorem reporterSummary_ends (reason : String) (hhandler : (streaming F).Handles handler)
    (hs : Fed true Done s) :
    wp (fineAlong (Move F) (@InOrder F)) (reporterSummary reason handler)
      (ends (streaming F).Always (fun _ => Fed true Summarised) fun _ => Fed true StreamEnded)
      s := by
  have hdone := (ticks_fed hhandler stable_done fun _ h => Or.inl h.1).weaken
    fun _ h => h.mono fun _ h => (Or.inl h.1 : StreamEnded _)
  refine wp_bind_ends (hdone s hs) ?_ (fun _ _ h => h)
  intro _ s₁ _ hs₁
  refine wp_get_bind (wp_bind_ends (hdone s₁ hs₁) ?_ (fun _ _ h => h))
  intro _ s₂ _ hs₂
  refine wp_get_bind (wp_bind_ends (hdone s₂ hs₂) ?_ (fun _ _ h => h))
  intro _ s₃ _ hs₃
  obtain ⟨hflag, houtput, hstreaming, hreader⟩ := hs₃
  obtain ⟨reporter, summary, hsummary, hstated, hcount, honly⟩ :=
    exists_summary s₃.inner.reporter s₃.inner.clock
      (PyRuntime.sub s₁.inner.clock.monotonic s₁.inner.startTime)
      s₂.inner.detector.lossCounts reason
  refine wp_get_bind ?_
  rw [hsummary]
  refine wp_modify_bind fun _ => ?_
  have hclosed : Fed true (Closed summary)
      (s₃.mapInner fun p => { p with reporter := reporter }) := by
    refine ⟨hflag, houtput, ⟨honly.trans hstreaming.summaryOnly, hstreaming.lines, ?_⟩, hreader, ?_⟩
    · change ∃ n, Numbered n s₃.inner.records ∧ ReaderFits n reporter.eventCount s₃.inner.reader
      rw [hcount]
      exact hstreaming.numbered
    · change summary.summaryEventCount = some reporter.eventCount
      rw [hcount]
      exact hstated
  have hticks := (ticks_fed hhandler (stable_closed summary) fun _ h => Or.inl h.streaming).weaken
    fun _ h => h.mono fun _ h => (Or.inl h.streaming : StreamEnded _)
  refine wp_bind_ends (hticks _ hclosed) ?_ (fun _ _ h => h)
  intro _ s₄ _ hs₄
  exact wp_modify fun _ => ⟨hs₄.1, hs₄.2.1, hs₄.2.2.summarised⟩

theorem onExit_streaming (reason : String) (hhandler : (streaming F).Handles handler)
    (hs : Fed true Streaming s) :
    wp (fineAlong (Move F) (@InOrder F))
      (call (.onExit reason) ((callbacks F .normal).onExit reason handler))
      ((streaming F).ends (fun _ => Fed true StreamEnded) fun _ => Fed true StreamEnded) s := by
  refine wp_call (A := fun _ => Fed true StreamEnded) (E := fun _ => Fed true StreamEnded)
    (fun hfine => ?_) (fun _ _ h _ => h) (fun _ _ h _ => h)
  have hreader : s.inner.reader.isDone = true :=
    (record_mem_fineAlong.mp hfine).2.2 reason rfl
  refine wp_bind_ends (reporterSummary_ends reason hhandler ⟨hs.1, hs.2.1, hs.2.2, hreader⟩) ?_
    (fun _ _ h => h)
  intro _ s₁ _ hs₁
  have hsummarised : Stable (Fed (F := F) true Summarised) :=
    stable_fed true fun _ move _ h => act_summarised h move
  refine wp_weaken ((ticks_fed hhandler hsummarised fun _ => Or.inr).unknown_keeps hs₁) ?_ ?_
  · exact fun _ _ h => h.mono fun _ => Or.inr
  · exact fun _ _ h => h.mono fun _ => Or.inr

theorem reaping_streamEnded : (streaming F).Reaping (Fed true StreamEnded) where
  stable := stable_streamEnded
  polled _ h := h
  signal _ _ h _ := h
  always _ h := Or.inr h.2.2.wellFormed

theorem callbacks_streaming : Respects (streaming F) (callbacks F .normal) where
  start _ hhandler _ hs := start_streaming hhandler hs
  checkHealth _ hhandler _ hs := checkHealth_streaming hhandler hs
  stop _ _ hhandler _ hs := stop_streaming hhandler hs
  onExit reason _ hhandler _ hs := onExit_streaming reason hhandler hs
  stopChild _ hhandler _ hs :=
    reaping_streamEnded.stopChild_spec hhandler (fun _ => hs) (fun _ h _ => h) (fun _ h _ => h)

/-! ## Runs with a well-formed stream -/

/-- Every run of the normal path writes a well-formed stream, once it has written
anything and in any case when it has ended. -/
theorem runLoop_wellFormedStream (s : World (Pipeline F) (Move F))
    (hflag : s.cleanedUp = false) (hreader : s.inner.reader = .notStarted)
    (hstdout : s.inner.sidecar.stdout = []) (hrecords : s.inner.records = [])
    (hcount : s.inner.reporter.eventCount = 0) (hstarted : s.inner.reporter.started = false)
    (hsummaryOnly : s.inner.reporter.summaryOnly = false) (houtput : OutputReportable s)
    (horder : Along InOrder ((runLoop (callbacks F .normal)).run s).2.history)
    (hwritten : ((runLoop (callbacks F .normal)).run s).1.ended = true ∨
      ((runLoop (callbacks F .normal)).run s).2.inner.records ≠ []) :
    WellFormedStream ((runLoop (callbacks F .normal)).run s).2.inner.records := by
  have hunopened : Fed false (Unopened false) s := by
    refine ⟨hflag, houtput, hrecords, hcount, hsummaryOnly, hstarted, hreader, ?_⟩
    intro line hline
    rw [hstdout] at hline
    cases hline
  have hspec := callbacks_streaming.runLoop_spec hunopened horder
  revert hwritten hspec
  rcases (runLoop (callbacks F .normal)).run s with ⟨outcome, s'⟩
  intro hwritten hspec
  cases outcome with
  | ok returncode => exact hspec.1.2.2.wellFormed
  | raised e => exact hspec.2.2.wellFormed
  | paused =>
      rcases hspec with hempty | hwellFormed
      · exact hwritten.elim (fun h => absurd h Bool.false_ne_true) fun h => absurd hempty h
      · exact hwellFormed

end

/-- Fractions hold every length. -/
theorem lineReportable_exact (line : String) : LineReportable ℚ line :=
  fun _ _ _ => ⟨_, rfl⟩

theorem outputReportable_exact (s : World (Pipeline ℚ) (Move ℚ)) : OutputReportable s := by
  intro entry _ move _
  cases move with
  | output line =>
      cases line with
      | none => exact trivial
      | some line => exact lineReportable_exact line
  | _ => exact trivial

theorem along_inOrder {F : Type} {history : List (Event (Pipeline F))}
    (h : history.all (fun event =>
      (!isSignal event.mark || !event.inner.records.isEmpty) &&
        (!isExitBegan event.mark || event.inner.reader.isDone)) = true) :
    Along InOrder history := by
  intro before event after heq
  have hevent := List.all_eq_true.mp h event (by rw [heq]; simp)
  rw [Bool.and_eq_true] at hevent
  constructor
  · intro signum hmark
    simpa [hmark, isSignal] using hevent.1
  · intro reason hmark
    simpa [hmark, isExitBegan] using hevent.2

/-- A target that runs until an event has been reported; the sidecar exits while
`stop` waits for it. -/
def reportedOnce : World (Pipeline ℚ) (Move ℚ) where
  inner := commandPipeline
  child := some {}
  schedule := List.replicate 14 {} ++
    { env := [.inner (.output (some sampleReadyLine)), .inner .readerRuns, .inner .readerRuns,
        .inner .readerRuns] } ::
    (List.replicate 4 {} ++
      { env := .inner (.output (some sampleEventLine)) ::
          (List.replicate 5 (.inner .readerRuns) ++ [.childExits 0]) } ::
      (List.replicate 12 {} ++
        { env := .inner .sidecarExits :: List.replicate 3 (.inner .readerRuns) } ::
        List.replicate 30 {}))

theorem runLoop_wellFormedStream_reportedOnce :
    WellFormedStream ((runLoop (callbacks ℚ .normal)).run reportedOnce).2.inner.records := by
  refine runLoop_wellFormedStream reportedOnce rfl rfl rfl rfl rfl rfl rfl
    (outputReportable_exact reportedOnce) (along_inOrder ?_) (Or.inl ?_)
  · decide +kernel
  · decide +kernel

theorem WellFormedStream.head {F : Type} {records : List (Record F)}
    (h : WellFormedStream records) : records.head?.map Record.isSessionStart = some true := by
  obtain ⟨n, ⟨start, events, rfl, hstart, -⟩ | ⟨streamed, summary, rfl,
    ⟨start, events, rfl, hstart, -⟩, -⟩⟩ := h
  · simp [hstart]
  · simp [hstart]

/-- A signal before the session start: the summary is the first record. -/
theorem exists_not_wellFormedStream :
    ∃ s : World (Pipeline ℚ) (Move ℚ), s.cleanedUp = false ∧
      s.inner.reader.isStarted = false ∧ s.inner.sidecar.stdout = [] ∧
      s.inner.reporter.summaryOnly = false ∧ s.history = [] ∧
      ((runLoop (callbacks ℚ .normal)).run s).1.ended = true ∧
      ¬ WellFormedStream ((runLoop (callbacks ℚ .normal)).run s).2.inner.records := by
  refine ⟨{ interruptedAt .normal 2 with
    schedule := (interruptedAt .normal 2).schedule ++ List.replicate 20 {} }, rfl, rfl, rfl, rfl,
    rfl, ?_, ?_⟩
  · decide
  · intro hwellFormed
    have hhead := hwellFormed.head
    revert hhead
    decide

end Blocksnoop.Cli
