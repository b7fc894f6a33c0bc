import Blocksnoop.Reporter.Reports
import Blocksnoop.Sinks

/-!
# What the sinks receive

The records of a session do not depend on its sinks.  Each of them is handed to
the sinks in turn, and a sink that raises keeps it from the ones behind it; after
a summary that raises no sink is closed.
-/

namespace Blocksnoop

open Blocksnoop.Support

variable {F : Type} [PyRuntime F]

/-! ## The records of a session -/

/-- The record that a report has for its sinks. -/
def emitted (built : Except PyException (List (Record F))) : List (Record F) :=
  match built with
  | .ok (record :: _) => [record]
  | _ => []

namespace Reporter

/-- The reporter after the events, and their records. -/
def reportAll (host : ReporterHost) :
    List (ClockReading F × BlockingEvent) → Reporter F → Reporter F × List (Record F)
  | [], r => (r, [])
  | (clock, event) :: reports, r =>
      let (reporter, built) := r.countEvent.reportCounted host clock event
      let (last, records) := reportAll host reports reporter
      (last, emitted built ++ records)

/-- The summary record at the end of a session. -/
def summaryRecord (ending : SessionEnd F) (r : Reporter F) : Record F :=
  (r.summary ending.clock ending.durationS ending.lossCounts ending.terminationReason).2

/-- The calls that each sink is to receive. -/
def sinkCalls (host : ReporterHost) (reports : List (ClockReading F × BlockingEvent))
    (ending : SessionEnd F) (r : Reporter F) : List (SinkCall F) :=
  (r.reportAll host reports).2.map .emit ++
    [.emitSummary ((r.reportAll host reports).1.summaryRecord ending), .close]

theorem reportAll_cons (host : ReporterHost) (clock : ClockReading F) (event : BlockingEvent)
    (reports : List (ClockReading F × BlockingEvent)) (r : Reporter F) :
    r.reportAll host ((clock, event) :: reports) =
      (((r.countEvent.reportCounted host clock event).1.reportAll host reports).1,
        emitted (r.countEvent.reportCounted host clock event).2 ++
          ((r.countEvent.reportCounted host clock event).1.reportAll host reports).2) :=
  rfl

end Reporter

/-! ## The records at the sinks -/

namespace Reporting

variable {σ : Type} {call : SinkCall F → σ → σ × Bool}

theorem report_fst (host : ReporterHost) (clock : ClockReading F) (event : BlockingEvent)
    (s : Reporting F σ) :
    (s.report call host clock event).1 =
      { reporter := (s.reporter.countEvent.reportCounted host clock event).1
        sinks := fanOuts call
          ((emitted (s.reporter.countEvent.reportCounted host clock event).2).map .emit)
          s.sinks } := by
  unfold report
  rcases s.reporter.countEvent.reportCounted host clock event with ⟨reporter, built⟩
  rcases built with e | records
  · rfl
  · cases records <;> rfl

theorem reportAll_eq (host : ReporterHost) (reports : List (ClockReading F × BlockingEvent))
    (s : Reporting F σ) :
    s.reportAll call host reports =
      { reporter := (s.reporter.reportAll host reports).1
        sinks := fanOuts call ((s.reporter.reportAll host reports).2.map .emit) s.sinks } := by
  induction reports generalizing s with
  | nil => rfl
  | cons report reports ih =>
      obtain ⟨clock, event⟩ := report
      have hstep : s.reportAll call host ((clock, event) :: reports) =
          (s.report call host clock event).1.reportAll call host reports := rfl
      rw [hstep, ih, report_fst, Reporter.reportAll_cons, List.map_append, fanOuts_append]

theorem onExit_sinks (ending : SessionEnd F) (s : Reporting F σ) :
    (s.onExit call ending).sinks =
      if s.sinks.any (fun sink => (call (.emitSummary (s.reporter.summaryRecord ending)) sink).2)
      then fanOuts call [.emitSummary (s.reporter.summaryRecord ending)] s.sinks
      else fanOuts call [.emitSummary (s.reporter.summaryRecord ending), .close] s.sinks := by
  rw [← fanOut_raised]
  have hraised : (s.summary call ending).2 =
      (fanOut call (.emitSummary (s.reporter.summaryRecord ending)) s.sinks).2 := rfl
  cases h : (fanOut call (.emitSummary (s.reporter.summaryRecord ending)) s.sinks).2 with
  | true =>
      rw [h] at hraised
      unfold onExit
      dsimp only
      rw [if_pos hraised, if_pos rfl]
      rfl
  | false =>
      rw [h] at hraised
      unfold onExit
      dsimp only
      rw [hraised]
      rfl

theorem session_sinks (host : ReporterHost) (reports : List (ClockReading F × BlockingEvent))
    (ending : SessionEnd F) (s : Reporting F σ) :
    let records := (s.reporter.reportAll host reports).2
    let summary := (s.reporter.reportAll host reports).1.summaryRecord ending
    (s.session call host reports ending).sinks =
      if (fanOuts call (records.map .emit) s.sinks).any
          (fun sink => (call (.emitSummary summary) sink).2)
      then fanOuts call (records.map .emit ++ [.emitSummary summary]) s.sinks
      else fanOuts call (s.reporter.sinkCalls host reports ending) s.sinks := by
  intro records summary
  unfold session
  rw [onExit_sinks, reportAll_eq, fanOuts_append, Reporter.sinkCalls, fanOuts_append]

end Reporting

/-! ## Sinks that raise -/

variable {σ : Type}

/-- A sink that has not been called. -/
def unheard (sink : σ) : Heard (SinkCall F) σ :=
  { receiver := sink }

/-- The session when its sinks note their calls. -/
def heardSession (call : SinkCall F → σ → σ × Bool) (host : ReporterHost)
    (reports : List (ClockReading F × BlockingEvent)) (ending : SessionEnd F)
    (r : Reporter F) (sinks : List σ) : List (Heard (SinkCall F) σ) :=
  ({ reporter := r, sinks := sinks.map unheard } : Reporting F (Heard (SinkCall F) σ)).session
    (Heard.call call) host reports ending |>.sinks

/-- No sink raises where others depend on it: one that is not the last never, and
the last one not at the summary. -/
def NoSinkInTheWay (call : SinkCall F → σ → σ × Bool) (host : ReporterHost)
    (reports : List (ClockReading F × BlockingEvent)) (ending : SessionEnd F)
    (r : Reporter F) (sinks : List σ) : Prop :=
  (∀ sink ∈ sinks.dropLast, NeverRaises call (r.sinkCalls host reports ending) sink) ∧
    ∀ sink ∈ sinks,
      (call (.emitSummary ((r.reportAll host reports).1.summaryRecord ending))
        (receiveAll call ((r.reportAll host reports).2.map .emit) sink)).2 = false

section

variable {call : SinkCall F → σ → σ × Bool} {host : ReporterHost}
  {reports : List (ClockReading F × BlockingEvent)} {ending : SessionEnd F}
  {r : Reporter F} {sinks : List σ}

omit [PyRuntime F] in
theorem neverRaises_unheard {calls : List (SinkCall F)} :
    (∀ sink ∈ (sinks.map (unheard (F := F))).dropLast,
      NeverRaises (Heard.call call) calls sink) ↔
      ∀ sink ∈ sinks.dropLast, NeverRaises call calls sink := by
  rw [← List.map_dropLast]
  constructor
  · intro h sink hsink
    exact Heard.neverRaises_call.mp (h (unheard sink) (List.mem_map_of_mem hsink))
  · intro h sink hsink
    obtain ⟨receiver, hreceiver, rfl⟩ := List.mem_map.mp hsink
    exact Heard.neverRaises_call.mpr (h receiver hreceiver)

omit [PyRuntime F] in
/-- The sinks before the summary, when no call of an event is missed. -/
theorem fanOuts_unheard {calls : List (SinkCall F)}
    (h : ∀ sink ∈ sinks.dropLast, NeverRaises call calls sink) :
    fanOuts (Heard.call call) calls (sinks.map unheard) =
      sinks.map fun sink => { receiver := receiveAll call calls sink, heard := calls } := by
  rw [fanOuts_eq_map (neverRaises_unheard.mpr h), List.map_map]
  refine List.map_congr_left ?_
  intro sink _
  rw [Function.comp_apply, Heard.receiveAll_call, unheard, List.nil_append]

theorem neverRaises_emits
    (h : ∀ sink ∈ sinks.dropLast, NeverRaises call (r.sinkCalls host reports ending) sink) :
    ∀ sink ∈ sinks.dropLast,
      NeverRaises call ((r.reportAll host reports).2.map .emit) sink := by
  intro sink hsink
  exact (neverRaises_append.mp (h sink hsink)).1

theorem heard_eq_of_noSinkInTheWay (h : NoSinkInTheWay call host reports ending r sinks) :
    heardSession call host reports ending r sinks =
      sinks.map fun sink =>
        { receiver := receiveAll call (r.sinkCalls host reports ending) sink
          heard := r.sinkCalls host reports ending } := by
  have hreturns : (fanOuts (Heard.call call) ((r.reportAll host reports).2.map .emit)
      (sinks.map unheard)).any (fun sink =>
        (Heard.call call
          (.emitSummary ((r.reportAll host reports).1.summaryRecord ending)) sink).2) =
        false := by
    rw [fanOuts_unheard (neverRaises_emits h.1), List.any_eq_false]
    intro heard hheard
    obtain ⟨sink, hsink, rfl⟩ := List.mem_map.mp hheard
    have hsummary := h.2 sink hsink
    simp [Heard.call, hsummary]
  unfold heardSession
  rw [Reporting.session_sinks]
  dsimp only
  rw [hreturns, if_neg (by simp), fanOuts_unheard h.1]

omit [PyRuntime F] in
theorem lastCount_unheard :
    Heard.lastCount (sinks.map (unheard (F := F))) = 0 := by
  rw [Heard.lastCount, List.getLast?_map]
  cases sinks.getLast? <;> rfl

theorem heardSession_ne_nil (hne : sinks ≠ []) :
    heardSession call host reports ending r sinks ≠ [] := by
  have hlength : (heardSession call host reports ending r sinks).length = sinks.length := by
    unfold heardSession
    rw [Reporting.session_sinks]
    dsimp only
    split
    · rw [length_fanOuts, List.length_map]
    · rw [length_fanOuts, List.length_map]
  intro hnil
  rw [hnil] at hlength
  exact hne (List.eq_nil_of_length_eq_zero hlength.symm)

/-- The last sink gets all its calls only if no sink raises at the summary: the
calls that close the sinks would be missing. -/
theorem noSinkInTheWay_of_heard
    (h : ∀ sink ∈ heardSession call host reports ending r sinks,
      sink.heard = r.sinkCalls host reports ending) :
    NoSinkInTheWay call host reports ending r sinks := by
  by_cases hne : sinks = []
  · subst hne
    exact ⟨by simp, by simp⟩
  have hcount : Heard.lastCount (heardSession call host reports ending r sinks) =
      (r.sinkCalls host reports ending).length :=
    Heard.lastCount_eq (heardSession_ne_nil hne) fun sink hsink => by rw [h sink hsink]
  have hlength : (r.sinkCalls host reports ending).length =
      ((r.reportAll host reports).2.map (SinkCall.emit (F := F))).length + 2 := by
    simp [Reporter.sinkCalls]
  unfold heardSession at hcount
  rw [Reporting.session_sinks] at hcount
  dsimp only at hcount
  split at hcount
  · have hbound := Heard.lastCount_fanOuts_le call
      ((r.reportAll host reports).2.map .emit ++
        [.emitSummary ((r.reportAll host reports).1.summaryRecord ending)])
      (sinks.map unheard)
    rw [hcount, lastCount_unheard, List.length_append, hlength] at hbound
    simp only [List.length_cons, List.length_nil] at hbound
    omega
  next hreturns =>
    have hnever : ∀ sink ∈ sinks.dropLast,
        NeverRaises call (r.sinkCalls host reports ending) sink := by
      refine neverRaises_unheard.mp (Heard.neverRaises_of_lastCount ?_)
      rw [hcount, lastCount_unheard, Nat.zero_add]
    refine ⟨hnever, ?_⟩
    intro sink hsink
    rw [fanOuts_unheard (neverRaises_emits hnever), Bool.not_eq_true, List.any_eq_false]
      at hreturns
    have hsummary := hreturns _ (List.mem_map_of_mem hsink)
    exact Bool.eq_false_iff.mpr hsummary

end

/-- Every sink receives every record, then the summary, then the close, exactly if
no sink that is not the last raises at a record or at the close, and none at the
summary. -/
theorem heardSession_complete_iff (call : SinkCall F → σ → σ × Bool) (host : ReporterHost)
    (reports : List (ClockReading F × BlockingEvent)) (ending : SessionEnd F)
    (r : Reporter F) (sinks : List σ) :
    (∀ sink ∈ heardSession call host reports ending r sinks,
      sink.heard = r.sinkCalls host reports ending) ↔
      NoSinkInTheWay call host reports ending r sinks := by
  constructor
  · exact noSinkInTheWay_of_heard
  · intro h sink hsink
    rw [heard_eq_of_noSinkInTheWay h] at hsink
    obtain ⟨receiver, -, rfl⟩ := List.mem_map.mp hsink
    rfl

/-! ## A broken pipe -/

/-- A sink that raises at every call, if it is marked as broken. -/
def brokenCall (_ : SinkCall ℚ) (broken : Bool) : Bool × Bool :=
  (broken, broken)

def sampleReport : ClockReading ℚ × BlockingEvent :=
  ({ monotonic := 1, observedAt := "" }, { startNs := 0, endNs := 150000000, pid := 7, tid := 7 })

def sampleEnd : SessionEnd ℚ where
  clock := { monotonic := 2, observedAt := "" }
  durationS := 2
  lossCounts := []
  terminationReason := "clean"

def sampleReporter : Reporter ℚ :=
  Reporter.new 0 "" (some "core") (some 100) (some 7) (some 7) 500 false

/-- The stream before the log file is broken: the file misses calls. -/
theorem exists_heardSession_incomplete :
    ∃ (call : SinkCall ℚ → Bool → Bool × Bool) (host : ReporterHost)
      (reports : List (ClockReading ℚ × BlockingEvent)) (ending : SessionEnd ℚ)
      (r : Reporter ℚ) (sinks : List Bool),
      ¬ ∀ sink ∈ heardSession call host reports ending r sinks,
        sink.heard = r.sinkCalls host reports ending := by
  refine ⟨brokenCall, ⟨fun _ => "", fun _ _ => ""⟩, [sampleReport], sampleEnd, sampleReporter,
    [true, false], ?_⟩
  intro h
  have hreturns := (noSinkInTheWay_of_heard h).2 true (by simp)
  have hbroken (calls : List (SinkCall ℚ)) : receiveAll brokenCall calls true = true := by
    induction calls with
    | nil => rfl
    | cons c calls ih => exact ih
  rw [hbroken] at hreturns
  cases hreturns

end Blocksnoop
