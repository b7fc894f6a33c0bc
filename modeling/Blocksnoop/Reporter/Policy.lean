import Blocksnoop.Reporter.FanOut
import Blocksnoop.Sinks.ReadBack

/-!
# The policy and the log

`policy_failed` of `reporter.py` decides whether a run exits with 3.  Each sink that writes JSON
leaves enough on its lines to decide this again: the summary alone is enough, and so are the
event lines with their levels and the losses of the summary.
-/

namespace Blocksnoop

open Blocksnoop.Support

variable {F : Type}

/-- The choices of `--fail-on`. -/
inductive FailOn where
  | none
  | event
  | error
  deriving Repr, DecidableEq

/-- `policy_failed`, which looks at the counters as integers. -/
def Reporter.policyFailed (r : Reporter F) (failOn : FailOn) (failOnLoss : Bool) : Bool :=
  if failOn = .event ∧ r.eventCount ≠ 0 then true
  else if failOn = .error ∧ r.errorEventCount ≠ 0 then true
  else failOnLoss && r.lostEventCount ≠ 0

/-! ## What a reader of the log decides -/

/-- The decision from a summary record. -/
def summaryPolicy (failOn : FailOn) (failOnLoss : Bool) : Record F → Option Bool
  | .sessionSummary _ _ _ _ eventCount errorEventCount _ _ lostEventCount _ _ =>
      some ((failOn = .event && eventCount ≠ 0) || (failOn = .error && errorEventCount ≠ 0) ||
        (failOnLoss && lostEventCount ≠ 0))
  | _ => none

/-- The losses that a line states. -/
def Record.lostEventCount : Record F → ℤ
  | .sessionSummary _ _ _ _ _ _ _ _ lostEventCount _ _ => lostEventCount
  | _ => 0

/-- The decision from the lines, which does not look at the counters of the summary. -/
def linesPolicy (failOn : FailOn) (failOnLoss : Bool) (lines : List (StreamLine F)) : Bool :=
  (failOn = .event && lines.any fun line => line.record.eventNumber.isSome) ||
    (failOn = .error && lines.any fun line => line.level = some "error") ||
    (failOnLoss && lines.any fun line => line.record.lostEventCount ≠ 0)

section

variable [PyRuntime F]

/-! ## The session -/

namespace Reporter

/-- The calls that a sink is to receive from the start of a session to its end. -/
def sessionCalls (host : ReporterHost) (clock : ClockReading F)
    (reports : List (ClockReading F × BlockingEvent)) (ending : SessionEnd F) (r : Reporter F) :
    List (SinkCall F) :=
  (r.start clock).2.map .emitSessionStart ++ (r.start clock).1.sinkCalls host reports ending

/-- The reporter when the session is over. -/
def afterSession (host : ReporterHost) (clock : ClockReading F)
    (reports : List (ClockReading F × BlockingEvent)) (ending : SessionEnd F) (r : Reporter F) :
    Reporter F :=
  (((r.start clock).1.reportAll host reports).1.summary ending.clock ending.durationS
    ending.lossCounts ending.terminationReason).1

variable {host : ReporterHost} {clock : ClockReading F} {event : BlockingEvent}
  {reports : List (ClockReading F × BlockingEvent)} {ending : SessionEnd F} {r : Reporter F}

/-- What the counter of errors looks at. -/
def IsError (errorThresholdMs : F) (record : Record F) : Bool :=
  record.durationMs.any fun durationMs => PyRuntime.le errorThresholdMs durationMs

theorem emitted_reportCounted {record : Record F}
    (h : record ∈ emitted (r.reportCounted host clock event).2) :
    ∃ durationMs, record = r.eventRecord host clock event durationMs := by
  unfold reportCounted at h
  split at h
  · simp [emitted] at h
  next durationMs hduration =>
    dsimp only at h
    split at h
    · simp [emitted] at h
    next signature hsignature =>
      refine ⟨durationMs, ?_⟩
      cases hsummaryOnly : (r.addDuration durationMs).summaryOnly with
      | true => simp [emitted, hsummaryOnly] at h
      | false => simpa [emitted, hsummaryOnly] using h

/-- Every record of a report is one of an event. -/
theorem exists_of_mem_reportAll {record : Record F} (h : record ∈ (r.reportAll host reports).2) :
    ∃ (s : Reporter F) (clock : ClockReading F) (event : BlockingEvent) (durationMs : F),
      record = s.eventRecord host clock event durationMs := by
  induction reports generalizing r with
  | nil => cases h
  | cons report reports ih =>
      obtain ⟨clock, event⟩ := report
      rw [reportAll_cons] at h
      rcases List.mem_append.mp h with hfirst | hrest
      · obtain ⟨durationMs, hrecord⟩ := emitted_reportCounted hfirst
        exact ⟨_, _, _, _, hrecord⟩
      · exact ih hrest

/-- A report of a reporter that writes its events counts as its record does. -/
theorem exists_reportCounted (host : ReporterHost) (clock : ClockReading F)
    (hsummaryOnly : r.summaryOnly = false) (h : Reportable F event) :
    ∃ (next : Reporter F) (record : Record F),
      r.countEvent.reportCounted host clock event = (next, .ok [record]) ∧
      next.eventCount = r.eventCount + 1 ∧
      next.errorEventCount =
        r.errorEventCount + [record].countP (IsError r.errorThresholdMs) ∧
      next.errorThresholdMs = r.errorThresholdMs ∧ next.summaryOnly = false := by
  obtain ⟨⟨exact, hexact⟩, hframes⟩ := h
  have hrounded : roundedDuration event = .ok (PyRuntime.round exact 3) := by
    unfold roundedDuration
    rw [hexact]
    rfl
  obtain ⟨signature, hsignature⟩ := exists_signatureForStacks_eq_ok host
    fun stack hstack => hframes stack (List.mem_of_mem_head? hstack)
  have hreport := r.countEvent.reportCounted_eq_ok host clock hrounded hsignature
  have hoff : r.countEvent.summaryOnly = false := hsummaryOnly
  rw [hoff, if_neg (by simp)] at hreport
  refine ⟨_, _, hreport, rfl, ?_, rfl, hsummaryOnly⟩
  have herror : IsError r.errorThresholdMs (r.countEvent.eventRecord host clock event
      (PyRuntime.round exact 3)) = PyRuntime.le r.errorThresholdMs (PyRuntime.round exact 3) :=
    rfl
  rw [List.countP_singleton, herror]
  change (if PyRuntime.le r.errorThresholdMs (PyRuntime.round exact 3) = true then
    r.errorEventCount + 1 else r.errorEventCount) = _
  split <;> rfl

/-- The counters of a reporter that writes its events are those of its records. -/
theorem reportAll_counts (hsummaryOnly : r.summaryOnly = false)
    (h : ∀ report ∈ reports, Reportable F report.2) :
    (r.reportAll host reports).1.eventCount =
        r.eventCount + (r.reportAll host reports).2.length ∧
      (r.reportAll host reports).1.errorEventCount =
        r.errorEventCount +
          (r.reportAll host reports).2.countP (IsError r.errorThresholdMs) := by
  induction reports generalizing r with
  | nil => exact ⟨rfl, rfl⟩
  | cons report reports ih =>
      obtain ⟨clock, event⟩ := report
      obtain ⟨hevent, hreports⟩ := List.forall_mem_cons.mp h
      obtain ⟨next, record, hreport, hcount, herrors, hthreshold, hoff⟩ :=
        exists_reportCounted host clock hsummaryOnly hevent
      obtain ⟨hcounts, hlast⟩ := ih hoff hreports
      have hemitted : emitted (.ok [record] : Except PyException (List (Record F))) = [record] :=
        rfl
      rw [reportAll_cons, hreport]
      dsimp only
      rw [hemitted, List.length_append, List.countP_append, hcounts, hlast, hcount, herrors,
        hthreshold, List.length_singleton]
      omega

omit [PyRuntime F] in
theorem start_counts (r : Reporter F) (clock : ClockReading F) :
    (r.start clock).1.eventCount = r.eventCount ∧
      (r.start clock).1.errorEventCount = r.errorEventCount ∧
      (r.start clock).1.errorThresholdMs = r.errorThresholdMs ∧
      (r.start clock).1.summaryOnly = r.summaryOnly := by
  unfold start
  split
  · exact ⟨rfl, rfl, rfl, rfl⟩
  · exact ⟨rfl, rfl, rfl, rfl⟩

omit [PyRuntime F] in
theorem isSessionStart_of_mem_start {record : Record F} (h : record ∈ (r.start clock).2) :
    record.isSessionStart = true := by
  unfold start at h
  split at h
  · cases h
  · obtain rfl := List.mem_singleton.mp h
    rfl

theorem fits_sessionCalls : ∀ c ∈ r.sessionCalls host clock reports ending, c.Fits := by
  intro c hc
  unfold sessionCalls sinkCalls at hc
  simp only [List.mem_append, List.mem_map, List.mem_cons, List.not_mem_nil, or_false] at hc
  rcases hc with ⟨record, hrecord, rfl⟩ | ⟨record, hrecord, rfl⟩ | rfl | rfl
  · cases record with
    | sessionStart => trivial
    | _ => cases isSessionStart_of_mem_start hrecord
  · obtain ⟨s, clock, event, durationMs, rfl⟩ := exists_of_mem_reportAll hrecord
    trivial
  · trivial
  · trivial

/-! ## The lines of a session -/

/-- The lines of the session, with the levels that a sink gives them. -/
def sessionLines (host : ReporterHost) (clock : ClockReading F)
    (reports : List (ClockReading F × BlockingEvent)) (ending : SessionEnd F)
    (errorThresholdMs : F) (r : Reporter F) : List (StreamLine F) :=
  (r.sessionCalls host clock reports ending).flatMap (JsonStreamSink.lineOf errorThresholdMs)

theorem sessionLines_eq (errorThresholdMs : F) :
    r.sessionLines host clock reports ending errorThresholdMs =
      (r.start clock).2.map (fun record => { record := record }) ++
        ((r.start clock).1.reportAll host reports).2.map (fun record =>
          { record := record
            level := record.durationMs.map fun durationMs =>
              levelForDuration durationMs errorThresholdMs }) ++
        [{ record := ((r.start clock).1.reportAll host reports).1.summaryRecord ending }] := by
  unfold sessionLines sessionCalls sinkCalls
  simp [List.flatMap_append, List.flatMap_map, JsonStreamSink.lineOf, List.append_assoc,
    ← List.map_eq_flatMap]

theorem policyFailed_afterSession (failOn : FailOn) (failOnLoss : Bool) :
    (r.afterSession host clock reports ending).policyFailed failOn failOnLoss =
      ((failOn = .event &&
          ((r.start clock).1.reportAll host reports).1.eventCount ≠ 0) ||
        (failOn = .error &&
          ((r.start clock).1.reportAll host reports).1.errorEventCount ≠ 0) ||
        (failOnLoss && ending.lossCounts.values.sum ≠ 0)) := by
  unfold policyFailed afterSession summary
  dsimp only
  cases failOn <;> simp

theorem summaryPolicy_sessionLines (errorThresholdMs : F) (failOn : FailOn) (failOnLoss : Bool) :
    ((r.sessionLines host clock reports ending errorThresholdMs).getLast?.bind
        fun line => summaryPolicy failOn failOnLoss line.record) =
      some ((r.afterSession host clock reports ending).policyFailed failOn failOnLoss) := by
  rw [sessionLines_eq, List.getLast?_concat, policyFailed_afterSession]
  rfl

theorem any_error_iff (errorThresholdMs : F) (records : List (Record F)) :
    (records.any fun record =>
        (record.durationMs.map fun durationMs => levelForDuration durationMs errorThresholdMs) =
          some "error") =
      decide (records.countP (IsError errorThresholdMs) ≠ 0) := by
  have hlevel (record : Record F) :
      ((record.durationMs.map fun durationMs => levelForDuration durationMs errorThresholdMs) =
        some "error") ↔ IsError errorThresholdMs record = true := by
    unfold IsError
    cases record.durationMs with
    | none => simp
    | some durationMs =>
        cases herror : PyRuntime.le errorThresholdMs durationMs <;>
          simp [levelForDuration, herror]
  rw [Bool.eq_iff_iff, List.any_eq_true, decide_eq_true_iff, ← Nat.pos_iff_ne_zero,
    List.countP_pos_iff]
  simp only [decide_eq_true_eq, hlevel]

theorem linesPolicy_sessionLines (failOn : FailOn) (failOnLoss : Bool)
    (hcounts : r.eventCount = 0 ∧ r.errorEventCount = 0) (hsummaryOnly : r.summaryOnly = false)
    (h : ∀ report ∈ reports, Reportable F report.2) :
    linesPolicy failOn failOnLoss (r.sessionLines host clock reports ending r.errorThresholdMs) =
      (r.afterSession host clock reports ending).policyFailed failOn failOnLoss := by
  obtain ⟨hevents, herrors, hthreshold, hsame⟩ := start_counts r clock
  obtain ⟨hcount, herror⟩ : ((r.start clock).1.reportAll host reports).1.eventCount = _ ∧ _ :=
    reportAll_counts (hsame.trans hsummaryOnly) h
  rw [hevents, hcounts.1, Nat.zero_add] at hcount
  rw [herrors, hcounts.2, Nat.zero_add, hthreshold] at herror
  have hstart (read : StreamLine F → Bool)
      (hread : ∀ record, record.isSessionStart = true → read { record := record } = false) :
      ((r.start clock).2.map fun record => ({ record := record } : StreamLine F)).any read =
        false := by
    rw [List.any_map, List.any_eq_false]
    intro record hrecord
    rw [Function.comp_apply, hread record (isSessionStart_of_mem_start hrecord)]
    simp
  have hrecords : ∀ record ∈ ((r.start clock).1.reportAll host reports).2,
      record.eventNumber.isSome = true ∧ record.lostEventCount = 0 := by
    intro record hrecord
    obtain ⟨s, clock, event, durationMs, rfl⟩ := exists_of_mem_reportAll hrecord
    exact ⟨rfl, rfl⟩
  rw [policyFailed_afterSession, hcount, herror, ← any_error_iff, sessionLines_eq, linesPolicy]
  simp only [List.any_append, List.any_cons, List.any_nil, Bool.or_false]
  rw [hstart _ (by rintro ⟨⟩ <;> simp [Record.isSessionStart, Record.eventNumber]),
    hstart _ (by simp),
    hstart _ (by rintro ⟨⟩ <;> simp [Record.isSessionStart, Record.lostEventCount])]
  generalize ((r.start clock).1.reportAll host reports).2 = records at hrecords
  have hnumber : (records.any fun record => record.eventNumber.isSome) =
      decide (records.length ≠ 0) := by
    cases records with
    | nil => rfl
    | cons record records => simp [(hrecords record List.mem_cons_self).1]
  have hlost : (records.any fun record => decide (record.lostEventCount ≠ 0)) = false := by
    rw [List.any_eq_false]
    intro record hrecord
    simp [(hrecords record hrecord).2]
  have hsummary (s : Reporter F) : (s.summaryRecord ending).eventNumber = none ∧
      (s.summaryRecord ending).lostEventCount = ending.lossCounts.values.sum :=
    ⟨rfl, rfl⟩
  simp only [List.any_map, Function.comp_def]
  rw [hnumber, hlost, (hsummary _).1, (hsummary _).2]
  simp only [Option.isSome_none, Bool.or_false, Bool.false_or, reduceCtorEq, decide_false]

end Reporter

/-! ## The lines that are read back -/

omit [PyRuntime F] in
/-- A change of a line that keeps what the policy looks at. -/
theorem linesPolicy_map {change : StreamLine F → StreamLine F}
    (hnumber : ∀ line, (change line).record.eventNumber = line.record.eventNumber)
    (hlevel : ∀ line, (change line).level = some "error" ↔ line.level = some "error")
    (hlost : ∀ line, (change line).record.lostEventCount = line.record.lostEventCount)
    (failOn : FailOn) (failOnLoss : Bool) (lines : List (StreamLine F)) :
    linesPolicy failOn failOnLoss (lines.map change) = linesPolicy failOn failOnLoss lines := by
  unfold linesPolicy
  simp only [List.any_map, Function.comp_def, hnumber, hlevel, hlost]

/-- What the lines of a sink say, with the losses of a summary in order. -/
def StreamLine.sorted (line : StreamLine F) : StreamLine F :=
  { line with record := line.record.sorted }

omit [PyRuntime F] in
theorem linesPolicy_sorted (failOn : FailOn) (failOnLoss : Bool) (lines : List (StreamLine F)) :
    linesPolicy failOn failOnLoss (lines.map StreamLine.sorted) =
      linesPolicy failOn failOnLoss lines := by
  apply linesPolicy_map
  · rintro ⟨⟨⟩, level⟩ <;> rfl
  · exact fun line => Iff.rfl
  · rintro ⟨⟨⟩, level⟩ <;> rfl

omit [PyRuntime F] in
theorem linesPolicy_informed (failOn : FailOn) (failOnLoss : Bool)
    (lines : List (StreamLine F)) :
    linesPolicy failOn failOnLoss (lines.map StreamLine.informed) =
      linesPolicy failOn failOnLoss lines := by
  apply linesPolicy_map
  · exact fun line => rfl
  · rintro ⟨record, level⟩
    cases level <;> simp [StreamLine.informed]
  · exact fun line => rfl

omit [PyRuntime F] in
theorem summaryPolicy_sorted (failOn : FailOn) (failOnLoss : Bool) (record : Record F) :
    summaryPolicy failOn failOnLoss record.sorted = summaryPolicy failOn failOnLoss record := by
  cases record <;> rfl

omit [PyRuntime F] in
theorem summaryPolicy_getLast? {change : StreamLine F → StreamLine F}
    (hchange : ∀ failOn failOnLoss line, summaryPolicy failOn failOnLoss (change line).record =
      summaryPolicy failOn failOnLoss line.record)
    (failOn : FailOn) (failOnLoss : Bool) (lines : List (StreamLine F)) :
    ((lines.map change).getLast?.bind fun line => summaryPolicy failOn failOnLoss line.record) =
      lines.getLast?.bind fun line => summaryPolicy failOn failOnLoss line.record := by
  rw [List.getLast?_map]
  cases lines.getLast? with
  | none => rfl
  | some line => exact hchange failOn failOnLoss line

/-- A record with no integer that is too long to be written. -/
def SinkCall.writable (jsonFloat : F → String) : SinkCall F → Bool
  | .emitSessionStart record => record.writable jsonFloat
  | .emit record => record.writable jsonFloat
  | .emitSummary summary => summary.writable jsonFloat
  | .close => true

theorem toldAs_of_writable {jsonFloat : F → String} {errorThresholdMs : F}
    {calls : List (SinkCall F)} (h : ∀ c ∈ calls, c.writable jsonFloat = true) :
    toldAs jsonFloat (calls.flatMap (JsonStreamSink.lineOf errorThresholdMs)) =
      (calls.flatMap (JsonStreamSink.lineOf errorThresholdMs)).map StreamLine.sorted := by
  induction calls with
  | nil => rfl
  | cons c calls ih =>
      obtain ⟨hc, hcalls⟩ := List.forall_mem_cons.mp h
      rw [List.flatMap_cons, toldAs_append, ih hcalls, List.map_append]
      refine congrArg (· ++ _) ?_
      cases c with
      | close => rfl
      | _ =>
          rw [JsonStreamSink.lineOf, toldAs_singleton]
          exact if_pos hc

/-- The decisions from the lines of a sink that change nothing the policy looks at. -/
theorem decides_of_readLines {floatOf : String → F} {isBreak : Char → Bool} {text : String}
    {host : ReporterHost} {clock : ClockReading F} {reports : List (ClockReading F × BlockingEvent)}
    {ending : SessionEnd F} {r : Reporter F} {change : StreamLine F → StreamLine F}
    (hcounts : r.eventCount = 0 ∧ r.errorEventCount = 0)
    (hread : readLines floatOf isBreak text =
      some ((r.sessionLines host clock reports ending r.errorThresholdMs).map change))
    (hsummary : ∀ failOn failOnLoss line, summaryPolicy failOn failOnLoss (change line).record =
      summaryPolicy failOn failOnLoss line.record)
    (hlines : ∀ failOn failOnLoss (lines : List (StreamLine F)),
      linesPolicy failOn failOnLoss (lines.map change) = linesPolicy failOn failOnLoss lines) :
    ∃ lines, readLines floatOf isBreak text = some lines ∧
      ∀ failOn failOnLoss,
        (lines.getLast?.bind fun line => summaryPolicy failOn failOnLoss line.record) =
          some ((r.afterSession host clock reports ending).policyFailed failOn failOnLoss) ∧
        (r.summaryOnly = false → (∀ report ∈ reports, Reportable F report.2) →
          linesPolicy failOn failOnLoss lines =
            (r.afterSession host clock reports ending).policyFailed failOn failOnLoss) := by
  refine ⟨_, hread, fun failOn failOnLoss => ⟨?_, fun hsummaryOnly hreports => ?_⟩⟩
  · rw [summaryPolicy_getLast? hsummary]
    exact Reporter.summaryPolicy_sessionLines r.errorThresholdMs failOn failOnLoss
  · rw [hlines]
    exact Reporter.linesPolicy_sessionLines failOn failOnLoss hcounts hsummaryOnly hreports

/-- The exit with 3 can be decided again from either log.  Whatever has happened in a session
whose records can all be written, the last line of the stream and of the log file decides as
`policy_failed` does; and where every event could be reported and is written, so do the lines
without the counters of the summary. -/
theorem policyFailed_readBack (jsonFloat format : F → String) (floatOf : String → F)
    (now service env : String) {isBreak : Char → Bool} (host : ReporterHost)
    (clock : ClockReading F) (reports : List (ClockReading F × BlockingEvent))
    (ending : SessionEnd F) (startTime : F) (sessionId : String) (backend : Option String)
    (thresholdMs : Option F) (targetPid targetTid : Option ℤ) (errorThresholdMs : F)
    (summaryOnly : Bool) (hbreak : isBreak '\n' = true)
    (hprint : ∀ c, Json.IsPrintable c → isBreak c = false) :
    let r := Reporter.new startTime sessionId backend thresholdMs targetPid targetTid
      errorThresholdMs summaryOnly
    let calls := r.sessionCalls host clock reports ending
    (∀ c ∈ calls, ∀ x ∈ c.floats, WritesFloat jsonFloat floatOf x) →
    (∀ c ∈ calls, c.writable jsonFloat = true) →
    let stream := receiveAll (JsonStreamText.call jsonFloat) calls
      { errorThresholdMs := errorThresholdMs }
    let log := receiveAll (JsonFileSink.call jsonFloat format now) calls
      { service := service, env := env, errorThresholdMs := errorThresholdMs }
    ∀ text ∈ [stream.stream, log.file], ∃ lines, readLines floatOf isBreak text = some lines ∧
      ∀ failOn failOnLoss,
        (lines.getLast?.bind fun line => summaryPolicy failOn failOnLoss line.record) =
          some ((r.afterSession host clock reports ending).policyFailed failOn failOnLoss) ∧
        (summaryOnly = false → (∀ report ∈ reports, Reportable F report.2) →
          linesPolicy failOn failOnLoss lines =
            (r.afterSession host clock reports ending).policyFailed failOn failOnLoss) := by
  intro r calls hfloats hwritable stream log text htext
  have hstream : readLines floatOf isBreak stream.stream = some _ :=
    (JsonStreamText.receiveAll_tells { errorThresholdMs := errorThresholdMs } tells_empty
      hfloats).readLines hbreak hprint
  have hlog : readLines floatOf isBreak log.file = some _ :=
    (JsonFileSink.receiveAll_tells format now
      { service := service, env := env, errorThresholdMs := errorThresholdMs } tells_empty
      Reporter.fits_sessionCalls hfloats).readLines hbreak hprint
  rw [List.nil_append, toldAs_of_writable hwritable] at hstream hlog
  simp only [List.mem_cons, List.not_mem_nil, or_false] at htext
  rcases htext with rfl | rfl
  · exact decides_of_readLines ⟨rfl, rfl⟩ hstream
      (fun failOn failOnLoss line => summaryPolicy_sorted failOn failOnLoss line.record)
      linesPolicy_sorted
  · rw [List.map_map] at hlog
    refine decides_of_readLines ⟨rfl, rfl⟩ hlog
      (fun failOn failOnLoss line => summaryPolicy_sorted failOn failOnLoss line.record)
      fun failOn failOnLoss lines => ?_
    rw [← List.map_map, linesPolicy_informed, linesPolicy_sorted]

end

/-! ## A session with an error -/

def policyHost : ReporterHost where
  hexdigest identity := identity
  getline _ _ := ""

def policyReporter : Reporter ℚ :=
  Reporter.new 0 "5e8c" (some "core") (some 100) (some 7) none 100 false

def policyReports : List (ClockReading ℚ × BlockingEvent) :=
  [(⟨2, "2025-01-01T00:00:02.000Z"⟩,
    { startNs := 0, endNs := 150000000, pid := 7, tid := 7
      pythonStacks := [⟨7, "MainThread", [⟨"handle", "app.py", 7⟩]⟩] })]

def policyEnd : SessionEnd ℚ where
  clock := ⟨2, "2025-01-01T00:00:02.000Z"⟩
  durationS := 2
  lossCounts := []
  terminationReason := "clean"

def policyCalls : List (SinkCall ℚ) :=
  policyReporter.sessionCalls policyHost ⟨0, "2025-01-01T00:00:00.000Z"⟩ policyReports policyEnd

theorem policyFailed_readBack_sample :
    ∃ lines, readLines sampleFloatOf (· == '\n')
        (receiveAll (JsonStreamText.call sampleJsonFloat) policyCalls
          { errorThresholdMs := 100 }).stream = some lines ∧
      linesPolicy .error false lines = true := by
  have hfloats : (policyCalls.all fun c => c.floats.all fun x => x ∈ [2, 100, 150]) = true := by
    decide +kernel
  have hwritable : policyCalls.all (SinkCall.writable sampleJsonFloat) = true := by
    decide +kernel
  have hprint : ∀ c, Json.IsPrintable c → (c == '\n') = false := by
    intro c hc
    simp only [beq_eq_false_iff_ne]
    rintro rfl
    exact absurd hc (by decide)
  have hfailed : (policyReporter.afterSession policyHost ⟨0, "2025-01-01T00:00:00.000Z"⟩
      policyReports policyEnd).policyFailed .error false = true := by
    decide +kernel
  obtain ⟨lines, hread, hpolicy⟩ := policyFailed_readBack sampleJsonFloat sampleJsonFloat
    sampleFloatOf "" "shop" "prod" policyHost ⟨0, "2025-01-01T00:00:00.000Z"⟩ policyReports
    policyEnd 0 "5e8c" (some "core") (some 100) (some 7) none 100 false (by decide) hprint
    (fun c hc x hx => writesFloat_sample (of_decide_eq_true
      (List.all_eq_true.mp (List.all_eq_true.mp hfloats c hc) x hx)))
    (List.all_eq_true.mp hwritable) _ List.mem_cons_self
  refine ⟨lines, hread, ?_⟩
  rw [(hpolicy .error false).2 rfl ?_]
  · exact hfailed
  · intro report hreport
    obtain rfl := List.mem_singleton.mp hreport
    exact ⟨⟨_, rfl⟩, by simp⟩

end Blocksnoop
