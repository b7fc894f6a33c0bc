import Blocksnoop.Reporter.CallSite

/-!
# Reports of correlated events

`report` raises only for a duration that no float holds: the events that
`on_event` passes on have frames in all their stacks, so that the signature can
be made.  A report emits one record, which carries the number of the event.
-/

namespace Blocksnoop

open Blocksnoop.Support

variable {F : Type}

/-- The number of an event record. -/
def Record.eventNumber : Record F → Option ℕ
  | .blockingEvent _ eventNumber _ _ _ _ _ => some eventNumber
  | _ => none

def Record.isSessionStart : Record F → Bool
  | .sessionStart _ _ _ _ _ => true
  | _ => false

/-- The number of events that a summary states. -/
def Record.summaryEventCount : Record F → Option ℕ
  | .sessionSummary _ _ _ _ eventCount _ _ _ _ _ _ => some eventCount
  | _ => none

/-- The length of the event is a float, and its stacks have frames. -/
def Reportable (F : Type) [PyRuntime F] (event : BlockingEvent) : Prop :=
  (∃ durationMs : F, PyRuntime.divInt (event.endNs - event.startNs) 1000000 = .ok durationMs) ∧
    ∀ stack ∈ event.pythonStacks, stack.frames ≠ []

/-- The correlator attaches stacks with frames only. -/
theorem frames_ne_nil_of_onEvent {ringBuffer : StackRingBuffer} {correlationPaddingNs now : ℤ}
    {event enriched : BlockingEvent} (h : ∀ stack ∈ event.pythonStacks, stack.frames ≠ [])
    (henriched : Correlator.onEvent ringBuffer correlationPaddingNs now event = .ok enriched) :
    ∀ stack ∈ enriched.pythonStacks, stack.frames ≠ [] := by
  obtain rfl := Correlator.eq_of_onEvent_eq_ok henriched
  intro stack hstack
  unfold Correlator.passedOn at hstack
  dsimp only at hstack
  split at hstack
  · exact h stack hstack
  · have husable := Correlator.mem_usable_of_mem_attached hstack
    simpa [Correlator.usable] using (List.mem_filter.mp husable).2

variable [PyRuntime F]

/-- The correlator passes a reportable event on as a reportable event. -/
theorem Reportable.onEvent {ringBuffer : StackRingBuffer} {correlationPaddingNs now : ℤ}
    {event enriched : BlockingEvent} (h : Reportable F event)
    (henriched : Correlator.onEvent ringBuffer correlationPaddingNs now event = .ok enriched) :
    Reportable F enriched := by
  refine ⟨?_, frames_ne_nil_of_onEvent h.2 henriched⟩
  obtain rfl := Correlator.eq_of_onEvent_eq_ok henriched
  exact h.1

theorem exists_signatureForStacks_eq_ok (host : ReporterHost)
    {pythonStacks : List PythonStackTrace}
    (h : ∀ stack ∈ pythonStacks.head?, stack.frames ≠ []) :
    ∃ signature, signatureForStacks host (renderStacks host pythonStacks) = .ok signature := by
  cases pythonStacks with
  | nil => exact ⟨_, rfl⟩
  | cons first rest =>
      have hselected := Correlator.selected_ne_nil (h first rfl)
      rw [renderStacks_cons]
      simp only [signatureForStacks, Option.getD_some, List.map_cons, selectedFrames_map_record]
      cases hfirst : Correlator.selected first with
      | nil => exact absurd hfirst hselected
      | cons root frames => exact ⟨_, rfl⟩

/-- The report of an event with a duration and a signature. -/
theorem Reporter.reportCounted_eq_ok (r : Reporter F) (host : ReporterHost)
    (clock : ClockReading F) {event : BlockingEvent} {durationMs : F} {signature : Signature}
    (hduration : Reporter.roundedDuration event = .ok durationMs)
    (hsignature : signatureForStacks host (renderStacks host event.pythonStacks) =
      .ok signature) :
    r.reportCounted host clock event =
      ((r.addDuration durationMs).addSignature signature durationMs,
        .ok (if r.summaryOnly then [] else [r.eventRecord host clock event durationMs])) := by
  unfold Reporter.reportCounted
  rw [hduration]
  dsimp only
  rw [hsignature]
  rfl

/-- The report of a reportable event does not raise.  Its record carries the
number of events counted so far. -/
theorem Reporter.reportCounted_of_reportable (r : Reporter F) (host : ReporterHost)
    (clock : ClockReading F) {event : BlockingEvent} (h : Reportable F event) :
    ∃ reporter record, r.reportCounted host clock event =
        (reporter, .ok (if r.summaryOnly then [] else [record])) ∧
      record.eventNumber = some r.eventCount ∧ reporter.eventCount = r.eventCount ∧
      reporter.summaryOnly = r.summaryOnly := by
  obtain ⟨⟨durationMs, hduration⟩, hframes⟩ := h
  have hrounded : Reporter.roundedDuration event = .ok (PyRuntime.round durationMs 3) := by
    unfold Reporter.roundedDuration
    rw [hduration]
    rfl
  obtain ⟨signature, hsignature⟩ := exists_signatureForStacks_eq_ok host
    fun stack hstack => hframes stack (List.mem_of_mem_head? hstack)
  have hreport := r.reportCounted_eq_ok host clock hrounded hsignature
  exact ⟨_, _, hreport, rfl, rfl, rfl⟩

end Blocksnoop
