import Blocksnoop.Correlator.Coverage
import Blocksnoop.Sinks.EmptyStacks

/-!
# Attribution over a session

Samples and events arrive in any order.  What the reporter is given for an event depends
only on the samples of the target thread that came before it: those of its search window,
as far as the ring buffer still has them.  A stack in a report is one of these, in the
order in which they were taken, with one for each call site.
-/

namespace Blocksnoop

open Blocksnoop.Support

variable {F : Type}

/-! ## The history of a session -/

/-- The entry that a sample of the target thread leaves in the buffer. -/
def Arrival.accepted (intBase16 : String → Option ℤ) (tid : ℤ) : Arrival F → Option Entry
  | .sample now taken =>
      match taken.frames with
      | none => none
      | some frames =>
          if taken.thread.bind intBase16 = some tid then
            some (now,
              { threadId := tid
                threadName := ""
                frames := frames.map fun f =>
                  { function := f.function, file := f.filename, line := f.line } })
          else none
  | .event _ _ _ => none

/-- The samples of the target thread, as they were taken. -/
def history (intBase16 : String → Option ℤ) (tid : ℤ) (arrivals : List (Arrival F)) :
    List Entry :=
  arrivals.filterMap (Arrival.accepted intBase16 tid)

def Arrival.isEvent : Arrival F → Bool
  | .sample _ _ => false
  | .event _ _ _ => true

/-- The stacks among which the report of an event may choose. -/
def candidates (size : ℕ) (correlationPaddingNs now : ℤ) (event : BlockingEvent)
    (taken : List Entry) : List PythonStackTrace :=
  ((StackRingBuffer.retained size taken).filter fun e =>
    decide (Correlator.searchStart correlationPaddingNs now event ≤ e.1 ∧ e.1 ≤ now)).map (·.2)

/-- The event with one stack for each call site of the candidates, the first one.  A call
site is left out only if its stack says little and there is one that says more. -/
structure Attributed (sampled : List PythonStackTrace) (event enriched : BlockingEvent) :
    Prop where
  unchanged : { enriched with pythonStacks := event.pythonStacks } = event
  inOrder : enriched.pythonStacks.Sublist sampled
  frames : ∀ stack ∈ enriched.pythonStacks, stack.frames ≠ []
  sites : enriched.pythonStacks.Pairwise fun stack stack' =>
    Correlator.leafKey stack ≠ Correlator.leafKey stack'
  complete : ∀ stack ∈ sampled, stack.frames ≠ [] → ∃ first ∈ sampled,
    Correlator.leafKey first = Correlator.leafKey stack ∧
      (first ∈ enriched.pythonStacks ∨
        Correlator.isInformative first = false ∧
          ∃ other ∈ enriched.pythonStacks, Correlator.isInformative other = true)

namespace Correlator

theorem firstBy_sublist {κ α : Type} [DecidableEq κ] (key : α → κ) (l : List α) :
    (firstBy key l).Sublist l := by
  induction l with
  | nil => exact List.Sublist.refl _
  | cons a rest ih => exact (List.filter_sublist.trans ih).cons_cons a

/-- What `on_event` attaches to an event without stacks. -/
theorem attributed_passedOn (sampled : List PythonStackTrace) {event : BlockingEvent}
    (hbare : event.pythonStacks = []) :
    Attributed sampled event { event with pythonStacks := passedOn sampled event } := by
  by_cases husable : usable sampled = []
  · have hnone : passedOn sampled event = [] := by rw [passedOn, if_pos husable, hbare]
    rw [hnone]
    constructor
    · rfl
    · exact List.nil_sublist _
    · simp
    · exact List.Pairwise.nil
    · intro stack hstack hframes
      have hmem : stack ∈ usable sampled := List.mem_filter.mpr ⟨hstack, decide_eq_true hframes⟩
      rw [husable] at hmem
      cases hmem
  · have hpassed : passedOn sampled event = attached sampled := if_neg husable
    rw [hpassed]
    constructor
    · rfl
    · exact (attached_sublist.trans (firstBy_sublist _ _)).trans List.filter_sublist
    · exact fun stack hstack => frames_ne_nil_of_mem_usable (mem_usable_of_mem_attached hstack)
    · exact attached_pairwise
    · intro stack hstack hframes
      have hmem : stack ∈ usable sampled := List.mem_filter.mpr ⟨hstack, decide_eq_true hframes⟩
      obtain ⟨first, hfirst, hsite⟩ :
          ∃ first ∈ firstBy siteKey (usable sampled), siteKey first = siteKey stack :=
        exists_mem_firstBy hmem
      have hused : first ∈ usable sampled := mem_of_mem_firstBy hfirst
      refine ⟨first, List.mem_of_mem_filter hused, ?_, ?_⟩
      · rw [leafKey_eq_siteKey (frames_ne_nil_of_mem_usable hused), hsite,
          leafKey_eq_siteKey hframes]
      -- the first stack of a call site is dropped only for an informative one
      · by_cases hsome : (firstBy siteKey (usable sampled)).filter isInformative = []
        · exact .inl (by simpa [attached, hsome] using hfirst)
        · have hattached : attached sampled =
              (firstBy siteKey (usable sampled)).filter isInformative := if_neg hsome
          rw [hattached]
          cases hinformative : isInformative first with
          | true => exact .inl (List.mem_filter.mpr ⟨hfirst, hinformative⟩)
          | false =>
              obtain ⟨other, hother⟩ := List.exists_mem_of_ne_nil _ hsome
              exact .inr ⟨rfl, other, hother, (List.mem_filter.mp hother).2⟩

end Correlator

/-! ## The buffer of a session -/

namespace Pipeline

variable [PyRuntime F] {host : PipelineHost F}

/-- What a pipeline remembers of its arrivals. -/
structure Remembers (size : ℕ) (taken : List Entry) (s : Pipeline F) : Prop where
  buffer : s.austin.ringBuffer = (StackRingBuffer.new size).pushAll taken
  counted : s.austin.sampleCount = taken.length

theorem tid_step (s : Pipeline F) (arrival : Arrival F) :
    (s.step host arrival).1.austin.tid = s.austin.tid := by
  cases arrival with
  | sample now sample =>
      simp only [step]
      fun_cases LoopspyAustin.onSample host.intBase16 s.austin now sample <;> rfl
  | event now clock event =>
      simp only [step]
      fun_cases onEvent host s now clock event <;> rfl

theorem Remembers.step {size : ℕ} {taken : List Entry} {s : Pipeline F}
    (h : s.Remembers size taken) (arrival : Arrival F) :
    (s.step host arrival).1.Remembers size
      (taken ++ (arrival.accepted host.intBase16 s.austin.tid).toList) := by
  cases arrival with
  | sample now sample =>
      simp only [Pipeline.step]
      fun_cases LoopspyAustin.onSample host.intBase16 s.austin now sample with
      | case1 hframes => simpa [Arrival.accepted, hframes] using ⟨h.buffer, h.counted⟩
      | case2 frames hframes htid =>
          have haccepted : (Arrival.sample (F := F) now sample).accepted host.intBase16
              s.austin.tid = some (now, s.austin.stackOf frames) := by
            simp [Arrival.accepted, hframes, htid, LoopspyAustin.stackOf]
          rw [haccepted]
          constructor
          · simp [h.buffer, StackRingBuffer.pushAll]
          · simp [h.counted]
      | case3 frames hframes htid =>
          simpa [Arrival.accepted, hframes, htid] using ⟨h.buffer, h.counted⟩
  | event now clock event =>
      simp only [Pipeline.step]
      fun_cases Pipeline.onEvent host s now clock event <;>
        simpa [Arrival.accepted] using ⟨h.buffer, h.counted⟩

/-- The buffer of a session holds its history. -/
theorem Remembers.run {size : ℕ} {taken : List Entry} {s : Pipeline F}
    (h : s.Remembers size taken) (arrivals : List (Arrival F)) :
    (s.run host arrivals).1.Remembers size
      (taken ++ history host.intBase16 s.austin.tid arrivals) := by
  induction arrivals generalizing s taken with
  | nil => simpa [history, Pipeline.run] using h
  | cons arrival arrivals ih =>
      have hstep : (s.step host arrival).1.Remembers size
          (taken ++ (arrival.accepted host.intBase16 s.austin.tid).toList) := h.step arrival
      have hnext := ih hstep
      rw [tid_step, List.append_assoc] at hnext
      have hhistory : history host.intBase16 s.austin.tid (arrival :: arrivals) =
          (arrival.accepted host.intBase16 s.austin.tid).toList ++
            history host.intBase16 s.austin.tid arrivals := by
        cases haccepted : arrival.accepted host.intBase16 s.austin.tid <;>
          simp [history, haccepted]
      rw [hhistory]
      exact hnext

/-- The reports of a session, with the clocks that they were made at. -/
def reportsOf (host : PipelineHost F) :
    List (Arrival F) → Pipeline F → List (ClockReading F × BlockingEvent)
  | [], _ => []
  | .sample now taken :: arrivals, s => reportsOf host arrivals (s.step host (.sample now taken)).1
  | .event now clock event :: arrivals, s =>
      let allStacks := Correlator.window s.austin.ringBuffer host.correlationPaddingNs now event
      (clock, { event with pythonStacks := Correlator.passedOn allStacks event }) ::
        reportsOf host arrivals (s.step host (.event now clock event)).1

/-- The reporter of a session has been given the reports, and nothing else. -/
theorem reporting_run {arrivals : List (Arrival F)} (s : Pipeline F)
    (hfloats : ∀ now clock event, .event now clock event ∈ arrivals →
      (event.endNs - event.startNs).natAbs < floatOverflow) :
    (s.run host arrivals).1.reporting =
      s.reporting.reportAll (ConsoleSink.call host.format) host.reporterHost
        (reportsOf host arrivals s) := by
  induction arrivals generalizing s with
  | nil => rfl
  | cons arrival arrivals ih =>
      have hrun : (s.run host (arrival :: arrivals)).1 =
          ((s.step host arrival).1.run host arrivals).1 := rfl
      rw [hrun, ih _ fun now clock event hmem => hfloats now clock event (.tail _ hmem)]
      cases arrival with
      | sample now taken => rfl
      | event now clock event =>
          have hfloat := hfloats now clock event List.mem_cons_self
          have hstep : (s.step host (.event now clock event)).1.reporting =
              (s.reporting.report (ConsoleSink.call host.format) host.reporterHost clock
                { event with
                  pythonStacks := Correlator.passedOn
                    (Correlator.window s.austin.ringBuffer host.correlationPaddingNs now event)
                    event }).1 := by
            rw [step, onEvent, Correlator.onEvent_eq_ok (Or.inr hfloat)]
          rw [hstep]
          rfl

/-- The report of an event, and how far the session had come. -/
theorem reportsOf_append (before after : List (Arrival F)) (s : Pipeline F) :
    reportsOf host (before ++ after) s =
      reportsOf host before s ++ reportsOf host after (s.run host before).1 := by
  induction before generalizing s with
  | nil => rfl
  | cons arrival before ih =>
      have hrun : (s.run host (arrival :: before)).1 =
          ((s.step host arrival).1.run host before).1 := rfl
      rw [hrun, List.cons_append]
      cases arrival with
      | sample now taken => exact ih _
      | event now clock event => exact congrArg _ (ih _)

theorem length_reportsOf (arrivals : List (Arrival F)) (s : Pipeline F) :
    (reportsOf host arrivals s).length = arrivals.countP Arrival.isEvent := by
  induction arrivals generalizing s with
  | nil => rfl
  | cons arrival arrivals ih =>
      cases arrival with
      | sample now taken => simpa [reportsOf, Arrival.isEvent] using ih _
      | event now clock event => simp [reportsOf, Arrival.isEvent, List.countP_cons, ih]

omit [PyRuntime F] in
/-- The search window of an event, in terms of the history. -/
theorem window_eq_candidates {size : ℕ} (hsize : 1 ≤ size) {taken : List Entry} {s : Pipeline F}
    (h : s.Remembers size taken) (hsorted : taken.Pairwise fun a b => a.1 ≤ b.1)
    (correlationPaddingNs now : ℤ) (event : BlockingEvent) :
    Correlator.window s.austin.ringBuffer correlationPaddingNs now event =
      candidates size correlationPaddingNs now event taken := by
  rw [h.buffer, Correlator.window_pushAll hsize hsorted]
  rfl

/-- Whatever the order in which samples and events arrive, the reporter is given one report
for each event, at the clock of the event; and the stacks of the report are attributed to it
from the samples of the target thread that had been taken, that the buffer still held and
that lie in the search window.  The samples that were taken are all counted.  The length of
each event is one that a double holds. -/
theorem run_attributed (host : PipelineHost F) (size : ℕ) (hsize : 1 ≤ size) (s : Pipeline F)
    (hbuffer : s.austin.ringBuffer = StackRingBuffer.new size) (hcount : s.austin.sampleCount = 0)
    (arrivals : List (Arrival F))
    (hsorted : (history host.intBase16 s.austin.tid arrivals).Pairwise fun a b => a.1 ≤ b.1)
    (hbare : ∀ now clock event, .event now clock event ∈ arrivals → event.pythonStacks = [])
    (hfloats : ∀ now clock event, .event now clock event ∈ arrivals →
      (event.endNs - event.startNs).natAbs < floatOverflow) :
    ∃ reports : List (ClockReading F × BlockingEvent),
      (s.run host arrivals).1.reporting =
          s.reporting.reportAll (ConsoleSink.call host.format) host.reporterHost reports ∧
        reports.length = arrivals.countP Arrival.isEvent ∧
        (s.run host arrivals).1.austin.sampleCount =
          (history host.intBase16 s.austin.tid arrivals).length ∧
        ∀ before now clock event after, arrivals = before ++ .event now clock event :: after →
          ∃ enriched, reports[before.countP Arrival.isEvent]? = some (clock, enriched) ∧
            Attributed (candidates size host.correlationPaddingNs now event
              (history host.intBase16 s.austin.tid before)) event enriched := by
  have hfresh : s.Remembers size [] := ⟨hbuffer, hcount⟩
  refine ⟨reportsOf host arrivals s, reporting_run s hfloats, length_reportsOf arrivals s,
    (hfresh.run arrivals).counted, ?_⟩
  rintro before now clock event after rfl
  have hremembers : (s.run host before).1.Remembers size
      (history host.intBase16 s.austin.tid before) := hfresh.run before
  have htaken : (history host.intBase16 s.austin.tid before).Pairwise fun a b => a.1 ≤ b.1 := by
    rw [history, List.filterMap_append] at hsorted
    exact (List.pairwise_append.mp hsorted).1
  have hwindow := window_eq_candidates hsize hremembers htaken host.correlationPaddingNs now event
  refine ⟨_, ?_, Correlator.attributed_passedOn _ (hbare now clock event (by simp))⟩
  have hbefore : (reportsOf host before s).length = before.countP Arrival.isEvent :=
    length_reportsOf before s
  rw [reportsOf_append, ← hbefore, List.getElem?_append_right (Nat.le_refl _), Nat.sub_self,
    ← hwindow]
  rfl

/-- Samples of two threads and one without frames before the event, one after it. -/
def attributedArrivals : List (Arrival ℚ) :=
  [.sample 50 ⟨some "2", some [⟨"other", "app.py", 3⟩]⟩,
    .sample 100 ⟨some "1", some [⟨"run", "asyncio/runners.py", 5⟩]⟩,
    .sample 300 ⟨some "1", some [⟨"<module>", "app.py", 1⟩, ⟨"handle", "app.py", 7⟩]⟩,
    .event 400 ⟨1, ""⟩ ⟨0, 4, 1, 1, []⟩,
    .sample 500 ⟨some "1", some [⟨"late", "app.py", 9⟩]⟩]

theorem run_attributed_mixed :
    ∃ reports : List (ClockReading ℚ × BlockingEvent),
      (mixedPipeline.run mixedHost attributedArrivals).1.reporting =
          mixedPipeline.reporting.reportAll (ConsoleSink.call mixedHost.format)
            mixedHost.reporterHost reports ∧
        reports.length = 1 ∧
        (mixedPipeline.run mixedHost attributedArrivals).1.austin.sampleCount = 3 := by
  have hevent : ∀ now clock event, .event now clock event ∈ attributedArrivals →
      event = ⟨0, 4, 1, 1, []⟩ := by
    intro now clock event hevent
    simp only [attributedArrivals, List.mem_cons, reduceCtorEq, Arrival.event.injEq,
      List.not_mem_nil, or_false, false_or] at hevent
    exact hevent.2.2
  obtain ⟨reports, hreporting, hlength, hcount, -⟩ :=
    run_attributed mixedHost 8 (by decide) mixedPipeline rfl rfl attributedArrivals (by decide)
      (fun now clock event hmem => by rw [hevent now clock event hmem])
      (fun now clock event hmem => by
        rw [hevent now clock event hmem]
        exact lt_trans (by decide) two_pow_64_lt_floatOverflow)
  exact ⟨reports, hreporting, hlength, hcount⟩

end Pipeline

end Blocksnoop
