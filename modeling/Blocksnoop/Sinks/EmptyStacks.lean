import Blocksnoop.Profiler.Samples
import Blocksnoop.Reporter.FanOut
import Blocksnoop.Sinks.Console

/-!
# Stacks without frames

The sampler pushes a sample whatever frames it has.  The correlator leaves out those that
have none before it asks for their keys, so that every stack of an event has a frame, and
neither the key nor the signature looks for one in an empty list.
-/

namespace Blocksnoop

open Blocksnoop.Support

namespace Correlator

/-- The loop of `on_event` over any function for the keys. -/
def collectWith (key : PythonStackTrace → Except PyException (String × String))
    (seen : Dict (String × String) PythonStackTrace) :
    List PythonStackTrace → Except PyException (Dict (String × String) PythonStackTrace)
  | [] => .ok seen
  | stack :: rest =>
      if stack.frames = [] then collectWith key seen rest
      else do
        let key' ← key stack
        if (seen.get key').isSome then collectWith key seen rest
        else collectWith key (seen.set key' stack) rest

/-- The function agrees with `_leaf_key` on the stacks that have frames. -/
def KeyOnFrames (key : PythonStackTrace → Except PyException (String × String)) : Prop :=
  ∀ stack, stack.frames ≠ [] → key stack = leafKey stack

/-- The loop asks for the keys of stacks that have frames only. -/
theorem collectWith_eq {key : PythonStackTrace → Except PyException (String × String)}
    (h : KeyOnFrames key) (seen : Dict (String × String) PythonStackTrace)
    (allStacks : List PythonStackTrace) :
    collectWith key seen allStacks = collect seen allStacks := by
  induction allStacks generalizing seen with
  | nil => rfl
  | cons stack rest ih =>
      by_cases hframes : stack.frames = []
      · rw [collectWith, collect, if_pos hframes, if_pos hframes, ih]
      · rw [collectWith, collect, if_neg hframes, if_neg hframes, h stack hframes]
        simp only [ih]

end Correlator

variable {F : Type}

/-! ## The pipeline -/

/-- The sampler and the reporter, whose sinks are consoles. -/
structure Pipeline (F : Type) where
  austin : LoopspyAustin
  reporting : Reporting F (ConsoleSink F)

/-- What a pipeline is given, with the readings of the clocks. -/
inductive Arrival (F : Type) where
  | sample (now : ℤ) (sample : AustinSample)
  | event (now : ℤ) (clock : ClockReading F) (event : BlockingEvent)

/-- The event has no stack without frames; those of the detectors have no stacks. -/
def Arrival.HasFrames : Arrival F → Prop
  | .sample _ _ => True
  | .event _ _ blocked => ∀ stack ∈ blocked.pythonStacks, stack.frames ≠ []

/-- Nothing is raised but for the length of an event, which no float holds: the correlator
wants it in nanoseconds, the reporter in milliseconds. -/
def Arrival.EndsWith [PyRuntime F] (arrival : Arrival F) (outcome : Except PyException Bool) :
    Prop :=
  outcome = .ok false ∨
    ∃ now clock blocked e, arrival = .event now clock blocked ∧ outcome = .error e ∧
      (Reporter.roundedDuration (F := F) blocked = .error e ∨
        floatOverflow ≤ (blocked.endNs - blocked.startNs).natAbs ∧ e = .other "OverflowError")

/-- The settings, and what the program calls outside. -/
structure PipelineHost (F : Type) where
  reporterHost : ReporterHost
  intBase16 : String → Option ℤ
  format : ℕ → ℕ → F → String
  correlationPaddingNs : ℤ

namespace Pipeline

variable [PyRuntime F] (host : PipelineHost F)

/-- `on_event`, whose callback is `report`: the pipeline afterwards, or the exception of the
correlator or of the reporter, and whether a sink has raised. -/
def onEvent (s : Pipeline F) (now : ℤ) (clock : ClockReading F) (event : BlockingEvent) :
    Pipeline F × Except PyException Bool :=
  match Correlator.onEvent s.austin.ringBuffer host.correlationPaddingNs now event with
  | .error e => (s, .error e)
  | .ok enriched =>
      let reported :=
        s.reporting.report (ConsoleSink.call host.format) host.reporterHost clock enriched
      ({ s with reporting := reported.1 },
        (s.reporting.reporter.countEvent.reportCounted host.reporterHost clock enriched).2.map
          fun _ => reported.2)

def step (s : Pipeline F) : Arrival F → Pipeline F × Except PyException Bool
  | .sample now sample =>
      ({ s with austin := s.austin.onSample host.intBase16 now sample }, .ok false)
  | .event now clock event => s.onEvent host now clock event

/-- The pipeline after some arrivals, and how each of them has ended. -/
def run : List (Arrival F) → Pipeline F → Pipeline F × List (Except PyException Bool)
  | [], s => (s, [])
  | arrival :: arrivals, s =>
      let (next, outcome) := s.step host arrival
      let (last, outcomes) := run arrivals next
      (last, outcome :: outcomes)

/-- An event finds no empty list where it looks for a frame: the correlator asks for keys of
stacks with frames only, it attaches such stacks only, and the signature has a first frame. -/
structure IndexSafe (s : Pipeline F) (now : ℤ) (event : BlockingEvent) : Prop where
  keys : ∀ key, Correlator.KeyOnFrames key →
    let allStacks :=
      Correlator.window s.austin.ringBuffer host.correlationPaddingNs now event
    Correlator.collectWith key [] allStacks = Correlator.collect [] allStacks
  frames : ∀ enriched,
    Correlator.onEvent s.austin.ringBuffer host.correlationPaddingNs now event = .ok enriched →
      (∀ stack ∈ enriched.pythonStacks, stack.frames ≠ []) ∧
      ∀ first ∈ ((renderStacks host.reporterHost enriched.pythonStacks).getD []).head?,
        selectedFrames first ≠ []

variable {host} {s : Pipeline F} {now : ℤ} {clock : ClockReading F} {event : BlockingEvent}

omit [PyRuntime F] in
theorem indexSafe (h : ∀ stack ∈ event.pythonStacks, stack.frames ≠ []) :
    s.IndexSafe host now event where
  keys _ hkey := Correlator.collectWith_eq hkey [] _
  frames enriched henriched := by
    have hframes := frames_ne_nil_of_onEvent h henriched
    refine ⟨hframes, ?_⟩
    generalize enriched.pythonStacks = attached at hframes
    intro first hfirst
    cases attached with
    | nil => cases hfirst
    | cons stack rest =>
        rw [renderStacks_cons] at hfirst
        obtain rfl := Option.some.inj hfirst
        rw [selectedFrames_map_record]
        have hselected := Correlator.selected_ne_nil (hframes stack List.mem_cons_self)
        exact fun hnil => hselected (List.map_eq_nil_iff.mp hnil)

/-! ## One arrival -/

/-- A console can print the record of an event. -/
theorem call_eventRecord (format : ℕ → ℕ → F → String) (r : Reporter F)
    (reporterHost : ReporterHost) (durationMs : F) (sink : ConsoleSink F) :
    (ConsoleSink.call format (.emit (r.eventRecord reporterHost clock event durationMs))
      sink).2 = false := by
  unfold ConsoleSink.call ConsoleSink.emit Reporter.eventRecord
  dsimp only
  split
  · rfl
  · rfl

theorem fanOut_eventRecord (format : ℕ → ℕ → F → String) (r : Reporter F)
    (reporterHost : ReporterHost) (durationMs : F) (sinks : List (ConsoleSink F)) :
    (fanOut (ConsoleSink.call format) (.emit (r.eventRecord reporterHost clock event durationMs))
      sinks).2 = false := by
  rw [fanOut_raised, List.any_eq_false]
  intro sink _
  rw [call_eventRecord]
  exact Bool.false_ne_true

/-- The reporter raises only for the length of an event whose stacks have frames. -/
theorem reportCounted_cases (r : Reporter F) (reporterHost : ReporterHost)
    (clock : ClockReading F) (h : ∀ stack ∈ event.pythonStacks, stack.frames ≠ []) :
    (∃ e, Reporter.roundedDuration (F := F) event = .error e ∧
        r.reportCounted reporterHost clock event = (r, .error e)) ∨
      ∃ durationMs reporter, r.reportCounted reporterHost clock event =
        (reporter, .ok (if r.summaryOnly then []
          else [r.eventRecord reporterHost clock event durationMs])) := by
  cases hduration : Reporter.roundedDuration (F := F) event with
  | error e =>
      refine Or.inl ⟨e, rfl, ?_⟩
      unfold Reporter.reportCounted
      rw [hduration]
  | ok durationMs =>
      obtain ⟨signature, hsignature⟩ := exists_signatureForStacks_eq_ok reporterHost
        fun stack hstack => h stack (List.mem_of_mem_head? hstack)
      exact Or.inr ⟨_, _, r.reportCounted_eq_ok reporterHost clock hduration hsignature⟩

theorem endsWith_onEvent (h : ∀ stack ∈ event.pythonStacks, stack.frames ≠ []) :
    (Arrival.event now clock event).EndsWith (s.onEvent host now clock event).2 := by
  unfold onEvent
  cases henriched :
      Correlator.onEvent s.austin.ringBuffer host.correlationPaddingNs now event with
  | error e =>
      obtain ⟨hlength, rfl⟩ := Correlator.length_of_onEvent_eq_error henriched
      exact Or.inr ⟨now, clock, event, _, rfl, rfl, Or.inr ⟨hlength, rfl⟩⟩
  | ok enriched =>
      have hframes := frames_ne_nil_of_onEvent h henriched
      obtain rfl := Correlator.eq_of_onEvent_eq_ok henriched
      dsimp only
      rcases reportCounted_cases s.reporting.reporter.countEvent host.reporterHost clock
          hframes with ⟨e, hduration, hreport⟩ | ⟨durationMs, reporter, hreport⟩
      · rw [hreport]
        exact Or.inr ⟨now, clock, event, e, rfl, rfl, Or.inl hduration⟩
      · apply Or.inl
        unfold Reporting.report
        rw [hreport]
        by_cases honly : s.reporting.reporter.countEvent.summaryOnly = true
        · rw [if_pos honly]
          rfl
        · rw [if_neg honly]
          exact congrArg Except.ok
            (fanOut_eventRecord host.format _ host.reporterHost durationMs _)

theorem endsWith_step {arrival : Arrival F} (h : arrival.HasFrames) :
    arrival.EndsWith (s.step host arrival).2 := by
  cases arrival with
  | sample now sample => exact Or.inl rfl
  | event now clock blocked => exact endsWith_onEvent h

/-! ## Runs -/

theorem endsWith_run {arrivals : List (Arrival F)} (h : ∀ arrival ∈ arrivals, arrival.HasFrames) :
    List.Forall₂ Arrival.EndsWith arrivals (s.run host arrivals).2 := by
  induction arrivals generalizing s with
  | nil => exact List.Forall₂.nil
  | cons arrival arrivals ih =>
      exact List.Forall₂.cons (endsWith_step (h arrival List.mem_cons_self))
        (ih fun arrival hmem => h arrival (List.mem_cons_of_mem _ hmem))

/-- Samples and events may arrive in any order, and the samples may have any frames.  No
event raises but for its length, and each event finds a frame wherever it looks for one. -/
theorem run_indexSafe (host : PipelineHost F) (s : Pipeline F) (arrivals : List (Arrival F))
    (h : ∀ arrival ∈ arrivals, arrival.HasFrames) :
    List.Forall₂ Arrival.EndsWith arrivals (s.run host arrivals).2 ∧
      ∀ before now clock event after, arrivals = before ++ .event now clock event :: after →
        (s.run host before).1.IndexSafe host now event := by
  refine ⟨endsWith_run h, ?_⟩
  intro before now clock event after harrivals
  apply indexSafe
  exact h (.event now clock event) (harrivals ▸ List.mem_append_cons_self)

/-- A stack without frames between one of the event loop and one of the application. -/
def mixedArrivals : List (Arrival ℚ) :=
  [.sample 100 ⟨some "1", some [⟨"run", "asyncio/runners.py", 5⟩]⟩,
    .sample 200 ⟨some "1", some []⟩,
    .sample 300 ⟨some "1", some [⟨"<module>", "app.py", 1⟩, ⟨"handle", "app.py", 7⟩]⟩,
    .event 400 ⟨1, ""⟩ ⟨0, 4, 1, 1, []⟩]

def mixedHost : PipelineHost ℚ where
  reporterHost := ⟨fun _ => "", fun _ _ => ""⟩
  intBase16 text := if text = "1" then some 1 else none
  format _ _ _ := ""
  correlationPaddingNs := 1000

def mixedPipeline : Pipeline ℚ where
  austin := { ringBuffer := StackRingBuffer.new 8, tid := 1 }
  reporting :=
    { reporter := Reporter.new 0 "" none none none none 500 false
      sinks := [{ color := false, errorThresholdMs := 500 }] }

theorem run_indexSafe_mixed :
    List.Forall₂ Arrival.EndsWith mixedArrivals (mixedPipeline.run mixedHost mixedArrivals).2 ∧
      (mixedPipeline.run mixedHost (mixedArrivals.take 3)).1.IndexSafe mixedHost 400
        ⟨0, 4, 1, 1, []⟩ := by
  have hframes : ∀ arrival ∈ mixedArrivals, arrival.HasFrames := by
    simp [mixedArrivals, Arrival.HasFrames]
  obtain ⟨hends, hsafe⟩ := run_indexSafe mixedHost mixedPipeline mixedArrivals hframes
  exact ⟨hends, hsafe _ 400 ⟨1, ""⟩ _ [] rfl⟩

/-- An event that brings a stack without frames of its own, and finds no sample. -/
theorem exists_not_indexSafe :
    ∃ (host : PipelineHost ℚ) (s : Pipeline ℚ) (event : BlockingEvent),
      (s.run host [.event 400 ⟨1, ""⟩ event]).2 = [.error (.other "IndexError")] := by
  refine ⟨mixedHost, mixedPipeline, { startNs := 0, endNs := 4, pid := 1, tid := 1
                                      pythonStacks := [⟨1, "", []⟩] }, ?_⟩
  have hlength : (4 - 0 : ℤ).natAbs < floatOverflow :=
    lt_trans (by decide) two_pow_64_lt_floatOverflow
  rw [run, step, onEvent, Correlator.onEvent_eq_ok (Or.inr hlength)]
  rfl

end Pipeline

end Blocksnoop
