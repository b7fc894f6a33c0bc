import Blocksnoop.Correlator.Informative
import Blocksnoop.Profiler.RingBuffer

/-!
# Correlation coverage

The search window reaches back far enough for any delivery latency up to its padding.
A sample that was taken while the loop was blocked is in the window, and its call site
is attached exactly once when it is one of the application.  Only an event that finds no
sample and is longer than any double is not handed on.
-/

namespace Blocksnoop.Correlator

open Blocksnoop.Support

/-- The application frame that a stack is told by. -/
def leafFrame (stack : PythonStackTrace) : Option StackFrame :=
  stack.frames.reverse.find? StackFrame.isApplication

/-- Exactly one of the stacks has the key. -/
def OneWithKey (kept : List PythonStackTrace) (key : String × String) : Prop :=
  ∃ before stack after, kept = before ++ stack :: after ∧ leafKey stack = .ok key ∧
    ∀ other ∈ before ++ after, leafKey other ≠ .ok key

/-- Where the search interval of an event begins that is delivered at `now`. -/
def searchStart (correlationPaddingNs now : ℤ) (event : BlockingEvent) : ℤ :=
  now - (event.endNs - event.startNs) - max (event.endNs - event.startNs) correlationPaddingNs

/-! ## Call sites of the application -/

theorem leafKey_of_leafFrame {stack : PythonStackTrace} {frame : StackFrame}
    (h : leafFrame stack = some frame) : leafKey stack = .ok (frame.function, frame.file) := by
  unfold leafFrame at h
  rw [leafKey, h]

theorem frames_ne_nil_of_leafFrame {stack : PythonStackTrace} {frame : StackFrame}
    (h : leafFrame stack = some frame) : stack.frames ≠ [] := by
  intro hnil
  rw [leafFrame, hnil] at h
  cases h

theorem isApplication_of_leafFrame {stack : PythonStackTrace} {frame : StackFrame}
    (h : leafFrame stack = some frame) : frame.isApplication = true :=
  List.find?_some h

theorem isApplication_congr {f f' : StackFrame} (h : f.file = f'.file) :
    f.isApplication = f'.isApplication := by
  rw [StackFrame.isApplication, StackFrame.isApplication, h]

/-- A stack with the key of an application frame other than `<module>` is informative,
whichever sample the key was taken from. -/
theorem isInformative_of_leafKey {stack : PythonStackTrace} {frame : StackFrame}
    (hkey : leafKey stack = .ok (frame.function, frame.file))
    (happ : frame.isApplication = true) (hfunction : frame.function ≠ "<module>") :
    isInformative stack = true := by
  cases hleaf : leafFrame stack with
  | none =>
      have hnone : ∀ f ∈ stack.frames, ¬ f.isApplication = true := by
        intro f hf
        exact List.find?_eq_none.mp hleaf f (List.mem_reverse.mpr hf)
      unfold leafFrame at hleaf
      rw [leafKey, hleaf] at hkey
      cases hlast : stack.frames.getLast? with
      | none =>
          rw [hlast] at hkey
          cases hkey
      | some last =>
          rw [hlast] at hkey
          have hfile : last.file = frame.file := congrArg Prod.snd (Except.ok.inj hkey)
          refine absurd ?_ (hnone last (List.mem_of_getLast? hlast))
          rw [isApplication_congr hfile]
          exact happ
  | some f =>
      rw [leafKey_of_leafFrame hleaf] at hkey
      have hf : f.function = frame.function := congrArg Prod.fst (Except.ok.inj hkey)
      have hmem : f ∈ stack.frames.filter StackFrame.isApplication :=
        List.mem_filter.mpr ⟨List.mem_reverse.mp (List.mem_of_find?_eq_some hleaf),
          isApplication_of_leafFrame hleaf⟩
      unfold isInformative
      cases happs : stack.frames.filter StackFrame.isApplication with
      | nil =>
          rw [happs] at hmem
          cases hmem
      | cons first rest =>
          cases rest with
          | nil =>
              rw [happs, List.mem_singleton] at hmem
              obtain rfl := hmem
              have hne : f.function ≠ "<module>" := by
                rw [hf]
                exact hfunction
              exact bne_iff_ne.mpr hne
          | cons second rest => rfl

/-! ## What is attached -/

theorem oneWithKey_of_mem {kept : List PythonStackTrace} {stack : PythonStackTrace}
    {key : String × String} (hmem : stack ∈ kept) (hkey : leafKey stack = .ok key)
    (hdistinct : kept.Pairwise fun stack stack' => leafKey stack ≠ leafKey stack') :
    OneWithKey kept key := by
  obtain ⟨before, after, rfl⟩ := List.append_of_mem hmem
  obtain ⟨_, hafter, hbefore⟩ := List.pairwise_append.mp hdistinct
  refine ⟨before, stack, after, rfl, hkey, ?_⟩
  intro other hother
  rw [← hkey]
  rcases List.mem_append.mp hother with hother | hother
  · exact hbefore other hother stack List.mem_cons_self
  · exact ((List.pairwise_cons.mp hafter).1 other hother).symm

/-- A sample of the window that is told by an application frame has its call site
attached. -/
theorem oneWithKey_passedOn {allStacks : List PythonStackTrace} {stack : PythonStackTrace}
    {frame : StackFrame} (event : BlockingEvent) (hmem : stack ∈ allStacks)
    (hleaf : leafFrame stack = some frame) (hfunction : frame.function ≠ "<module>") :
    OneWithKey (passedOn allStacks event) (frame.function, frame.file) := by
  have husable : stack ∈ usable allStacks :=
    List.mem_filter.mpr ⟨hmem, decide_eq_true (frames_ne_nil_of_leafFrame hleaf)⟩
  have hexists : ∃ first ∈ firstBy siteKey (usable allStacks), siteKey first = siteKey stack :=
    exists_mem_firstBy husable
  obtain ⟨first, hfirst, hsite⟩ := hexists
  have hframes := frames_ne_nil_of_mem_usable (mem_of_mem_firstBy hfirst)
  have hkey : leafKey first = .ok (frame.function, frame.file) := by
    rw [leafKey_eq_siteKey hframes, hsite,
      ← leafKey_eq_siteKey (frames_ne_nil_of_mem_usable husable), leafKey_of_leafFrame hleaf]
  have hinformative : first ∈ (firstBy siteKey (usable allStacks)).filter isInformative :=
    List.mem_filter.mpr ⟨hfirst,
      isInformative_of_leafKey hkey (isApplication_of_leafFrame hleaf) hfunction⟩
  have hattached : first ∈ attached allStacks := by
    unfold attached
    rw [if_neg (List.ne_nil_of_mem hinformative)]
    exact hinformative
  rw [passedOn, if_neg (List.ne_nil_of_mem husable)]
  exact oneWithKey_of_mem hattached hkey attached_pairwise

/-- The window holds the samples that the buffer still has and that were taken in the search
interval. -/
theorem window_pushAll {size : ℕ} (hsize : 1 ≤ size) {pushed : List Entry}
    (hsorted : pushed.Pairwise fun a b => a.1 ≤ b.1) (correlationPaddingNs now : ℤ)
    (event : BlockingEvent) :
    window ((StackRingBuffer.new size).pushAll pushed) correlationPaddingNs now event =
      ((StackRingBuffer.retained size pushed).filter fun sample =>
        decide (searchStart correlationPaddingNs now event ≤ sample.1 ∧ sample.1 ≤ now)).map
          (·.2) := by
  unfold window searchStart
  dsimp only
  rw [(StackRingBuffer.ringBuffer_refines size hsize pushed).2.2 hsorted]

/-- The window holds every sample that the latency has not carried beyond the padding. -/
theorem mem_window {size : ℕ} (hsize : 1 ≤ size) {pushed : List Entry}
    (hsorted : pushed.Pairwise fun a b => a.1 ≤ b.1) {correlationPaddingNs now latency : ℤ}
    {event : BlockingEvent} (hlatency : 0 ≤ latency)
    (hbound : latency ≤ max (event.endNs - event.startNs) correlationPaddingNs)
    {sample : Entry} (hmem : sample ∈ StackRingBuffer.retained size pushed)
    (hstart : now - latency - (event.endNs - event.startNs) ≤ sample.1)
    (hend : sample.1 ≤ now - latency) :
    sample.2 ∈
      window ((StackRingBuffer.new size).pushAll pushed) correlationPaddingNs now event := by
  rw [window_pushAll hsize hsorted]
  refine List.mem_map.mpr ⟨sample, List.mem_filter.mpr ⟨hmem, decide_eq_true ?_⟩, rfl⟩
  unfold searchStart
  constructor
  · omega
  · omega

/-- The event is handed on exactly if a double holds its length or a sample of the search
interval is left. -/
theorem handsOn_pushAll_iff {size : ℕ} (hsize : 1 ≤ size) {pushed : List Entry}
    (hsorted : pushed.Pairwise fun a b => a.1 ≤ b.1) {correlationPaddingNs now : ℤ}
    {event : BlockingEvent} :
    HandsOn ((StackRingBuffer.new size).pushAll pushed) correlationPaddingNs now event ↔
      (event.endNs - event.startNs).natAbs < floatOverflow ∨
        ∃ sample ∈ StackRingBuffer.retained size pushed,
          searchStart correlationPaddingNs now event ≤ sample.1 ∧ sample.1 ≤ now := by
  have hwindow : window ((StackRingBuffer.new size).pushAll pushed) correlationPaddingNs now
      event ≠ [] ↔ ∃ sample ∈ StackRingBuffer.retained size pushed,
        searchStart correlationPaddingNs now event ≤ sample.1 ∧ sample.1 ≤ now := by
    rw [window_pushAll hsize hsorted, Ne, List.map_eq_nil_iff, List.filter_eq_nil_iff]
    simp
  rw [HandsOn, hwindow, or_comm]

/-- The event is as it was, but for its stacks: those have every application call site that
was sampled while the loop was blocked, once. -/
structure Covered (size : ℕ) (pushed : List Entry) (now latency : ℤ)
    (event enriched : BlockingEvent) : Prop where
  startNs : enriched.startNs = event.startNs
  endNs : enriched.endNs = event.endNs
  pid : enriched.pid = event.pid
  tid : enriched.tid = event.tid
  sites : ∀ sample ∈ StackRingBuffer.retained size pushed,
    now - latency - (event.endNs - event.startNs) ≤ sample.1 → sample.1 ≤ now - latency →
      ∀ frame, leafFrame sample.2 = some frame → frame.function ≠ "<module>" →
        leafKey sample.2 = .ok (frame.function, frame.file) ∧
          OneWithKey enriched.pythonStacks (frame.function, frame.file)

/-- What is handed on covers the interval in which the loop was blocked. -/
theorem covered_of_onEvent {size : ℕ} (hsize : 1 ≤ size) {pushed : List Entry}
    (hsorted : pushed.Pairwise fun a b => a.1 ≤ b.1) {correlationPaddingNs now latency : ℤ}
    {event enriched : BlockingEvent} (hlatency : 0 ≤ latency)
    (hbound : latency ≤ max (event.endNs - event.startNs) correlationPaddingNs)
    (henriched : onEvent ((StackRingBuffer.new size).pushAll pushed) correlationPaddingNs now
      event = .ok enriched) : Covered size pushed now latency event enriched := by
  obtain rfl := eq_of_onEvent_eq_ok henriched
  refine ⟨rfl, rfl, rfl, rfl, ?_⟩
  intro sample hmem hstart hend frame hleaf hfunction
  refine ⟨leafKey_of_leafFrame hleaf, oneWithKey_passedOn event ?_ hleaf hfunction⟩
  exact mem_window hsize hsorted hlatency hbound hmem hstart hend

/-- The stack of every application call site that was sampled while the loop was blocked
is handed on, once, with the event that is otherwise unchanged, exactly if a double holds the
length of the event or a sample of its search interval is left. -/
theorem onEvent_covers_iff (size : ℕ) (hsize : 1 ≤ size) (pushed : List Entry)
    (hsorted : pushed.Pairwise fun a b => a.1 ≤ b.1) (correlationPaddingNs now latency : ℤ)
    (event : BlockingEvent) (hlatency : 0 ≤ latency)
    (hbound : latency ≤ max (event.endNs - event.startNs) correlationPaddingNs) :
    (∃ enriched,
        onEvent ((StackRingBuffer.new size).pushAll pushed) correlationPaddingNs now event =
          .ok enriched ∧ Covered size pushed now latency event enriched) ↔
      (event.endNs - event.startNs).natAbs < floatOverflow ∨
        ∃ sample ∈ StackRingBuffer.retained size pushed,
          searchStart correlationPaddingNs now event ≤ sample.1 ∧ sample.1 ≤ now := by
  rw [← handsOn_pushAll_iff hsize hsorted]
  constructor
  · rintro ⟨enriched, henriched, -⟩
    by_contra hoff
    rw [onEvent_eq, if_neg hoff] at henriched
    cases henriched
  · intro hon
    have henriched := onEvent_eq_ok hon
    exact ⟨_, henriched, covered_of_onEvent hsize hsorted hlatency hbound henriched⟩

/-- A handler that blocks the loop, and one that the loop calls next. -/
def handledPushes : List Entry :=
  [(10, ⟨1, "", [⟨"<module>", "app.py", 1⟩]⟩),
    (12, ⟨1, "", [⟨"<module>", "app.py", 1⟩, ⟨"handle", "app.py", 7⟩]⟩)]

theorem onEvent_covers_iff_handled :
    ∃ enriched,
      onEvent ((StackRingBuffer.new 2).pushAll handledPushes) 5 16 ⟨0, 4, 1, 1, []⟩ =
          .ok enriched ∧
        Covered 2 handledPushes 16 3 ⟨0, 4, 1, 1, []⟩ enriched := by
  refine (onEvent_covers_iff 2 (by decide) handledPushes (by decide) 5 16 3 ⟨0, 4, 1, 1, []⟩
    (by decide) (by decide)).mpr (Or.inr ?_)
  exact ⟨(12, _), List.mem_cons_of_mem _ List.mem_cons_self, by decide, by decide⟩

/-- Before the first sample, an event that no double can measure is lost. -/
theorem exists_not_covered :
    ∃ event : BlockingEvent, 0 ≤ event.endNs - event.startNs ∧
      ∀ enriched, onEvent ((StackRingBuffer.new 1).pushAll []) 200000000 0 event ≠
        .ok enriched := by
  refine ⟨{ startNs := 0, endNs := floatOverflow, pid := 1, tid := 1 }, ?_, ?_⟩
  · rw [sub_zero]
    exact Int.natCast_nonneg floatOverflow
  · intro enriched henriched
    rw [onEvent_eq, if_neg] at henriched
    · cases henriched
    · rw [handsOn_pushAll_iff le_rfl List.Pairwise.nil, sub_zero, Int.natAbs_natCast]
      rintro (hfloat | ⟨sample, hsample, -⟩)
      · exact lt_irrefl _ hfloat
      · cases hsample

end Blocksnoop.Correlator
