import Blocksnoop.Correlator
import Blocksnoop.Support.FirstOccurrence

/-!
# The stacks an event is passed on with

`on_event` keeps one sample for every call site of the window, the first one.
The call sites with an informative sample come alone when there are any.
-/

namespace Blocksnoop.Correlator

open Blocksnoop.Support

/-- The frames among which a call site is chosen: the application frames of a
stack, or all its frames when it has none. -/
def selected (stack : PythonStackTrace) : List StackFrame :=
  let applicationFrames := stack.frames.filter StackFrame.isApplication
  if applicationFrames = [] then stack.frames else applicationFrames

theorem find?_reverse_eq_getLast?_filter {α : Type*} (p : α → Bool) (l : List α) :
    l.reverse.find? p = (l.filter p).getLast? := by
  rw [← List.head?_filter, List.filter_reverse, List.head?_reverse]

/-- The key is made of the last selected frame. -/
theorem leafKey_eq_getLast? (stack : PythonStackTrace) :
    leafKey stack =
      match (selected stack).getLast? with
      | some leaf => .ok (leaf.function, leaf.file)
      | none => .error (.other "IndexError") := by
  unfold leafKey selected
  rw [find?_reverse_eq_getLast?_filter]
  cases hlast : (stack.frames.filter StackFrame.isApplication).getLast? with
  | none =>
      rw [List.getLast?_eq_none_iff.mp hlast]
      cases hframes : stack.frames.getLast? with
      | none => simp [hframes]
      | some leaf => simp [hframes]
  | some leaf =>
      have hne : stack.frames.filter StackFrame.isApplication ≠ [] := by
        intro h
        simp [h] at hlast
      simp [hne, hlast]

theorem selected_ne_nil {stack : PythonStackTrace} (h : stack.frames ≠ []) :
    selected stack ≠ [] := by
  by_cases happ : stack.frames.filter StackFrame.isApplication = []
  · simpa [selected, happ] using h
  · simp [selected, happ]

/-- The call site of a stack; of an empty stack, none. -/
def site (stack : PythonStackTrace) : Option (String × String) :=
  (selected stack).getLast?.map fun leaf => (leaf.function, leaf.file)

theorem exists_leafKey_eq_ok {stack : PythonStackTrace} (h : stack.frames ≠ []) :
    ∃ key, leafKey stack = .ok key ∧ site stack = some key := by
  obtain ⟨leaf, hleaf⟩ := Option.ne_none_iff_exists'.mp
    (mt List.getLast?_eq_none_iff.mp (selected_ne_nil h))
  exact ⟨(leaf.function, leaf.file), by simp [leafKey_eq_getLast?, hleaf],
    by simp [site, hleaf]⟩

/-- The key of a stack that has frames. -/
def siteKey (stack : PythonStackTrace) : String × String :=
  (site stack).getD ("", "")

theorem leafKey_eq_siteKey {stack : PythonStackTrace} (h : stack.frames ≠ []) :
    leafKey stack = .ok (siteKey stack) := by
  obtain ⟨key, hkey, hsite⟩ := exists_leafKey_eq_ok h
  rw [hkey, siteKey, hsite, Option.getD_some]

/-- The samples of the search window that have frames. -/
def usable (allStacks : List PythonStackTrace) : List PythonStackTrace :=
  allStacks.filter fun stack => stack.frames ≠ []

/-- The loop of `on_event` reads no key of an empty stack, so it does not raise. -/
theorem collect_eq_keepFirst (seen : Dict (String × String) PythonStackTrace)
    (allStacks : List PythonStackTrace) :
    collect seen allStacks = .ok (Dict.keepFirst siteKey seen (usable allStacks)) := by
  induction allStacks generalizing seen with
  | nil => rfl
  | cons stack rest ih =>
      by_cases hframes : stack.frames = []
      · have husable : usable (stack :: rest) = usable rest := by simp [usable, hframes]
        rw [collect, if_pos hframes, ih, husable]
      · have husable : usable (stack :: rest) = stack :: usable rest := by
          simp [usable, hframes]
        rw [collect, if_neg hframes, leafKey_eq_siteKey hframes, husable]
        change (if (seen.get (siteKey stack)).isSome then collect seen rest
          else collect (seen.set (siteKey stack) stack) rest) = _
        by_cases hseen : (seen.get (siteKey stack)).isSome = true
        · rw [if_pos hseen, ih]
          simp [Dict.keepFirst, hseen]
        · rw [if_neg hseen, ih]
          simp [Dict.keepFirst, hseen]

/-- One sample for every call site, and only the informative ones if there are
any. -/
def attached (allStacks : List PythonStackTrace) : List PythonStackTrace :=
  let sites := firstBy siteKey (usable allStacks)
  let informative := sites.filter isInformative
  if informative = [] then sites else informative

/-- The attached stacks are first samples of their call sites. -/
theorem mem_firstBy_of_mem_attached {allStacks : List PythonStackTrace}
    {stack : PythonStackTrace} (h : stack ∈ attached allStacks) :
    stack ∈ firstBy siteKey (usable allStacks) := by
  unfold attached at h
  dsimp only at h
  split at h
  · exact h
  · exact List.mem_of_mem_filter h

theorem mem_usable_of_mem_attached {allStacks : List PythonStackTrace}
    {stack : PythonStackTrace} (h : stack ∈ attached allStacks) : stack ∈ usable allStacks :=
  mem_of_mem_firstBy (mem_firstBy_of_mem_attached h)

/-- The samples of the search window of an event that is delivered at `now`. -/
def window (ringBuffer : StackRingBuffer) (correlationPaddingNs now : ℤ)
    (event : BlockingEvent) : List PythonStackTrace :=
  let duration := event.endNs - event.startNs
  ringBuffer.findAllInRange (now - duration - max duration correlationPaddingNs) now

/-- The stacks an event is passed on with, in terms of the window. -/
def passedOn (allStacks : List PythonStackTrace) (event : BlockingEvent) :
    List PythonStackTrace :=
  if usable allStacks = [] then event.pythonStacks else attached allStacks

theorem filter_values {κ α : Type} (d : Dict κ α) (p : α → Bool) :
    Dict.values (d.filter fun entry => p entry.2) = (Dict.values d).filter p := by
  simp [Dict.values, List.filter_map, Function.comp_def]

theorem values_eq_nil_iff {κ α : Type} {d : Dict κ α} : Dict.values d = [] ↔ d = [] := by
  simp [Dict.values]

/-- The event gets as far as the callback: the log line for an empty window takes its
length as a float. -/
def HandsOn (ringBuffer : StackRingBuffer) (correlationPaddingNs now : ℤ)
    (event : BlockingEvent) : Prop :=
  window ringBuffer correlationPaddingNs now event ≠ [] ∨
    (event.endNs - event.startNs).natAbs < floatOverflow

instance (ringBuffer : StackRingBuffer) (correlationPaddingNs now : ℤ) (event : BlockingEvent) :
    Decidable (HandsOn ringBuffer correlationPaddingNs now event) :=
  inferInstanceAs (Decidable (_ ∨ _))

section

variable {ringBuffer : StackRingBuffer} {correlationPaddingNs now : ℤ} {event : BlockingEvent}

/-- The two branches of `on_event`. -/
theorem onEvent_unfold :
    onEvent ringBuffer correlationPaddingNs now event =
      if window ringBuffer correlationPaddingNs now event = [] then do
        floatInt (event.endNs - event.startNs)
        return event
      else do
        let seen ← collect [] (window ringBuffer correlationPaddingNs now event)
        if seen = [] then return event
        let informative := seen.filter fun entry => isInformative entry.2
        return { event with
          pythonStacks := if informative = [] then seen.values else Dict.values informative } :=
  rfl

/-- With samples in its window the event is passed on, whatever its length. -/
theorem onEvent_of_window_ne_nil (h : window ringBuffer correlationPaddingNs now event ≠ []) :
    onEvent ringBuffer correlationPaddingNs now event =
      .ok { event with
        pythonStacks := passedOn (window ringBuffer correlationPaddingNs now event) event } := by
  rw [onEvent_unfold, if_neg h, collect_eq_keepFirst]
  generalize window ringBuffer correlationPaddingNs now event = allStacks
  have hvalues := Dict.values_keepFirst siteKey (usable allStacks)
  change (if Dict.keepFirst siteKey [] (usable allStacks) = [] then Except.ok event else _) = _
  by_cases husable : usable allStacks = []
  · simp [husable, passedOn, Dict.keepFirst]
  · have hne : Dict.keepFirst siteKey [] (usable allStacks) ≠ [] := by
      rw [Ne, ← values_eq_nil_iff, hvalues, firstBy_eq_nil_iff]
      exact husable
    rw [if_neg hne, passedOn, if_neg husable, attached, ← hvalues, ← filter_values]
    simp only [values_eq_nil_iff]
    rfl

/-- Without a sample in its window the event is passed on as it is, if a double holds its
length. -/
theorem onEvent_of_window_eq_nil (h : window ringBuffer correlationPaddingNs now event = []) :
    onEvent ringBuffer correlationPaddingNs now event =
      (floatInt (event.endNs - event.startNs)).map fun _ => event := by
  rw [onEvent_unfold, if_pos h]
  cases floatInt (event.endNs - event.startNs) with
  | error e => rfl
  | ok => rfl

/-- `on_event` passes the event on, unchanged but for its stacks, unless it fails to log the
length. -/
theorem onEvent_eq (ringBuffer : StackRingBuffer) (correlationPaddingNs now : ℤ)
    (event : BlockingEvent) :
    onEvent ringBuffer correlationPaddingNs now event =
      if HandsOn ringBuffer correlationPaddingNs now event then
        .ok { event with
          pythonStacks := passedOn (window ringBuffer correlationPaddingNs now event) event }
      else .error (.other "OverflowError") := by
  by_cases hwindow : window ringBuffer correlationPaddingNs now event = []
  · rw [onEvent_of_window_eq_nil hwindow, floatInt]
    by_cases hlength : (event.endNs - event.startNs).natAbs < floatOverflow
    · have hon : HandsOn ringBuffer correlationPaddingNs now event := Or.inr hlength
      rw [if_pos hlength, if_pos hon, hwindow]
      rfl
    · have hoff : ¬ HandsOn ringBuffer correlationPaddingNs now event :=
        not_or.mpr ⟨not_not.mpr hwindow, hlength⟩
      rw [if_neg hlength, if_neg hoff]
      rfl
  · have hon : HandsOn ringBuffer correlationPaddingNs now event := Or.inl hwindow
    rw [onEvent_of_window_ne_nil hwindow, if_pos hon]

theorem onEvent_eq_ok (h : HandsOn ringBuffer correlationPaddingNs now event) :
    onEvent ringBuffer correlationPaddingNs now event =
      .ok { event with
        pythonStacks := passedOn (window ringBuffer correlationPaddingNs now event) event } := by
  rw [onEvent_eq, if_pos h]

/-- What is passed on is the event with the stacks of its window. -/
theorem eq_of_onEvent_eq_ok {enriched : BlockingEvent}
    (h : onEvent ringBuffer correlationPaddingNs now event = .ok enriched) :
    enriched = { event with
      pythonStacks := passedOn (window ringBuffer correlationPaddingNs now event) event } := by
  rw [onEvent_eq] at h
  split at h
  · exact (Except.ok.inj h).symm
  · cases h

/-- `on_event` raises only for a length that no double holds. -/
theorem length_of_onEvent_eq_error {e : PyException}
    (h : onEvent ringBuffer correlationPaddingNs now event = .error e) :
    floatOverflow ≤ (event.endNs - event.startNs).natAbs ∧ e = .other "OverflowError" := by
  rw [onEvent_eq] at h
  split at h
  · cases h
  · rename_i hoff
    exact ⟨not_lt.mp (not_or.mp hoff).2, (Except.error.inj h).symm⟩

end

end Blocksnoop.Correlator
