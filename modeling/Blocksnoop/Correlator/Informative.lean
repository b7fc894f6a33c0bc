import Blocksnoop.Correlator.Sites

/-!
# Informative samples

A call site is kept with its first sample, and only then is it asked whether the
sample is informative.  A call site whose first sample is not informative is
dropped with its later ones.
-/

namespace Blocksnoop.Correlator

open Blocksnoop.Support

/-- The samples of a window that have frames and are informative. -/
def informativeSamples (allStacks : List PythonStackTrace) : List PythonStackTrace :=
  (usable allStacks).filter isInformative

/-- Two lists of stacks have the same leaf keys. -/
def SameSites (kept others : List PythonStackTrace) : Prop :=
  ∀ key, (∃ stack ∈ kept, leafKey stack = .ok key) ↔
    ∃ stack ∈ others, leafKey stack = .ok key

/-- What the stacks of an event are to be, given the samples of its window. -/
structure InformativeWin (allStacks kept : List PythonStackTrace) : Prop where
  informative : informativeSamples allStacks ≠ [] →
    (∀ stack ∈ kept, isInformative stack) ∧
      SameSites kept (informativeSamples allStacks)
  allSites : informativeSamples allStacks = [] → SameSites kept (usable allStacks)
  samples : ∀ stack ∈ kept, stack ∈ allStacks
  distinct : kept.Pairwise fun stack stack' => leafKey stack ≠ leafKey stack'

/-- The first sample of the window with the call site of the given one. -/
def firstSample (allStacks : List PythonStackTrace) (stack : PythonStackTrace) :
    Option PythonStackTrace :=
  (usable allStacks).find? fun first => siteKey first = siteKey stack

/-- No informative sample comes after another kind of sample of its call site. -/
def FirstSamplesInformative (allStacks : List PythonStackTrace) : Prop :=
  ∀ stack ∈ informativeSamples allStacks,
    ∃ first ∈ firstSample allStacks stack, isInformative first

/-! ## Keys of samples that have frames -/

theorem frames_ne_nil_of_mem_usable {allStacks : List PythonStackTrace}
    {stack : PythonStackTrace} (h : stack ∈ usable allStacks) : stack.frames ≠ [] := by
  simpa [usable] using (List.mem_filter.mp h).2

theorem exists_leafKey_iff {allStacks kept : List PythonStackTrace}
    (h : ∀ stack ∈ kept, stack ∈ usable allStacks) (key : String × String) :
    (∃ stack ∈ kept, leafKey stack = .ok key) ↔ ∃ stack ∈ kept, siteKey stack = key := by
  constructor
  · rintro ⟨stack, hstack, hkey⟩
    rw [leafKey_eq_siteKey (frames_ne_nil_of_mem_usable (h stack hstack))] at hkey
    exact ⟨stack, hstack, Except.ok.inj hkey⟩
  · rintro ⟨stack, hstack, hkey⟩
    refine ⟨stack, hstack, ?_⟩
    rw [leafKey_eq_siteKey (frames_ne_nil_of_mem_usable (h stack hstack)), hkey]

theorem sameSites_iff {allStacks kept others : List PythonStackTrace}
    (h : ∀ stack ∈ kept, stack ∈ usable allStacks)
    (h' : ∀ stack ∈ others, stack ∈ usable allStacks) :
    SameSites kept others ↔
      ∀ key, (∃ stack ∈ kept, siteKey stack = key) ↔
        ∃ stack ∈ others, siteKey stack = key := by
  constructor
  · intro hsame key
    rw [← exists_leafKey_iff h, ← exists_leafKey_iff h']
    exact hsame key
  · intro hsame key
    rw [exists_leafKey_iff h, exists_leafKey_iff h']
    exact hsame key

/-! ## The attached stacks -/

section

variable {allStacks : List PythonStackTrace}

theorem mem_usable_of_mem_informativeSamples {stack : PythonStackTrace}
    (h : stack ∈ informativeSamples allStacks) : stack ∈ usable allStacks :=
  List.mem_of_mem_filter h

theorem mem_firstSample_iff {stack first : PythonStackTrace} :
    first ∈ firstSample allStacks stack ↔
      first ∈ firstBy siteKey (usable allStacks) ∧ siteKey first = siteKey stack := by
  constructor
  · intro h
    have hkey : siteKey first = siteKey stack := by simpa using List.find?_some h
    refine ⟨?_, hkey⟩
    rw [mem_firstBy_iff, hkey]
    exact h
  · rintro ⟨hfirst, hkey⟩
    rw [mem_firstBy_iff, hkey] at hfirst
    exact hfirst

theorem attached_sublist : (attached allStacks).Sublist (firstBy siteKey (usable allStacks)) := by
  unfold attached
  dsimp only
  split
  · exact List.Sublist.refl _
  · exact List.filter_sublist

theorem attached_pairwise :
    (attached allStacks).Pairwise fun stack stack' => leafKey stack ≠ leafKey stack' := by
  have hsites := (pairwise_firstBy siteKey (usable allStacks)).sublist attached_sublist
  refine hsites.imp_of_mem ?_
  intro stack stack' hstack hstack' hne hkeys
  rw [leafKey_eq_siteKey (frames_ne_nil_of_mem_usable (mem_usable_of_mem_attached hstack)),
    leafKey_eq_siteKey (frames_ne_nil_of_mem_usable (mem_usable_of_mem_attached hstack'))]
    at hkeys
  exact hne (Except.ok.inj hkeys)

/-- Without an informative sample every call site is attached. -/
theorem attached_of_informativeSamples_eq_nil (h : informativeSamples allStacks = []) :
    attached allStacks = firstBy siteKey (usable allStacks) := by
  have hfilter : (firstBy siteKey (usable allStacks)).filter isInformative = [] := by
    rw [List.filter_eq_nil_iff]
    intro stack hstack
    exact List.filter_eq_nil_iff.mp h stack (mem_of_mem_firstBy hstack)
  simp [attached, hfilter]

/-- Where first samples are informative, the attached stacks are those of the
informative call sites. -/
theorem attached_of_firstSamplesInformative (h : FirstSamplesInformative allStacks)
    (hne : informativeSamples allStacks ≠ []) :
    attached allStacks = (firstBy siteKey (usable allStacks)).filter isInformative := by
  obtain ⟨stack, hstack⟩ := List.exists_mem_of_ne_nil _ hne
  obtain ⟨first, hfirst, hinformative⟩ := h stack hstack
  have hsite := (mem_firstSample_iff.mp hfirst).1
  have hmem : first ∈ (firstBy siteKey (usable allStacks)).filter isInformative :=
    List.mem_filter.mpr ⟨hsite, hinformative⟩
  have hfilter : (firstBy siteKey (usable allStacks)).filter isInformative ≠ [] :=
    List.ne_nil_of_mem hmem
  simp [attached, hfilter]

theorem informativeWin_of_firstSamplesInformative (h : FirstSamplesInformative allStacks) :
    InformativeWin allStacks (attached allStacks) where
  informative hne := by
    have hattached := attached_of_firstSamplesInformative h hne
    constructor
    · intro stack hstack
      rw [hattached] at hstack
      exact (List.mem_filter.mp hstack).2
    · rw [sameSites_iff (fun _ => mem_usable_of_mem_attached)
        (fun _ => mem_usable_of_mem_informativeSamples)]
      intro key
      constructor
      · rintro ⟨stack, hstack, hkey⟩
        have husable := mem_usable_of_mem_attached hstack
        rw [hattached] at hstack
        exact ⟨stack, List.mem_filter.mpr ⟨husable, (List.mem_filter.mp hstack).2⟩, hkey⟩
      · rintro ⟨stack, hstack, rfl⟩
        obtain ⟨first, hfirst, hinformative⟩ := h stack hstack
        obtain ⟨hsite, hkey⟩ := mem_firstSample_iff.mp hfirst
        refine ⟨first, ?_, hkey⟩
        rw [hattached]
        exact List.mem_filter.mpr ⟨hsite, hinformative⟩
  allSites hnil := by
    rw [sameSites_iff (fun _ => mem_usable_of_mem_attached) (fun _ => id),
      attached_of_informativeSamples_eq_nil hnil]
    intro key
    constructor
    · rintro ⟨stack, hstack, hkey⟩
      exact ⟨stack, mem_of_mem_firstBy hstack, hkey⟩
    · rintro ⟨stack, hstack, rfl⟩
      exact exists_mem_firstBy hstack
  samples _ hstack := List.mem_of_mem_filter (mem_usable_of_mem_attached hstack)
  distinct := attached_pairwise

/-- An informative sample has an attached stack at its call site, which is the
first one there and informative. -/
theorem firstSamplesInformative_of_informativeWin
    (h : InformativeWin allStacks (attached allStacks)) :
    FirstSamplesInformative allStacks := by
  intro stack hstack
  obtain ⟨hinformative, hsites⟩ := h.informative (List.ne_nil_of_mem hstack)
  rw [sameSites_iff (fun _ => mem_usable_of_mem_attached)
    (fun _ => mem_usable_of_mem_informativeSamples)] at hsites
  obtain ⟨first, hfirst, hkey⟩ := (hsites (siteKey stack)).mpr ⟨stack, hstack, rfl⟩
  refine ⟨first, ?_, hinformative first hfirst⟩
  exact mem_firstSample_iff.mpr ⟨mem_firstBy_of_mem_attached hfirst, hkey⟩

end

/-- `on_event` replaces the stacks of an event by the attached ones, if there are
any; it raises only where it has no sample and no double holds the length.  The attached
stacks are what the samples of the window ask for exactly if no informative sample comes
after another kind of sample of its call site. -/
theorem onEvent_informativeWin_iff (ringBuffer : StackRingBuffer)
    (correlationPaddingNs now : ℤ) (event : BlockingEvent) :
    let allStacks := window ringBuffer correlationPaddingNs now event
    onEvent ringBuffer correlationPaddingNs now event =
        (if allStacks ≠ [] ∨ (event.endNs - event.startNs).natAbs < floatOverflow then
          .ok { event with
            pythonStacks := if attached allStacks = [] then event.pythonStacks
              else attached allStacks }
        else .error (.other "OverflowError")) ∧
      (InformativeWin allStacks (attached allStacks) ↔ FirstSamplesInformative allStacks) := by
  intro allStacks
  constructor
  · have hpassed : passedOn allStacks event =
        if attached allStacks = [] then event.pythonStacks else attached allStacks := by
      unfold passedOn
      by_cases husable : usable allStacks = []
      · simp [husable, attached, firstBy]
      · obtain ⟨stack, hstack⟩ := List.exists_mem_of_ne_nil _ husable
        have hne : attached allStacks ≠ [] := by
          intro hnil
          unfold attached at hnil
          dsimp only at hnil
          split at hnil
          · exact husable (firstBy_eq_nil_iff.mp hnil)
          · exact absurd hnil ‹_›
        rw [if_neg husable, if_neg hne]
    rw [← hpassed]
    exact onEvent_eq ringBuffer correlationPaddingNs now event
  · exact ⟨firstSamplesInformative_of_informativeWin,
      informativeWin_of_firstSamplesInformative⟩

/-! ## A module that reloads itself -/

/-- The event loop is idle below the module frame. -/
def idleStack : PythonStackTrace where
  threadId := 1
  threadName := "main"
  frames := [⟨"<module>", "app.py", 222⟩, ⟨"_run_once", "asyncio/base_events.py", 2050⟩]

/-- The module is executed again by a function of another file. -/
def reloadStack : PythonStackTrace where
  threadId := 1
  threadName := "main"
  frames :=
    [⟨"<module>", "app.py", 222⟩, ⟨"reload", "hot.py", 10⟩, ⟨"<module>", "app.py", 3⟩]

def reloadBuffer : StackRingBuffer :=
  ((StackRingBuffer.new 4).push 800 idleStack).push 900 reloadStack

def reloadEvent : BlockingEvent :=
  { startNs := 0, endNs := 500, pid := 100, tid := 100 }

theorem window_reloadEvent :
    window reloadBuffer 200000000 1000 reloadEvent = [idleStack, reloadStack] := by
  decide

/-- The window has an informative sample, and the stack that is attached is not
informative. -/
theorem exists_not_informativeWin :
    ∃ ringBuffer correlationPaddingNs now event enriched,
      onEvent ringBuffer correlationPaddingNs now event = .ok enriched ∧
      event.pythonStacks = [] ∧
      ¬ InformativeWin (window ringBuffer correlationPaddingNs now event)
        enriched.pythonStacks := by
  refine ⟨reloadBuffer, 200000000, 1000, reloadEvent, _,
    onEvent_of_window_ne_nil (by decide), rfl, ?_⟩
  rw [window_reloadEvent]
  intro h
  have hinformative := (h.informative (by decide)).1 idleStack (by decide)
  exact absurd hinformative (by decide)

end Blocksnoop.Correlator
