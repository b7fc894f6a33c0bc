import Blocksnoop.Correlator.Sites
import Blocksnoop.Reporter
import Blocksnoop.Support.Delimited

/-!
# The call site of an event

The correlator keys a stack by its deepest application frame and the reporter
locates it by its root-most one.  Both choose from the same list of frames: the
key is made of its last frame, the location of its first.
-/

namespace Blocksnoop

open Blocksnoop.Support

/-- A frame as the reporter renders it. -/
def StackFrame.record (host : ReporterHost) (frame : StackFrame) : FrameRecord where
  function := frame.function
  file := frame.file
  line := frame.line
  source := getSourceLine host frame.file frame.line

theorem renderStacks_cons (host : ReporterHost) (stack : PythonStackTrace)
    (rest : List PythonStackTrace) :
    renderStacks host (stack :: rest) =
      some ((stack :: rest).map fun s => s.frames.map (StackFrame.record host)) :=
  rfl

theorem selectedFrames_map_record (host : ReporterHost) (stack : PythonStackTrace) :
    selectedFrames (stack.frames.map (StackFrame.record host)) =
      (Correlator.selected stack).map (StackFrame.record host) := by
  have hfilter : (stack.frames.map (StackFrame.record host)).filter FrameRecord.isApplication =
      (stack.frames.filter StackFrame.isApplication).map (StackFrame.record host) := by
    rw [List.filter_map]
    rfl
  unfold selectedFrames Correlator.selected
  simp only [hfilter, List.map_eq_nil_iff]
  split <;> rfl

/-- The location of an event's signature. -/
def eventLocation (host : ReporterHost) (event : BlockingEvent) :
    Except PyException String :=
  (signatureForStacks host (renderStacks host event.pythonStacks)).map Signature.location

/-- The location is made of the first selected frame of the first stack. -/
theorem eventLocation_eq_head? (host : ReporterHost) {event : BlockingEvent}
    {first : PythonStackTrace} {rest : List PythonStackTrace}
    (h : event.pythonStacks = first :: rest) :
    eventLocation host event =
      match (Correlator.selected first).head? with
      | some root => .ok (renderLocation root.file root.line root.function)
      | none => .error (.other "IndexError") := by
  rw [eventLocation, h, renderStacks_cons]
  simp only [signatureForStacks, Option.getD_some, List.map_cons, selectedFrames_map_record]
  cases Correlator.selected first with
  | nil => rfl
  | cons root frames => rfl

/-- The location aggregated for an event names the file and the function by which
the correlator keys its first stack. -/
def LocationNamesLeaf (host : ReporterHost) (event : BlockingEvent) : Prop :=
  ∃ first rest function file line, event.pythonStacks = first :: rest ∧
    Correlator.leafKey first = .ok (function, file) ∧
    eventLocation host event = .ok (renderLocation file line function)

/-- The first and the last selected frame of a stack print as the same file and
function, at some line. -/
def RootPrintsAsLeaf (stack : PythonStackTrace) : Prop :=
  ∃ root leaf line, (Correlator.selected stack).head? = some root ∧
    (Correlator.selected stack).getLast? = some leaf ∧
    renderLocation root.file root.line root.function =
      renderLocation leaf.file line leaf.function

theorem locationNamesLeaf_iff_of_cons (host : ReporterHost) {event : BlockingEvent}
    {first : PythonStackTrace} {rest : List PythonStackTrace}
    (h : event.pythonStacks = first :: rest) :
    LocationNamesLeaf host event ↔ RootPrintsAsLeaf first := by
  have hlocation := eventLocation_eq_head? host h
  have hkey := Correlator.leafKey_eq_getLast? first
  constructor
  · rintro ⟨_, _, function, file, line, hevent, hleaf, hnames⟩
    obtain ⟨rfl, rfl⟩ := List.cons.inj (h.symm.trans hevent)
    cases hroot : (Correlator.selected first).head? with
    | none =>
        rw [hlocation, hroot] at hnames
        cases hnames
    | some root =>
        cases hlast : (Correlator.selected first).getLast? with
        | none =>
            rw [hkey, hlast] at hleaf
            cases hleaf
        | some leaf =>
            rw [hkey, hlast] at hleaf
            rw [hlocation, hroot] at hnames
            obtain ⟨rfl, rfl⟩ := Prod.mk.inj (Except.ok.inj hleaf)
            exact ⟨root, leaf, line, hroot, hlast, Except.ok.inj hnames⟩
  · rintro ⟨root, leaf, line, hroot, hlast, hprints⟩
    refine ⟨first, rest, leaf.function, leaf.file, line, h, ?_, ?_⟩
    · rw [hkey, hlast]
    · rw [hlocation, hroot]
      exact congrArg Except.ok hprints

/-- The correlator passes an event on unless it fails to log the length; when it comes with
stacks, its location names the leaf call site exactly if the first and the last selected frame
of the first stack print alike. -/
theorem onEvent_locationNamesLeaf_iff (host : ReporterHost) (ringBuffer : StackRingBuffer)
    (correlationPaddingNs now : ℤ) (event : BlockingEvent) :
    let pythonStacks := Correlator.passedOn
      (Correlator.window ringBuffer correlationPaddingNs now event) event
    let enriched := { event with pythonStacks }
    Correlator.onEvent ringBuffer correlationPaddingNs now event =
        (if Correlator.HandsOn ringBuffer correlationPaddingNs now event then .ok enriched
        else .error (.other "OverflowError")) ∧
      (pythonStacks ≠ [] →
        (LocationNamesLeaf host enriched ↔ ∃ first ∈ pythonStacks.head?, RootPrintsAsLeaf first)) := by
  intro pythonStacks enriched
  refine ⟨Correlator.onEvent_eq ringBuffer correlationPaddingNs now event, ?_⟩
  have henriched : enriched.pythonStacks = pythonStacks := rfl
  generalize pythonStacks = stacksPassedOn at henriched
  intro hne
  cases stacksPassedOn with
  | nil => exact absurd rfl hne
  | cons first rest =>
      rw [locationNamesLeaf_iff_of_cons host henriched]
      simp

/-! ## File names without a colon -/

theorem space_notMem_renderInt (i : ℤ) : ' ' ∉ Json.renderInt i := by
  have hdigits : ' ' ∉ Nat.toDigits 10 i.natAbs := by
    intro h
    exact absurd (Json.isDigit_of_mem_toDigits h) (by decide)
  unfold Json.renderInt
  split
  · exact List.not_mem_cons_of_ne_of_not_mem (by decide) hdigits
  · exact hdigits

/-- A location without a colon in its file name determines file and function. -/
theorem renderLocation_inj {file file' function function' : String} {line line' : ℤ}
    (hfile : ':' ∉ file.toList) (hfile' : ':' ∉ file'.toList)
    (h : renderLocation file line function = renderLocation file' line' function') :
    file = file' ∧ function = function' := by
  have htext (file function : String) (line : ℤ) :
      (renderLocation file line function).toList =
        file.toList ++ ':' :: (Json.renderInt line ++ ' ' :: ("in ".toList ++ function.toList)) := by
    simp [renderLocation, strInt]
  have hlists := congrArg String.toList h
  rw [htext, htext] at hlists
  obtain ⟨hfiles, hrest⟩ := append_cons_inj_left hfile hfile' hlists
  obtain ⟨-, hfunctions⟩ :=
    append_cons_inj_left (space_notMem_renderInt line) (space_notMem_renderInt line') hrest
  exact ⟨String.toList_inj.mp hfiles, String.toList_inj.mp (List.append_cancel_left hfunctions)⟩

/-- Where no selected file name has a colon, the first and the last frame print
alike only when they are in the same function of the same file. -/
theorem rootPrintsAsLeaf_iff {stack : PythonStackTrace}
    (hfiles : ∀ frame ∈ Correlator.selected stack, ':' ∉ frame.file.toList) :
    RootPrintsAsLeaf stack ↔
      ∃ root leaf, (Correlator.selected stack).head? = some root ∧
        (Correlator.selected stack).getLast? = some leaf ∧
        root.file = leaf.file ∧ root.function = leaf.function := by
  constructor
  · rintro ⟨root, leaf, line, hroot, hleaf, hprints⟩
    exact ⟨root, leaf, hroot, hleaf, renderLocation_inj
      (hfiles root (List.mem_of_mem_head? hroot))
      (hfiles leaf (List.mem_of_getLast? hleaf)) hprints⟩
  · rintro ⟨root, leaf, hroot, hleaf, hfile, hfunction⟩
    exact ⟨root, leaf, root.line, hroot, hleaf, by rw [hfile, hfunction]⟩

/-- A call of `time.sleep` in a handler below the module frame. -/
def handlerStack : PythonStackTrace where
  threadId := 1
  threadName := "main"
  frames :=
    [⟨"<module>", "app.py", 222⟩, ⟨"_run_once", "asyncio/base_events.py", 2050⟩,
      ⟨"handle_login", "app.py", 50⟩, ⟨"slow_query", "db.py", 10⟩]

def handlerBuffer : StackRingBuffer :=
  (StackRingBuffer.new 4).push 900 handlerStack

def handlerEvent : BlockingEvent :=
  { startNs := 0, endNs := 500, pid := 100, tid := 100 }

theorem passedOn_handlerEvent :
    Correlator.passedOn (Correlator.window handlerBuffer 200000000 1000 handlerEvent)
      handlerEvent = [handlerStack] := by
  decide

theorem selected_handlerStack :
    Correlator.selected handlerStack =
      [⟨"<module>", "app.py", 222⟩, ⟨"handle_login", "app.py", 50⟩,
        ⟨"slow_query", "db.py", 10⟩] := by
  decide

/-- The correlator's key is `slow_query` in `db.py`, the aggregated location is
`app.py:222 in <module>`. -/
theorem exists_not_locationNamesLeaf :
    ∃ host ringBuffer correlationPaddingNs now event enriched,
      Correlator.onEvent ringBuffer correlationPaddingNs now event = .ok enriched ∧
      enriched.pythonStacks ≠ [] ∧ ¬ LocationNamesLeaf host enriched := by
  refine ⟨⟨fun _ => "", fun _ _ => ""⟩, handlerBuffer, 200000000, 1000, handlerEvent, _,
    Correlator.onEvent_of_window_ne_nil (by decide), ?_, ?_⟩
  · rw [passedOn_handlerEvent]
    simp
  · rw [locationNamesLeaf_iff_of_cons _ passedOn_handlerEvent, rootPrintsAsLeaf_iff]
    · rw [selected_handlerStack]
      rintro ⟨root, leaf, hroot, hleaf, hfile, -⟩
      obtain rfl := Option.some.inj hroot
      obtain rfl := Option.some.inj hleaf
      exact absurd hfile (by decide)
    · rw [selected_handlerStack]
      decide

end Blocksnoop
