import Blocksnoop.Reporter.CallPath
import Blocksnoop.Sinks.Console
import Blocksnoop.Support.Components

/-!
# The frames of the event loop

Four places ask whether a frame belongs to the event loop, all of them by looking for parts
of text in its path.  A directory `asyncio` and the files `selectors.py` and `threading.py`
are found so, and with them every name that only looks like one of these.
-/

namespace Blocksnoop

open Blocksnoop.Support

/-! ## Paths -/

/-- The names between the slashes of a path. -/
def pathComponents (file : String) : List (List Char) :=
  file.toList.splitOn '/'

def directoryNames (file : String) : List (List Char) :=
  (pathComponents file).dropLast

def baseName (file : String) : List Char :=
  (pathComponents file).getLast (List.splitOn_ne_nil '/' file.toList)

/-- The path of a module of the event loop. -/
def isInternalPath (file : String) : Bool :=
  (directoryNames file).contains "asyncio".toList ||
    ["selectors.py".toList, "threading.py".toList].contains (baseName file)

/-- A component looks like one of the event loop and is another one. -/
def HasLookalike (file : String) : Prop :=
  (∃ name ∈ directoryNames file, "asyncio".toList <:+ name ∧ name ≠ "asyncio".toList) ∨
    ∃ part ∈ ["selectors.py".toList, "threading.py".toList],
      (∃ name ∈ directoryNames file, part <:+: name) ∨
        (part <:+: baseName file ∧ baseName file ≠ part)

/-- The test that the four places share. -/
def isStdlibPath (file : String) : Bool :=
  stdlibFramePrefixes.any fun part => pyContains file part

/-! ## What the places make of a stack -/

/-- The results of `_leaf_key` and `_is_informative`, the frames that the console shows and
the signature. -/
structure Treatment where
  leafKey : Except PyException (String × String)
  informative : Bool
  shown : List FrameRecord
  signature : Except PyException Signature

def treatment (host : ReporterHost) (stack : PythonStackTrace) : Treatment where
  leafKey := Correlator.leafKey stack
  informative := Correlator.isInformative stack
  shown := ConsoleSink.framesToShow (stack.frames.map (StackFrame.record host))
  signature := signatureForStacks host (some [stack.frames.map (StackFrame.record host)])

/-- The frames at the given paths, or all the frames when there are none. -/
def framesAt (isApplication : String → Bool) (stack : PythonStackTrace) : List StackFrame :=
  let application := stack.frames.filter fun frame => isApplication frame.file
  if application = [] then stack.frames else application

def keyOf (frames : List StackFrame) : Except PyException (String × String) :=
  match frames.getLast? with
  | some leaf => .ok (leaf.function, leaf.file)
  | none => .error (.other "IndexError")

def signatureOf (host : ReporterHost) (frames : List StackFrame) :
    Except PyException Signature :=
  match frames with
  | [] => .error (.other "IndexError")
  | first :: _ =>
      .ok { fingerprint := digest host ("|".intercalate (frames.map fun frame =>
              frame.file ++ ":" ++ strInt frame.line ++ ":" ++ frame.function))
            location := renderLocation first.file first.line first.function }

/-- What they are to make of a stack when the given paths are those of the application. -/
def treatmentBy (isApplication : String → Bool) (host : ReporterHost)
    (stack : PythonStackTrace) : Treatment :=
  let application := stack.frames.filter fun frame => isApplication frame.file
  let chosen := framesAt isApplication stack
  { leafKey := keyOf chosen
    informative := application ≠ [] ∧ application.map StackFrame.function ≠ ["<module>"]
    shown := chosen.map (StackFrame.record host)
    signature := signatureOf host chosen }

/-! ## The test on paths -/

theorem directoryNames_concat_baseName (file : String) :
    directoryNames file ++ [baseName file] = pathComponents file :=
  List.dropLast_concat_getLast (List.splitOn_ne_nil '/' file.toList)

theorem infix_path_iff {part : List Char} (h : '/' ∉ part) (file : String) :
    part <:+: file.toList ↔
      (∃ name ∈ directoryNames file, part <:+: name) ∨ part <:+: baseName file := by
  have hcomponents : file.toList.splitOn '/' = directoryNames file ++ [baseName file] :=
    (directoryNames_concat_baseName file).symm
  rw [infix_iff_mem_splitOn h, hcomponents]
  simp [or_and_right, exists_or]

theorem isStdlibPath_iff_exists (file : String) :
    isStdlibPath file = true ↔
      (∃ name ∈ directoryNames file, "asyncio".toList <:+ name) ∨
        ∃ part ∈ ["selectors.py".toList, "threading.py".toList],
          (∃ name ∈ directoryNames file, part <:+: name) ∨ part <:+: baseName file := by
  have hdirectory : "asyncio/".toList <:+: file.toList ↔
      ∃ name ∈ directoryNames file, "asyncio".toList <:+ name := by
    have hpart : "asyncio/".toList = "asyncio".toList ++ ['/'] := by decide
    rw [hpart]
    exact concat_infix_iff_mem_splitOn (by decide) file.toList
  have hselectors := @infix_path_iff "selectors.py".toList (by decide) file
  have hthreading := @infix_path_iff "threading.py".toList (by decide) file
  simp only [isStdlibPath, stdlibFramePrefixes, pyContains, List.any_cons, List.any_nil,
    Bool.or_false, Bool.or_eq_true, decide_eq_true_eq, hdirectory, hselectors, hthreading,
    List.mem_cons, List.not_mem_nil, or_false, exists_eq_or_imp, exists_eq_left]

theorem isInternalPath_iff (file : String) :
    isInternalPath file = true ↔
      "asyncio".toList ∈ directoryNames file ∨
        baseName file ∈ ["selectors.py".toList, "threading.py".toList] := by
  simp only [isInternalPath, Bool.or_eq_true, List.contains_iff_mem]

/-- The test finds the paths of the event loop and those with a lookalike. -/
theorem isStdlibPath_iff (file : String) :
    isStdlibPath file = true ↔ isInternalPath file = true ∨ HasLookalike file := by
  rw [isStdlibPath_iff_exists, isInternalPath_iff]
  constructor
  · rintro (⟨name, hname, hsuffix⟩ | ⟨part, hpart, hfound⟩)
    · by_cases hsame : name = "asyncio".toList
      · exact Or.inl (Or.inl (hsame ▸ hname))
      · exact Or.inr (Or.inl ⟨name, hname, hsuffix, hsame⟩)
    · rcases hfound with hdirectory | hbase
      · exact Or.inr (Or.inr ⟨part, hpart, Or.inl hdirectory⟩)
      · by_cases hsame : baseName file = part
        · exact Or.inl (Or.inr (hsame ▸ hpart))
        · exact Or.inr (Or.inr ⟨part, hpart, Or.inr ⟨hbase, hsame⟩⟩)
  · rintro ((hname | hbase) | (⟨name, hname, hsuffix, -⟩ | ⟨part, hpart, hfound⟩))
    · exact Or.inl ⟨_, hname, List.suffix_rfl⟩
    · exact Or.inr ⟨_, hbase, Or.inr List.infix_rfl⟩
    · exact Or.inl ⟨name, hname, hsuffix⟩
    · refine Or.inr ⟨part, hpart, ?_⟩
      rcases hfound with hdirectory | ⟨hbase, -⟩
      · exact Or.inl hdirectory
      · exact Or.inr hbase

/-- The test is right on a path. -/
theorem isStdlibPath_eq_isInternalPath_iff (file : String) :
    isStdlibPath file = isInternalPath file ↔
      isInternalPath file = true ∨ ¬ HasLookalike file := by
  rw [Bool.eq_iff_iff, isStdlibPath_iff]
  tauto

/-! ## The test on stacks -/

theorem signatureForStacks_singleton (host : ReporterHost) (stack : PythonStackTrace) :
    signatureForStacks host (some [stack.frames.map (StackFrame.record host)]) =
      signatureOf host (Correlator.selected stack) := by
  simp only [signatureForStacks, Option.getD_some, selectedFrames_map_record]
  cases Correlator.selected stack with
  | nil => rfl
  | cons first rest =>
      simp only [List.map_cons, List.map_map]
      rfl

theorem treatment_eq (host : ReporterHost) (stack : PythonStackTrace) :
    treatment host stack = treatmentBy (fun file => !isStdlibPath file) host stack := by
  have hchosen : framesAt (fun file => !isStdlibPath file) stack = Correlator.selected stack :=
    rfl
  have hleaf : Correlator.leafKey stack = keyOf (Correlator.selected stack) :=
    Correlator.leafKey_eq_getLast? stack
  have hshown : ConsoleSink.framesToShow (stack.frames.map (StackFrame.record host)) =
      (Correlator.selected stack).map (StackFrame.record host) :=
    selectedFrames_map_record host stack
  have hinformative : Correlator.isInformative stack =
      decide (stack.frames.filter StackFrame.isApplication ≠ [] ∧
        (stack.frames.filter StackFrame.isApplication).map StackFrame.function ≠
          ["<module>"]) := by
    unfold Correlator.isInformative
    rcases stack.frames.filter StackFrame.isApplication with _ | ⟨first, _ | ⟨second, rest⟩⟩
    · simp
    · simp [bne, beq_eq_decide]
    · simp
  unfold treatment treatmentBy
  rw [hleaf, hshown, hinformative, signatureForStacks_singleton, hchosen]
  rfl

theorem treatmentBy_congr (host : ReporterHost) {stack : PythonStackTrace}
    {isApplication isApplication' : String → Bool}
    (h : ∀ frame ∈ stack.frames, isApplication frame.file = isApplication' frame.file) :
    treatmentBy isApplication host stack = treatmentBy isApplication' host stack := by
  have hfilter : stack.frames.filter (fun frame => isApplication frame.file) =
      stack.frames.filter fun frame => isApplication' frame.file :=
    List.filter_congr h
  simp only [treatmentBy, framesAt, hfilter]

/-- A single frame is informative exactly if its path is the application's. -/
theorem treatmentBy_singleton_informative (isApplication : String → Bool) (host : ReporterHost)
    (file : String) :
    (treatmentBy isApplication host
      { threadId := 1, threadName := "", frames := [⟨"run", file, 1⟩] }).informative =
      isApplication file := by
  cases h : isApplication file with
  | true => simp [treatmentBy, h]
  | false => simp [treatmentBy, h]

/-- On the stacks over some paths the four places keep and drop the frames that they are
to, exactly if each of the paths that has a lookalike belongs to the event loop anyway. -/
theorem treatment_eq_iff (host : ReporterHost) (files : Set String) :
    (∀ stack : PythonStackTrace, (∀ frame ∈ stack.frames, frame.file ∈ files) →
        treatment host stack = treatmentBy (fun file => !isInternalPath file) host stack) ↔
      ∀ file ∈ files, isInternalPath file = true ∨ ¬ HasLookalike file := by
  constructor
  · intro h file hfile
    rw [← isStdlibPath_eq_isInternalPath_iff]
    have hstack := h { threadId := 1, threadName := "", frames := [⟨"run", file, 1⟩] }
      (by simpa using hfile)
    have hinformative := congrArg Treatment.informative hstack
    rw [treatment_eq, treatmentBy_singleton_informative,
      treatmentBy_singleton_informative] at hinformative
    exact Bool.not_inj hinformative
  · intro h stack hfiles
    rw [treatment_eq]
    apply treatmentBy_congr
    intro frame hframe
    have hsame := (isStdlibPath_eq_isInternalPath_iff frame.file).mpr
      (h frame.file (hfiles frame hframe))
    rw [hsame]

/-! ## A file that looks like one of the event loop -/

/-- The frames of a lookalike are dropped by all four places. -/
theorem treatment_of_lookalike (host : ReporterHost) {app file : String}
    (happ : isStdlibPath app = false) (hfile : HasLookalike file) (function : String)
    (line line' threadId : ℤ) (threadName : String) :
    let stack : PythonStackTrace :=
      { threadId := threadId, threadName := threadName,
        frames := [⟨"<module>", app, line⟩, ⟨function, file, line'⟩] }
    treatment host stack =
      { leafKey := .ok ("<module>", app)
        informative := false
        shown := [StackFrame.record host ⟨"<module>", app, line⟩]
        signature := signatureOf host [⟨"<module>", app, line⟩] } := by
  intro stack
  have hstdlib : isStdlibPath file = true := (isStdlibPath_iff file).mpr (Or.inr hfile)
  rw [treatment_eq]
  simp [stack, treatmentBy, framesAt, keyOf, happ, hstdlib]

/-- A worker in a file called `job_threading.py`. -/
def workerStack : PythonStackTrace where
  threadId := 1
  threadName := "main"
  frames := [⟨"<module>", "app.py", 3⟩, ⟨"resize", "job_threading.py", 40⟩]

/-- The worker's frame is not shown, not the key, does not make its stack informative and
is not in the signature. -/
theorem exists_application_frame_dropped :
    ∃ stack : PythonStackTrace, ∃ frame ∈ stack.frames,
      isInternalPath frame.file = false ∧ stack.frames.getLast? = some frame ∧
        ∀ host,
          StackFrame.record host frame ∉
              ConsoleSink.framesToShow (stack.frames.map (StackFrame.record host)) ∧
            Correlator.leafKey stack ≠ .ok (frame.function, frame.file) ∧
            Correlator.isInformative stack = false ∧
            signatureForStacks host (some [stack.frames.map (StackFrame.record host)]) =
              signatureForStacks host
                (some [stack.frames.dropLast.map (StackFrame.record host)]) := by
  refine ⟨workerStack, ⟨"resize", "job_threading.py", 40⟩, by decide, by decide, by decide, ?_⟩
  intro host
  have hlookalike : HasLookalike "job_threading.py" := by
    apply Or.inr
    exact ⟨"threading.py".toList, by decide, Or.inr ⟨by decide, by decide⟩⟩
  have happ : isStdlibPath "app.py" = false := by decide
  have htreatment := treatment_of_lookalike host happ hlookalike "resize" 3 40 1 "main"
  have hshown := congrArg Treatment.shown htreatment
  have hkey := congrArg Treatment.leafKey htreatment
  have hinformative := congrArg Treatment.informative htreatment
  have hsignature := congrArg Treatment.signature htreatment
  have hmodule := signatureForStacks_singleton host
    { workerStack with frames := workerStack.frames.dropLast }
  refine ⟨?_, ?_, hinformative, hsignature.trans hmodule.symm⟩
  · change ConsoleSink.framesToShow (workerStack.frames.map (StackFrame.record host)) = _ at hshown
    rw [hshown]
    simp [StackFrame.record]
  · change Correlator.leafKey workerStack = _ at hkey
    rw [hkey]
    simp

end Blocksnoop
