import Blocksnoop.Support.Paths
import Blocksnoop.Native.Sidecar

/-!
# What the collector looks for

`tracepoint_exists` and `default_bpf_object` of `native/blocksnoop_ebpf.c`.  A text that
does not fit into its buffer is not used.
-/

namespace Blocksnoop.Native

open Blocksnoop.Support

/-- `snprintf` into a buffer of `PATH_MAX` bytes writes the whole text. -/
def fits (text : String) : Bool :=
  text.utf8ByteSize < pathMax

def tracepointRoots : List String :=
  ["/sys/kernel/tracing/events/syscalls", "/sys/kernel/debug/tracing/events/syscalls"]

/-- The format file of one side of a system call. -/
def formatFile (side root name : String) : String :=
  root ++ side ++ name ++ "/format"

/-- The loop of `tracepoint_exists` over the roots. -/
def tracepointExistsIn (view : ProcessView) (name : String) : List String → Bool
  | [] => false
  | root :: roots =>
      if !fits (formatFile "/sys_enter_" root name) then tracepointExistsIn view name roots
      else if view.canRead (formatFile "/sys_enter_" root name) then
        -- the second root is not tried once the first has the entry
        fits (formatFile "/sys_exit_" root name) && view.canRead (formatFile "/sys_exit_" root name)
      else tracepointExistsIn view name roots

def tracepointExists (view : ProcessView) (name : String) : Bool :=
  tracepointExistsIn view name tracepointRoots

/-- The text before the last slash. -/
def beforeLastSlash (path : String) : Option String :=
  if '/' ∈ path.toList then some (String.ofList (cutLastSlash path).1.dropLast) else none

/-- The directory of the executable: of the link `/proc/self/exe`, or of `argv[0]`
where the link cannot be read. -/
def executableDirectory (link : Option String) (argv0 : String) : Option String :=
  match link with
  | some executable => beforeLastSlash executable
  | none => if fits argv0 then beforeLastSlash argv0 else none

def objectSuffixes : List String :=
  ["/../blocksnoop/bpf/core_blockdetect.bpf.o",
    "/../bpf/core_blockdetect.bpf.o",
    "/core_blockdetect.bpf.o"]

/-- The loop over the suffixes. -/
def findObject (view : ProcessView) (directory : String) : List String → Option String
  | [] => none
  | suffix :: suffixes =>
      if fits (directory ++ suffix) && view.canRead (directory ++ suffix) then
        some (directory ++ suffix)
      else findObject view directory suffixes

/-- The search that an empty or missing variable leads to. -/
def searchObject (view : ProcessView) (link : Option String) (argv0 : String) : Option String :=
  (executableDirectory link argv0).bind fun directory => findObject view directory objectSuffixes

def defaultBpfObject (view : ProcessView) (link : Option String) (argv0 : String) :
    Option String :=
  match view.getenv "BLOCKSNOOP_BPF_OBJECT" with
  | none => searchObject view link argv0
  | some configured =>
      if configured = "" then searchObject view link argv0
      else if fits configured then some configured
      else none

section

variable {view : ProcessView}

theorem fits_of_canRead {path : String} (h : view.canRead path = true) : fits path = true :=
  decide_eq_true (ProcessView.lt_pathMax_of_test h)

theorem formatFile_eq_append (side root name : String) :
    formatFile ("/" ++ side) root name = root ++ "/" ++ (side ++ name) ++ "/" ++ "format" := by
  unfold formatFile
  rw [← String.toList_inj]
  simp

/-- The first root decides as soon as it has the entry. -/
theorem tracepointExistsIn_cons (name root : String) (roots : List String) :
    tracepointExistsIn view name (root :: roots) =
      if view.canRead (formatFile "/sys_enter_" root name) then
        view.canRead (formatFile "/sys_exit_" root name)
      else tracepointExistsIn view name roots := by
  rw [tracepointExistsIn]
  cases hentered : view.canRead (formatFile "/sys_enter_" root name) with
  | false => simp
  | true =>
      rw [fits_of_canRead hentered]
      cases hexited : view.canRead (formatFile "/sys_exit_" root name) with
      | false => simp
      | true => simp [fits_of_canRead hexited]

theorem findObject_eq_find? (directory : String) (suffixes : List String) :
    findObject view directory suffixes = (suffixes.map (directory ++ ·)).find? view.canRead := by
  induction suffixes with
  | nil => rfl
  | cons suffix suffixes ih =>
      rw [findObject, List.map_cons, List.find?_cons, ih]
      cases hread : view.canRead (directory ++ suffix) with
      | false => simp
      | true => simp [fits_of_canRead hread]

theorem beforeLastSlash_append (directory name : String) (h : '/' ∉ name.toList) :
    beforeLastSlash (directory ++ "/" ++ name) = some directory := by
  have hlists : (directory ++ "/" ++ name).toList = directory.toList ++ '/' :: name.toList := by
    simp
  have hcut : (directory ++ "/" ++ name).toList.reverse.dropWhile (· != '/') =
      '/' :: directory.toList.reverse := by
    rw [hlists, List.reverse_append, List.reverse_cons, List.append_assoc,
      List.dropWhile_append_of_pos]
    · rfl
    · intro c hc
      have hmem := List.mem_reverse.mp hc
      simp only [bne_iff_ne]
      rintro rfl
      exact h hmem
  unfold beforeLastSlash cutLastSlash
  rw [if_pos (by simp), hcut, List.reverse_cons, List.reverse_reverse, List.dropLast_concat,
    String.ofList_toList]

end

end Blocksnoop.Native
