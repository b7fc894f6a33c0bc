import Blocksnoop.Support.FileSystem

/-!
# Paths in Python

`os.path`, `pathlib` and `shutil.which` over the files that a process sees.  A parsed path
has no null parts; its text leads to where the text it was parsed from does, unless that
one ends in a null part.
-/

namespace Blocksnoop.Support

/-- What a process sees of the machine. -/
structure ProcessView where
  files : FileSystem
  cwd : Location
  getenv : String → Option String

namespace ProcessView

variable (view : ProcessView)

def stat (path : String) : Except Errno FileNode :=
  view.files.stat view.cwd path

/-- What holds of the node that a path leads to. -/
def test (holds : FileNode → Bool) (path : String) : Bool :=
  match view.stat path with
  | .ok node => holds node
  | .error _ => false

/-- `access(path, R_OK) == 0` -/
def canRead (path : String) : Bool :=
  view.test FileNode.mayRead path

/-- `os.path.isdir(path)` -/
def isDir (path : String) : Bool :=
  view.test FileNode.isDirectory path

/-- A file that can be executed, as `shutil.which` looks for one. -/
def isProgram (path : String) : Bool :=
  view.test FileNode.mayExecute path && !view.isDir path

end ProcessView

section

variable {view : ProcessView}

theorem ProcessView.test_iff {holds : FileNode → Bool} {path : String} :
    view.test holds path = true ↔ ∃ node, view.stat path = .ok node ∧ holds node = true := by
  unfold test
  constructor
  · intro h
    split at h
    next node hnode => exact ⟨node, hnode, h⟩
    · cases h
  · rintro ⟨node, hnode, h⟩
    rw [hnode]
    exact h

/-- What can be tested has a name that fits. -/
theorem ProcessView.lt_pathMax_of_test {holds : FileNode → Bool} {path : String}
    (h : view.test holds path = true) : path.utf8ByteSize < pathMax := by
  obtain ⟨node, hnode, -⟩ := test_iff.mp h
  exact (FileSystem.fits_of_stat hnode).2

end

/-! ## `os.path` and `shutil` -/

/-- The text up to the last slash, with it, and the text behind it. -/
def cutLastSlash (path : String) : List Char × List Char :=
  ((path.toList.reverse.dropWhile (· != '/')).reverse,
    (path.toList.reverse.takeWhile (· != '/')).reverse)

/-- `os.path.split(path)` -/
def splitPath (path : String) : String × String :=
  let (head, tail) := cutLastSlash path
  (String.ofList
    (if head.all (· == '/') then head else (head.reverse.dropWhile (· == '/')).reverse),
    String.ofList tail)

/-- `os.path.join(path, name)` -/
def joinPath (path name : String) : String :=
  if isAbsolute name then name
  else if path = "" ∨ path.toList.getLast? = some '/' then path ++ name
  else path ++ "/" ++ name

/-- `shutil.which(cmd)`; `defaultPath` is searched where `PATH` is not set. -/
def ProcessView.which (view : ProcessView) (defaultPath cmd : String) : Option String :=
  let (dirname, file) := splitPath cmd
  let searchPath := (view.getenv "PATH").getD defaultPath
  let directories :=
    if dirname ≠ "" then [dirname]
    else if searchPath = "" then []
    else (searchPath.toList.splitOn ':').map String.ofList
  (directories.eraseDups.map fun directory => joinPath directory file).find? view.isProgram

/-! ## `pathlib` -/

inductive PathRoot where
  | relative
  | slash
  | doubleSlash
  deriving Repr, DecidableEq

def PathRoot.str : PathRoot → String
  | relative => ""
  | slash => "/"
  | doubleSlash => "//"

/-- A parsed path. -/
structure PurePath where
  root : PathRoot
  tail : List String
  isPart : ∀ part ∈ tail, isNull part = false ∧ '/' ∉ part.toList
  deriving DecidableEq

/-- Exactly two slashes in front are kept. -/
def pathRoot : List Char → PathRoot
  | '/' :: '/' :: '/' :: _ => .slash
  | '/' :: '/' :: _ => .doubleSlash
  | '/' :: _ => .slash
  | _ => .relative

namespace PurePath

/-- `Path(text)` -/
def parse (text : String) : PurePath where
  root := pathRoot text.toList
  tail := (pathParts text).filter fun part => !isNull part
  isPart := by
    intro part hpart
    obtain ⟨hmem, hnull⟩ := List.mem_filter.mp hpart
    exact ⟨by simpa using hnull, not_mem_of_mem_pathParts hmem⟩

/-- `path / text` with a text that has no slash in front. -/
def join (path : PurePath) (text : String) : PurePath where
  root := path.root
  tail := path.tail ++ (parse text).tail
  isPart := by
    intro part hpart
    rcases List.mem_append.mp hpart with hpath | htext
    · exact path.isPart part hpath
    · exact (parse text).isPart part htext

/-- `path.parent` -/
def parent (path : PurePath) : PurePath where
  root := path.root
  tail := path.tail.dropLast
  isPart := fun part hpart => path.isPart part (List.mem_of_mem_dropLast hpart)

/-- `path.with_name(name)` of a path with a name. -/
def withName (path : PurePath) (name : String) : PurePath :=
  path.parent.join name

/-- `str(path)` -/
def str (path : PurePath) : String :=
  if path.root = .relative ∧ path.tail = [] then "."
  else path.root.str ++ "/".intercalate path.tail

/-- `path.is_file()`, which raises what it does not expect. -/
def isFile (view : ProcessView) (path : PurePath) : Except Errno Bool :=
  match view.stat path.str with
  | .ok node => .ok node.isRegular
  | .error e => if e ∈ [.noEntry, .notDirectory, .loop] then .ok false else .error e

theorem pathParts_str {path : PurePath} (h : path.tail ≠ []) :
    ∃ front, (∀ part ∈ front, part = "") ∧ pathParts path.str = front ++ path.tail ∧
      (isAbsolute path.str = true ↔ path.root ≠ .relative) := by
  have htail : pathParts ("/".intercalate path.tail) = path.tail :=
    pathParts_intercalate h fun part hpart => (path.isPart part hpart).2
  have hempty : pathParts "" = [""] := pathParts_of_not_mem (by simp)
  unfold str
  rw [if_neg fun hrelative => h hrelative.2]
  cases path.root with
  | relative =>
      refine ⟨[], by simp, by simp [PathRoot.str, htail], ?_⟩
      simp only [PathRoot.str, String.empty_append, ne_eq, not_true_eq_false, iff_false]
      intro habsolute
      obtain ⟨rest, hrest⟩ := exists_of_isAbsolute habsolute
      rw [hrest, pathParts_append, hempty] at htail
      have hpart := path.isPart "" (by simp [← htail])
      simp [isNull] at hpart
  | slash =>
      have hslash : "/" ++ "/".intercalate path.tail = "" ++ "/" ++ "/".intercalate path.tail := by
        simp
      refine ⟨[""], by simp, ?_, by simp [isAbsolute, PathRoot.str]⟩
      rw [PathRoot.str, hslash, pathParts_append, hempty, htail]
  | doubleSlash =>
      have hslash : "//" ++ "/".intercalate path.tail =
          "" ++ "/" ++ "" ++ "/" ++ "/".intercalate path.tail := by
        rw [← String.toList_inj]
        simp
      refine ⟨["", ""], by simp, ?_, by simp [isAbsolute, PathRoot.str]⟩
      rw [PathRoot.str, hslash, pathParts_append, pathParts_append, hempty, htail]
      rfl

/-- The text of a parsed path has its parts as names. -/
theorem pathNames_str {path : PurePath} (h : path.tail ≠ []) : pathNames path.str = path.tail := by
  obtain ⟨front, hfront, hparts, -⟩ := pathParts_str h
  have hlast : isNull ((pathParts path.str).getLastD "") = false := by
    rw [hparts, List.getLastD_eq_getLast?, List.getLast?_append_of_ne_nil _ h,
      List.getLast?_eq_some_getLast h]
    exact (path.isPart _ (List.getLast_mem h)).1
  rw [pathNames_eq_filter hlast, hparts, List.filter_append,
    List.filter_eq_nil_iff.mpr fun part hpart => by simp [hfront part hpart, isNull],
    List.nil_append]
  exact List.filter_eq_self.mpr fun part hpart => by simp [(path.isPart part hpart).1]

theorem pathRoot_ne_relative_iff (cs : List Char) :
    pathRoot cs ≠ .relative ↔ cs.head? = some '/' := by
  unfold pathRoot
  split
  · simp
  · simp
  · simp
  next hcs =>
    simp only [ne_eq, not_true_eq_false, false_iff]
    intro hhead
    obtain ⟨rest, hrest⟩ := List.head?_eq_some_iff.mp hhead
    exact hcs rest hrest

/-- A text that does not end in a null part leads to where its parsed path does. -/
theorem stat_str_parse {view : ProcessView} {text : String} (hfits : text.utf8ByteSize < pathMax)
    (hstr : (parse text).str.utf8ByteSize < pathMax)
    (hlast : isNull ((pathParts text).getLastD "") = false) :
    view.stat (parse text).str = view.stat text := by
  have hnames : pathNames text = (parse text).tail := pathNames_eq_filter hlast
  have htail : (parse text).tail ≠ [] := by
    rw [← hnames, pathNames]
    simp
  obtain ⟨front, -, -, habsolute⟩ := pathParts_str htail
  have habsolute : isAbsolute (parse text).str = isAbsolute text := by
    rw [Bool.eq_iff_iff, habsolute]
    exact (pathRoot_ne_relative_iff text.toList).trans decide_eq_true_iff.symm
  have hne : (parse text).str ≠ "" := by
    intro hempty
    have hparts := pathNames_str htail
    rw [hempty] at hparts
    have hpart := (parse text).isPart "" (by rw [← hparts]; decide)
    simp [isNull] at hpart
  have htext : text ≠ "" := by
    rintro rfl
    exact absurd hlast (by decide)
  apply FileSystem.stat_congr ⟨hne, hstr⟩ ⟨htext, hfits⟩ habsolute
  rw [pathNames_str htail, hnames]

end PurePath

end Blocksnoop.Support
