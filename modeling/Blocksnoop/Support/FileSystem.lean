import Blocksnoop.Support.Components
import Mathlib.Tactic

/-!
# A file system with symbolic links

A location is the list of names from the root to a node.  A path is a text, walked name by
name; behind a link the walk goes on with the target of the link, over at most so many
links.  What a node lets its user do is part of the state.
-/

namespace Blocksnoop.Support

abbrev Location := List String

inductive Errno where
  | noEntry
  | notDirectory
  | access
  | loop
  | nameTooLong
  deriving Repr, DecidableEq

/-- What a node is, and what its user may do with it. -/
inductive FileNode where
  | regular (readable executable : Bool)
  | special (readable executable : Bool)
  | directory (readable searchable : Bool)
  | symlink (target : String)
  deriving Repr, DecidableEq

namespace FileNode

def isRegular : FileNode → Bool
  | regular _ _ => true
  | _ => false

def isDirectory : FileNode → Bool
  | directory _ _ => true
  | _ => false

def mayRead : FileNode → Bool
  | regular readable _ => readable
  | special readable _ => readable
  | directory readable _ => readable
  | symlink _ => false

def mayExecute : FileNode → Bool
  | regular _ executable => executable
  | special _ executable => executable
  | directory _ searchable => searchable
  | symlink _ => false

end FileNode

/-- A name that a directory can have an entry for. -/
def IsFileName (name : String) : Prop :=
  name ≠ "" ∧ name ≠ "." ∧ name ≠ ".." ∧ '/' ∉ name.toList

instance (name : String) : Decidable (IsFileName name) :=
  inferInstanceAs (Decidable (_ ∧ _ ∧ _ ∧ _))

/-- What there is at each location. -/
structure FileSystem where
  node : Location → Option FileNode
  isFileName : ∀ location, node location ≠ none → ∀ name ∈ location, IsFileName name

/-- Named nodes below each other. -/
inductive FileTree where
  | leaf (node : FileNode)
  | branch (readable searchable : Bool) (entries : List (String × FileTree))

namespace FileTree

def top : FileTree → FileNode
  | leaf node => node
  | branch readable searchable _ => .directory readable searchable

def find : FileTree → Location → Option FileNode
  | tree, [] => some tree.top
  | leaf _, _ :: _ => none
  | branch _ _ entries, name :: names =>
      if IsFileName name then (entries.lookup name).bind fun tree => find tree names else none

theorem isFileName_of_find {tree : FileTree} {location : Location}
    (h : tree.find location ≠ none) : ∀ name ∈ location, IsFileName name := by
  induction location generalizing tree with
  | nil => simp
  | cons name names ih =>
      cases tree with
      | leaf node => exact absurd rfl h
      | branch readable searchable entries =>
          rw [find] at h
          split_ifs at h with hname
          · cases hlookup : entries.lookup name with
            | none => simp [hlookup] at h
            | some below =>
                rw [hlookup, Option.bind_some] at h
                exact List.forall_mem_cons.mpr ⟨hname, ih h⟩
          · exact absurd rfl h

def toFileSystem (tree : FileTree) : FileSystem where
  node := tree.find
  isFileName _ := isFileName_of_find

end FileTree

/-! ## Paths -/

/-- `PATH_MAX` -/
def pathMax : ℕ := 4096

/-- `NAME_MAX` -/
def nameMax : ℕ := 255

/-- What is said of a name that a directory has no entry for. -/
def missing (name : String) : Errno :=
  if nameMax < name.utf8ByteSize then .nameTooLong else .noEntry

/-- The parts of a path between its slashes. -/
def pathParts (path : String) : List String :=
  (path.toList.splitOn '/').map String.ofList

/-- A part that stays where it is. -/
def isNull (part : String) : Bool :=
  part = "" || part = "."

/-- The names that are walked: a null part counts at the end only, where it asks for a
directory. -/
def pathNames (path : String) : List String :=
  (pathParts path).dropLast.filter (fun part => !isNull part) ++ [(pathParts path).getLastD ""]

def isAbsolute (path : String) : Bool :=
  path.toList.head? = some '/'

theorem pathParts_ne_nil (path : String) : pathParts path ≠ [] := by
  simp [pathParts]

theorem pathParts_append (first second : String) :
    pathParts (first ++ "/" ++ second) = pathParts first ++ pathParts second := by
  have hlists : (first ++ "/" ++ second).toList = first.toList ++ '/' :: second.toList := by
    simp
  unfold pathParts List.splitOn
  rw [hlists, List.splitOnP_append_cons _ _ (by simp), List.map_append]

/-- A part without a slash is the only one of its text. -/
theorem pathParts_of_not_mem {name : String} (h : '/' ∉ name.toList) : pathParts name = [name] := by
  unfold pathParts
  rw [List.splitOn_eq_singleton h, List.map_singleton, String.ofList_toList]

theorem exists_of_isAbsolute {path : String} (h : isAbsolute path = true) :
    ∃ rest, path = "" ++ "/" ++ rest := by
  obtain ⟨cs, hcs⟩ := List.head?_eq_some_iff.mp (of_decide_eq_true h)
  refine ⟨String.ofList cs, ?_⟩
  rw [← String.toList_inj, hcs]
  simp

theorem not_mem_of_mem_pathParts {path part : String} (h : part ∈ pathParts path) :
    '/' ∉ part.toList := by
  obtain ⟨cs, hcs, rfl⟩ := List.mem_map.mp h
  rw [String.toList_ofList]
  exact not_mem_of_mem_splitOn hcs

theorem pathNames_append (first second : String) :
    pathNames (first ++ "/" ++ second) =
      (pathParts first).filter (fun part => !isNull part) ++ pathNames second := by
  unfold pathNames
  have hsecond := pathParts_ne_nil second
  rw [pathParts_append, List.dropLast_append_of_ne_nil hsecond, List.filter_append,
    List.getLastD_eq_getLast?, List.getLastD_eq_getLast?, List.getLast?_append_of_ne_nil _ hsecond,
    List.append_assoc]

theorem pathNames_eq_filter {path : String}
    (h : isNull ((pathParts path).getLastD "") = false) :
    pathNames path = (pathParts path).filter fun part => !isNull part := by
  have hparts := pathParts_ne_nil path
  have hlast : (pathParts path).getLastD "" = (pathParts path).getLast hparts := by
    rw [List.getLastD_eq_getLast?, List.getLast?_eq_some_getLast hparts, Option.getD_some]
  unfold pathNames
  rw [hlast] at h ⊢
  conv_rhs => rw [← List.dropLast_append_getLast hparts]
  rw [List.filter_append, List.filter_singleton, h]
  rfl

/-- The parts of a text that is put together from parts. -/
theorem pathParts_intercalate {parts : List String} (hne : parts ≠ [])
    (hslash : ∀ part ∈ parts, '/' ∉ part.toList) : pathParts ("/".intercalate parts) = parts := by
  have hlists : ("/".intercalate parts).toList = ['/'].intercalate (parts.map String.toList) := by
    rw [String.toList_intercalate]
    rfl
  have hmem : ∀ part ∈ parts.map String.toList, '/' ∉ part := by
    intro part hpart
    obtain ⟨text, htext, rfl⟩ := List.mem_map.mp hpart
    exact hslash text htext
  unfold pathParts
  rw [hlists, List.splitOn_intercalate '/' hmem (by simpa using hne), List.map_map]
  simp [Function.comp_def]

/-! ## Walks -/

namespace FileSystem

variable (files : FileSystem)

/-- A walk from a location; `follow` goes on behind a link. -/
def walkWith (follow : Location → List String → Except Errno Location) :
    Location → List String → Except Errno Location
  | location, [] => .ok location
  | location, name :: names =>
      match files.node location with
      | some (.directory _ searchable) =>
          if name = "" then walkWith follow location names
          else if !searchable then .error .access
          else if name = "." then walkWith follow location names
          else if name = ".." then walkWith follow location.dropLast names
          else
            match files.node (location ++ [name]) with
            | none => .error (missing name)
            | some (.symlink target) =>
                follow (if isAbsolute target then [] else location) (pathNames target ++ names)
            | some _ => walkWith follow (location ++ [name]) names
      | some _ => .error .notDirectory
      | none => .error .noEntry

/-- A walk over at most so many links. -/
def walk : ℕ → Location → List String → Except Errno Location
  | 0 => files.walkWith fun _ _ => .error .loop
  | links + 1 => files.walkWith (walk links)

/-- The location that a path leads to. -/
def resolve (cwd : Location) (path : String) : Except Errno Location :=
  if path = "" then .error .noEntry
  else if pathMax ≤ path.utf8ByteSize then .error .nameTooLong
  else files.walk 40 (if isAbsolute path then [] else cwd) (pathNames path)

/-- `stat(path)` -/
def stat (cwd : Location) (path : String) : Except Errno FileNode :=
  match files.resolve cwd path with
  | .error e => .error e
  | .ok location =>
      match files.node location with
      | none => .error .noEntry
      | some node => .ok node

variable {files}

theorem stat_eq_ok_iff {cwd : Location} {path : String} {node : FileNode} :
    files.stat cwd path = .ok node ↔
      ∃ location, files.resolve cwd path = .ok location ∧ files.node location = some node := by
  unfold stat
  constructor
  · intro h
    cases hresolve : files.resolve cwd path with
    | error e => simp [hresolve] at h
    | ok location =>
        cases hnode : files.node location with
        | none => simp [hresolve, hnode] at h
        | some other => exact ⟨location, rfl, by simpa [hresolve, hnode] using h⟩
  · rintro ⟨location, hresolve, hnode⟩
    simp [hresolve, hnode]

/-- What a path leads to depends on its walk. -/
theorem stat_congr {cwd : Location} {path other : String}
    (hpath : path ≠ "" ∧ path.utf8ByteSize < pathMax)
    (hother : other ≠ "" ∧ other.utf8ByteSize < pathMax)
    (habsolute : isAbsolute path = isAbsolute other)
    (hwalk : files.walk 40 (if isAbsolute other then [] else cwd) (pathNames path) =
      files.walk 40 (if isAbsolute other then [] else cwd) (pathNames other)) :
    files.stat cwd path = files.stat cwd other := by
  unfold stat resolve
  rw [if_neg hpath.1, if_neg hother.1, if_neg (Nat.not_le.mpr hpath.2),
    if_neg (Nat.not_le.mpr hother.2), habsolute, hwalk]

/-- The ways in which a walk goes on behind a name. -/
theorem walkWith_cons_cases {follow : Location → List String → Except Errno Location}
    {location reached : Location} {name : String} {names : List String}
    (h : files.walkWith follow location (name :: names) = .ok reached) :
    ∃ readable searchable, files.node location = some (.directory readable searchable) ∧
      ((isNull name = true ∧ files.walkWith follow location names = .ok reached) ∨
        (name = ".." ∧ files.walkWith follow location.dropLast names = .ok reached) ∨
        (isNull name = false ∧ ∃ target, files.node (location ++ [name]) = some (.symlink target) ∧
          follow (if isAbsolute target then [] else location) (pathNames target ++ names) =
            .ok reached) ∨
        (isNull name = false ∧ name ≠ ".." ∧ searchable = true ∧
          files.walkWith follow (location ++ [name]) names = .ok reached)) := by
  unfold walkWith at h
  split at h
  next readable searchable hnode =>
    refine ⟨readable, searchable, hnode, ?_⟩
    by_cases hempty : name = ""
    · rw [if_pos hempty] at h
      exact Or.inl ⟨by simp [isNull, hempty], h⟩
    rw [if_neg hempty] at h
    cases searchable with
    | false => simp at h
    | true =>
        rw [if_neg (by simp)] at h
        by_cases hdot : name = "."
        · rw [if_pos hdot] at h
          exact Or.inl ⟨by simp [isNull, hdot], h⟩
        rw [if_neg hdot] at h
        have hnull : isNull name = false := by simp [isNull, hempty, hdot]
        by_cases hparent : name = ".."
        · rw [if_pos hparent] at h
          exact Or.inr (Or.inl ⟨hparent, h⟩)
        rw [if_neg hparent] at h
        split at h
        · cases h
        next target htarget => exact Or.inr (Or.inr (Or.inl ⟨hnull, target, htarget, h⟩))
        · exact Or.inr (Or.inr (Or.inr ⟨hnull, hparent, rfl, h⟩))
  · cases h
  · cases h

theorem walkWith_concat_null {follow : Location → List String → Except Errno Location}
    {part : String} (hpart : isNull part = true)
    (hfollow : ∀ location names reached, follow location (names ++ [part]) = .ok reached →
      ∃ readable searchable, files.node reached = some (.directory readable searchable))
    {location reached : Location} {names : List String}
    (h : files.walkWith follow location (names ++ [part]) = .ok reached) :
    ∃ readable searchable, files.node reached = some (.directory readable searchable) := by
  induction names generalizing location with
  | nil =>
      obtain ⟨readable, searchable, hnode, hcases⟩ := walkWith_cons_cases h
      rcases hcases with ⟨-, h⟩ | ⟨rfl, -⟩ | ⟨hnull, -⟩ | ⟨hnull, -⟩
      · cases h
        exact ⟨readable, searchable, hnode⟩
      · simp [isNull] at hpart
      · simp [hpart] at hnull
      · simp [hpart] at hnull
  | cons name names ih =>
      rw [List.cons_append] at h
      obtain ⟨readable, searchable, hnode, hcases⟩ := walkWith_cons_cases h
      rcases hcases with ⟨-, h⟩ | ⟨-, h⟩ | ⟨-, target, -, h⟩ | ⟨-, -, -, h⟩
      · exact ih h
      · exact ih h
      · rw [← List.append_assoc] at h
        exact hfollow _ _ _ h
      · exact ih h

/-- A walk that ends in a null part ends in a directory. -/
theorem walk_concat_null {links : ℕ} {part : String} (hpart : isNull part = true)
    {location reached : Location} {names : List String}
    (h : files.walk links location (names ++ [part]) = .ok reached) :
    ∃ readable searchable, files.node reached = some (.directory readable searchable) := by
  induction links generalizing location names reached with
  | zero => exact walkWith_concat_null hpart (fun _ _ _ h => by cases h) h
  | succ links ih => exact walkWith_concat_null hpart (fun _ _ _ h => ih h) h

/-- A path to what is no directory does not end in a null part. -/
theorem isNull_eq_false_of_stat {cwd : Location} {path : String} {node : FileNode}
    (h : files.stat cwd path = .ok node) (hnode : node.isDirectory = false) :
    isNull ((pathParts path).getLastD "") = false := by
  obtain ⟨location, hresolve, hlocation⟩ := stat_eq_ok_iff.mp h
  by_contra hnull
  unfold resolve at hresolve
  split_ifs at hresolve
  all_goals
    obtain ⟨readable, searchable, hdirectory⟩ :=
      walk_concat_null (by simpa using hnull) hresolve
    rw [hdirectory] at hlocation
    cases hlocation
    simp [FileNode.isDirectory] at hnode

theorem fits_of_stat {cwd : Location} {path : String} {node : FileNode}
    (h : files.stat cwd path = .ok node) : path ≠ "" ∧ path.utf8ByteSize < pathMax := by
  obtain ⟨location, hresolve, -⟩ := stat_eq_ok_iff.mp h
  unfold resolve at hresolve
  split_ifs at hresolve with hempty hlong
  all_goals exact ⟨hempty, by omega⟩

/-- A walk that goes on behind a front part has walked the front part. -/
theorem exists_walkWith_of_append {follow : Location → List String → Except Errno Location}
    {location reached : Location} {front rest : List String}
    (hfollow : ∀ location front, follow location (front ++ rest) = .ok reached →
      ∃ middle links, follow location front = .ok middle ∧
        files.walk links middle rest = .ok reached)
    (links : ℕ) (hlinks : files.walk links = files.walkWith follow)
    (h : files.walkWith follow location (front ++ rest) = .ok reached) :
    ∃ middle links, files.walkWith follow location front = .ok middle ∧
      files.walk links middle rest = .ok reached := by
  induction front generalizing location with
  | nil => exact ⟨location, links, rfl, by rw [hlinks]; exact h⟩
  | cons name front ih =>
      rw [List.cons_append, walkWith] at h
      rw [walkWith]
      split at h
      next readable searchable hnode =>
        split_ifs at h ⊢ with hempty hsearchable hdot hparent
        · exact ih h
        · exact ih h
        · exact ih h
        · split at h
          · cases h
          next target htarget =>
            rw [← List.append_assoc] at h
            exact hfollow _ _ h
          · exact ih h
      · cases h
      · cases h

theorem exists_walk_of_append {links : ℕ} {location reached : Location}
    {front rest : List String} (h : files.walk links location (front ++ rest) = .ok reached) :
    ∃ middle links', files.walk links location front = .ok middle ∧
      files.walk links' middle rest = .ok reached := by
  induction links generalizing location front with
  | zero => exact exists_walkWith_of_append (fun _ _ h => by cases h) 0 rfl h
  | succ links ih =>
      exact exists_walkWith_of_append (fun _ _ h => ih h) (links + 1) rfl h

/-- What stands behind a path stands in a directory. -/
theorem exists_stat_of_append {cwd : Location} {front name : String} {node : FileNode}
    (h : files.stat cwd (front ++ "/" ++ name) = .ok node) (hname : '/' ∉ name.toList)
    (hlast : isNull ((pathParts front).getLastD "") = false) :
    ∃ readable searchable, files.stat cwd front = .ok (.directory readable searchable) := by
  have hne : front ≠ "" := by
    rintro rfl
    exact absurd hlast (by decide)
  have hnames : pathNames (front ++ "/" ++ name) = pathNames front ++ [name] := by
    have hsingle : pathNames name = [name] := by
      unfold pathNames
      rw [pathParts_of_not_mem hname]
      rfl
    rw [pathNames_append, hsingle, pathNames_eq_filter hlast]
  have habsolute : isAbsolute (front ++ "/" ++ name) = isAbsolute front := by
    obtain ⟨c, cs, hfront⟩ := List.exists_cons_of_ne_nil
      (fun hnil => hne (String.toList_inj.mp (hnil.trans (by simp))) : front.toList ≠ [])
    simp [isAbsolute, hfront]
  have hfits : front.utf8ByteSize < pathMax := by
    have hlong := (fits_of_stat h).2
    rw [String.utf8ByteSize_append, String.utf8ByteSize_append] at hlong
    omega
  obtain ⟨location, hresolve, -⟩ := stat_eq_ok_iff.mp h
  unfold resolve at hresolve
  rw [if_neg (fits_of_stat h).1, if_neg (Nat.not_le.mpr (fits_of_stat h).2), habsolute,
    hnames] at hresolve
  obtain ⟨middle, links, hmiddle, hrest⟩ := exists_walk_of_append hresolve
  have hdirectory : ∃ readable searchable,
      files.node middle = some (.directory readable searchable) := by
    cases links with
    | zero =>
        obtain ⟨readable, searchable, hnode, -⟩ := walkWith_cons_cases hrest
        exact ⟨readable, searchable, hnode⟩
    | succ links =>
        obtain ⟨readable, searchable, hnode, -⟩ := walkWith_cons_cases hrest
        exact ⟨readable, searchable, hnode⟩
  obtain ⟨readable, searchable, hdirectory⟩ := hdirectory
  refine ⟨readable, searchable, stat_eq_ok_iff.mpr ⟨middle, ?_, hdirectory⟩⟩
  unfold resolve
  rw [if_neg hne, if_neg (Nat.not_le.mpr hfits), hmiddle]

/-! ### Walks without links -/

/-- Every location above one is a directory that can be searched. -/
def Reachable (files : FileSystem) (location : Location) : Prop :=
  ∀ before name after, location = before ++ name :: after →
    ∃ readable, files.node before = some (.directory readable true)

theorem reachable_nil : files.Reachable [] := by
  intro before name after h
  simp at h

theorem Reachable.dropLast {location : Location} (h : files.Reachable location) :
    files.Reachable location.dropLast := by
  intro before name after hlocation
  rcases List.eq_nil_or_concat location with rfl | ⟨front, last, rfl⟩
  · simp at hlocation
  · rw [List.concat_eq_append, List.dropLast_concat] at hlocation
    apply h before name (after ++ [last])
    rw [List.concat_eq_append, hlocation, List.append_assoc, List.cons_append]

theorem Reachable.concat {location : Location} (h : files.Reachable location) {readable : Bool}
    (hnode : files.node location = some (.directory readable true)) (name : String) :
    files.Reachable (location ++ [name]) := by
  intro before other after hlocation
  rcases List.eq_nil_or_concat after with rfl | ⟨front, last, rfl⟩
  · obtain ⟨rfl, -⟩ := List.append_inj' hlocation rfl
    exact ⟨readable, hnode⟩
  · rw [List.concat_eq_append, ← List.cons_append, ← List.append_assoc] at hlocation
    exact h before other front (List.append_inj' hlocation rfl).1

theorem reachable_walkWith {follow : Location → List String → Except Errno Location}
    (hfollow : ∀ location names reached, files.Reachable location →
      follow location names = .ok reached → files.Reachable reached)
    {location reached : Location} {names : List String} (hlocation : files.Reachable location)
    (h : files.walkWith follow location names = .ok reached) : files.Reachable reached := by
  induction names generalizing location with
  | nil =>
      obtain rfl := Except.ok.inj h
      exact hlocation
  | cons name names ih =>
      obtain ⟨readable, searchable, hnode, hcases⟩ := walkWith_cons_cases h
      rcases hcases with ⟨-, h⟩ | ⟨-, h⟩ | ⟨-, target, -, h⟩ | ⟨-, -, rfl, h⟩
      · exact ih hlocation h
      · exact ih hlocation.dropLast h
      · refine hfollow _ _ _ ?_ h
        split_ifs
        · exact reachable_nil
        · exact hlocation
      · exact ih (hlocation.concat hnode name) h

/-- What is reached from a reachable location is reachable itself. -/
theorem reachable_walk {links : ℕ} {location reached : Location} {names : List String}
    (hlocation : files.Reachable location) (h : files.walk links location names = .ok reached) :
    files.Reachable reached := by
  induction links generalizing location names reached with
  | zero => exact reachable_walkWith (fun _ _ _ _ h => by cases h) hlocation h
  | succ links ih => exact reachable_walkWith (fun _ _ _ hstart h => ih hstart h) hlocation h

/-- The names of a reachable location lead to it, over no link. -/
theorem walkWith_append {follow : Location → List String → Except Errno Location}
    {base names rest : List String} (hreachable : files.Reachable (base ++ names))
    {readable searchable : Bool}
    (hnode : files.node (base ++ names) = some (.directory readable searchable)) :
    files.walkWith follow base (names ++ rest) = files.walkWith follow (base ++ names) rest := by
  induction names generalizing base with
  | nil => rw [List.append_nil, List.nil_append]
  | cons name names ih =>
      obtain ⟨_, hbase⟩ := hreachable base name names rfl
      have hname := files.isFileName _ (by rw [hnode]; simp) name (by simp)
      have happend : base ++ name :: names = base ++ [name] ++ names := by simp
      rw [happend] at hreachable hnode ⊢
      have hnext : ∃ readable searchable, files.node (base ++ [name]) =
          some (.directory readable searchable) := by
        cases names with
        | nil => exact ⟨_, _, by simpa using hnode⟩
        | cons next names =>
            obtain ⟨_, hnext⟩ := hreachable (base ++ [name]) next names rfl
            exact ⟨_, _, hnext⟩
      obtain ⟨_, _, hnext⟩ := hnext
      rw [List.cons_append, walkWith, hbase]
      simp only [hname.1, hname.2.1, hname.2.2.1, hnext, if_false, Bool.not_true,
        Bool.false_eq_true]
      exact ih hreachable hnode

theorem walk_append {links : ℕ} {base names rest : List String}
    (hreachable : files.Reachable (base ++ names)) {readable searchable : Bool}
    (hnode : files.node (base ++ names) = some (.directory readable searchable)) :
    files.walk links base (names ++ rest) = files.walk links (base ++ names) rest := by
  cases links with
  | zero => exact walkWith_append hreachable hnode
  | succ links => exact walkWith_append hreachable hnode

/-- The parent of a directory that can be searched is the one that `..` leads to. -/
theorem walk_parent {links : ℕ} {location : Location} {rest : List String} {readable : Bool}
    (hnode : files.node location = some (.directory readable true)) :
    files.walk links location (".." :: rest) = files.walk links location.dropLast rest := by
  cases links with
  | zero => simp [walk, walkWith, hnode]
  | succ links => simp [walk, walkWith, hnode]

/-- A name behind the parent of a directory is as good as one behind the directory and `..`. -/
theorem walk_append_parent {links : ℕ} {location : Location} {rest : List String}
    (hreachable : files.Reachable location) {readable : Bool}
    (hnode : files.node location = some (.directory readable true)) :
    files.walk links [] (location ++ ".." :: rest) =
      files.walk links [] (location.dropLast ++ rest) := by
  have hparent : ∃ readable, files.node location.dropLast = some (.directory readable true) := by
    rcases List.eq_nil_or_concat location with rfl | ⟨front, last, rfl⟩
    · exact ⟨readable, hnode⟩
    · rw [List.concat_eq_append, List.dropLast_concat]
      exact hreachable front last [] (List.concat_eq_append ..)
  obtain ⟨_, hparent⟩ := hparent
  have hdown := @walk_append files links [] location (".." :: rest) hreachable _ _ hnode
  have hback := @walk_append files links [] location.dropLast rest hreachable.dropLast _ _ hparent
  rw [List.nil_append] at hdown hback
  rw [hdown, walk_parent hnode, hback]

end FileSystem

end Blocksnoop.Support
