import Blocksnoop.Support.Paths
import Blocksnoop.Support.Python

/-!
# Where the sidecar is

`find_sidecar` of `core_backend.py`: an override, the packaged asset or a program on the
search path, in that order.
-/

namespace Blocksnoop.CoreBackend

open Blocksnoop.Support

def defaultSidecar : String := "blocksnoop-ebpf"

/-- The machine as the interpreter sees it. -/
structure Host extends ProcessView where
  /-- `sys.platform` -/
  platform : String
  /-- `__file__` of the module -/
  moduleFile : String
  /-- The search path where `PATH` is not set. -/
  defaultPath : String

namespace Host

variable (host : Host)

def packagedSidecar : Except PyException (Option String) :=
  if host.platform ≠ "linux" then .ok none
  else
    let candidate := ((PurePath.parse host.moduleFile).withName "_native").join defaultSidecar
    match candidate.isFile host.toProcessView with
    | .error _ => .error (.other "OSError")
    | .ok isFile =>
        .ok (if isFile && host.test FileNode.mayExecute candidate.str then some candidate.str
          else none)

/-- The packaged asset, or else a program on the search path. -/
def packagedOrWhich (executable : String) : Except PyException (Option String) :=
  if executable = defaultSidecar then do
    let packaged ← host.packagedSidecar
    return packaged.or (host.which host.defaultPath executable)
  else .ok (host.which host.defaultPath executable)

def findSidecar (executable : String := defaultSidecar) : Except PyException (Option String) :=
  match host.getenv "BLOCKSNOOP_EBPF" with
  | none => host.packagedOrWhich executable
  | some configured =>
      if configured = "" then host.packagedOrWhich executable
      else .ok (host.which host.defaultPath configured)

variable {host}

theorem exists_stat_of_which {command program : String}
    (h : host.which host.defaultPath command = some program) :
    ∃ node, host.stat program = .ok node := by
  have hprogram := List.find?_some h
  obtain ⟨node, hnode, -⟩ := ProcessView.test_iff.mp (Bool.and_eq_true_iff.mp hprogram).1
  exact ⟨node, hnode⟩

theorem exists_stat_of_packagedSidecar {sidecar : String}
    (h : host.packagedSidecar = .ok (some sidecar)) : ∃ node, host.stat sidecar = .ok node := by
  unfold packagedSidecar at h
  split at h
  · cases h
  dsimp only at h
  split at h
  · cases h
  next isFile _ =>
    split_ifs at h with hexecutable
    · obtain rfl := Option.some.inj (Except.ok.inj h)
      obtain ⟨node, hnode, -⟩ :=
        ProcessView.test_iff.mp (Bool.and_eq_true_iff.mp hexecutable).2
      exact ⟨node, hnode⟩
    · cases h

/-- The sidecar that is found is there. -/
theorem exists_stat_of_findSidecar {executable sidecar : String}
    (h : host.findSidecar executable = .ok (some sidecar)) :
    ∃ node, host.stat sidecar = .ok node := by
  have hfallback : host.packagedOrWhich executable = .ok (some sidecar) →
      ∃ node, host.stat sidecar = .ok node := by
    intro h
    unfold packagedOrWhich at h
    split at h
    · obtain ⟨packaged, hpackaged, h⟩ := exists_of_bind_eq_ok h
      have hfound := Except.ok.inj h
      cases packaged with
      | none =>
          rw [Option.none_or] at hfound
          exact exists_stat_of_which hfound
      | some found =>
          rw [Option.some_or] at hfound
          obtain rfl := Option.some.inj hfound
          exact exists_stat_of_packagedSidecar hpackaged
    · exact exists_stat_of_which (Except.ok.inj h)
  unfold findSidecar at h
  split at h
  · exact hfallback h
  · split at h
    · exact hfallback h
    · exact exists_stat_of_which (Except.ok.inj h)

end Host

end Blocksnoop.CoreBackend
