import Blocksnoop.Bcc.Program
import Blocksnoop.Diagnostics.Doctor
import Blocksnoop.Native.Probes

/-!
# Doctor and the backends

Doctor looks for the tracepoints and for the object of a backend, and the backend looks for
them again when it starts.  The collector gives up a system call whose entry alone is below
the first root, and it looks around the directory that its own link names; BCC looks below
the second root only.  A backend that doctor calls effective finds what it looks for exactly
if the two searches meet.
-/

namespace Blocksnoop.Diagnostics

open Blocksnoop.Support Blocksnoop.CoreBackend

namespace DoctorHost

variable (host : DoctorHost)

/-! ## What a backend looks for when it starts -/

/-- The names of a location, each behind a slash. -/
def directoryText (location : Location) : String :=
  String.join (location.map ("/" ++ ·))

/-- The text of a link to a location. -/
def linkText (location : Location) : String :=
  if location = [] then "/" else directoryText location

/-- `/proc/self/exe` in the sidecar that a path leads to, if it can be read. -/
def executableLink (sidecar : String) : Option String :=
  match host.files.resolve host.cwd sidecar with
  | .error _ => none
  | .ok location =>
      if host.selfExe && Native.fits (linkText location) then some (linkText location) else none

/-- An object that can be read. -/
def isReadableObject (path : String) : Bool :=
  host.test FileNode.isRegular path && host.canRead path

/-- The directory of the entry of a system call, below the root that BCC knows. -/
def entryDirectory (syscall : Native.EpollVariant) : String :=
  joinPath "/sys/kernel/debug/tracing/events/syscalls" ("sys_enter_" ++ syscall.name)

/-- The probes of a backend at its start succeed; for Core they are those of the sidecar
that is found. -/
def ProbesSucceed : Backend → Prop
  | .core =>
      (∃ sidecar path, host.findSidecar = .ok (some sidecar) ∧
        Native.defaultBpfObject host.toProcessView (host.executableLink sidecar) sidecar =
          some path ∧
        host.isReadableObject path = true) ∧
      ∃ syscall ∈ Native.EpollVariant.table,
        Native.tracepointExists host.toProcessView syscall.name = true
  | .bcc =>
      ∃ syscalls ≠ [],
        Bcc.detectEpollSyscalls (fun syscall => host.isDir (entryDirectory syscall)) = .ok syscalls

/-! ## Where the searches meet -/

/-- The entry, or the exit, of a system call can be read below a root. -/
def readsFormat (side root : String) (syscall : Native.EpollVariant) : Prop :=
  host.canRead (Native.formatFile side root syscall.name) = true

/-- A system call has both of its files below one root, and below `/sys/kernel/tracing` it
does not have its entry alone. -/
def HasUnmaskedPair : Prop :=
  ∃ syscall : Native.EpollVariant,
    (∃ root ∈ Native.tracepointRoots,
      host.readsFormat "/sys_enter_" root syscall ∧ host.readsFormat "/sys_exit_" root syscall) ∧
    (host.readsFormat "/sys_enter_" "/sys/kernel/tracing/events/syscalls" syscall →
      host.readsFormat "/sys_exit_" "/sys/kernel/tracing/events/syscalls" syscall)

/-- The directory that the sidecar is in, behind all links; where the link of the process
does not name it, the one that the path of the sidecar names. -/
def sidecarDirectory (sidecar : String) : Option String :=
  match host.files.resolve host.cwd sidecar with
  | .error _ => none
  | .ok location =>
      if host.selfExe && Native.fits (linkText location) then
        some (directoryText location.dropLast)
      else Native.beforeLastSlash sidecar

/-- Of the three places around the directory of the sidecar, the first that can be read
holds an object. -/
def HasObjectAround : Prop :=
  ∃ sidecar directory path, host.findSidecar = .ok (some sidecar) ∧
    host.sidecarDirectory sidecar = some directory ∧
    (Native.objectSuffixes.map (directory ++ ·)).find? host.canRead = some path ∧
    host.isReadableObject path = true

/-- `BLOCKSNOOP_BPF_OBJECT`, unless it is empty. -/
def configuredObject : Option String :=
  (host.getenv "BLOCKSNOOP_BPF_OBJECT").filter fun configured => configured ≠ ""

/-- The object that doctor resolves is one that the collector finds. -/
def HasObject : Prop :=
  match host.configuredObject with
  | none => host.HasObjectAround
  | some configured =>
      configured.utf8ByteSize < pathMax ∧ isNull ((pathParts configured).getLastD "") = false

def SearchesMeet : Backend → Prop
  | .core => host.HasUnmaskedPair ∧ host.HasObject
  | .bcc => ∃ syscall, host.isDir (entryDirectory syscall) = true

/-! ## What an effective backend means -/

section

variable {host} {backend : Backend} {targetPid targetTid : Option ℤ} {statsMode : Bool}
  {report : DoctorReport} {effective : Backend}

theorem eq_of_effectiveBackend
    (hreport : host.collectDiagnostics backend targetPid targetTid statsMode = .ok report)
    (heffective : report.effectiveBackend = some effective) :
    effective = backend ∧ ∃ backendChecks, host.backendChecks backend = .ok backendChecks ∧
      ∀ check ∈ backendChecks, check.name ∈ required backend targetPid statsMode →
        check.status = .pass := by
  obtain ⟨backendChecks, hchecks, hreport⟩ := exists_of_bind_eq_ok hreport
  obtain ⟨target, -, hreport⟩ := exists_of_bind_eq_ok hreport
  obtain rfl := Except.ok.inj hreport
  obtain ⟨hfailed, heffective⟩ := Option.ite_none_left_eq_some.mp heffective
  refine ⟨(Option.some.inj heffective).symm, backendChecks, hchecks, ?_⟩
  intro check hcheck hrequired
  by_contra hstatus
  apply hfailed
  rw [List.any_eq_true]
  exact ⟨check, by simp [hcheck], by simp [hrequired, hstatus]⟩

theorem checkSidecar_status {sidecar : Option String}
    (h : (checkSidecar sidecar .core).status = .pass) : ∃ found, sidecar = some found := by
  cases sidecar with
  | none => simp [checkSidecar] at h
  | some found => exact ⟨found, rfl⟩

theorem exists_of_checkBpfObject {sidecar : Option String} {check : DiagnosticCheck}
    (h : host.checkBpfObject sidecar .core = .ok check) (hpass : check.status = .pass) :
    ∃ candidate, host.firstReadable (host.objectCandidates sidecar) = .ok (some candidate) := by
  obtain ⟨found, hfound, h⟩ := exists_of_bind_eq_ok h
  obtain rfl := Except.ok.inj h
  cases found with
  | none => simp at hpass
  | some candidate => exact ⟨candidate, hfound⟩

theorem name_of_checkBpfObject {sidecar : Option String} {check : DiagnosticCheck}
    (h : host.checkBpfObject sidecar .core = .ok check) : check.name = "bpf_object" := by
  obtain ⟨found, -, h⟩ := exists_of_bind_eq_ok h
  obtain rfl := Except.ok.inj h
  cases found with
  | none => rfl
  | some candidate => rfl

/-- Doctor has found the sidecar, and a candidate that it can read. -/
theorem exists_of_effectiveBackend_core
    (hreport : host.collectDiagnostics backend targetPid targetTid statsMode = .ok report)
    (heffective : report.effectiveBackend = some .core) :
    ∃ sidecar candidate, host.findSidecar = .ok (some sidecar) ∧
      host.firstReadable (host.objectCandidates (some sidecar)) = .ok (some candidate) := by
  obtain ⟨rfl, backendChecks, hchecks, hpass⟩ := eq_of_effectiveBackend hreport heffective
  obtain ⟨btf, -, hchecks⟩ := exists_of_bind_eq_ok hchecks
  obtain ⟨tracepoints, -, hchecks⟩ := exists_of_bind_eq_ok hchecks
  obtain ⟨sidecar, hsidecar, hchecks⟩ := exists_of_bind_eq_ok hchecks
  obtain ⟨object, hobject, hchecks⟩ := exists_of_bind_eq_ok hchecks
  obtain rfl := Except.ok.inj hchecks
  have hsidecarName : (checkSidecar sidecar .core).name = "sidecar" := by
    unfold checkSidecar
    split <;> rfl
  have hsidecarPass := hpass (checkSidecar sidecar .core) (by simp)
    (by rw [hsidecarName]; simp [required])
  obtain ⟨found, rfl⟩ := checkSidecar_status hsidecarPass
  have hobjectPass := hpass object (by simp)
    (by rw [name_of_checkBpfObject hobject]; simp [required])
  obtain ⟨candidate, hcandidate⟩ := exists_of_checkBpfObject hobject hobjectPass
  exact ⟨found, candidate, hsidecar, hcandidate⟩

theorem isReadableObject_iff {path : String} :
    host.isReadableObject path = true ↔
      ∃ node, host.stat path = .ok node ∧ node.isRegular = true ∧ node.mayRead = true := by
  unfold isReadableObject ProcessView.canRead
  rw [Bool.and_eq_true_iff, ProcessView.test_iff, ProcessView.test_iff]
  constructor
  · rintro ⟨⟨node, hnode, hregular⟩, ⟨other, hother, hread⟩⟩
    obtain rfl := Except.ok.inj (hnode.symm.trans hother)
    exact ⟨node, hnode, hregular, hread⟩
  · rintro ⟨node, hnode, hregular, hread⟩
    exact ⟨⟨node, hnode, hregular⟩, ⟨node, hnode, hread⟩⟩

/-- What doctor can read is an object that can be read. -/
theorem isReadableObject_of_isReadableFile {path : PurePath}
    (h : host.isReadableFile path = .ok true) : host.isReadableObject path.str = true := by
  unfold isReadableFile PurePath.isFile at h
  cases hstat : host.stat path.str with
  | ok node =>
      rw [hstat] at h
      dsimp only at h
      obtain ⟨hregular, hread⟩ := Bool.and_eq_true_iff.mp (Except.ok.inj h)
      obtain ⟨other, hother, hmay⟩ := ProcessView.test_iff.mp hread
      obtain rfl := Except.ok.inj (hstat.symm.trans hother)
      exact isReadableObject_iff.mpr ⟨node, hstat, hregular, hmay⟩
  | error e =>
      rw [hstat] at h
      dsimp only at h
      by_cases hexpected : e ∈ [.noEntry, .notDirectory, .loop]
      · rw [if_pos hexpected] at h
        simp at h
      · rw [if_neg hexpected] at h
        dsimp only at h
        split_ifs at h
        cases h

theorem isReadableFile_of_firstReadable {candidates : List PurePath} {candidate : PurePath}
    (h : host.firstReadable candidates = .ok (some candidate)) :
    candidate ∈ candidates ∧ host.isReadableFile candidate = .ok true := by
  induction candidates with
  | nil => cases h
  | cons first candidates ih =>
      obtain ⟨readable, hreadable, h⟩ := exists_of_bind_eq_ok h
      cases readable with
      | true =>
          obtain rfl := Option.some.inj (Except.ok.inj h)
          exact ⟨List.mem_cons_self, hreadable⟩
      | false =>
          obtain ⟨hmem, hcandidate⟩ := ih h
          exact ⟨List.mem_cons_of_mem _ hmem, hcandidate⟩

/-! ## The object -/

/-- A configured object that doctor can read is one for the collector, unless the text ends
in a null part or is too long. -/
theorem isReadableObject_configured_iff {configured : String}
    (h : host.isReadableFile (PurePath.parse configured) = .ok true) :
    (Native.fits configured = true ∧ host.isReadableObject configured = true) ↔
      configured.utf8ByteSize < pathMax ∧
        isNull ((pathParts configured).getLastD "") = false := by
  obtain ⟨node, hnode, hregular, hread⟩ :=
    isReadableObject_iff.mp (isReadableObject_of_isReadableFile h)
  have hstr := (FileSystem.fits_of_stat hnode).2
  constructor
  · rintro ⟨hfits, hobject⟩
    refine ⟨of_decide_eq_true hfits, ?_⟩
    obtain ⟨other, hother, hotherRegular, -⟩ := isReadableObject_iff.mp hobject
    apply FileSystem.isNull_eq_false_of_stat hother
    cases other <;> first | rfl | simp [FileNode.isRegular] at hotherRegular
  · rintro ⟨hfits, hlast⟩
    refine ⟨decide_eq_true hfits, isReadableObject_iff.mpr ⟨node, ?_, hregular, hread⟩⟩
    rw [← hnode]
    exact (PurePath.stat_str_parse hfits hstr hlast).symm

theorem directoryText_concat (location : Location) (name : String) :
    directoryText (location ++ [name]) = directoryText location ++ "/" ++ name := by
  unfold directoryText
  rw [List.map_append, String.join_append]
  simp [String.append_assoc]

/-- The directory that the collector looks around. -/
theorem executableDirectory_eq {sidecar : String} {node : FileNode}
    (h : host.stat sidecar = .ok node) :
    Native.executableDirectory (host.executableLink sidecar) sidecar =
      host.sidecarDirectory sidecar := by
  obtain ⟨location, hresolve, hnode⟩ := FileSystem.stat_eq_ok_iff.mp h
  unfold executableLink sidecarDirectory
  rw [hresolve]
  dsimp only
  split_ifs with hlink
  · unfold Native.executableDirectory
    dsimp only
    unfold linkText
    rcases List.eq_nil_or_concat location with rfl | ⟨directory, name, rfl⟩
    · decide
    · have hname := host.files.isFileName _ (by rw [hnode]; simp) name (by simp)
      rw [if_neg (by simp), List.concat_eq_append, directoryText_concat, List.dropLast_concat,
        Native.beforeLastSlash_append _ _ hname.2.2.2]
  · unfold Native.executableDirectory
    dsimp only
    have hfits : Native.fits sidecar = true := decide_eq_true (FileSystem.fits_of_stat h).2
    rw [if_pos hfits]

theorem searchObject_iff {sidecar : String} (h : host.findSidecar = .ok (some sidecar)) :
    (∃ path, Native.searchObject host.toProcessView (host.executableLink sidecar) sidecar =
        some path ∧ host.isReadableObject path = true) ↔ host.HasObjectAround := by
  obtain ⟨node, hnode⟩ := Host.exists_stat_of_findSidecar h
  unfold Native.searchObject
  rw [executableDirectory_eq hnode]
  constructor
  · rintro ⟨path, hpath, hobject⟩
    obtain ⟨directory, hdirectory, hfound⟩ := Option.bind_eq_some_iff.mp hpath
    rw [Native.findObject_eq_find?] at hfound
    exact ⟨sidecar, directory, path, h, hdirectory, hfound, hobject⟩
  · rintro ⟨other, directory, path, hother, hdirectory, hfound, hobject⟩
    obtain rfl := Option.some.inj (Except.ok.inj (h.symm.trans hother))
    rw [← Native.findObject_eq_find?] at hfound
    exact ⟨path, Option.bind_eq_some_iff.mpr ⟨directory, hdirectory, hfound⟩, hobject⟩

/-! ## The tracepoints -/

theorem tracepointExists_iff (syscall : Native.EpollVariant) :
    Native.tracepointExists host.toProcessView syscall.name = true ↔
      (∃ root ∈ Native.tracepointRoots,
        host.readsFormat "/sys_enter_" root syscall ∧ host.readsFormat "/sys_exit_" root syscall) ∧
      (host.readsFormat "/sys_enter_" "/sys/kernel/tracing/events/syscalls" syscall →
        host.readsFormat "/sys_exit_" "/sys/kernel/tracing/events/syscalls" syscall) := by
  unfold Native.tracepointExists Native.tracepointRoots readsFormat
  rw [Native.tracepointExistsIn_cons, Native.tracepointExistsIn_cons, Native.tracepointExistsIn]
  by_cases hentered : host.canRead (Native.formatFile "/sys_enter_"
      "/sys/kernel/tracing/events/syscalls" syscall.name) = true
  · simp only [hentered, if_true, List.mem_cons, List.not_mem_nil, or_false, exists_eq_or_imp,
      exists_eq_left, true_and, true_implies]
    exact ⟨fun hexited => ⟨Or.inl hexited, hexited⟩, And.right⟩
  · simp only [hentered, List.mem_cons, List.not_mem_nil, or_false, exists_eq_or_imp,
      exists_eq_left, false_and, false_or, false_implies, and_true, Bool.false_eq_true, if_false]
    split_ifs with hsecond
    · simp [hsecond]
    · simp [hsecond]

theorem exists_tracepoint_iff :
    (∃ syscall ∈ Native.EpollVariant.table,
      Native.tracepointExists host.toProcessView syscall.name = true) ↔ host.HasUnmaskedPair := by
  constructor
  · rintro ⟨syscall, -, h⟩
    exact ⟨syscall, (tracepointExists_iff syscall).mp h⟩
  · rintro ⟨syscall, h⟩
    exact ⟨syscall, Native.EpollVariant.mem_table syscall, (tracepointExists_iff syscall).mpr h⟩

/-! ## The backends -/

theorem defaultBpfObject_iff {sidecar : String} {candidate : PurePath}
    (hsidecar : host.findSidecar = .ok (some sidecar))
    (hcandidate : host.firstReadable (host.objectCandidates (some sidecar)) =
      .ok (some candidate)) :
    (∃ path, Native.defaultBpfObject host.toProcessView (host.executableLink sidecar) sidecar =
        some path ∧ host.isReadableObject path = true) ↔ host.HasObject := by
  obtain ⟨hmem, hreadable⟩ := isReadableFile_of_firstReadable hcandidate
  unfold Native.defaultBpfObject HasObject configuredObject
  unfold objectCandidates at hmem
  cases hconfigured : host.getenv "BLOCKSNOOP_BPF_OBJECT" with
  | none => exact searchObject_iff hsidecar
  | some configured =>
      rw [hconfigured] at hmem
      by_cases hempty : configured = ""
      · simpa [hempty, Option.filter] using searchObject_iff hsidecar
      · dsimp only at hmem
        rw [if_neg hempty, List.mem_singleton] at hmem
        rw [hmem] at hreadable
        have hfilter : (some configured).filter (fun configured => configured ≠ "") =
            some configured := by
          simp [Option.filter, hempty]
        rw [hfilter]
        dsimp only
        rw [if_neg hempty, ← isReadableObject_configured_iff hreadable]
        constructor
        · rintro ⟨path, hpath, hobject⟩
          split_ifs at hpath with hfits
          obtain rfl := Option.some.inj hpath
          exact ⟨hfits, hobject⟩
        · rintro ⟨hfits, hobject⟩
          exact ⟨configured, by rw [if_pos hfits], hobject⟩

theorem detectEpollSyscalls_iff (isdir : Native.EpollVariant → Bool) :
    (∃ syscalls ≠ [], Bcc.detectEpollSyscalls isdir = .ok syscalls) ↔
      ∃ syscall, isdir syscall = true := by
  unfold Bcc.detectEpollSyscalls
  constructor
  · rintro ⟨syscalls, hne, h⟩
    dsimp only at h
    split_ifs at h
    obtain rfl := Except.ok.inj h
    obtain ⟨syscall, hsyscall⟩ := List.exists_mem_of_ne_nil _ hne
    exact ⟨syscall, (List.mem_filter.mp hsyscall).2⟩
  · rintro ⟨syscall, h⟩
    have hne : Native.EpollVariant.table.filter isdir ≠ [] :=
      List.ne_nil_of_mem (List.mem_filter.mpr ⟨Native.EpollVariant.mem_table syscall, h⟩)
    exact ⟨_, hne, if_neg hne⟩

/-- What the collector needs, where doctor has found the sidecar and a candidate. -/
theorem probesSucceed_core_iff {sidecar : String} {candidate : PurePath}
    (hsidecar : host.findSidecar = .ok (some sidecar))
    (hcandidate : host.firstReadable (host.objectCandidates (some sidecar)) =
      .ok (some candidate)) :
    host.ProbesSucceed .core ↔ host.SearchesMeet .core := by
  unfold ProbesSucceed SearchesMeet
  rw [exists_tracepoint_iff, ← defaultBpfObject_iff hsidecar hcandidate, and_comm]
  constructor
  · rintro ⟨hpair, other, path, hother, hpath, hobject⟩
    obtain rfl := Option.some.inj (Except.ok.inj (hsidecar.symm.trans hother))
    exact ⟨hpair, path, hpath, hobject⟩
  · rintro ⟨hpair, path, hpath, hobject⟩
    exact ⟨hpair, sidecar, path, hsidecar, hpath, hobject⟩

/-- The backend that doctor calls effective starts exactly if the searches meet. -/
theorem probesSucceed_iff
    (hreport : host.collectDiagnostics backend targetPid targetTid statsMode = .ok report)
    (heffective : report.effectiveBackend = some effective) :
    host.ProbesSucceed effective ↔ host.SearchesMeet effective := by
  cases effective with
  | bcc => exact detectEpollSyscalls_iff _
  | core =>
      obtain ⟨sidecar, candidate, hsidecar, hcandidate⟩ :=
        exists_of_effectiveBackend_core hreport heffective
      exact probesSucceed_core_iff hsidecar hcandidate

end

/-- A directory that can be read and searched. -/
def openDirectory (entries : List (String × FileTree)) : FileTree :=
  .branch true true entries

/-- A file that can be read. -/
def openFile : FileTree :=
  .leaf (.regular true false)

/-- The tracepoints of `epoll_wait`, below `events/syscalls`. -/
def waitEvents : FileTree :=
  openDirectory [("events", openDirectory [("syscalls", openDirectory
    [("sys_enter_epoll_wait", openDirectory [("format", openFile)]),
      ("sys_exit_epoll_wait", openDirectory [("format", openFile)])])])]

/-- Tracefs is mounted at its own root only, and the sidecar is a link beside an object. -/
def linkedHost : DoctorHost where
  files := (openDirectory
    [("sys", openDirectory [("kernel", openDirectory [("tracing", waitEvents)])]),
      ("usr", openDirectory [("bin", openDirectory
        [("blocksnoop-ebpf", .leaf (.symlink "/opt/blocksnoop-ebpf")),
          ("core_blockdetect.bpf.o", openFile)])]),
      ("opt", openDirectory [("blocksnoop-ebpf", .leaf (.regular true true))])]).toFileSystem
  cwd := []
  getenv name := if name = "BLOCKSNOOP_EBPF" then some "/usr/bin/blocksnoop-ebpf" else none
  platform := "linux"
  moduleFile := "/usr/lib/python3/site-packages/blocksnoop/core_backend.py"
  defaultPath := "/bin:/usr/bin"
  euid := 0
  release := "6.8.0"
  selfStatus := some "CapEff:\t000001ffffffffff\n"
  selfExe := true
  bccImportable := true
  proc := { pidNamespaceFile := fun _ => none, statusFile := fun _ => none }
  reprStr text := "'" ++ text ++ "'"

/-- The same machine with the object configured. -/
def configuredHost : DoctorHost :=
  { linkedHost with
    getenv := fun name =>
      if name = "BLOCKSNOOP_BPF_OBJECT" then some "/usr/bin/core_blockdetect.bpf.o"
      else linkedHost.getenv name }

theorem exists_report {result : Except PyException DoctorReport} {effective : Backend}
    (h : (result.toOption.bind (·.effectiveBackend)) = some effective) :
    ∃ report, result = .ok report ∧ report.effectiveBackend = some effective := by
  obtain ⟨report, hreport, heffective⟩ := Option.bind_eq_some_iff.mp h
  cases result with
  | error e => cases hreport
  | ok other =>
      obtain rfl := Option.some.inj hreport
      exact ⟨other, rfl, heffective⟩

/-- With the object configured, the sidecar behind the link finds it. -/
theorem probesSucceed_iff_configured : configuredHost.ProbesSucceed .core := by
  obtain ⟨report, hreport, heffective⟩ := exists_report
    (by decide +kernel : ((configuredHost.collectDiagnostics .core none none true).toOption.bind
      (·.effectiveBackend)) = some .core)
  rw [probesSucceed_iff hreport heffective]
  constructor
  · refine ⟨.epollWait, ⟨"/sys/kernel/tracing/events/syscalls", by decide, ?_, ?_⟩, fun _ => ?_⟩
    all_goals
      unfold readsFormat
      decide +kernel
  · exact ⟨by decide, by decide⟩

/-- Doctor calls each backend effective, and neither finds what it looks for. -/
theorem exists_effective_not_started :
    ∃ host : DoctorHost, ∀ backend,
      (∃ report, host.collectDiagnostics backend none none true = .ok report ∧
        report.effectiveBackend = some backend) ∧
      ¬host.ProbesSucceed backend := by
  refine ⟨linkedHost, fun backend => ?_⟩
  cases backend with
  | bcc =>
      refine ⟨exists_report (by decide +kernel), ?_⟩
      intro h
      obtain ⟨syscall, hdirectory⟩ := (detectEpollSyscalls_iff _).mp h
      have hnone : ∀ syscall ∈ Native.EpollVariant.table,
          linkedHost.isDir (entryDirectory syscall) = false := by
        decide +kernel
      rw [hnone syscall (Native.EpollVariant.mem_table syscall)] at hdirectory
      cases hdirectory
  | core =>
      refine ⟨exists_report (by decide +kernel), ?_⟩
      rintro ⟨⟨sidecar, path, hsidecar, hpath, -⟩, -⟩
      have hfound : linkedHost.findSidecar.toOption = some (some "/usr/bin/blocksnoop-ebpf") := by
        decide +kernel
      have hnone : Native.defaultBpfObject linkedHost.toProcessView
          (linkedHost.executableLink "/usr/bin/blocksnoop-ebpf") "/usr/bin/blocksnoop-ebpf" =
            none := by
        decide +kernel
      rw [hsidecar] at hfound
      obtain rfl := Option.some.inj (Option.some.inj hfound)
      rw [hnone] at hpath
      cases hpath

end DoctorHost

end Blocksnoop.Diagnostics
