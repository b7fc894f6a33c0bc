import Blocksnoop.Diagnostics.Readiness

/-!
# Doctor on a plain machine

Both mounts of tracefs show the same files, the sidecar is found at the location that its
path names, and what stands where its object may be is an object.  On such a machine a
backend that doctor calls effective starts.
-/

namespace Blocksnoop.Diagnostics

open Blocksnoop.Support Blocksnoop.CoreBackend

namespace DoctorHost

/-- A machine on which the searches of doctor and of the backends cannot part. -/
structure Plain (host : DoctorHost) : Prop where
  mounts : ∀ side ∈ ["/sys_enter_", "/sys_exit_"], ∀ syscall,
    host.readsFormat side "/sys/kernel/tracing/events/syscalls" syscall ↔
      host.readsFormat side "/sys/kernel/debug/tracing/events/syscalls" syscall
  sidecar : ∀ sidecar, host.findSidecar = .ok (some sidecar) → ∃ location ≠ [],
    host.files.resolve host.cwd sidecar = .ok location ∧ sidecar = directoryText location
  selfExe : host.selfExe = true
  configured : ∀ configured, host.configuredObject = some configured →
    configured.utf8ByteSize < pathMax ∧ isNull ((pathParts configured).getLastD "") = false
  places : ∀ sidecar directory, host.findSidecar = .ok (some sidecar) →
    host.sidecarDirectory sidecar = some directory → ∀ suffix ∈ Native.objectSuffixes,
      (directory ++ suffix).utf8ByteSize < pathMax ∧
        (host.canRead (directory ++ suffix) = true →
          host.isReadableObject (directory ++ suffix) = true)

variable {host : DoctorHost} {backend : Backend} {targetPid targetTid : Option ℤ}
  {statsMode : Bool} {report : DoctorReport} {effective : Backend}

/-! ## The tracepoints -/

theorem str_formatPath (syscall : Native.EpollVariant) : ∀ root ∈ Native.tracepointRoots,
    (formatPath "sys_enter_" (PurePath.parse root) syscall).str =
        Native.formatFile "/sys_enter_" root syscall.name ∧
      (formatPath "sys_exit_" (PurePath.parse root) syscall).str =
        Native.formatFile "/sys_exit_" root syscall.name := by
  cases syscall with
  | epollWait => decide +kernel
  | epollPwait => decide +kernel
  | epollPwait2 => decide +kernel

theorem canRead_of_isReadableFile {path : PurePath} (h : host.isReadableFile path = .ok true) :
    host.canRead path.str = true :=
  (Bool.and_eq_true_iff.mp (isReadableObject_of_isReadableFile h)).2

theorem exists_of_pairs {root : PurePath} {syscalls : List Native.EpollVariant}
    {found : List String} (h : host.pairs root syscalls = .ok found) (hfound : found ≠ []) :
    ∃ syscall, host.hasPair root syscall = .ok true := by
  induction syscalls generalizing found with
  | nil =>
      obtain rfl := Except.ok.inj h
      exact absurd rfl hfound
  | cons syscall syscalls ih =>
      obtain ⟨pair, hpair, h⟩ := exists_of_bind_eq_ok h
      obtain ⟨rest, hrest, h⟩ := exists_of_bind_eq_ok h
      obtain rfl := Except.ok.inj h
      cases pair with
      | true => exact ⟨syscall, hpair⟩
      | false => exact ih hrest hfound

theorem exists_of_firstPairs {roots : List PurePath} {found : List String}
    (h : host.firstPairs roots = .ok found) (hfound : found ≠ []) :
    ∃ root ∈ roots, ∃ syscall, host.hasPair root syscall = .ok true := by
  induction roots with
  | nil =>
      obtain rfl := Except.ok.inj h
      exact absurd rfl hfound
  | cons root roots ih =>
      obtain ⟨pairs, hpairs, h⟩ := exists_of_bind_eq_ok h
      by_cases hnone : pairs = []
      · rw [if_pos hnone] at h
        obtain ⟨other, hother, hsyscall⟩ := ih h
        exact ⟨other, List.mem_cons_of_mem _ hother, hsyscall⟩
      · exact ⟨root, List.mem_cons_self, exists_of_pairs hpairs hnone⟩

/-- The check of the tracepoints passes only over a pair below one of the roots. -/
theorem exists_pair_of_checkTracepoints {check : DiagnosticCheck}
    (h : host.checkTracepoints = .ok check) (hpass : check.status = .pass) :
    ∃ root ∈ Native.tracepointRoots, ∃ syscall,
      host.isReadableFile (formatPath "sys_enter_" (PurePath.parse root) syscall) = .ok true ∧
        host.isReadableFile (formatPath "sys_exit_" (PurePath.parse root) syscall) = .ok true := by
  obtain ⟨found, hfound, h⟩ := exists_of_bind_eq_ok h
  obtain rfl := Except.ok.inj h
  by_cases hnone : found = []
  · simp [hnone] at hpass
  · obtain ⟨path, hpath, syscall, hpair⟩ := exists_of_firstPairs hfound hnone
    have hroot : ∃ root ∈ Native.tracepointRoots, path = PurePath.parse root := by
      rcases List.mem_cons.mp hpath with rfl | hpath
      · exact ⟨_, List.mem_cons_self, rfl⟩
      · exact ⟨_, List.mem_cons_of_mem _ List.mem_cons_self, List.mem_singleton.mp hpath⟩
    obtain ⟨root, hroot, rfl⟩ := hroot
    obtain ⟨entered, hentered, hpair⟩ := exists_of_bind_eq_ok hpair
    cases entered with
    | true => exact ⟨root, hroot, syscall, hentered, hpair⟩
    | false => cases hpair

theorem exists_checkTracepoints
    (hreport : host.collectDiagnostics backend targetPid targetTid statsMode = .ok report)
    (heffective : report.effectiveBackend = some effective) :
    ∃ check, host.checkTracepoints = .ok check ∧ check.status = .pass := by
  obtain ⟨rfl, backendChecks, hchecks, hpass⟩ := eq_of_effectiveBackend hreport heffective
  have hname : ∀ check, host.checkTracepoints = .ok check → check.name = "tracepoints" := by
    intro check h
    obtain ⟨found, -, h⟩ := exists_of_bind_eq_ok h
    obtain rfl := Except.ok.inj h
    split_ifs
    · rfl
    · rfl
  cases effective with
  | bcc =>
      obtain ⟨check, hcheck, hchecks⟩ := exists_of_bind_eq_ok hchecks
      obtain rfl := Except.ok.inj hchecks
      exact ⟨check, hcheck, hpass check (by simp) (by rw [hname check hcheck]; simp [required])⟩
  | core =>
      obtain ⟨btf, -, hchecks⟩ := exists_of_bind_eq_ok hchecks
      obtain ⟨check, hcheck, hchecks⟩ := exists_of_bind_eq_ok hchecks
      obtain ⟨sidecar, -, hchecks⟩ := exists_of_bind_eq_ok hchecks
      obtain ⟨object, -, hchecks⟩ := exists_of_bind_eq_ok hchecks
      obtain rfl := Except.ok.inj hchecks
      exact ⟨check, hcheck, hpass check (by simp) (by rw [hname check hcheck]; simp [required])⟩

theorem Plain.readsFormat (h : host.Plain) {side root : String}
    (hside : side ∈ ["/sys_enter_", "/sys_exit_"]) (hroot : root ∈ Native.tracepointRoots)
    {syscall : Native.EpollVariant}
    (hread : host.readsFormat side root syscall) :
    ∀ other ∈ Native.tracepointRoots, host.readsFormat side other syscall := by
  have hmounts := h.mounts side hside syscall
  simp only [Native.tracepointRoots, List.mem_cons, List.not_mem_nil, or_false] at hroot ⊢
  rcases hroot with rfl | rfl
  · rintro other (rfl | rfl)
    · exact hread
    · exact hmounts.mp hread
  · rintro other (rfl | rfl)
    · exact hmounts.mpr hread
    · exact hread

/-- The pair that doctor has found is below both roots. -/
theorem Plain.exists_pair (h : host.Plain)
    (hreport : host.collectDiagnostics backend targetPid targetTid statsMode = .ok report)
    (heffective : report.effectiveBackend = some effective) :
    ∃ syscall, ∀ root ∈ Native.tracepointRoots,
      host.readsFormat "/sys_enter_" root syscall ∧
        host.readsFormat "/sys_exit_" root syscall := by
  obtain ⟨check, hcheck, hpass⟩ := exists_checkTracepoints hreport heffective
  obtain ⟨root, hroot, syscall, hentered, hexited⟩ := exists_pair_of_checkTracepoints hcheck hpass
  obtain ⟨henter, hexit⟩ := str_formatPath syscall root hroot
  have hentered := canRead_of_isReadableFile hentered
  have hexited := canRead_of_isReadableFile hexited
  rw [henter] at hentered
  rw [hexit] at hexited
  exact ⟨syscall, fun other hother =>
    ⟨h.readsFormat (by decide) hroot hentered other hother,
      h.readsFormat (by decide) hroot hexited other hother⟩⟩

theorem entryDirectory_eq_append (syscall : Native.EpollVariant) :
    entryDirectory syscall =
      "/sys/kernel/debug/tracing/events/syscalls" ++ "/" ++ ("sys_enter_" ++ syscall.name) := by
  have hrelative : isAbsolute ("sys_enter_" ++ syscall.name) = false := by
    cases syscall <;> decide
  have hend : ¬("/sys/kernel/debug/tracing/events/syscalls" = "" ∨
      "/sys/kernel/debug/tracing/events/syscalls".toList.getLast? = some '/') := by
    decide
  unfold entryDirectory joinPath
  rw [if_neg (Bool.eq_false_iff.mp hrelative), if_neg hend]

/-- A format file that can be read stands in the directory of its entry. -/
theorem isDir_entryDirectory {syscall : Native.EpollVariant}
    (h : host.readsFormat "/sys_enter_" "/sys/kernel/debug/tracing/events/syscalls" syscall) :
    host.isDir (entryDirectory syscall) = true := by
  obtain ⟨node, hnode, -⟩ := ProcessView.test_iff.mp h
  have hname : '/' ∉ ("sys_enter_" ++ syscall.name).toList ∧
      isNull ("sys_enter_" ++ syscall.name) = false := by
    cases syscall <;> decide
  have hformat : Native.formatFile "/sys_enter_" "/sys/kernel/debug/tracing/events/syscalls"
      syscall.name = entryDirectory syscall ++ "/" ++ "format" := by
    rw [entryDirectory_eq_append]
    exact Native.formatFile_eq_append "sys_enter_" _ _
  rw [hformat] at hnode
  have hlast : isNull ((pathParts (entryDirectory syscall)).getLastD "") = false := by
    rw [entryDirectory_eq_append, pathParts_append, pathParts_of_not_mem hname.1,
      List.getLastD_concat]
    exact hname.2
  obtain ⟨readable, searchable, hstat⟩ :=
    FileSystem.exists_stat_of_append hnode (by decide) hlast
  exact ProcessView.test_iff.mpr ⟨_, hstat, rfl⟩

/-! ## The object -/

theorem pathParts_directoryText {location : Location}
    (h : ∀ name ∈ location, IsFileName name) :
    pathParts (directoryText location) = "" :: location := by
  induction location using List.reverseRecOn with
  | nil => decide
  | append_singleton location name ih =>
      have hname := h name (by simp)
      rw [directoryText_concat, pathParts_append, pathParts_of_not_mem hname.2.2.2,
        ih fun other hother => h other (List.mem_append_left _ hother), List.cons_append]

theorem filter_isFileName {location : Location} (h : ∀ name ∈ location, IsFileName name) :
    ("" :: location).filter (fun part => !isNull part) = location := by
  rw [List.filter_cons_of_neg (by decide)]
  apply List.filter_eq_self.mpr
  intro name hname
  obtain ⟨hempty, hdot, -⟩ := h name hname
  simp [isNull, hempty, hdot]

theorem pathNames_directoryText {location : Location}
    (h : ∀ name ∈ location, IsFileName name) (text : String) :
    pathNames (directoryText location ++ "/" ++ text) = location ++ pathNames text := by
  rw [pathNames_append, pathParts_directoryText h, filter_isFileName h]

theorem isAbsolute_directoryText (location : Location) (text : String) :
    isAbsolute (directoryText location ++ "/" ++ text) = true := by
  apply decide_eq_true
  cases location with
  | nil => simp [directoryText]
  | cons name location => simp [directoryText]

theorem tail_parse_directoryText {location : Location}
    (h : ∀ name ∈ location, IsFileName name) :
    (PurePath.parse (directoryText location)).tail = location := by
  change (pathParts (directoryText location)).filter (fun part => !isNull part) = location
  rw [pathParts_directoryText h, filter_isFileName h]

/-- A parsed path and a text below a directory lead to the same node if their walks do. -/
theorem stat_candidate {candidate : PurePath} {directory : Location} {text : String}
    (hnames : ∀ name ∈ directory, IsFileName name) (hroot : candidate.root ≠ .relative)
    (htail : candidate.tail ≠ []) (hfits : candidate.str.utf8ByteSize < pathMax)
    (hfits' : (directoryText directory ++ "/" ++ text).utf8ByteSize < pathMax)
    (hwalk : host.files.walk 40 [] candidate.tail =
      host.files.walk 40 [] (directory ++ pathNames text)) :
    host.stat candidate.str = host.stat (directoryText directory ++ "/" ++ text) := by
  have hne : ∀ path : String, isAbsolute path = true → path ≠ "" := by
    rintro path habsolute rfl
    exact absurd habsolute (by decide)
  obtain ⟨front, -, -, habsolute⟩ := PurePath.pathParts_str htail
  have habsolute := habsolute.mpr hroot
  have habsolute' := isAbsolute_directoryText directory text
  apply FileSystem.stat_congr ⟨hne _ habsolute, hfits⟩ ⟨hne _ habsolute', hfits'⟩
  · rw [habsolute, habsolute']
  · rw [if_pos habsolute', PurePath.pathNames_str htail, pathNames_directoryText hnames, hwalk]

/-- Each candidate of doctor is one of the places around the directory of the sidecar. -/
theorem exists_place {location : Location} (hnames : ∀ name ∈ location, IsFileName name)
    (hne : location ≠ []) (hreachable : host.files.Reachable location) {candidate : PurePath}
    (hcandidate : candidate ∈ bpfObjectCandidates (some (directoryText location)))
    (hfits : candidate.str.utf8ByteSize < pathMax) :
    ∃ suffix ∈ Native.objectSuffixes,
      (directoryText location.dropLast ++ suffix).utf8ByteSize < pathMax →
        host.stat candidate.str = host.stat (directoryText location.dropLast ++ suffix) := by
  obtain ⟨directory, name, rfl⟩ := (List.eq_nil_or_concat location).resolve_left hne
  rw [List.concat_eq_append] at hnames hreachable hcandidate ⊢
  rw [List.dropLast_concat]
  obtain ⟨readable, hnode⟩ := hreachable directory name [] rfl
  have hdirectory : ∀ other ∈ directory, IsFileName other :=
    fun other hother => hnames other (List.mem_append_left _ hother)
  have habove : host.files.Reachable directory := by
    have hdrop := hreachable.dropLast
    rwa [List.dropLast_concat] at hdrop
  have htail := tail_parse_directoryText hnames
  have hroot : (PurePath.parse (directoryText (directory ++ [name]))).root ≠ .relative := by
    rw [directoryText_concat]
    exact (PurePath.pathRoot_ne_relative_iff _).mpr
      (of_decide_eq_true (isAbsolute_directoryText directory name))
  have hplace : ∀ text, ("/" ++ text) ∈ Native.objectSuffixes → candidate.root ≠ .relative →
      candidate.tail ≠ [] → host.files.walk 40 [] candidate.tail =
        host.files.walk 40 [] (directory ++ pathNames text) →
      ∃ suffix ∈ Native.objectSuffixes,
        (directoryText directory ++ suffix).utf8ByteSize < pathMax →
          host.stat candidate.str = host.stat (directoryText directory ++ suffix) := by
    intro text hmem hcandidateRoot htail hwalk
    refine ⟨"/" ++ text, hmem, fun hplaceFits => ?_⟩
    rw [← String.append_assoc] at hplaceFits ⊢
    exact stat_candidate hdirectory hcandidateRoot htail hfits hplaceFits hwalk
  have hparts : (PurePath.parse "blocksnoop").tail = ["blocksnoop"] ∧
      (PurePath.parse "bpf").tail = ["bpf"] ∧
      (PurePath.parse "core_blockdetect.bpf.o").tail = ["core_blockdetect.bpf.o"] := by
    decide
  obtain ⟨hblocksnoop, hbpf, hobject⟩ := hparts
  simp only [bpfObjectCandidates, List.mem_cons, List.not_mem_nil, or_false] at hcandidate
  rcases hcandidate with rfl | rfl | rfl
  · apply hplace "../blocksnoop/bpf/core_blockdetect.bpf.o" (by decide) hroot
    · simp [PurePath.join, hobject]
    · have hnames : pathNames "../blocksnoop/bpf/core_blockdetect.bpf.o" =
          ["..", "blocksnoop", "bpf", "core_blockdetect.bpf.o"] := by
        decide
      rw [hnames, FileSystem.walk_append_parent habove hnode]
      simp [PurePath.join, PurePath.parent, htail, hblocksnoop, hbpf, hobject]
  · apply hplace "../bpf/core_blockdetect.bpf.o" (by decide) hroot
    · simp [PurePath.join, hobject]
    · have hnames : pathNames "../bpf/core_blockdetect.bpf.o" =
          ["..", "bpf", "core_blockdetect.bpf.o"] := by
        decide
      rw [hnames, FileSystem.walk_append_parent habove hnode]
      simp [PurePath.join, PurePath.parent, htail, hbpf, hobject]
  · apply hplace "core_blockdetect.bpf.o" (by decide) hroot
    · simp [PurePath.join, hobject]
    · have hnames : pathNames "core_blockdetect.bpf.o" = ["core_blockdetect.bpf.o"] := by decide
      rw [hnames]
      simp [PurePath.join, PurePath.parent, htail, hobject]

/-- Without a configured object, doctor looks around the path of the sidecar. -/
theorem objectCandidates_of_configuredObject {sidecar : Option String}
    (h : host.configuredObject = none) :
    host.objectCandidates sidecar = bpfObjectCandidates sidecar := by
  unfold configuredObject at h
  unfold objectCandidates
  split
  · rfl
  next configured hconfigured =>
    rw [hconfigured] at h
    split
    · rfl
    next hne => simp [Option.filter, hne] at h

theorem Plain.hasObjectAround (h : host.Plain) {sidecar : String} {candidate : PurePath}
    (hsidecar : host.findSidecar = .ok (some sidecar))
    (hcandidate : host.firstReadable (bpfObjectCandidates (some sidecar)) =
      .ok (some candidate)) : host.HasObjectAround := by
  obtain ⟨location, hne, hresolve, rfl⟩ := h.sidecar sidecar hsidecar
  obtain ⟨node, hnode⟩ := Host.exists_stat_of_findSidecar hsidecar
  have hfits := (FileSystem.fits_of_stat hnode).2
  obtain ⟨other, hother, hlocation⟩ := FileSystem.stat_eq_ok_iff.mp hnode
  obtain rfl := Except.ok.inj (hresolve.symm.trans hother)
  have hnames := host.files.isFileName location (by rw [hlocation]; simp)
  have hreachable : host.files.Reachable location := by
    obtain ⟨front, name, rfl⟩ := (List.eq_nil_or_concat location).resolve_left hne
    have habsolute := isAbsolute_directoryText front name
    rw [List.concat_eq_append] at hresolve ⊢
    rw [directoryText_concat] at hresolve
    unfold FileSystem.resolve at hresolve
    split_ifs at hresolve
    exact FileSystem.reachable_walk FileSystem.reachable_nil hresolve
  have hlink : (host.selfExe && Native.fits (linkText location)) = true := by
    rw [h.selfExe, linkText, if_neg hne, Bool.true_and]
    exact decide_eq_true hfits
  have hdirectory : host.sidecarDirectory (directoryText location) =
      some (directoryText location.dropLast) := by
    unfold sidecarDirectory
    rw [hresolve]
    dsimp only
    rw [if_pos hlink]
  have hplaces := h.places _ _ hsidecar hdirectory
  obtain ⟨hmem, hreadable⟩ := isReadableFile_of_firstReadable hcandidate
  have hread := canRead_of_isReadableFile hreadable
  obtain ⟨suffix, hsuffix, hstat⟩ :=
    exists_place hnames hne hreachable hmem (ProcessView.lt_pathMax_of_test hread)
  have hsame := hstat (hplaces suffix hsuffix).1
  have hplace : host.canRead (directoryText location.dropLast ++ suffix) = true := by
    unfold ProcessView.canRead ProcessView.test at hread ⊢
    rwa [← hsame]
  cases hfound : (Native.objectSuffixes.map
      (directoryText location.dropLast ++ ·)).find? host.canRead with
  | none =>
      have hnone := List.find?_eq_none.mp hfound _ (List.mem_map_of_mem hsuffix)
      exact absurd hplace hnone
  | some path =>
      obtain ⟨first, hfirst, rfl⟩ := List.mem_map.mp (List.mem_of_find?_eq_some hfound)
      exact ⟨_, _, _, hsidecar, hdirectory, hfound,
        (hplaces first hfirst).2 (List.find?_some hfound)⟩

/-- On a plain machine, the backend that doctor calls effective starts. -/
theorem Plain.probesSucceed (h : host.Plain)
    (hreport : host.collectDiagnostics backend targetPid targetTid statsMode = .ok report)
    (heffective : report.effectiveBackend = some effective) : host.ProbesSucceed effective := by
  obtain ⟨syscall, hpair⟩ := h.exists_pair hreport heffective
  cases effective with
  | bcc =>
      have hentered := (hpair "/sys/kernel/debug/tracing/events/syscalls" (by decide)).1
      exact (detectEpollSyscalls_iff _).mpr ⟨syscall, isDir_entryDirectory hentered⟩
  | core =>
      obtain ⟨sidecar, candidate, hsidecar, hcandidate⟩ :=
        exists_of_effectiveBackend_core hreport heffective
      apply (probesSucceed_core_iff hsidecar hcandidate).mpr
      constructor
      · have htracing := hpair "/sys/kernel/tracing/events/syscalls" (by decide)
        exact ⟨syscall, ⟨_, by decide, htracing⟩, fun _ => htracing.2⟩
      · unfold HasObject
        split
        next hnone =>
          apply h.hasObjectAround hsidecar
          rwa [objectCandidates_of_configuredObject hnone] at hcandidate
        next configured hconfigured => exact h.configured configured hconfigured

/-- Tracefs is mounted twice, and the object is beside the sidecar. -/
def mountedHost : DoctorHost :=
  { linkedHost with
    files := (openDirectory
      [("sys", openDirectory [("kernel", openDirectory
          [("tracing", waitEvents), ("debug", openDirectory [("tracing", waitEvents)])])]),
        ("usr", openDirectory [("bin", openDirectory
          [("blocksnoop-ebpf", .leaf (.regular true true)),
            ("core_blockdetect.bpf.o", openFile)])])]).toFileSystem }

theorem findSidecar_mountedHost :
    mountedHost.findSidecar = .ok (some "/usr/bin/blocksnoop-ebpf") := by
  have hfound : mountedHost.which mountedHost.defaultPath "/usr/bin/blocksnoop-ebpf" =
      some "/usr/bin/blocksnoop-ebpf" := by
    decide +kernel
  exact congrArg Except.ok hfound

theorem resolve_mountedHost :
    mountedHost.files.resolve mountedHost.cwd "/usr/bin/blocksnoop-ebpf" =
      .ok ["usr", "bin", "blocksnoop-ebpf"] := by
  decide +kernel

theorem plain_mountedHost : mountedHost.Plain where
  mounts side hside syscall := by
    have hsame : ∀ side ∈ ["/sys_enter_", "/sys_exit_"], ∀ syscall ∈ Native.EpollVariant.table,
        mountedHost.canRead (Native.formatFile side "/sys/kernel/tracing/events/syscalls"
          syscall.name) =
        mountedHost.canRead (Native.formatFile side "/sys/kernel/debug/tracing/events/syscalls"
          syscall.name) := by
      decide +kernel
    unfold readsFormat
    rw [hsame side hside syscall (Native.EpollVariant.mem_table syscall)]
  sidecar sidecar h := by
    obtain rfl := Option.some.inj (Except.ok.inj (findSidecar_mountedHost.symm.trans h))
    exact ⟨_, List.cons_ne_nil _ _, resolve_mountedHost, by decide⟩
  selfExe := rfl
  configured configured h := by cases h
  places sidecar directory h hdirectory := by
    obtain rfl := Option.some.inj (Except.ok.inj (findSidecar_mountedHost.symm.trans h))
    have hfound : mountedHost.sidecarDirectory "/usr/bin/blocksnoop-ebpf" = some "/usr/bin" := by
      decide +kernel
    obtain rfl := Option.some.inj (hfound.symm.trans hdirectory)
    decide +kernel

end DoctorHost

end Blocksnoop.Diagnostics
