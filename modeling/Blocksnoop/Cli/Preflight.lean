import Blocksnoop.Cli.Conversation
import Blocksnoop.Cli.Target
import Blocksnoop.Diagnostics.Namespace
import Blocksnoop.Diagnostics.PlainHost

/-!
# Doctor before a run

`blocksnoop doctor PID` and `blocksnoop PID` on one machine: `_run_doctor`,
`_validate_environment` and the way of `main` to the collector of the Core backend.  Where
doctor exits with 0, the run is not refused, its command names the numbers of the report, and
the collector takes them, provided that the threshold is one that fits into a machine word;
what is left to fail is what the collector looks for itself, and the calls of libbpf.
-/

namespace Blocksnoop.Cli

open Blocksnoop.Support Blocksnoop.CoreBackend Blocksnoop.Diagnostics

/-! ## `doctor` -/

/-- The exit status of `_run_doctor`, with the report that it prints. -/
def runDoctor (host : DoctorHost) (int : String → Option ℤ) (backend : Backend)
    (target : Option String) (tid : Option ℤ) (stats : Bool) :
    Except PyException (ℕ × Option DoctorReport) :=
  let collect (targetPid : Option ℤ) := do
    let report ← host.collectDiagnostics backend targetPid tid stats
    return (if report.healthy then 0 else 1, some report)
  match target with
  | none => collect none
  | some target =>
      match int target with
      | none => .ok (2, none)
      | some targetPid => collect (some targetPid)

/-! ## The environment check of a run -/

def checkAustinAvailable (host : DoctorHost) : Bool :=
  (host.which host.defaultPath "austin").isSome

/-- The text of the error that is raised, if any; `importsBcc` says whether `import bcc`
works. -/
def validateBackendAvailable (host : DoctorHost) (importsBcc : Bool) :
    Backend → Except PyException (Option String)
  | .bcc =>
      .ok (if importsBcc then none else some
        ("BCC is the explicit legacy backend, but its Python module is not " ++
        "installed. Install it from " ++
        "https://github.com/iovisor/bcc/blob/master/INSTALL.md, or omit " ++
        "`--backend bcc` to use the default Core backend."))
  | .core => do
      let sidecar ← host.findSidecar
      return if sidecar = none then some
        ("Core sidecar `blocksnoop-ebpf` was not found. Install a native Linux " ++
        "blocksnoop wheel or use the official Docker image; alternatively set " ++
        "BLOCKSNOOP_EBPF to a compatible sidecar. The portable wheel does not " ++
        "include native Core assets.")
      else none

/-- The error that is printed before `sys.exit(1)`, if any. -/
def validateEnvironment (host : DoctorHost) (importsBcc statsMode : Bool) (backend : Backend) :
    Except PyException (Option String) :=
  if host.euid ≠ 0 then .ok (some "error: blocksnoop must be run as root (sudo)")
  else if !statsMode && !checkAustinAvailable host then
    .ok (some ("error: austin not found in PATH.\n" ++
      "  Install: https://github.com/P403n1x87/austin"))
  else do
    let error ← validateBackendAvailable host importsBcc backend
    return error.map ("error: " ++ ·)

/-! ## The way to the collector -/

/-- The arguments of a run that decide how it starts. -/
structure RunArguments (F : Type) where
  words : ParsedTarget
  tid : Option ℤ := none
  threshold : Option F := none
  stats : Bool := false

/-- How far a run of the Core backend comes. -/
inductive StartUp (F : Type) where
  /-- An error is printed, and the exit status is 1. -/
  | refused (error : String)
  | raised (e : PyException)
  | spawned (detector : CoreDetector F) (setUp : Native.SetUp)

section

variable {F : Type} [PyRuntime F]

/-- `args.threshold`, whose default depends on the mode. -/
def RunArguments.thresholdMs (args : RunArguments F) : F :=
  args.threshold.getD (PyRuntime.ofLiteral (if args.stats then "0.0" else "100.0"))

def RunArguments.config (args : RunArguments F) (pid : ℤ) : DetectorConfig F :=
  ({ pid, thresholdMs := args.thresholdMs, tid := args.tid } : DetectorConfig F).postInit

omit [PyRuntime F] in
/-- `CoreDetector(config=config, …)` -/
def createDetector (config : DetectorConfig F) : CoreDetector F where
  config := config
  expectedPid := config.pid
  expectedTid := config.tid

/-- The collector as a child of this interpreter. -/
def collector (host : DoctorHost) (succeeds : Native.LoaderCall → Bool) (sidecar : String) :
    Native.Surroundings where
  view := host.toProcessView
  executable := host.executableLink sidecar
  argv0 := sidecar
  succeeds := succeeds

/-- `CoreDetector.start` up to the set-up of the collector. -/
def startDetector (host : DoctorHost) (succeeds : Native.LoaderCall → Bool)
    (d : CoreDetector F) : StartUp F :=
  match host.findSidecar d.executable with
  | .error e => .raised e
  | .ok none => .raised (notFoundError d)
  | .ok (some sidecar) =>
      match d.reset.buildCommand host.proc sidecar with
      | .error e => .raised e
      | .ok (arguments, launched) =>
          .spawned launched ((collector host succeeds sidecar).setUp (arguments.drop 1))

/-- `main` up to there; `popen` launches a command and returns the process. -/
def startUp (host : DoctorHost) (int : String → Option ℤ) (importsBcc : Bool)
    (popen : List String → Except PyException ℤ) (succeeds : Native.LoaderCall → Bool)
    (args : RunArguments F) : StartUp F :=
  match validateEnvironment host importsBcc args.stats .core with
  | .error e => .raised e
  | .ok (some error) => .refused error
  | .ok none =>
      match targetMode (resolveTarget int args.words) with
      | .usageError => .refused "error: provide a target PID or a command to launch (after --)"
      | .attached pid => startDetector host succeeds (createDetector (args.config pid))
      | .launched command =>
          match popen command with
          | .error e => .raised e
          | .ok pid => startDetector host succeeds (createDetector (args.config pid))

end

/-! ## What doctor has looked at -/

section

variable {host : DoctorHost} {backend : Backend} {targetPid targetTid : Option ℤ}
  {statsMode : Bool} {report : DoctorReport}

/-- In a healthy report, every check that is required has passed. -/
theorem exists_checks_of_healthy
    (hreport : host.collectDiagnostics backend targetPid targetTid statsMode = .ok report)
    (hhealthy : report.healthy = true) :
    ∃ backendChecks target, host.backendChecks backend = .ok backendChecks ∧
      checkNamespace host.proc targetPid targetTid = .ok target ∧
      report.effectiveBackend = some backend ∧ report.namespace_ = target.1 ∧
      ∀ check ∈ [host.checkPlatform, host.checkRoot] ++ backendChecks ++
          (if statsMode then [] else [host.checkAustin]) ++ [target.2],
        check.name ∈ DoctorHost.required backend targetPid statsMode → check.status = .pass := by
  obtain ⟨backendChecks, hchecks, hreport⟩ := exists_of_bind_eq_ok hreport
  obtain ⟨target, htarget, hreport⟩ := exists_of_bind_eq_ok hreport
  obtain rfl := Except.ok.inj hreport
  obtain ⟨effective, heffective⟩ := Option.isSome_iff_exists.mp hhealthy
  obtain ⟨hfailed, -⟩ := Option.ite_none_left_eq_some.mp heffective
  refine ⟨backendChecks, target, hchecks, htarget, if_neg hfailed, rfl, ?_⟩
  intro check hcheck hrequired
  by_contra hstatus
  apply hfailed
  rw [List.any_eq_true]
  exact ⟨check, hcheck, by simp [hrequired, hstatus]⟩

theorem euid_of_checkRoot (h : host.checkRoot.status = .pass) : host.euid = 0 := by
  unfold DoctorHost.checkRoot at h
  split at h
  · assumption
  · cases h

theorem checkAustinAvailable_of_checkAustin (h : host.checkAustin.status = .pass) :
    checkAustinAvailable host = true := by
  unfold DoctorHost.checkAustin at h
  split at h
  · assumption
  · cases h

theorem bccImportable_of_checkBcc (h : host.checkBcc.status = .pass) :
    host.bccImportable = true := by
  unfold DoctorHost.checkBcc at h
  split at h
  · assumption
  · cases h

/-- What a healthy report calls for is not refused, when a module that can be found can also
be imported. -/
theorem validateEnvironment_of_healthy {importsBcc : Bool}
    (hreport : host.collectDiagnostics backend targetPid targetTid statsMode = .ok report)
    (hhealthy : report.healthy = true)
    (hbcc : backend = .bcc → host.bccImportable = true → importsBcc = true) :
    validateEnvironment host importsBcc statsMode backend = .ok none := by
  obtain ⟨backendChecks, target, hchecks, -, heffective, -, hpass⟩ :=
    exists_checks_of_healthy hreport hhealthy
  have hroot : host.euid = 0 := by
    apply euid_of_checkRoot
    apply hpass _ (by simp)
    unfold DoctorHost.checkRoot
    split <;> cases backend <;> simp [DoctorHost.required]
  have haustin : (!statsMode && !checkAustinAvailable host) = false := by
    cases statsMode with
    | true => rfl
    | false =>
        rw [checkAustinAvailable_of_checkAustin]
        · rfl
        apply hpass _ (by simp)
        unfold DoctorHost.checkAustin
        split <;> cases backend <;> simp [DoctorHost.required]
  have hbackend : validateBackendAvailable host importsBcc backend = .ok none := by
    cases backend with
    | core =>
        obtain ⟨sidecar, -, hsidecar, -⟩ :=
          DoctorHost.exists_of_effectiveBackend_core hreport heffective
        unfold validateBackendAvailable
        rw [hsidecar]
        rfl
    | bcc =>
        obtain ⟨tracepoints, -, hchecks⟩ := exists_of_bind_eq_ok hchecks
        obtain rfl := Except.ok.inj hchecks
        have himportable : host.bccImportable = true := by
          apply bccImportable_of_checkBcc
          apply hpass _ (by simp)
          unfold DoctorHost.checkBcc
          split <;> simp [DoctorHost.required]
        unfold validateBackendAvailable
        rw [if_pos (hbcc rfl himportable)]
  unfold validateEnvironment
  rw [if_neg (not_not.mpr hroot), if_neg (by simp [haustin]), hbackend]
  rfl

theorem exists_own_of_resolveNamespace {proc : ProcSnapshot} {pid tid : ℤ}
    {target : TargetNamespace} (h : resolveNamespace proc pid tid = .ok target) :
    ∃ own, proc.pidNamespaceFile none = some own := by
  obtain ⟨_, -, h⟩ := exists_of_bind_eq_ok h
  obtain ⟨_, -, h⟩ := exists_of_bind_eq_ok h
  obtain ⟨_, -, h⟩ := exists_of_bind_eq_ok h
  obtain ⟨_, -, h⟩ := exists_of_bind_eq_ok h
  obtain ⟨_, -, h⟩ := exists_of_bind_eq_ok h
  obtain ⟨own, hown, -⟩ := exists_of_bind_eq_ok h
  unfold statNamespace at hown
  split at hown
  next identity hidentity => exact ⟨identity, hidentity⟩
  · cases hown

/-- The target of a healthy report is one for which a command is built. -/
theorem exists_identity_of_healthy {pid : ℤ} {tid : Option ℤ}
    (hreport : host.collectDiagnostics backend (some pid) tid statsMode = .ok report)
    (hhealthy : report.healthy = true)
    (hstatus : ∀ id status, host.proc.statusFile id = some status → WellFormedStatus status) :
    ∃ target, report.namespace_ = some target ∧
      Identity host.proc pid (tid.getD pid) target.localPid target.localTid target.pidnsDev
        target.pidnsIno := by
  obtain ⟨backendChecks, ⟨namespace_, check⟩, -, htarget, -, hnamespace, hpass⟩ :=
    exists_checks_of_healthy hreport hhealthy
  have hcheck := hpass check (by simp)
  cases hresolve : resolveNamespace host.proc pid (tid.getD pid) with
  | error e =>
      simp only [checkNamespace, hresolve] at htarget
      split at htarget
      · obtain ⟨-, rfl⟩ := Prod.mk.inj (Except.ok.inj htarget)
        have hfails := hcheck (by cases backend <;> simp [DoctorHost.required])
        cases hfails
      · cases htarget
  | ok target =>
      simp only [checkNamespace, hresolve] at htarget
      obtain ⟨rfl, -⟩ := Prod.mk.inj (Except.ok.inj htarget)
      refine ⟨target, hnamespace, ?_⟩
      obtain ⟨own, hown⟩ := exists_own_of_resolveNamespace hresolve
      rcases resolveNamespace_cases hown (hstatus pid) (hstatus (tid.getD pid)) with
        ⟨localPid, localTid, dev, ino, hidentity, hresolved⟩ | ⟨-, name, -, hresolved⟩
      · obtain rfl := Except.ok.inj (hresolve.symm.trans hresolved)
        exact hidentity
      · rw [hresolve] at hresolved
        cases hresolved

end

/-! ## What the collector takes -/

section

variable {F : Type} [PyRuntime F] {host : DoctorHost}

/-- The numbers of a target are those of the kernel, and the threshold fits into its word. -/
structure KernelNumbers (target : TargetNamespace) (thresholdNs : ℤ) : Prop where
  localPid : 0 < target.localPid ∧ target.localPid < 2 ^ 32
  localTid : 0 < target.localTid ∧ target.localTid < 2 ^ 32
  pidnsDev : 0 < target.pidnsDev ∧ target.pidnsDev < 2 ^ 64
  pidnsIno : 0 < target.pidnsIno ∧ target.pidnsIno < 2 ^ 64
  thresholdNs : 0 ≤ thresholdNs ∧ thresholdNs < 2 ^ 64

/-- The configuration of the collector for a target. -/
def nativeConfig (target : TargetNamespace) (thresholdNs : ℤ) : Native.DetectorConfig where
  targetTgid := UInt32.ofNat target.localPid.toNat
  targetTid := UInt32.ofNat target.localTid.toNat
  thresholdNs := UInt64.ofNat thresholdNs.toNat
  pidnsDev := UInt64.ofNat target.pidnsDev.toNat
  pidnsIno := UInt64.ofNat target.pidnsIno.toNat

theorem toNat_uint32 {z : ℤ} (hlow : 0 ≤ z) (hhigh : z < 2 ^ 32) :
    ((UInt32.ofNat z.toNat).toNat : ℤ) = z := by
  rw [UInt32.toNat_ofNat_of_lt' (by change z.toNat < 2 ^ 32; omega)]
  exact Int.toNat_of_nonneg hlow

theorem toNat_uint64 {z : ℤ} (hlow : 0 ≤ z) (hhigh : z < 2 ^ 64) :
    ((UInt64.ofNat z.toNat).toNat : ℤ) = z := by
  rw [UInt64.toNat_ofNat_of_lt' (by change z.toNat < 2 ^ 64; omega)]
  exact Int.toNat_of_nonneg hlow

theorem uint32_ne_zero {z : ℤ} (hlow : 0 < z) (hhigh : z < 2 ^ 32) :
    UInt32.ofNat z.toNat ≠ 0 := by
  intro hzero
  have hvalue := toNat_uint32 hlow.le hhigh
  rw [hzero] at hvalue
  exact hlow.ne hvalue

theorem uint64_ne_zero {z : ℤ} (hlow : 0 < z) (hhigh : z < 2 ^ 64) :
    UInt64.ofNat z.toNat ≠ 0 := by
  intro hzero
  have hvalue := toNat_uint64 hlow.le hhigh
  rw [hzero] at hvalue
  exact hlow.ne hvalue

/-- The command for an identity is read by the collector as its configuration, and the parent
expects this configuration. -/
theorem exists_launched_of_identity (d : CoreDetector F) {target : TargetNamespace}
    (sidecar : String) {tid thresholdNs : ℤ} (htid : d.config.tid = some tid)
    (hthreshold : d.config.thresholdNs = .ok thresholdNs)
    (hidentity : Identity host.proc d.config.pid tid target.localPid target.localTid
      target.pidnsDev target.pidnsIno)
    (hnumbers : KernelNumbers target thresholdNs) :
    ∃ arguments launched options, d.buildCommand host.proc sidecar = .ok (arguments, launched) ∧
      Expects launched (nativeConfig target thresholdNs) ∧
      Native.parseOptions (arguments.drop 1) = .ok options ∧
      options.config = nativeConfig target thresholdNs ∧ options.objectPath = none := by
  obtain ⟨launched, hbuild⟩ := (buildCommand_eq_ok_iff htid hthreshold _).mpr
    ⟨_, _, _, _, hidentity, rfl⟩
  have hlaunched : launched = { d with
      pidnsDev := some target.pidnsDev
      pidnsIno := some target.pidnsIno
      expectedPid := target.localPid
      expectedTid := some target.localTid } := by
    have hvalid : d.validateTargetTid host.proc tid (target.pidnsDev, target.pidnsIno) = .ok () :=
      validateTargetTid_eq_ok_iff.mpr ⟨hidentity.owner, hidentity.task⟩
    simp only [CoreDetector.buildCommand, pidNamespace, hidentity.target, hidentity.localPid,
      htid, hvalid, hidentity.localTid, hthreshold] at hbuild
    exact (Prod.mk.inj (Except.ok.inj hbuild)).2.symm
  have hexpects : Expects launched (nativeConfig target thresholdNs) := by
    subst hlaunched
    exact {
      pid := (toNat_uint32 hnumbers.localPid.1.le hnumbers.localPid.2).symm
      tid := congrArg some (toNat_uint32 hnumbers.localTid.1.le hnumbers.localTid.2).symm
      dev := congrArg some (toNat_uint64 hnumbers.pidnsDev.1.le hnumbers.pidnsDev.2).symm
      ino := congrArg some (toNat_uint64 hnumbers.pidnsIno.1.le hnumbers.pidnsIno.2).symm
      threshold := by
        rw [hthreshold]
        exact congrArg _ (toNat_uint64 hnumbers.thresholdNs.1 hnumbers.thresholdNs.2).symm }
  have hpid : (nativeConfig target thresholdNs).targetTgid ≠ 0 :=
    uint32_ne_zero hnumbers.localPid.1 hnumbers.localPid.2
  have htid : (nativeConfig target thresholdNs).targetTid ≠ 0 :=
    uint32_ne_zero hnumbers.localTid.1 hnumbers.localTid.2
  have hdev : (nativeConfig target thresholdNs).pidnsDev ≠ 0 :=
    uint64_ne_zero hnumbers.pidnsDev.1 hnumbers.pidnsDev.2
  have hino : (nativeConfig target thresholdNs).pidnsIno ≠ 0 :=
    uint64_ne_zero hnumbers.pidnsIno.1 hnumbers.pidnsIno.2
  have hparse := parseOptions_commandArguments hpid htid hdev hino
  rw [← buildCommand_arguments hbuild hexpects] at hparse
  exact ⟨_, launched, _, hbuild, hexpects, hparse, rfl, rfl⟩

/-! ## What is left to fail -/

/-- The set-up comes to libbpf with an object that can be read, and ends with the first call
that fails, or it is complete. -/
def Loads (host : DoctorHost) (succeeds : Native.LoaderCall → Bool)
    (config : Native.DetectorConfig) (setUp : Native.SetUp) : Prop :=
  ∃ path enabled, host.isReadableObject path = true ∧ (∃ variant, enabled variant = true) ∧
    setUp =
      match Native.Loader.runCalls enabled succeeds {} (Native.loaderCalls path enabled) with
      | (loader, some call) => .failed call.message loader.cleanup
      | (loader, none) => .complete config enabled loader

/-- No call fails but the one that opens an object that cannot be read. -/
def opensReadable (host : DoctorHost) : Native.LoaderCall → Bool
  | .openFile path => host.isReadableObject path
  | _ => true

variable {succeeds : Native.LoaderCall → Bool} {sidecar : String} {arguments : List String}
  {options : Native.Options} {config : Native.DetectorConfig} {setUp : Native.SetUp}

theorem loads_setUp (hsidecar : host.findSidecar = .ok (some sidecar))
    (hoptions : Native.parseOptions arguments = .ok options) (hobject : options.objectPath = none)
    (h : host.ProbesSucceed .core) :
    Loads host succeeds options.config ((collector host succeeds sidecar).setUp arguments) := by
  obtain ⟨⟨other, path, hother, hpath, hreadable⟩, syscall, hsyscall, hexists⟩ := h
  obtain rfl := Option.some.inj (Except.ok.inj (hsidecar.symm.trans hother))
  have hfound : (collector host succeeds sidecar).objectPath options = some path := by
    unfold Native.Surroundings.objectPath
    rw [hobject]
    exact hpath
  have henabled : (collector host succeeds sidecar).enabled syscall = true := hexists
  have hsome : Native.EpollVariant.table.filter (collector host succeeds sidecar).enabled ≠ [] :=
    List.ne_nil_of_mem (List.mem_filter.mpr ⟨hsyscall, henabled⟩)
  refine ⟨path, (collector host succeeds sidecar).enabled, hreadable, ⟨syscall, henabled⟩, ?_⟩
  unfold Native.Surroundings.setUp
  rw [hoptions]
  dsimp only
  rw [hfound]
  dsimp only
  rw [if_neg hsome]
  rfl

/-- A set-up that is complete has found what it looks for. -/
theorem probesSucceed_of_complete {enabled : Native.EpollVariant → Bool} {loader : Native.Loader}
    (hsidecar : host.findSidecar = .ok (some sidecar))
    (hoptions : Native.parseOptions arguments = .ok options) (hobject : options.objectPath = none)
    (h : (collector host (opensReadable host) sidecar).setUp arguments =
      .complete config enabled loader) : host.ProbesSucceed .core := by
  unfold Native.Surroundings.setUp at h
  rw [hoptions] at h
  dsimp only at h
  unfold Native.Surroundings.objectPath at h
  rw [hobject] at h
  dsimp only at h
  split at h
  · cases h
  next path hpath =>
    split at h
    · cases h
    next hsome =>
      obtain ⟨syscall, hsyscall⟩ := List.exists_mem_of_ne_nil _ hsome
      obtain ⟨hmem, hexists⟩ := List.mem_filter.mp hsyscall
      split at h
      · cases h
      next loader' hcalls =>
        refine ⟨⟨sidecar, path, hsidecar, hpath, ?_⟩, syscall, hmem, hexists⟩
        unfold Native.loaderCalls at hcalls
        by_contra hreadable
        rw [List.cons_append, List.cons_append, Native.Loader.runCalls,
          if_neg (by exact hreadable)] at hcalls
        cases hcalls

theorem runCalls_opensReadable {path : String} {enabled : Native.EpollVariant → Bool}
    (h : host.isReadableObject path = true) :
    (Native.Loader.runCalls enabled (opensReadable host) {}
      (Native.loaderCalls path enabled)).2 = none := by
  have hsucceeds : ∀ call ∈ Native.loaderCalls path enabled, opensReadable host call = true := by
    intro call hcall
    cases call with
    | openFile other =>
        have hother : other = path := by
          simpa [Native.loaderCalls] using hcall
        rw [hother]
        exact h
    | _ => rfl
  generalize Native.loaderCalls path enabled = calls at hsucceeds
  generalize ({} : Native.Loader) = s
  induction calls generalizing s with
  | nil => rfl
  | cons call calls ih =>
      obtain ⟨hcall, hcalls⟩ := List.forall_mem_cons.mp hsucceeds
      rw [Native.Loader.runCalls, if_pos hcall]
      exact ih hcalls _

theorem exists_complete_of_loads (h : Loads host (opensReadable host) config setUp) :
    ∃ enabled loader, setUp = .complete config enabled loader := by
  obtain ⟨path, enabled, hreadable, -, rfl⟩ := h
  have hcalls : (Native.Loader.runCalls enabled (opensReadable host) {}
      (Native.loaderCalls path enabled)).2 = none := runCalls_opensReadable hreadable
  generalize Native.Loader.runCalls enabled (opensReadable host) {}
    (Native.loaderCalls path enabled) = outcome at hcalls
  obtain ⟨loader, call⟩ := outcome
  obtain rfl : call = none := hcalls
  exact ⟨enabled, loader, rfl⟩

/-! ## From doctor to the collector -/

variable {int : String → Option ℤ} {text : String} {report : DoctorReport}
  (importsBcc : Bool) (popen : List String → Except PyException ℤ) (args : RunArguments F)

theorem exists_of_runDoctor {backend : Backend} {tid : Option ℤ} {stats : Bool}
    (h : runDoctor host int backend (some text) tid stats = .ok (0, some report)) :
    ∃ pid, int text = some pid ∧
      host.collectDiagnostics backend (some pid) tid stats = .ok report ∧
      report.healthy = true := by
  unfold runDoctor at h
  dsimp only at h
  split at h
  · cases h
  next pid hpid =>
    obtain ⟨other, hreport, h⟩ := exists_of_bind_eq_ok h
    obtain ⟨hexit, hother⟩ := Prod.mk.inj (Except.ok.inj h)
    obtain rfl := Option.some.inj hother
    refine ⟨pid, hpid, hreport, ?_⟩
    by_contra hhealthy
    rw [if_neg hhealthy] at hexit
    cases hexit

/-- A run for a number of a process, once the environment check has passed and the command is
built. -/
theorem startUp_eq_spawned {pid : ℤ} {launched : CoreDetector F}
    (hwords : args.words = ⟨some text, []⟩) (hpid : int text = some pid)
    (hvalid : validateEnvironment host importsBcc args.stats .core = .ok none)
    (hsidecar : host.findSidecar = .ok (some sidecar))
    (hbuild : (createDetector (args.config pid)).reset.buildCommand host.proc sidecar =
      .ok (arguments, launched)) :
    startUp host int importsBcc popen succeeds args =
      .spawned launched ((collector host succeeds sidecar).setUp (arguments.drop 1)) := by
  have hmode : targetMode (resolveTarget int args.words) = .attached pid := by
    rw [hwords]
    unfold resolveTarget
    dsimp only
    rw [hpid]
    rfl
  have hfound : host.findSidecar (createDetector (args.config pid)).executable =
      .ok (some sidecar) := hsidecar
  unfold startUp startDetector
  rw [hvalid, hmode]
  dsimp only
  rw [hfound]
  dsimp only
  rw [hbuild]

/-- Doctor has exited with 0 for a process, and the run for it, with the same thread and in the
same mode, begins on the same machine, where the ids are numbers of the kernel and the
threshold fits into its word.  It is not refused; its collector takes the numbers of the
report, and its ready message is accepted.  Where the searches of doctor and of the collector
meet, only libbpf is left to fail; and only there does the collector come up when libbpf
refuses nothing. -/
theorem startUp_of_doctor {thresholdNs : ℤ} (hwords : args.words = ⟨some text, []⟩)
    (hdoctor : runDoctor host int .core (some text) args.tid args.stats = .ok (0, some report))
    (hstatus : ∀ id status, host.proc.statusFile id = some status → WellFormedStatus status)
    (hthreshold : PyRuntime.toInt (PyRuntime.mulInt args.thresholdMs 1000000) = .ok thresholdNs)
    (hnumbers : ∀ target, report.namespace_ = some target → KernelNumbers target thresholdNs) :
    ∃ target launched, report.namespace_ = some target ∧
      (∀ enabled : Native.EpollVariant → Bool, (∃ variant, enabled variant = true) →
        handleLine launched (Native.emitReady (nativeConfig target thresholdNs) enabled) =
          .ready) ∧
      (∀ succeeds, ∃ setUp,
        startUp host int importsBcc popen succeeds args = .spawned launched setUp ∧
        (host.SearchesMeet .core →
          Loads host succeeds (nativeConfig target thresholdNs) setUp)) ∧
      ((∃ enabled loader, startUp host int importsBcc popen (opensReadable host) args =
          .spawned launched (.complete (nativeConfig target thresholdNs) enabled loader)) ↔
        host.SearchesMeet .core) := by
  obtain ⟨pid, hpid, hreport, hhealthy⟩ := exists_of_runDoctor hdoctor
  obtain ⟨-, -, -, -, heffective, -⟩ := exists_checks_of_healthy hreport hhealthy
  obtain ⟨sidecar, candidate, hsidecar, hcandidate⟩ :=
    DoctorHost.exists_of_effectiveBackend_core hreport heffective
  have hmeet := DoctorHost.probesSucceed_core_iff hsidecar hcandidate
  have hvalid : validateEnvironment host importsBcc args.stats .core = .ok none :=
    validateEnvironment_of_healthy hreport hhealthy (fun h => nomatch h)
  obtain ⟨target, hnamespace, hidentity⟩ := exists_identity_of_healthy hreport hhealthy hstatus
  obtain ⟨arguments, launched, options, hbuild, hexpects, hoptions, hconfig, hobject⟩ :=
    exists_launched_of_identity (createDetector (args.config pid)).reset sidecar rfl hthreshold
      hidentity (hnumbers target hnamespace)
  have hspawned (succeeds : Native.LoaderCall → Bool) :
      startUp host int importsBcc popen succeeds args =
        .spawned launched ((collector host succeeds sidecar).setUp (arguments.drop 1)) :=
    startUp_eq_spawned importsBcc popen args hwords hpid hvalid hsidecar hbuild
  have hloads (succeeds : Native.LoaderCall → Bool) (h : host.SearchesMeet .core) :
      Loads host succeeds (nativeConfig target thresholdNs)
        ((collector host succeeds sidecar).setUp (arguments.drop 1)) :=
    hconfig ▸ loads_setUp hsidecar hoptions hobject (hmeet.mpr h)
  refine ⟨target, launched, hnamespace, fun _ => handleLine_emitReady hexpects, ?_, ?_⟩
  · intro succeeds
    exact ⟨_, hspawned succeeds, hloads succeeds⟩
  constructor
  · rintro ⟨enabled, loader, hcomplete⟩
    have hsetUp := (StartUp.spawned.inj ((hspawned _).symm.trans hcomplete)).2
    exact hmeet.mp (probesSucceed_of_complete hsidecar hoptions hobject hsetUp)
  · intro h
    obtain ⟨enabled, loader, hsetUp⟩ := exists_complete_of_loads (hloads _ h)
    exact ⟨enabled, loader, by rw [hspawned, hsetUp]⟩

end

/-- The plain machine with a thread in a private namespace. -/
def nestedHost : DoctorHost :=
  { DoctorHost.mountedHost with proc := nestedProc }

theorem plain_nestedHost : nestedHost.Plain where
  mounts := DoctorHost.plain_mountedHost.mounts
  sidecar := DoctorHost.plain_mountedHost.sidecar
  selfExe := rfl
  configured := DoctorHost.plain_mountedHost.configured
  places := DoctorHost.plain_mountedHost.places

def nestedArguments : RunArguments ℚ where
  words := ⟨some "100", []⟩
  tid := some 101
  threshold := some (25 / 2)
  stats := true

theorem exists_runDoctor_nestedHost :
    ∃ report, runDoctor nestedHost (fun text => pyInt text.toList) .core (some "100") (some 101)
        true = .ok (0, some report) ∧
      report.namespace_ = some ⟨100, 101, 7, 9, 7, 8, true⟩ := by
  have hdoctor : ((runDoctor nestedHost (fun text => pyInt text.toList) .core (some "100")
      (some 101) true).toOption.map fun outcome =>
        (outcome.1, outcome.2.bind DoctorReport.namespace_)) =
      some (0, some ⟨100, 101, 7, 9, 7, 8, true⟩) := by
    decide +kernel
  obtain ⟨⟨status, report⟩, houtcome, hpair⟩ := Option.map_eq_some_iff.mp hdoctor
  obtain ⟨rfl, hreport⟩ := Prod.mk.inj hpair
  obtain ⟨found, rfl, hnamespace⟩ := Option.bind_eq_some_iff.mp hreport
  cases hresult : runDoctor nestedHost (fun text => pyInt text.toList) .core (some "100")
      (some 101) true with
  | error e =>
      rw [hresult] at houtcome
      cases houtcome
  | ok other =>
      rw [hresult] at houtcome
      obtain rfl := Option.some.inj houtcome
      exact ⟨found, rfl, hnamespace⟩

theorem startUp_of_doctor_nested :
    ∃ launched enabled loader,
      startUp nestedHost (fun text => pyInt text.toList) false (fun _ => .ok 0)
          (opensReadable nestedHost) nestedArguments =
        .spawned launched (.complete ⟨7, 9, 12500000, 7, 8⟩ enabled loader) := by
  obtain ⟨report, hdoctor, hnamespace⟩ := exists_runDoctor_nestedHost
  obtain ⟨target, launched, htarget, -, -, hcomplete⟩ :=
    startUp_of_doctor false (fun _ => .ok 0) nestedArguments rfl hdoctor
      (fun id status => wellFormedStatus_nestedProc id status) nestedDetector_thresholdNs
      (fun target htarget => by
        obtain rfl := Option.some.inj (hnamespace.symm.trans htarget)
        constructor <;> decide)
  obtain rfl := Option.some.inj (hnamespace.symm.trans htarget)
  obtain ⟨pid, -, hreport, hhealthy⟩ := exists_of_runDoctor hdoctor
  obtain ⟨-, -, -, -, heffective, -⟩ := exists_checks_of_healthy hreport hhealthy
  obtain ⟨sidecar, candidate, hsidecar, hcandidate⟩ :=
    DoctorHost.exists_of_effectiveBackend_core hreport heffective
  obtain ⟨enabled, loader, h⟩ := hcomplete.mpr
    ((DoctorHost.probesSucceed_core_iff hsidecar hcandidate).mp
      (plain_nestedHost.probesSucceed hreport heffective))
  exact ⟨launched, enabled, loader, h⟩

end Blocksnoop.Cli
