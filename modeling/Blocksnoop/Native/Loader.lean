import Blocksnoop.Bpf.Attach
import Blocksnoop.Native.PollLoop
import Blocksnoop.Native.Probes

/-!
# The collector from its arguments to its exit

`main` of `native/blocksnoop_ebpf.c` around the poll loop: the arguments, the object file, the
look at tracefs, the calls of libbpf up to the last probe, and the clean-up that every path
takes.  Whatever call fails, what was acquired is released once, the probes first; and the
exit status says what stands on the standard output.
-/

namespace Blocksnoop.Native

open Blocksnoop.Support
open Blocksnoop.Bpf (Probe attachOrder)

/-! ## The calls of libbpf -/

/-- A call whose failure makes `main` write a fatal message and go to its clean-up. -/
inductive LoaderCall where
  | openFile (path : String)
  /-- Both programs of a variant are looked up before either is checked. -/
  | findPrograms (variant : EpollVariant)
  | findEvents
  | possibleCpus
  | setMaxEntries
  | load
  /-- The map `config` is found and its element is written. -/
  | configure
  | findLoadedEvents
  | newPerfBuffer
  | attach (probe : Probe)
  deriving Repr, DecidableEq

/-- The text of the fatal message behind a call that failed. -/
def LoaderCall.message : LoaderCall → String
  | openFile _ => "could not open BPF object"
  | findPrograms _ => "BPF object is missing an epoll tracepoint program"
  | findEvents => "BPF object is missing the events map"
  | possibleCpus => "could not determine the number of possible CPUs"
  | setMaxEntries => "could not size the perf events map for available CPUs"
  | load => "could not load BPF object (root/CAP_BPF may be required)"
  | configure => "could not configure BPF object"
  | findLoadedEvents => "BPF object is missing the events map"
  | newPerfBuffer => "could not create perf buffer"
  | attach ⟨.sysExit, _⟩ => "could not attach an epoll exit tracepoint"
  | attach ⟨.sysEnter, _⟩ => "could not attach an epoll enter tracepoint"

/-- The calls in the order of `main`. -/
def loaderCalls (path : String) (enabled : EpollVariant → Bool) : List LoaderCall :=
  .openFile path :: EpollVariant.table.map .findPrograms ++
    [.findEvents, .possibleCpus, .setMaxEntries, .load, .configure, .findLoadedEvents,
      .newPerfBuffer] ++ (attachOrder enabled).map .attach

inductive Resource where
  | object
  | perfBuffer
  | link (probe : Probe)
  deriving Repr, DecidableEq

inductive Effect where
  | acquire (resource : Resource)
  | release (resource : Resource)
  deriving Repr, DecidableEq

/-- The local variables that the clean-up looks at, and what has been done so far. -/
structure Loader where
  object : Bool := false
  perfBuffer : Bool := false
  links : List Probe := []
  /-- The variants whose programs are not loaded. -/
  withoutAutoload : List EpollVariant := []
  /-- The programs that the kernel has. -/
  loaded : List Probe := []
  effects : List Effect := []
  deriving Repr, DecidableEq

namespace Loader

/-- What a call that succeeds does. -/
def perform (enabled : EpollVariant → Bool) (s : Loader) : LoaderCall → Loader
  | .openFile _ =>
      { s with object := true, effects := s.effects ++ [.acquire .object] }
  | .findPrograms variant =>
      if enabled variant then s
      else { s with withoutAutoload := s.withoutAutoload ++ [variant] }
  | .load =>
      { s with loaded := attachOrder fun variant => variant ∉ s.withoutAutoload }
  | .newPerfBuffer =>
      { s with perfBuffer := true, effects := s.effects ++ [.acquire .perfBuffer] }
  | .attach probe =>
      { s with links := s.links ++ [probe], effects := s.effects ++ [.acquire (.link probe)] }
  | _ => s

/-- The calls up to the first that fails, which is returned. -/
def runCalls (enabled : EpollVariant → Bool) (succeeds : LoaderCall → Bool) (s : Loader) :
    List LoaderCall → Loader × Option LoaderCall
  | [] => (s, none)
  | call :: calls =>
      if succeeds call then runCalls enabled succeeds (s.perform enabled call) calls
      else (s, some call)

/-- What `cleanup` releases: the links that were counted, and what is not null. -/
def held (s : Loader) : List Resource :=
  s.links.map .link ++ (if s.perfBuffer then [.perfBuffer] else []) ++
    (if s.object then [.object] else [])

def cleanup (s : Loader) : Loader :=
  { s with effects := s.effects ++ s.held.map .release }

end Loader

/-! ## `main` -/

/-- What the collector finds when it is started. -/
structure Surroundings where
  view : ProcessView
  /-- The target of `/proc/self/exe`. -/
  executable : Option String
  argv0 : String
  succeeds : LoaderCall → Bool

/-- How far `main` gets before the ready message. -/
inductive SetUp where
  /-- The arguments are not accepted, or they ask for help. -/
  | rejected (status : ℕ)
  | failed (message : String) (loader : Loader)
  | complete (config : DetectorConfig) (enabled : EpollVariant → Bool) (loader : Loader)

namespace Surroundings

variable (host : Surroundings)

def enabled (variant : EpollVariant) : Bool :=
  tracepointExists host.view variant.name

/-- The object of `--bpf-object`, or else the one that is found. -/
def objectPath (options : Options) : Option String :=
  match options.objectPath with
  | some path => some path
  | none => defaultBpfObject host.view host.executable host.argv0

def setUp (arguments : List String) : SetUp :=
  match parseOptions arguments with
  | .error status => .rejected status
  | .ok options =>
      match host.objectPath options with
      | none => .failed "could not determine the BPF object path" {}
      | some path =>
          if EpollVariant.table.filter host.enabled = [] then
            .failed "no supported epoll tracepoint pair is available" {}
          else
            match Loader.runCalls host.enabled host.succeeds {}
                (loaderCalls path host.enabled) with
            | (loader, some call) => .failed call.message loader.cleanup
            | (loader, none) => .complete options.config host.enabled loader

end Surroundings

namespace SetUp

/-- The collector behind the set-up, with what the program has left so far. -/
def poll (config : DetectorConfig) (enabled : EpollVariant → Bool) (map : Bpf.CallbackStart)
    (queue : List Pending) (turns : List PollTurn) : Collector :=
  Collector.run config enabled { map := map, queue := queue } turns

/-- The standard output after some turns.  The text of `--help` is not counted. -/
def stdout (s : SetUp) (map : Bpf.CallbackStart) (queue : List Pending)
    (turns : List PollTurn) : List Line :=
  match s with
  | rejected _ => []
  | failed message _ => [.fatal message]
  | complete config enabled _ => (poll config enabled map queue turns).lines

/-- The exit status and what has been done, once `main` has returned. -/
def exit (s : SetUp) (map : Bpf.CallbackStart) (queue : List Pending)
    (turns : List PollTurn) : Option (ℕ × Loader) :=
  match s with
  | rejected status => some (status, {})
  | failed _ loader => some (1, loader)
  | complete config enabled loader =>
      match (poll config enabled map queue turns).point with
      | .exited status => some (status, loader.cleanup)
      | _ => none

end SetUp

/-! ## What is acquired and released -/

def LoaderCall.acquires : LoaderCall → Option Resource
  | openFile _ => some .object
  | newPerfBuffer => some .perfBuffer
  | attach probe => some (.link probe)
  | _ => none

/-- What was acquired is released, each once, and the links before what they write to. -/
def Released (effects : List Effect) : Prop :=
  ∃ (acquired : List Resource) (links : List Probe) (rest : List Resource),
    effects = acquired.map .acquire ++ (links.map Resource.link ++ rest).map .release ∧
      acquired.Perm (links.map Resource.link ++ rest) ∧ acquired.Nodup ∧
      rest.Sublist [.perfBuffer, .object]

theorem nodup_attachOrder (enabled : EpollVariant → Bool) : (attachOrder enabled).Nodup := by
  unfold attachOrder EpollVariant.table
  cases hwait : enabled .epollWait
  all_goals cases hpwait : enabled .epollPwait
  all_goals cases hpwait2 : enabled .epollPwait2
  all_goals simp [List.filter, hwait, hpwait, hpwait2]

theorem filterMap_acquires_loaderCalls (path : String) (enabled : EpollVariant → Bool) :
    (loaderCalls path enabled).filterMap LoaderCall.acquires =
      .object :: .perfBuffer :: (attachOrder enabled).map .link := by
  have hlinks : ∀ probes : List Probe, (probes.map LoaderCall.attach).filterMap
      LoaderCall.acquires = probes.map Resource.link := by
    intro probes
    have hacquires : LoaderCall.acquires ∘ LoaderCall.attach = some ∘ Resource.link := rfl
    rw [List.filterMap_map, hacquires, List.filterMap_eq_map]
  unfold loaderCalls
  rw [List.filterMap_append, hlinks]
  rfl

namespace Loader

/-- What has been acquired is held, and nothing has been released. -/
def Accounts (s : Loader) : Prop :=
  ∃ acquired : List Resource, s.effects = acquired.map .acquire ∧ acquired.Perm s.held

variable {enabled : EpollVariant → Bool} {succeeds : LoaderCall → Bool} {s : Loader}

/-- A call that succeeds adds to what is held exactly what it acquires. -/
theorem held_perform (call : LoaderCall)
    (hfresh : ∀ resource, call.acquires = some resource → resource ∉ s.held) :
    (s.perform enabled call).held.Perm (s.held ++ call.acquires.toList) ∧
      (s.perform enabled call).effects = s.effects ++ call.acquires.toList.map .acquire := by
  cases call with
  | openFile path =>
      have hobject : s.object = false := by
        have hnotHeld := hfresh .object rfl
        simpa [held] using hnotHeld
      refine ⟨List.Perm.of_eq ?_, rfl⟩
      cases hbuffer : s.perfBuffer
      all_goals simp [held, perform, hobject, hbuffer, LoaderCall.acquires]
  | newPerfBuffer =>
      have hbuffer : s.perfBuffer = false := by
        have hnotHeld := hfresh .perfBuffer rfl
        simpa [held] using hnotHeld
      refine ⟨?_, rfl⟩
      simp only [held, perform, hbuffer, LoaderCall.acquires, if_true, Option.toList_some,
        Bool.false_eq_true, if_false, List.append_nil, List.append_assoc]
      exact List.perm_append_comm.append_left _
  | attach probe =>
      refine ⟨?_, rfl⟩
      simp only [held, perform, LoaderCall.acquires, Option.toList_some, List.map_append,
        List.map_cons, List.map_nil, List.append_assoc]
      refine List.Perm.append_left _ ?_
      rw [← List.append_assoc _ _ [Resource.link probe]]
      exact List.perm_append_comm
  | findPrograms variant =>
      by_cases henabled : enabled variant = true
      · simp [perform, henabled, LoaderCall.acquires]
      · simp [perform, henabled, LoaderCall.acquires, held]
  | load => simp [perform, LoaderCall.acquires, held]
  | _ => simp [perform, LoaderCall.acquires]

/-- Calls that acquire different things keep the account, wherever they stop. -/
theorem accounts_runCalls (h : s.Accounts) {calls : List LoaderCall}
    (hnodup : (s.held ++ calls.filterMap LoaderCall.acquires).Nodup) :
    (runCalls enabled succeeds s calls).1.Accounts ∧
      (runCalls enabled succeeds s calls).1.held.Nodup := by
  induction calls generalizing s with
  | nil => exact ⟨h, by simpa [runCalls] using hnodup⟩
  | cons call calls ih =>
      unfold runCalls
      split
      · have hcons : (call :: calls).filterMap LoaderCall.acquires =
            call.acquires.toList ++ calls.filterMap LoaderCall.acquires := by
          cases hacquires : call.acquires with
          | none => rw [List.filterMap_cons_none hacquires]; rfl
          | some resource => rw [List.filterMap_cons_some hacquires]; rfl
        rw [hcons, ← List.append_assoc] at hnodup
        have hfresh : ∀ resource, call.acquires = some resource → resource ∉ s.held := by
          intro resource hresource hheld
          have hdisjoint := (List.nodup_append.mp (List.nodup_append.mp hnodup).1).2.2
          exact hdisjoint resource hheld resource (by simp [hresource]) rfl
        obtain ⟨hperm, heffects⟩ : (s.perform enabled call).held.Perm _ ∧ _ :=
          held_perform call hfresh
        obtain ⟨acquired, hacquired, hheld⟩ := h
        apply ih
        · refine ⟨acquired ++ call.acquires.toList, ?_, ?_⟩
          · rw [heffects, hacquired, List.map_append]
          · exact (hheld.append_right _).trans hperm.symm
        · exact (hperm.append_right _).nodup_iff.mpr hnodup
      · exact ⟨h, (List.nodup_append.mp hnodup).1⟩

theorem accounts_loaderCalls (path : String) (enabled : EpollVariant → Bool)
    (succeeds : LoaderCall → Bool) :
    (runCalls enabled succeeds {} (loaderCalls path enabled)).1.Accounts ∧
      (runCalls enabled succeeds {} (loaderCalls path enabled)).1.held.Nodup := by
  refine accounts_runCalls ⟨[], rfl, by simp [held]⟩ ?_
  rw [filterMap_acquires_loaderCalls]
  have hlinks : ((attachOrder enabled).map Resource.link).Nodup :=
    (nodup_attachOrder enabled).map fun _ _ h => Resource.link.inj h
  simpa [held] using hlinks

theorem released_cleanup (h : s.Accounts) (hnodup : s.held.Nodup) :
    Released s.cleanup.effects := by
  obtain ⟨acquired, heffects, hperm⟩ := h
  refine ⟨acquired, s.links, (if s.perfBuffer then [.perfBuffer] else []) ++
    (if s.object then [.object] else []), ?_, ?_, hperm.nodup_iff.mpr hnodup, ?_⟩
  · change s.effects ++ s.held.map Effect.release = _
    rw [heffects, held, List.append_assoc]
  · rwa [held, List.append_assoc] at hperm
  · cases s.perfBuffer
    all_goals cases s.object
    all_goals decide

end Loader

theorem released_nil : Released [] :=
  ⟨[], [], [], rfl, List.Perm.refl _, List.nodup_nil, List.nil_sublist _⟩

/-- Whatever fails, and however the poll loop ends, `main` leaves nothing behind. -/
theorem exit_released (host : Surroundings) (arguments : List String)
    (map : Bpf.CallbackStart) (queue : List Pending) (turns : List PollTurn) {status : ℕ}
    {loader : Loader}
    (h : (host.setUp arguments).exit map queue turns = some (status, loader)) :
    Released loader.effects := by
  unfold Surroundings.setUp at h
  split at h
  · obtain ⟨-, rfl⟩ := Prod.mk.inj (Option.some.inj h)
    exact released_nil
  next options hoptions =>
    split at h
    · obtain ⟨-, rfl⟩ := Prod.mk.inj (Option.some.inj h)
      exact released_nil
    next path hpath =>
      split at h
      · obtain ⟨-, rfl⟩ := Prod.mk.inj (Option.some.inj h)
        exact released_nil
      · obtain ⟨haccounts, hnodup⟩ :=
          Loader.accounts_loaderCalls path host.enabled host.succeeds
        split at h
        next loader' call hcalls =>
          rw [hcalls] at haccounts hnodup
          obtain ⟨-, rfl⟩ := Prod.mk.inj (Option.some.inj h)
          exact Loader.released_cleanup haccounts hnodup
        next loader' hcalls =>
          rw [hcalls] at haccounts hnodup
          unfold SetUp.exit at h
          dsimp only at h
          split at h
          · obtain ⟨-, rfl⟩ := Prod.mk.inj (Option.some.inj h)
            exact Loader.released_cleanup haccounts hnodup
          · cases h

/-- Directories inside each other. -/
def nested (names : List String) (tree : FileTree) : FileTree :=
  names.foldr (fun name tree => .branch true true [(name, tree)]) tree

/-- A machine with the tracepoints of `epoll_wait`, where the enter probe cannot be attached. -/
def halfAttached : Surroundings where
  view :=
    { files := (nested ["sys", "kernel", "tracing", "events", "syscalls"]
        (.branch true true
          [("sys_enter_epoll_wait", nested ["format"] (.leaf (.regular true false))),
            ("sys_exit_epoll_wait", nested ["format"] (.leaf (.regular true false)))])).toFileSystem
      cwd := []
      getenv := fun _ => none }
  executable := none
  argv0 := "blocksnoop-ebpf"
  succeeds call := call ≠ .attach ⟨.sysEnter, .epollWait⟩

def halfAttachedArguments : List String :=
  ["--protocol-version", "2", "--pid", "7", "--tid", "9", "--pidns-dev", "3", "--pidns-ino", "4",
    "--threshold-ns", "1000", "--bpf-object", "/core_blockdetect.bpf.o"]

theorem exit_released_halfAttached :
    ∃ loader, (halfAttached.setUp halfAttachedArguments).exit (fun _ => none) [] [] =
        some (1, loader) ∧
      loader.effects = [.acquire .object, .acquire .perfBuffer,
        .acquire (.link ⟨.sysExit, .epollWait⟩), .release (.link ⟨.sysExit, .epollWait⟩),
        .release .perfBuffer, .release .object] ∧
      Released loader.effects := by
  have hexit : (((halfAttached.setUp halfAttachedArguments).exit (fun _ => none) [] []).map
      fun exit => (exit.1, exit.2.effects)) =
        some (1, [.acquire .object, .acquire .perfBuffer,
          .acquire (.link ⟨.sysExit, .epollWait⟩), .release (.link ⟨.sysExit, .epollWait⟩),
          .release .perfBuffer, .release .object]) := by
    decide +kernel
  obtain ⟨⟨status, loader⟩, hloader, heffects⟩ := Option.map_eq_some_iff.mp hexit
  obtain ⟨rfl, heffects⟩ := Prod.mk.inj heffects
  exact ⟨loader, hloader, heffects,
    exit_released halfAttached halfAttachedArguments (fun _ => none) [] [] hloader⟩

/-! ## What is attached -/

theorem attachOrder_notMem_filter (enabled : EpollVariant → Bool) :
    attachOrder (fun variant => variant ∉ EpollVariant.table.filter (!enabled ·)) =
      attachOrder enabled := by
  congr 1
  funext variant
  simp [EpollVariant.mem_table]

namespace Loader

theorem runCalls_eq_none {enabled : EpollVariant → Bool} {succeeds : LoaderCall → Bool}
    {s loader : Loader} {calls : List LoaderCall}
    (h : runCalls enabled succeeds s calls = (loader, none)) :
    loader = calls.foldl (perform enabled) s := by
  induction calls generalizing s with
  | nil => exact (Prod.mk.inj h).1.symm
  | cons call calls ih =>
      unfold runCalls at h
      split at h
      · exact ih h
      · cases (Prod.mk.inj h).2

theorem foldl_findPrograms (enabled : EpollVariant → Bool) (variants : List EpollVariant)
    (s : Loader) :
    (variants.map LoaderCall.findPrograms).foldl (perform enabled) s =
      { s with
        withoutAutoload := s.withoutAutoload ++ variants.filter (!enabled ·) } := by
  induction variants generalizing s with
  | nil => simp
  | cons variant variants ih =>
      rw [List.map_cons, List.foldl_cons, ih]
      cases henabled : enabled variant
      all_goals simp [perform, henabled]

theorem foldl_attach (enabled : EpollVariant → Bool) (probes : List Probe) (s : Loader) :
    (probes.map LoaderCall.attach).foldl (perform enabled) s =
      { s with
        links := s.links ++ probes
        effects := s.effects ++ probes.map fun probe => .acquire (.link probe) } := by
  induction probes generalizing s with
  | nil => simp
  | cons probe probes ih =>
      rw [List.map_cons, List.foldl_cons, ih]
      simp [perform]

/-- When no call fails, the programs of the enabled variants are loaded and attached, and no
others. -/
theorem links_of_runCalls {path : String} {enabled : EpollVariant → Bool}
    {succeeds : LoaderCall → Bool} {loader : Loader}
    (h : runCalls enabled succeeds {} (loaderCalls path enabled) = (loader, none)) :
    loader.links = attachOrder enabled ∧ loader.loaded = attachOrder enabled := by
  have hloader := runCalls_eq_none h
  unfold loaderCalls at hloader
  rw [List.foldl_append, foldl_attach, List.cons_append, List.foldl_cons, List.foldl_append,
    foldl_findPrograms] at hloader
  rw [hloader]
  refine ⟨List.nil_append _, ?_⟩
  exact attachOrder_notMem_filter enabled

end Loader

/-! ## What is written -/

/-- A line of the poll loop. -/
def Line.isReport : Line → Bool
  | event _ => true
  | lost _ => true
  | _ => false

/-- The ready message, and reports behind it. -/
def Announced (lines : List Line) : Prop :=
  ∃ reports : List Line, (∀ line ∈ reports, line.isReport = true) ∧ lines = .ready :: reports

/-- What stands on the standard output behind the loop, by the exit status. -/
def Ended (status : ℕ) (lines : List Line) : Prop :=
  (status = 0 ∧ Announced lines) ∨
    (status = 1 ∧ ∃ before, Announced before ∧
      lines = before ++ [.fatal "perf buffer polling failed"])

theorem Announced.append {lines more : List Line} (h : Announced lines)
    (hmore : ∀ line ∈ more, line.isReport = true) : Announced (lines ++ more) := by
  obtain ⟨reports, hreports, rfl⟩ := h
  exact ⟨reports ++ more, List.forall_mem_append.mpr ⟨hreports, hmore⟩, rfl⟩

theorem isReport_of_mem_line {pending : Pending} {line : Line}
    (h : line ∈ pending.line.toList) : line.isReport = true := by
  rw [Option.mem_toList] at h
  cases pending with
  | lost count =>
      obtain rfl := Option.some.inj h
      rfl
  | sample event padding =>
      have hsize : ¬ 24 + padding < 24 := by omega
      rw [Pending.line, sampleLine, if_neg hsize] at h
      obtain rfl := Option.some.inj h
      rfl

namespace Collector

variable {config : DetectorConfig} {enabled : EpollVariant → Bool} {s : Collector}

/-- What has been written, by the point where `main` is. -/
def Spoken (s : Collector) : Prop :=
  match s.point with
  | .announcing => s.lines = []
  | .detaching status => Ended status s.lines
  | .freeing status => Ended status s.lines
  | .exited status => Ended status s.lines
  | _ => Announced s.lines

theorem spoken_pass {due : ℕ} (h : s.Spoken) (hpoint : s.point = .passing due) :
    Announced s.pass.lines := by
  have hlines : Announced s.lines := by
    unfold Spoken at h
    rwa [hpoint] at h
  unfold pass
  split
  · exact hlines
  · exact hlines.append fun line hline => isReport_of_mem_line hline

theorem spoken_mainRuns (h : s.Spoken) : s.mainRuns.Spoken := by
  have hspoken := h
  unfold Spoken at h
  fun_cases mainRuns s with
  | case1 hpoint =>
      rw [hpoint] at h
      exact ⟨[], by simp, by rw [h]; rfl⟩
  | case2 hpoint =>
      rw [hpoint] at h
      unfold Spoken
      split_ifs
      · exact .inl ⟨rfl, h⟩
      · exact h
  | case5 due hpoint => exact spoken_pass hspoken hpoint
  | case8 status hpoint => exact hspoken
  | case6 status hpoint =>
      rw [hpoint] at h
      exact h
  | case7 status hpoint =>
      rw [hpoint] at h
      exact h
  | _ hpoint =>
      rw [hpoint] at h
      exact h

theorem spoken_step (h : s.Spoken) (turn : PollTurn) :
    (s.step config enabled turn).Spoken := by
  fun_cases step config enabled s turn with
  | case1 hit queued =>
      unfold hits
      split
      · exact h
      · exact h
  | case2 => exact spoken_mainRuns h
  | case3 hpoint =>
      have hpass : s.pass.point = s.point := by
        unfold pass
        split
        · rfl
        · rfl
      have hlines := spoken_pass h hpoint
      unfold Spoken
      rw [hpass, hpoint]
      exact hlines
  | case5 hpoint =>
      unfold Spoken at h
      rw [hpoint] at h
      exact h
  | case7 hpoint =>
      unfold Spoken at h
      rw [hpoint] at h
      exact .inr ⟨rfl, s.lines, h, rfl⟩
  | case9 hpoint =>
      unfold Spoken at h
      rw [hpoint] at h
      exact h
  | _ => exact h

theorem spoken_run (h : s.Spoken) (turns : List PollTurn) :
    (s.run config enabled turns).Spoken := by
  induction turns generalizing s with
  | nil => exact h
  | cons turn turns ih => exact ih (spoken_step h turn)

end Collector

/-- What the exit status says about the standard output: 0 that no error was written, 1 that
the last line is the only error, 2 that nothing was written. -/
def Explains (arguments : List String) (status : ℕ) (lines : List Line) : Prop :=
  (status = 0 ∧ (Announced lines ∨ parseOptions arguments = .error 0 ∧ lines = [])) ∨
    (status = 1 ∧ ∃ before message, (before = [] ∨ Announced before) ∧
      lines = before ++ [.fatal message]) ∨
    (status = 2 ∧ lines = [])

theorem applyOption_error {o : Options} {option : Getopt} {status : ℕ}
    (h : applyOption o option = .error status) : status = 0 ∨ status = 2 := by
  revert h
  fun_cases applyOption o option with
  | case16 =>
      intro h
      exact .inl (Except.error.inj h).symm
  | _ =>
      intro h
      cases h
      try exact .inr rfl

theorem foldlM_applyOption_error {o : Options} {options : List Getopt} {status : ℕ}
    (h : options.foldlM applyOption o = .error status) : status = 0 ∨ status = 2 := by
  induction options generalizing o with
  | nil => cases h
  | cons option options ih =>
      rw [List.foldlM_cons] at h
      cases hoption : applyOption o option with
      | error other =>
          rw [hoption] at h
          obtain rfl := Except.error.inj h
          exact applyOption_error hoption
      | ok next =>
          rw [hoption] at h
          exact ih h

theorem parseOptions_error {arguments : List String} {status : ℕ}
    (h : parseOptions arguments = .error status) : status = 0 ∨ status = 2 := by
  unfold parseOptions at h
  cases hoptions : (getoptLong longOptions arguments).1.foldlM applyOption {} with
  | error other =>
      simp only [hoptions] at h
      obtain rfl := Except.error.inj h
      exact foldlM_applyOption_error hoptions
  | ok o =>
      simp only [hoptions] at h
      change (if _ then _ else _) = _ at h
      split at h
      · exact .inr (Except.error.inj h).symm
      · cases h

/-- The ready message means that the probes of every enabled variant are attached, and the
exit status tells a request from an error and an error from wrong arguments. -/
structure Truthful (arguments : List String) (s : SetUp) (lines : List Line)
    (exit : Option (ℕ × Loader)) : Prop where
  ready : .ready ∈ lines → ∃ config enabled loader, s = .complete config enabled loader ∧
    loader.links = attachOrder enabled ∧ loader.loaded = attachOrder enabled ∧
    loader.links ≠ []
  status : ∀ status loader, exit = some (status, loader) → Explains arguments status lines

theorem truthful_failed (arguments : List String) (message : String) (loader : Loader)
    (map : Bpf.CallbackStart) (queue : List Pending) (turns : List PollTurn) :
    Truthful arguments (.failed message loader)
      ((SetUp.failed message loader).stdout map queue turns)
      ((SetUp.failed message loader).exit map queue turns) where
  ready h := by simp [SetUp.stdout] at h
  status status other h := by
    obtain ⟨rfl, -⟩ := Prod.mk.inj (Option.some.inj h)
    exact .inr (.inl ⟨rfl, [], message, .inl rfl, rfl⟩)

theorem truthful_complete (arguments : List String) {config : DetectorConfig}
    {enabled : EpollVariant → Bool} {loader : Loader} (hlinks : loader.links = attachOrder enabled)
    (hloaded : loader.loaded = attachOrder enabled) (hsome : loader.links ≠ [])
    (map : Bpf.CallbackStart) (queue : List Pending) (turns : List PollTurn) :
    Truthful arguments (.complete config enabled loader)
      ((SetUp.complete config enabled loader).stdout map queue turns)
      ((SetUp.complete config enabled loader).exit map queue turns) where
  ready _ := ⟨config, enabled, loader, rfl, hlinks, hloaded, hsome⟩
  status status other h := by
    have hspoken : (SetUp.poll config enabled map queue turns).Spoken :=
      Collector.spoken_run (s := { map := map, queue := queue }) rfl turns
    unfold SetUp.exit at h
    dsimp only at h
    split at h
    next point hpoint =>
      obtain ⟨rfl, -⟩ := Prod.mk.inj (Option.some.inj h)
      unfold Collector.Spoken at hspoken
      rw [hpoint] at hspoken
      rcases hspoken with ⟨rfl, hlines⟩ | ⟨rfl, before, hbefore, hlines⟩
      · exact .inl ⟨rfl, .inl hlines⟩
      · exact .inr (.inl ⟨rfl, before, _, .inr hbefore, hlines⟩)
    · cases h

theorem stdout_truthful (host : Surroundings) (arguments : List String)
    (map : Bpf.CallbackStart) (queue : List Pending) (turns : List PollTurn) :
    Truthful arguments (host.setUp arguments)
      ((host.setUp arguments).stdout map queue turns)
      ((host.setUp arguments).exit map queue turns) := by
  unfold Surroundings.setUp
  split
  next status hstatus =>
    refine ⟨by simp [SetUp.stdout], fun status' loader h => ?_⟩
    obtain ⟨rfl, -⟩ := Prod.mk.inj (Option.some.inj h)
    rcases parseOptions_error hstatus with rfl | rfl
    · exact .inl ⟨rfl, .inr ⟨hstatus, rfl⟩⟩
    · exact .inr (.inr ⟨rfl, rfl⟩)
  next options hoptions =>
    split
    · exact truthful_failed arguments _ _ map queue turns
    next path hpath =>
      split
      · exact truthful_failed arguments _ _ map queue turns
      next henabled =>
        split
        · exact truthful_failed arguments _ _ map queue turns
        next loader hcalls =>
          obtain ⟨hlinks, hloaded⟩ := Loader.links_of_runCalls hcalls
          refine truthful_complete arguments hlinks hloaded ?_ map queue turns
          rw [hlinks]
          unfold attachOrder
          simpa using henabled

end Blocksnoop.Native
