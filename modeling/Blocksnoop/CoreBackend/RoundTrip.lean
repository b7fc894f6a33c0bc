import Blocksnoop.CoreBackend.Identity
import Blocksnoop.Native.Sidecar

/-!
# The round trip between sidecar and parent

The command line goes from Python to C, the lines go back.  Each output line of
the collector is the text of a JSON object, so the reader sees the fields that
were printed; the handlers accept them because the expectations of the detector
are the numbers on the command line.
-/

namespace Blocksnoop.CoreBackend

open Blocksnoop.Support

/-! ## The lines as JSON objects -/

def readyMessage (config : Native.DetectorConfig)
    (enabled : Native.EpollVariant → Bool) : List (String × Json) :=
  [("version", .int 2), ("type", .str "ready"),
    ("pid", .int config.targetTgid.toNat), ("tid", .int config.targetTid.toNat),
    ("pidns_dev", .int config.pidnsDev.toNat),
    ("pidns_ino", .int config.pidnsIno.toNat),
    ("threshold_ns", .int config.thresholdNs.toNat),
    ("tracepoints",
      .arr ((Native.EpollVariant.table.filter enabled).map fun v => .str v.name))]

def eventMessage (event : Native.BlockingEvent) (config : Native.DetectorConfig) :
    List (String × Json) :=
  [("version", .int 2), ("type", .str "event"),
    ("start_ns", .int event.startNs.toNat), ("end_ns", .int event.endNs.toNat),
    ("pid", .int event.pid.toNat), ("tid", .int event.tid.toNat),
    ("pidns_dev", .int config.pidnsDev.toNat),
    ("pidns_ino", .int config.pidnsIno.toNat)]

def lostMessage (count : UInt64) (config : Native.DetectorConfig) :
    List (String × Json) :=
  [("version", .int 2), ("type", .str "lost"), ("count", .int count.toNat),
    ("source", .str "perf_buffer"),
    ("pidns_dev", .int config.pidnsDev.toNat),
    ("pidns_ino", .int config.pidnsIno.toNat)]

theorem renderInt_natCast (n : ℕ) : Json.renderInt n = Nat.toDigits 10 n := by
  simp [Json.renderInt]

theorem toList_strInt_natCast (n : ℕ) : (strInt n).toList = Nat.toDigits 10 n := by
  rw [strInt, String.toList_ofList, renderInt_natCast]

theorem emitEvent_eq_render (event : Native.BlockingEvent)
    (config : Native.DetectorConfig) :
    Native.emitEvent event config =
      String.ofList (Json.render (.obj (eventMessage event config))) ++ "\n" := by
  apply String.toList_inj.mp
  unfold Native.emitEvent
  simp only [eventMessage, Json.render, Json.renderMembers, renderInt_natCast,
    String.toList_append, String.toList_ofList, Nat.toList_repr, List.append_assoc,
    List.cons_append, List.nil_append]
  rfl

theorem emitLost_eq_render (count : UInt64) (config : Native.DetectorConfig) :
    Native.emitLost count "perf_buffer" config =
      String.ofList (Json.render (.obj (lostMessage count config))) ++ "\n" := by
  apply String.toList_inj.mp
  unfold Native.emitLost
  simp only [lostMessage, Json.render, Json.renderMembers, renderInt_natCast,
    String.toList_append, String.toList_ofList, Nat.toList_repr, List.append_assoc,
    List.cons_append, List.nil_append]
  rfl

/-- An array after its first item: every further item follows a comma. -/
theorem renderItems_cons (item : Json) (items : List Json) :
    Json.renderItems (item :: items) =
      Json.render item ++ items.flatMap fun item => ',' :: Json.render item := by
  induction items generalizing item with
  | nil => simp [Json.renderItems]
  | cons next items ih => rw [Json.renderItems, ih, List.flatMap_cons, List.cons_append]

theorem renderString_name (v : Native.EpollVariant) :
    Json.renderString v.name = '"' :: (v.name.toList ++ ['"']) := by
  cases v <;> rfl

/-- The comma placement of the loop is that of a JSON array: a comma stands
before every name but the first. -/
theorem emitTracepoints_eq_renderItems (enabled : Native.EpollVariant → Bool)
    (variants : List Native.EpollVariant) :
    (Native.emitTracepoints enabled true variants).toList =
        Json.renderItems ((variants.filter enabled).map fun v => .str v.name) ∧
      (Native.emitTracepoints enabled false variants).toList =
        ((variants.filter enabled).map fun v => Json.str v.name).flatMap
          fun item => ',' :: Json.render item := by
  induction variants with
  | nil => exact ⟨rfl, rfl⟩
  | cons v rest ih =>
      obtain ⟨ihFirst, ihNext⟩ := ih
      by_cases hv : enabled v = true
      · simp only [Native.emitTracepoints, hv, if_true, List.filter_cons_of_pos,
          List.map_cons, String.toList_append, ihNext]
        constructor
        · rw [renderItems_cons]
          simp [Json.render, renderString_name]
        · simp [Json.render, renderString_name]
      · simp only [Native.emitTracepoints, hv, if_false, Bool.false_eq_true,
          not_false_eq_true, List.filter_cons_of_neg]
        exact ⟨ihFirst, ihNext⟩

theorem emitReady_eq_render (config : Native.DetectorConfig)
    (enabled : Native.EpollVariant → Bool) :
    Native.emitReady config enabled =
      String.ofList (Json.render (.obj (readyMessage config enabled))) ++ "\n" := by
  apply String.toList_inj.mp
  unfold Native.emitReady
  simp only [readyMessage, Json.render, Json.renderMembers, renderInt_natCast,
    String.toList_append, String.toList_ofList, Nat.toList_repr,
    (emitTracepoints_eq_renderItems enabled _).1, List.append_assoc,
    List.cons_append, List.nil_append]
  rfl

theorem length_toDigits_of_lt_two_pow {n : ℕ} (hn : n < 2 ^ 64) :
    (Nat.toDigits 10 n).length ≤ Json.maxStrDigits := by
  have hlength : (Nat.toDigits 10 n).length ≤ 20 :=
    (Nat.length_toDigits_le_iff (by decide) (by decide)).mpr (by omega)
  exact hlength.trans (by decide)

theorem plain_uint64 (v : UInt64) : Json.Plain (.int v.toNat) := by
  simpa [Json.Plain] using length_toDigits_of_lt_two_pow v.toNat_lt

theorem plain_uint32 (v : UInt32) : Json.Plain (.int v.toNat) := by
  have hv := v.toNat_lt
  simpa [Json.Plain] using length_toDigits_of_lt_two_pow (n := v.toNat) (by omega)

theorem plain_two : Json.Plain (.int 2) :=
  length_toDigits_of_lt_two_pow (n := 2) (by decide)

theorem plainItems_names (variants : List Native.EpollVariant) :
    Json.PlainItems (variants.map fun v => .str v.name) := by
  induction variants with
  | nil => trivial
  | cons v rest ih => exact ⟨trivial, ih⟩

theorem plain_readyMessage (config : Native.DetectorConfig)
    (enabled : Native.EpollVariant → Bool) :
    Json.Plain (.obj (readyMessage config enabled)) :=
  ⟨plain_two, trivial, plain_uint32 _, plain_uint32 _, plain_uint64 _, plain_uint64 _,
    plain_uint64 _, plainItems_names _, trivial⟩

theorem plain_eventMessage (event : Native.BlockingEvent)
    (config : Native.DetectorConfig) : Json.Plain (.obj (eventMessage event config)) :=
  ⟨plain_two, trivial, plain_uint64 _, plain_uint64 _, plain_uint32 _, plain_uint32 _,
    plain_uint64 _, plain_uint64 _, trivial⟩

theorem plain_lostMessage (count : UInt64) (config : Native.DetectorConfig) :
    Json.Plain (.obj (lostMessage count config)) :=
  ⟨plain_two, trivial, plain_uint64 _, trivial, plain_uint64 _, plain_uint64 _, trivial⟩

theorem loads_line {message : List (String × Json)}
    (hplain : Json.Plain (.obj message)) :
    Json.loads (String.ofList (Json.render (.obj message)) ++ "\n") = .ok (.obj message) :=
  Json.loads_render hplain "\n" (by simp [Json.isSpace])

/-! ## The handlers on these lines -/

section

variable {F : Type} [PyRuntime F]

/-- The detector expects the identity and the threshold of the collector's
configuration. -/
structure Expects (d : CoreDetector F) (config : Native.DetectorConfig) : Prop where
  pid : d.expectedPid = config.targetTgid.toNat
  tid : d.expectedTid = some (config.targetTid.toNat : ℤ)
  dev : d.pidnsDev = some (config.pidnsDev.toNat : ℤ)
  ino : d.pidnsIno = some (config.pidnsIno.toNat : ℤ)
  threshold : d.config.thresholdNs = .ok (config.thresholdNs.toNat : ℤ)

theorem handleLine_of_message {d : CoreDetector F} {message : List (String × Json)}
    {line : String} (hplain : Json.Plain (.obj message))
    (hline : line = String.ofList (Json.render (.obj message)) ++ "\n") :
    handleLine d line = handleMessage d message := by
  rw [handleLine, hline, loads_line hplain]

theorem isTracepointList_names {variants : List Native.EpollVariant}
    (hne : variants ≠ []) :
    isTracepointList (some (.arr (variants.map fun v => .str v.name))) = true := by
  simp [isTracepointList, hne]

theorem handleLine_emitReady {d : CoreDetector F} {config : Native.DetectorConfig}
    {enabled : Native.EpollVariant → Bool} (hexpects : Expects d config)
    (henabled : ∃ v, enabled v = true) :
    handleLine d (Native.emitReady config enabled) = .ready := by
  have hne : Native.EpollVariant.table.filter enabled ≠ [] := by
    obtain ⟨v, hv⟩ := henabled
    exact List.ne_nil_of_mem
      (List.mem_filter.mpr ⟨Native.EpollVariant.mem_table v, hv⟩)
  rw [handleLine_of_message (plain_readyMessage config enabled)
    (emitReady_eq_render config enabled)]
  have hfields : readyFields (readyMessage config enabled) =
      .ok (config.targetTgid.toNat, config.targetTid.toNat, config.thresholdNs.toNat,
        config.pidnsDev.toNat, config.pidnsIno.toNat) := rfl
  have htracepoints : Json.get (readyMessage config enabled) "tracepoints" =
      some (.arr ((Native.EpollVariant.table.filter enabled).map
        fun v => .str v.name)) := rfl
  have hmessage : handleMessage d (readyMessage config enabled) =
      handleReady d (readyMessage config enabled) := rfl
  rw [hmessage, handleReady, hfields]
  simp only [hexpects.threshold, hexpects.pid, hexpects.tid, hexpects.dev, hexpects.ino,
    htracepoints, isTracepointList_names hne]
  simp

theorem handleLine_emitEvent {d : CoreDetector F} {config : Native.DetectorConfig}
    {event : Native.BlockingEvent} (hexpects : Expects d config)
    (hpid : event.pid = config.targetTgid) (htid : event.tid = config.targetTid)
    (horder : event.startNs ≤ event.endNs) :
    handleLine d (Native.emitEvent event config) =
      .event { startNs := event.startNs.toNat, endNs := event.endNs.toNat,
               pid := config.targetTgid.toNat, tid := config.targetTid.toNat } := by
  have horder' : ¬ ((event.endNs.toNat : ℤ) < event.startNs.toNat) := by
    have hle := UInt64.le_iff_toNat_le.mp horder
    omega
  rw [handleLine_of_message (plain_eventMessage event config)
    (emitEvent_eq_render event config)]
  have hfields : eventFields (eventMessage event config) =
      .ok (event.startNs.toNat, event.endNs.toNat, event.pid.toNat, event.tid.toNat,
        config.pidnsDev.toNat, config.pidnsIno.toNat) := rfl
  have hmessage : handleMessage d (eventMessage event config) =
      handleEvent d (eventMessage event config) := rfl
  rw [hmessage, handleEvent, hfields]
  simp only [hexpects.pid, hexpects.tid, hexpects.dev, hexpects.ino, hpid, htid, horder']
  simp

theorem handleLine_emitLost {d : CoreDetector F} {config : Native.DetectorConfig}
    (count : UInt64) (hexpects : Expects d config) :
    handleLine d (Native.emitLost count "perf_buffer" config) =
      .lost { count := count.toNat, source := "perf_buffer" } := by
  have hmax : ¬ (uint64Max < (count.toNat : ℤ)) := by
    have hlt := count.toNat_lt
    rw [uint64Max]
    omega
  rw [handleLine_of_message (plain_lostMessage count config)
    (emitLost_eq_render count config)]
  have hfields : lostFields (lostMessage count config) =
      .ok (count.toNat, config.pidnsDev.toNat, config.pidnsIno.toNat) := rfl
  have hsource : inLossSources (Json.get (lostMessage count config) "source") =
      .ok (some "perf_buffer") := rfl
  have hmessage : handleMessage d (lostMessage count config) =
      handleLost d (lostMessage count config) := rfl
  rw [hmessage, handleLost, hfields]
  simp only [hsource, hexpects.dev, hexpects.ino, hmax]
  simp

/-! ## Whole streams -/

/-- What the collector prints after `ready`. -/
inductive Output where
  | event (e : Native.BlockingEvent)
  | lost (count : UInt64)
  deriving Repr, DecidableEq

namespace Output

def line (config : Native.DetectorConfig) : Output → String
  | .event e => Native.emitEvent e config
  | .lost count => Native.handleLost count config

/-- An event is a gap of the target; a lost count is any number. -/
def OfTarget (config : Native.DetectorConfig) : Output → Prop
  | .event e =>
      e.pid = config.targetTgid ∧ e.tid = config.targetTid ∧ e.startNs ≤ e.endNs
  | .lost _ => True

/-- The event the parent should see. -/
def delivered : Output → List BlockingEvent
  | .event e =>
      [{ startNs := e.startNs.toNat, endNs := e.endNs.toNat,
         pid := e.pid.toNat, tid := e.tid.toNat }]
  | .lost _ => []

/-- The unbounded count the parent should add. -/
def loss : Output → ℤ
  | .event _ => 0
  | .lost count => count.toNat

end Output

/-- What feeding an output leaves alone: the expectations of the detector and its
error state. -/
structure SameSession (d d' : CoreDetector F) : Prop where
  config : d'.config = d.config
  expectedPid : d'.expectedPid = d.expectedPid
  expectedTid : d'.expectedTid = d.expectedTid
  pidnsDev : d'.pidnsDev = d.pidnsDev
  pidnsIno : d'.pidnsIno = d.pidnsIno
  ready : d'.ready = d.ready
  startupError : d'.startupError = d.startupError
  runtimeError : d'.runtimeError = d.runtimeError

omit [PyRuntime F] in
theorem SameSession.refl (d : CoreDetector F) : SameSession d d :=
  ⟨rfl, rfl, rfl, rfl, rfl, rfl, rfl, rfl⟩

omit [PyRuntime F] in
theorem SameSession.trans {d d' d'' : CoreDetector F}
    (h : SameSession d d') (h' : SameSession d' d'') : SameSession d d'' :=
  ⟨h'.config.trans h.config, h'.expectedPid.trans h.expectedPid,
    h'.expectedTid.trans h.expectedTid, h'.pidnsDev.trans h.pidnsDev,
    h'.pidnsIno.trans h.pidnsIno, h'.ready.trans h.ready,
    h'.startupError.trans h.startupError, h'.runtimeError.trans h.runtimeError⟩

theorem Expects.of_sameSession {d d' : CoreDetector F} {config : Native.DetectorConfig}
    (h : Expects d config) (hsame : SameSession d d') : Expects d' config where
  pid := hsame.expectedPid.trans h.pid
  tid := hsame.expectedTid.trans h.tid
  dev := hsame.pidnsDev.trans h.dev
  ino := hsame.pidnsIno.trans h.ino
  threshold := by rw [hsame.config, h.threshold]

/-- The loss counter of the perf buffer; an absent key counts zero. -/
def CoreDetector.perfBufferLoss (d : CoreDetector F) : ℤ :=
  (d.lossCounts.get "perf_buffer").getD 0

theorem feed_output {s : Session F} {config : Native.DetectorConfig} {output : Output}
    (hexpects : Expects s.detector config) (halive : s.crashed = false)
    (houtput : output.OfTarget config) :
    (s.feed (output.line config)).events = s.events ++ output.delivered ∧
      (s.feed (output.line config)).detector.perfBufferLoss =
        s.detector.perfBufferLoss + output.loss ∧
      SameSession s.detector (s.feed (output.line config)).detector ∧
      (s.feed (output.line config)).crashed = false := by
  cases output with
  | event e =>
      obtain ⟨hpid, htid, horder⟩ := houtput
      have hline := handleLine_emitEvent hexpects hpid htid horder
      simp only [Session.feed, halive, Output.line, hline, Bool.false_eq_true, if_false]
      refine ⟨?_, ?_, SameSession.refl _, rfl⟩
      · simp [Action.delivered, Output.delivered, hpid, htid]
      · simp [CoreDetector.perform, Output.loss]
  | lost count =>
      have hline := handleLine_emitLost count hexpects
      simp only [Session.feed, halive, Output.line, Native.handleLost, hline,
        Bool.false_eq_true, if_false]
      refine ⟨?_, ?_, ⟨rfl, rfl, rfl, rfl, rfl, rfl, rfl, rfl⟩, rfl⟩
      · simp [Action.delivered, Output.delivered]
      · simp [CoreDetector.perform, CoreDetector.addLoss, CoreDetector.perfBufferLoss,
          Dict.get_set_self, Output.loss]

/-- Whatever the collector prints after `ready`, the events arrive in order and
the loss counter grows by the sum of the counts. -/
theorem feedAll_outputs {s : Session F} {config : Native.DetectorConfig}
    {outputs : List Output} (hexpects : Expects s.detector config)
    (halive : s.crashed = false)
    (houtputs : ∀ output ∈ outputs, output.OfTarget config) :
    (s.feedAll (outputs.map (Output.line config))).events =
        s.events ++ outputs.flatMap Output.delivered ∧
      (s.feedAll (outputs.map (Output.line config))).detector.perfBufferLoss =
        s.detector.perfBufferLoss + (outputs.map Output.loss).sum ∧
      SameSession s.detector (s.feedAll (outputs.map (Output.line config))).detector ∧
      (s.feedAll (outputs.map (Output.line config))).crashed = false := by
  induction outputs generalizing s with
  | nil => simp [SameSession.refl, halive]
  | cons output outputs ih =>
      obtain ⟨hevents, hloss, hsame, hcrashed⟩ :=
        feed_output hexpects halive (houtputs output (by simp))
      obtain ⟨ihEvents, ihLoss, ihSame, ihCrashed⟩ :=
        ih (hexpects.of_sameSession hsame) hcrashed
          (fun o ho => houtputs o (List.mem_cons_of_mem _ ho))
      simp only [List.map_cons, Session.feedAll_cons]
      refine ⟨?_, ?_, hsame.trans ihSame, ihCrashed⟩
      · rw [ihEvents, hevents, List.flatMap_cons, List.append_assoc]
      · rw [ihLoss, hloss, List.sum_cons, add_assoc]

/-! ## The command line -/

omit [PyRuntime F] in
theorem strtoull_strInt {n : ℕ} (hn : n < 2 ^ 64) :
    strtoull (strInt n).toList = ⟨UInt64.ofNat n, [], false⟩ := by
  rw [toList_strInt_natCast, strtoull_toDigits hn]

omit [PyRuntime F] in
theorem parseU32_strInt {v : UInt32} (hv : v ≠ 0) :
    Native.parseU32 (strInt v.toNat) = some v := by
  have hlt := v.toNat_lt
  have hpos : v.toNat ≠ 0 := fun h => hv (UInt32.toNat_inj.mp h)
  have hne : (strInt v.toNat).toList ≠ [] := by
    rw [toList_strInt_natCast]
    exact Nat.toDigits_ne_nil
  have hzero : UInt64.ofNat v.toNat ≠ 0 := by
    intro h
    have := congrArg UInt64.toNat h
    simp at this
    omega
  have hmax : ¬ (0xFFFFFFFF : UInt64) < UInt64.ofNat v.toNat := by
    rw [UInt64.lt_iff_toNat_lt]
    simp
    omega
  have hback : (UInt64.ofNat v.toNat).toUInt32 = v := by
    apply UInt32.toNat_inj.mp
    simp
  rw [Native.parseU32, strtoull_strInt (by omega)]
  simp only [hne, hzero, hmax, hback]
  simp

omit [PyRuntime F] in
theorem parseU64_strInt (v : UInt64) :
    Native.parseU64 (strInt v.toNat) = some v := by
  obtain ⟨c, cs, hcs, hc⟩ := Json.toDigits_eq_cons v.toNat
  have hlist : (strInt v.toNat).toList = c :: cs := by
    rw [toList_strInt_natCast, hcs]
  have hscan := strtoull_strInt v.toNat_lt
  rw [hlist] at hscan
  rw [Native.parseU64, hlist]
  rcases Json.isDigit_cases hc with
    rfl | rfl | rfl | rfl | rfl | rfl | rfl | rfl | rfl | rfl <;>
    simp [hscan]

/-- The arguments of `buildCommand` for a configuration of the collector. -/
def commandArguments (config : Native.DetectorConfig) : List String :=
  ["--protocol-version", strInt protocolVersion,
    "--pid", strInt config.targetTgid.toNat,
    "--tid", strInt config.targetTid.toNat,
    "--pidns-dev", strInt config.pidnsDev.toNat,
    "--pidns-ino", strInt config.pidnsIno.toNat,
    "--threshold-ns", strInt config.thresholdNs.toNat]

omit [PyRuntime F] in
theorem getoptLong_commandArguments (config : Native.DetectorConfig) :
    getoptLong Native.longOptions (commandArguments config) =
      ([.option 'V' (some (strInt protocolVersion)),
        .option 'p' (some (strInt config.targetTgid.toNat)),
        .option 't' (some (strInt config.targetTid.toNat)),
        .option 'd' (some (strInt config.pidnsDev.toNat)),
        .option 'i' (some (strInt config.pidnsIno.toNat)),
        .option 'n' (some (strInt config.thresholdNs.toNat))], []) := by
  rw [commandArguments,
    getoptLong_required (o := ⟨"protocol-version", true, 'V'⟩) _ _ rfl
      (by decide) (by decide) rfl rfl,
    getoptLong_required (o := ⟨"pid", true, 'p'⟩) _ _ rfl
      (by decide) (by decide) rfl rfl,
    getoptLong_required (o := ⟨"tid", true, 't'⟩) _ _ rfl
      (by decide) (by decide) rfl rfl,
    getoptLong_required (o := ⟨"pidns-dev", true, 'd'⟩) _ _ rfl
      (by decide) (by decide) rfl rfl,
    getoptLong_required (o := ⟨"pidns-ino", true, 'i'⟩) _ _ rfl
      (by decide) (by decide) rfl rfl,
    getoptLong_required (o := ⟨"threshold-ns", true, 'n'⟩) _ _ rfl
      (by decide) (by decide) rfl rfl]
  rfl

omit [PyRuntime F] in
/-- The option loop reads back the configuration the command was built from. -/
theorem parseOptions_commandArguments {config : Native.DetectorConfig}
    (hpid : config.targetTgid ≠ 0) (htid : config.targetTid ≠ 0)
    (hdev : config.pidnsDev ≠ 0) (hino : config.pidnsIno ≠ 0) :
    Native.parseOptions (commandArguments config) =
      .ok { config := config, objectPath := none, protocolVersion := 2,
            havePid := true, haveTid := true, havePidnsDev := true,
            havePidnsIno := true, haveThreshold := true } := by
  have hversion : Native.parseU32 (strInt protocolVersion) = some 2 :=
    parseU32_strInt (v := 2) (by decide)
  rw [Native.parseOptions, getoptLong_commandArguments]
  unfold Native.applyOption
  simp only [List.foldlM, hversion, parseU32_strInt hpid, parseU32_strInt htid,
    parseU64_strInt, hdev, hino, if_false]
  rfl

/-- A built command that resolves to a configuration of the collector is that
configuration's command. -/
theorem buildCommand_arguments {d launched : CoreDetector F} {proc : ProcSnapshot}
    {sidecar : String} {arguments : List String} {config : Native.DetectorConfig}
    (hbuild : d.buildCommand proc sidecar = .ok (arguments, launched))
    (hexpects : Expects launched config) :
    arguments.drop 1 = commandArguments config := by
  obtain ⟨pid, tid, dev, ino, thresholdNs, hthreshold, rfl, rfl⟩ :=
    CoreDetector.buildCommand_eq_ok hbuild
  have hns : thresholdNs = config.thresholdNs.toNat :=
    Except.ok.inj (hthreshold.symm.trans hexpects.threshold)
  obtain rfl := hexpects.pid
  obtain rfl := Option.some.inj hexpects.tid
  obtain rfl := Option.some.inj hexpects.dev
  obtain rfl := Option.some.inj hexpects.ino
  rw [hns]
  rfl

/-- The protocol round trip.  The command the parent builds is parsed by the
collector as the very configuration; the collector's `ready` line is accepted;
and every stream of event and lost lines after it is delivered exactly, with no
protocol error. -/
theorem protocol_roundTrip {d launched : CoreDetector F} {proc : ProcSnapshot}
    {sidecar : String} {arguments : List String} {config : Native.DetectorConfig}
    {enabled : Native.EpollVariant → Bool}
    (hpid : config.targetTgid ≠ 0) (htid : config.targetTid ≠ 0)
    (hdev : config.pidnsDev ≠ 0) (hino : config.pidnsIno ≠ 0)
    (hbuild : d.reset.buildCommand proc sidecar = .ok (arguments, launched))
    (hexpects : Expects launched config)
    (henabled : ∃ v, enabled v = true) :
    (∃ options, Native.parseOptions (arguments.drop 1) = .ok options ∧
        options.config = config ∧ options.objectPath = none) ∧
      let handshake :=
        (Session.mk launched [] false).feed (Native.emitReady config enabled)
      (handshake.detector.ready = true ∧ handshake.detector.startupError = none ∧
        handshake.detector.runtimeError = none ∧ handshake.events = []) ∧
      ∀ outputs : List Output, (∀ output ∈ outputs, output.OfTarget config) →
        let stream := handshake.feedAll (outputs.map (Output.line config))
        stream.events = outputs.flatMap Output.delivered ∧
          stream.detector.perfBufferLoss = (outputs.map Output.loss).sum ∧
          stream.detector.startupError = none ∧
          stream.detector.runtimeError = none ∧ stream.crashed = false := by
  have hparse := parseOptions_commandArguments hpid htid hdev hino
  rw [← buildCommand_arguments hbuild hexpects] at hparse
  refine ⟨⟨_, hparse, rfl, rfl⟩, ?_⟩
  obtain ⟨pid, tid, dev, ino, thresholdNs, -, rfl, -⟩ :=
    CoreDetector.buildCommand_eq_ok hbuild
  have hready := handleLine_emitReady hexpects henabled
  simp only [Session.feed, Bool.false_eq_true, if_false, hready]
  refine ⟨⟨rfl, rfl, rfl, rfl⟩, ?_⟩
  intro outputs houtputs
  have hexpects' : Expects (CoreDetector.perform
      { d.reset with
        pidnsDev := some dev, pidnsIno := some ino
        expectedPid := pid, expectedTid := some tid } .ready) config :=
    ⟨hexpects.pid, hexpects.tid, hexpects.dev, hexpects.ino, hexpects.threshold⟩
  obtain ⟨hevents, hloss, hsame, hcrashed⟩ :=
    feedAll_outputs (s := ⟨_, [], false⟩) hexpects' rfl houtputs
  refine ⟨hevents, ?_, hsame.startupError, hsame.runtimeError, hcrashed⟩
  refine hloss.trans ?_
  simp [CoreDetector.perfBufferLoss, CoreDetector.reset, Dict.get]

end

/-- A target in a private PID namespace. -/
def nestedProc : ProcSnapshot where
  pidNamespaceFile _ := some (7, 8)
  statusFile
    | 100 => some "Tgid:\t100\nNSpid:\t100\t7\n"
    | 101 => some "Tgid:\t100\nNSpid:\t101\t9\n"
    | _ => none

/-- A detector for one thread of that target with a threshold of 12.5 ms. -/
def nestedDetector : CoreDetector ℚ where
  config := { pid := 100, thresholdMs := 25 / 2, tid := some 101 }
  expectedPid := 100
  expectedTid := some 101

/-- The detector once the command is built. -/
def nestedLaunched : CoreDetector ℚ :=
  { nestedDetector with
    pidnsDev := some 7, pidnsIno := some 8, expectedPid := 7, expectedTid := some 9 }

theorem nestedDetector_thresholdNs :
    nestedDetector.config.thresholdNs = .ok (12500000 : ℤ) := by
  have hproduct : (25 / 2 : ℚ) * ((1000000 : ℤ) : ℚ) = ((12500000 : ℤ) : ℚ) := by norm_num
  have hneg : ¬ ((12500000 : ℤ) : ℚ) < 0 := by norm_num
  simp only [DetectorConfig.thresholdNs, PyRuntime.toInt, PyRuntime.mulInt,
    nestedDetector, hproduct, if_neg hneg, Int.floor_intCast]

theorem nestedDetector_buildCommand :
    nestedDetector.reset.buildCommand nestedProc "/bin/sidecar" =
      .ok ("/bin/sidecar" :: commandArguments ⟨7, 9, 12500000, 7, 8⟩,
        nestedLaunched) := by
  have hns : pidNamespace nestedProc (some nestedDetector.reset.config.pid) =
      some (7, 8) := rfl
  have hpid : resolveNamespacePid nestedProc nestedDetector.reset.config.pid = .ok 7 := rfl
  have hthread : nestedDetector.reset.config.tid = some 101 := rfl
  have hvalid : nestedDetector.reset.validateTargetTid nestedProc 101 (7, 8) = .ok () := rfl
  have htid : resolveNamespacePid nestedProc 101 = .ok 9 := rfl
  have hthreshold : nestedDetector.reset.config.thresholdNs = .ok (12500000 : ℤ) :=
    nestedDetector_thresholdNs
  simp only [CoreDetector.buildCommand, hns, hpid, hthread, hvalid, htid, hthreshold]
  rfl

theorem protocol_roundTrip_nested :
    (∃ options, Native.parseOptions (commandArguments ⟨7, 9, 12500000, 7, 8⟩) =
        .ok options ∧
      options.config = ⟨7, 9, 12500000, 7, 8⟩ ∧ options.objectPath = none) := by
  have hexpects : Expects nestedLaunched ⟨7, 9, 12500000, 7, 8⟩ :=
    ⟨rfl, rfl, rfl, rfl, nestedDetector_thresholdNs⟩
  have henabled : ∃ v, (fun v => v == Native.EpollVariant.epollWait) v = true :=
    ⟨.epollWait, rfl⟩
  exact (protocol_roundTrip (by decide) (by decide) (by decide) (by decide)
    nestedDetector_buildCommand hexpects henabled).1

end Blocksnoop.CoreBackend
