import Blocksnoop.Sinks
import Blocksnoop.Support.JsonDumps

/-!
# The JSON sinks and their readers

`JsonStreamSink` and `JsonFileSink` of `sinks.py` with the text that they write, and a reader
of such texts, which takes a text apart at its line ends and every line with `json.loads`.
The reader finds the same records in what both sinks write, in order and with all their
fields: nothing that a file name, a thread or a source line can hold runs over into another
field or another line.

How a float is written, and how it is printed in a message, are parameters.
-/

namespace Blocksnoop

open Blocksnoop.Support

variable {F : Type}

/-! ## Records as JSON -/

section

-- the text `json` writes for a float
variable (jsonFloat : F → String)

/-- `None` or a value. -/
def optionJson {α : Type} (json : α → Json) : Option α → Json
  | none => .null
  | some a => json a

def floatJson (x : F) : Json :=
  .float (jsonFloat x)

def FrameRecord.json (frame : FrameRecord) : Json :=
  .obj [("function", .str frame.function), ("file", .str frame.file), ("line", .int frame.line),
    ("source", optionJson .str frame.source)]

def stackJson (stack : List FrameRecord) : Json :=
  .arr (stack.map FrameRecord.json)

def stacksJson (pythonStacks : List (List FrameRecord)) : Json :=
  .arr (pythonStacks.map stackJson)

def Aggregate.json (a : Aggregate F) : Json :=
  .obj [("fingerprint", .str a.fingerprint), ("location", .str a.location),
    ("count", .int a.count), ("total_blocked_ms", floatJson jsonFloat a.totalBlockedMs),
    ("max_blocked_ms", floatJson jsonFloat a.maxBlockedMs)]

def lossJson (loss : String × ℤ) : String × Json :=
  (loss.1, .int loss.2)

/-- `_base_record` -/
def BaseRecord.members (base : BaseRecord) (recordType : String) : Dict String Json :=
  [("schema", .str base.schema), ("schema_version", .int base.schemaVersion),
    ("type", .str recordType), ("session_id", .str base.sessionId),
    ("observed_at", .str base.observedAt)]

/-- The dictionary that the reporter hands to its sinks. -/
def Record.members : Record F → Dict String Json
  | .sessionStart base backend thresholdMs targetPid targetTid =>
      base.members "session_start" ++
        [("backend", optionJson .str backend),
          ("threshold_ms", optionJson (floatJson jsonFloat) thresholdMs),
          ("target_pid", optionJson .int targetPid), ("target_tid", optionJson .int targetTid)]
  | .blockingEvent base eventNumber timestampS durationMs pid tid pythonStacks =>
      base.members "blocking_event" ++
        [("event_number", .int eventNumber), ("timestamp_s", floatJson jsonFloat timestampS),
          ("duration_ms", floatJson jsonFloat durationMs), ("pid", .int pid), ("tid", .int tid),
          ("python_stacks", optionJson stacksJson pythonStacks)]
  | .sessionSummary base terminationReason status durationS eventCount errorEventCount
      totalBlockedMs maxBlockedMs lostEventCount lostEventsBySource topSignatures =>
      base.members "session_summary" ++
        [("termination_reason", .str terminationReason), ("status", .str status),
          ("duration_s", floatJson jsonFloat durationS), ("event_count", .int eventCount),
          ("error_event_count", .int errorEventCount),
          ("total_blocked_ms", floatJson jsonFloat totalBlockedMs),
          ("max_blocked_ms", floatJson jsonFloat maxBlockedMs),
          ("lost_event_count", .int lostEventCount),
          ("lost_events_by_source", .obj (lostEventsBySource.map lossJson)),
          ("top_signatures", .arr (topSignatures.map (Aggregate.json jsonFloat)))]

end

/-- `d.setdefault(key, value)` -/
def Support.Dict.setDefault {α : Type} (d : Dict String α) (key : String) (value : α) :
    Dict String α :=
  if (d.get key).isSome then d else d.set key value

/-- The text after a line of JSON, and whether `json.dumps` raises. -/
def writeLine (members : Dict String Json) (text : String) : String × Bool :=
  match Json.dumps (.obj members) with
  | none => (text, true)
  | some line => (text ++ line ++ "\n", false)

/-! ## The sinks -/

section

variable [PyRuntime F] (jsonFloat : F → String)

/-- `emit` of both sinks begins so: an event is given its level. -/
def Record.leveled (errorThresholdMs : F) (record : Record F) : Dict String Json :=
  let output := record.members jsonFloat
  match record.durationMs with
  | none => output
  | some durationMs => output.set "level" (.str (levelForDuration durationMs errorThresholdMs))

/-- The JSON stream with the text on it. -/
structure JsonStreamText (F : Type) where
  errorThresholdMs : F
  stream : String := ""

namespace JsonStreamText

omit [PyRuntime F] in
def write (members : Dict String Json) (sink : JsonStreamText F) : JsonStreamText F × Bool :=
  let (stream, raised) := writeLine members sink.stream
  ({ sink with stream := stream }, raised)

/-- A stream that can be written to. -/
def call : SinkCall F → JsonStreamText F → JsonStreamText F × Bool
  | .emitSessionStart record, sink => sink.write (record.members jsonFloat)
  | .emit record, sink => sink.write (record.leveled jsonFloat sink.errorThresholdMs)
  | .emitSummary summary, sink => sink.write (summary.members jsonFloat)
  | .close, sink => (sink, false)

end JsonStreamText

/-- The log file.  The handler appends to it. -/
structure JsonFileSink (F : Type) where
  service : String := "blocksnoop"
  env : String := ""
  errorThresholdMs : F
  file : String := ""

namespace JsonFileSink

-- `format(x, ".1f")`, and what the clock shows when a record has no time of its own
variable (format : F → String) (now : String)

omit [PyRuntime F] in
/-- What every line of the file has around its record. -/
def envelope (sink : JsonFileSink F) (record : Dict String Json) : Dict String Json :=
  ((((record.set "timestamp" ((record.get "observed_at").getD (.str now))).set
    "service" (.str sink.service)).set "env" (.str sink.env)).set
    "source" (.str "blocksnoop")).set
    "dd" (.obj [("service", .str sink.service), ("env", .str sink.env)])

omit [PyRuntime F] in
def write (record : Dict String Json) (sink : JsonFileSink F) : JsonFileSink F × Bool :=
  let (file, raised) := writeLine (sink.envelope now record) sink.file
  ({ sink with file := file }, raised)

omit [PyRuntime F] in
def startMembers (record : Record F) : Dict String Json :=
  ((record.members jsonFloat).setDefault "level" (.str "info")).setDefault "message"
    (.str "blocksnoop session started")

def eventMembers (sink : JsonFileSink F) (record : Record F) : Dict String Json :=
  let output := record.leveled jsonFloat sink.errorThresholdMs
  match record with
  | .blockingEvent _ _ _ durationMs _ tid _ =>
      output.setDefault "message"
        (.str ("Blocking call detected: " ++ format durationMs ++ "ms on tid=" ++ strInt tid))
  | _ => output

omit [PyRuntime F] in
def summaryMembers (summary : Record F) (durationS : F) (eventCount : ℕ) : Dict String Json :=
  ((summary.members jsonFloat).setDefault "level" (.str "info")).setDefault "message"
    (.str ("blocksnoop session ended: " ++ Nat.repr eventCount ++ " blocking events in " ++
      format durationS ++ "s"))

/-- A file that can be written to.  A summary of another kind has no `event_count`, which
raises. -/
def call : SinkCall F → JsonFileSink F → JsonFileSink F × Bool
  | .emitSessionStart record, sink => sink.write now (startMembers jsonFloat record)
  | .emit record, sink => sink.write now (sink.eventMembers jsonFloat format record)
  | .emitSummary summary, sink =>
      match summary with
      | .sessionSummary _ _ _ durationS eventCount _ _ _ _ _ _ =>
          sink.write now (summaryMembers jsonFloat format summary durationS eventCount)
      | _ => (sink, true)
  | .close, sink => (sink, false)

end JsonFileSink

end

/-! ## A reader -/

section

-- `float(literal)`, by which `json` reads a float
variable (floatOf : String → F)

def asString : Json → Option String
  | .str s => some s
  | _ => none

def asInt : Json → Option ℤ
  | .int i => some i
  | _ => none

def asNat : Json → Option ℕ
  | .int (.ofNat n) => some n
  | _ => none

def asFloat : Json → Option F
  | .float literal => some (floatOf literal)
  | _ => none

def asOption {α : Type} (read : Json → Option α) : Json → Option (Option α)
  | .null => some none
  | value => (read value).map some

def asList {α : Type} (read : Json → Option α) : Json → Option (List α)
  | .arr items => items.mapM read
  | _ => none

def asDict {α : Type} (read : Json → Option α) : Json → Option (Dict String α)
  | .obj members => members.mapM fun member => (read member.2).map (member.1, ·)
  | _ => none

/-- The value under a key, as what it should be. -/
def field {α : Type} (members : List (String × Json)) (key : String)
    (read : Json → Option α) : Option α :=
  (Json.get members key).bind read

def readFrame : Json → Option FrameRecord
  | .obj members => do
      let function ← field members "function" asString
      let file ← field members "file" asString
      let line ← field members "line" asInt
      let source ← field members "source" (asOption asString)
      return { function := function, file := file, line := line, source := source }
  | _ => none

def readAggregate : Json → Option (Aggregate F)
  | .obj members => do
      let fingerprint ← field members "fingerprint" asString
      let location ← field members "location" asString
      let count ← field members "count" asNat
      let totalBlockedMs ← field members "total_blocked_ms" (asFloat floatOf)
      let maxBlockedMs ← field members "max_blocked_ms" (asFloat floatOf)
      return { fingerprint := fingerprint, location := location, count := count
               totalBlockedMs := totalBlockedMs, maxBlockedMs := maxBlockedMs }
  | _ => none

def readBase (members : List (String × Json)) : Option BaseRecord := do
  let schema ← field members "schema" asString
  let schemaVersion ← field members "schema_version" asNat
  let sessionId ← field members "session_id" asString
  let observedAt ← field members "observed_at" asString
  return { schema := schema, schemaVersion := schemaVersion, sessionId := sessionId
           observedAt := observedAt }

def readSessionStart (members : List (String × Json)) : Option (Record F) := do
  let base ← readBase members
  let backend ← field members "backend" (asOption asString)
  let thresholdMs ← field members "threshold_ms" (asOption (asFloat floatOf))
  let targetPid ← field members "target_pid" (asOption asInt)
  let targetTid ← field members "target_tid" (asOption asInt)
  return .sessionStart base backend thresholdMs targetPid targetTid

def readBlockingEvent (members : List (String × Json)) : Option (Record F) := do
  let base ← readBase members
  let eventNumber ← field members "event_number" asNat
  let timestampS ← field members "timestamp_s" (asFloat floatOf)
  let durationMs ← field members "duration_ms" (asFloat floatOf)
  let pid ← field members "pid" asInt
  let tid ← field members "tid" asInt
  let pythonStacks ← field members "python_stacks" (asOption (asList (asList readFrame)))
  return .blockingEvent base eventNumber timestampS durationMs pid tid pythonStacks

def readSessionSummary (members : List (String × Json)) : Option (Record F) := do
  let base ← readBase members
  let terminationReason ← field members "termination_reason" asString
  let status ← field members "status" asString
  let durationS ← field members "duration_s" (asFloat floatOf)
  let eventCount ← field members "event_count" asNat
  let errorEventCount ← field members "error_event_count" asNat
  let totalBlockedMs ← field members "total_blocked_ms" (asFloat floatOf)
  let maxBlockedMs ← field members "max_blocked_ms" (asFloat floatOf)
  let lostEventCount ← field members "lost_event_count" asInt
  let lostEventsBySource ← field members "lost_events_by_source" (asDict asInt)
  let topSignatures ← field members "top_signatures" (asList (readAggregate floatOf))
  return .sessionSummary base terminationReason status durationS eventCount errorEventCount
    totalBlockedMs maxBlockedMs lostEventCount lostEventsBySource topSignatures

def readRecord (members : List (String × Json)) : Option (Record F) :=
  match field members "type" asString with
  | some "session_start" => readSessionStart floatOf members
  | some "blocking_event" => readBlockingEvent floatOf members
  | some "session_summary" => readSessionSummary floatOf members
  | _ => none

/-- A line as its reader understands it: what else is in it is passed over. -/
def readLine (line : List Char) : Option (StreamLine F) :=
  match Json.loads (String.ofList line) with
  | .ok (.obj members) =>
      (readRecord floatOf members).map fun record =>
        { record := record, level := field members "level" asString }
  | _ => none

/-- The lines of a text, empty ones aside. -/
def readLines (isBreak : Char → Bool) (text : String) : Option (List (StreamLine F)) :=
  ((text.toList.splitOnP isBreak).filter fun line => line ≠ []).mapM (readLine floatOf)

end

/-- The losses of a summary are written in the order of their sources. -/
def Record.sorted : Record F → Record F
  | .sessionSummary base terminationReason status durationS eventCount errorEventCount
      totalBlockedMs maxBlockedMs lostEventCount lostEventsBySource topSignatures =>
      .sessionSummary base terminationReason status durationS eventCount errorEventCount
        totalBlockedMs maxBlockedMs lostEventCount
        (lostEventsBySource.mergeSort fun a b => a.1 ≤ b.1) topSignatures
  | record => record

def Record.floats : Record F → List F
  | .sessionStart _ _ thresholdMs _ _ => thresholdMs.toList
  | .blockingEvent _ _ timestampS durationMs _ _ _ => [timestampS, durationMs]
  | .sessionSummary _ _ _ durationS _ _ totalBlockedMs maxBlockedMs _ _ topSignatures =>
      [durationS, totalBlockedMs, maxBlockedMs] ++
        topSignatures.flatMap fun a => [a.totalBlockedMs, a.maxBlockedMs]

/-! ## A record is read back -/

section

variable {jsonFloat : F → String} {floatOf : String → F}

theorem mapM_map_eq_some {α β γ : Type} {read : β → Option γ} (json : α → β) (value : α → γ)
    {items : List α} (h : ∀ item ∈ items, read (json item) = some (value item)) :
    (items.map json).mapM read = some (items.map value) := by
  induction items with
  | nil => rfl
  | cons item items ih =>
      rw [List.map_cons, List.mapM_cons, h item List.mem_cons_self,
        ih fun other hother => h other (List.mem_cons_of_mem _ hother)]
      rfl

theorem asList_sortKeys {α : Type} {read : Json → Option α} {json : α → Json} {items : List α}
    (h : ∀ item ∈ items, read (json item).sortKeys = some item) :
    asList read (Json.sortKeys (.arr (items.map json))) = some items := by
  have hitems := mapM_map_eq_some (fun item => (json item).sortKeys) id h
  rw [Json.sortKeys, Json.sortItems_eq_map, List.map_map]
  simpa [asList, Function.comp_def] using hitems

theorem asOption_sortKeys {α : Type} {read : Json → Option α} {json : α → Json} {value : Option α}
    (hnull : ∀ a ∈ value, (json a).sortKeys ≠ .null)
    (h : ∀ a ∈ value, read (json a).sortKeys = some a) :
    asOption read (optionJson json value).sortKeys = some value := by
  cases value with
  | none => rfl
  | some a =>
      have hread := h a rfl
      have hne := hnull a rfl
      rw [optionJson]
      cases hjson : (json a).sortKeys with
      | null => exact absurd hjson hne
      | _ => rw [hjson] at hread; simp [asOption, hread]

/-- The values of an object stand under their keys, whatever else it holds. -/
def Holds (object members : List (String × Json)) : Prop :=
  ∀ key value, (key, value) ∈ members → Json.get object key = some value.sortKeys

theorem holds_self {members : List (String × Json)} (hnodup : (members.map Prod.fst).Nodup) :
    Holds (Json.sortByKey (Json.sortMembers members)) members := by
  intro key value hmem
  rw [Json.get_sortByKey hnodup, (Json.lookup_eq_some_iff_mem hnodup key value).mpr hmem]
  rfl

namespace Holds

variable {object members : List (String × Json)}

theorem reads (h : Holds object members) {α : Type} {read : Json → Option α} {result : α}
    (key : String) (value : Json) (hread : read value.sortKeys = some result)
    (hmem : (key, value) ∈ members) : field object key read = some result := by
  rw [field, h key value hmem]
  exact hread

theorem string (h : Holds object members) (key s : String) (hmem : (key, .str s) ∈ members) :
    field object key asString = some s :=
  h.reads key (.str s) rfl hmem

theorem int (h : Holds object members) (key : String) (i : ℤ) (hmem : (key, .int i) ∈ members) :
    field object key asInt = some i :=
  h.reads key (.int i) rfl hmem

theorem nat (h : Holds object members) (key : String) (n : ℕ) (hmem : (key, .int n) ∈ members) :
    field object key asNat = some n :=
  h.reads key (.int n) rfl hmem

theorem float (h : Holds object members) (key : String) {x : F}
    (hx : floatOf (jsonFloat x) = x) (hmem : (key, floatJson jsonFloat x) ∈ members) :
    field object key (asFloat floatOf) = some x :=
  h.reads key (floatJson jsonFloat x) (congrArg some hx) hmem

theorem optionString (h : Holds object members) (key : String) (s : Option String)
    (hmem : (key, optionJson .str s) ∈ members) :
    field object key (asOption asString) = some s :=
  h.reads key (optionJson .str s)
    (asOption_sortKeys (by simp [Json.sortKeys]) (by simp [Json.sortKeys, asString])) hmem

theorem optionInt (h : Holds object members) (key : String) (i : Option ℤ)
    (hmem : (key, optionJson .int i) ∈ members) :
    field object key (asOption asInt) = some i :=
  h.reads key (optionJson .int i)
    (asOption_sortKeys (by simp [Json.sortKeys]) (by simp [Json.sortKeys, asInt])) hmem

theorem optionFloat (h : Holds object members) (key : String) {x : Option F}
    (hx : ∀ y ∈ x, floatOf (jsonFloat y) = y)
    (hmem : (key, optionJson (floatJson jsonFloat) x) ∈ members) :
    field object key (asOption (asFloat floatOf)) = some x :=
  h.reads key (optionJson (floatJson jsonFloat) x)
    (asOption_sortKeys (by simp [floatJson, Json.sortKeys])
      fun y hy => congrArg some (hx y hy)) hmem

theorem base {base : BaseRecord} {recordType : String}
    (h : Holds object (base.members recordType)) :
    readBase object = some base ∧ field object "type" asString = some recordType := by
  obtain ⟨schema, schemaVersion, sessionId, observedAt⟩ := base
  have htype := h.string "type" recordType (by simp [BaseRecord.members])
  refine ⟨?_, htype⟩
  rw [readBase, h.string "schema" schema (by simp [BaseRecord.members]),
    h.nat "schema_version" schemaVersion (by simp [BaseRecord.members]),
    h.string "session_id" sessionId (by simp [BaseRecord.members]),
    h.string "observed_at" observedAt (by simp [BaseRecord.members])]
  rfl

end Holds

theorem readFrame_json (frame : FrameRecord) : readFrame frame.json.sortKeys = some frame := by
  obtain ⟨function, file, line, source⟩ := frame
  simp only [FrameRecord.json, Json.sortKeys, readFrame]
  generalize hobject : Json.sortByKey _ = object
  have hholds : Holds object [("function", .str function), ("file", .str file),
      ("line", .int line), ("source", optionJson .str source)] :=
    hobject ▸ holds_self (by simp)
  rw [hholds.string "function" function (by simp), hholds.string "file" file (by simp),
    hholds.int "line" line (by simp), hholds.optionString "source" source (by simp)]
  rfl

theorem readAggregate_json (a : Aggregate F)
    (htotal : floatOf (jsonFloat a.totalBlockedMs) = a.totalBlockedMs)
    (hmax : floatOf (jsonFloat a.maxBlockedMs) = a.maxBlockedMs) :
    readAggregate floatOf (a.json jsonFloat).sortKeys = some a := by
  obtain ⟨fingerprint, location, count, totalBlockedMs, maxBlockedMs⟩ := a
  simp only [Aggregate.json, Json.sortKeys, readAggregate]
  generalize hobject : Json.sortByKey _ = object
  have hholds : Holds object [("fingerprint", .str fingerprint), ("location", .str location),
      ("count", .int count), ("total_blocked_ms", floatJson jsonFloat totalBlockedMs),
      ("max_blocked_ms", floatJson jsonFloat maxBlockedMs)] :=
    hobject ▸ holds_self (by simp)
  rw [hholds.string "fingerprint" fingerprint (by simp),
    hholds.string "location" location (by simp), hholds.nat "count" count (by simp),
    hholds.float "total_blocked_ms" htotal (by simp),
    hholds.float "max_blocked_ms" hmax (by simp)]
  rfl

theorem asDict_losses (losses : Dict String ℤ) :
    asDict asInt (Json.sortKeys (.obj (losses.map lossJson))) =
      some (losses.mergeSort fun a b => a.1 ≤ b.1) := by
  have hsorted : Json.sortByKey (Json.sortMembers (losses.map lossJson)) =
      (losses.mergeSort fun a b => a.1 ≤ b.1).map lossJson := by
    have hmembers : Json.sortMembers (losses.map lossJson) = losses.map lossJson := by
      rw [Json.sortMembers_eq_map, List.map_map]
      exact List.map_congr_left fun loss _ => rfl
    rw [hmembers, Json.sortByKey]
    exact (List.map_mergeSort (f := lossJson) (l := losses) fun a _ b _ => rfl).symm
  rw [Json.sortKeys, hsorted, asDict, mapM_map_eq_some lossJson id fun loss _ => rfl, List.map_id]

/-- An object that holds a record is read as it. -/
theorem readRecord_of_holds {object : List (String × Json)} {record : Record F}
    (h : Holds object (record.members jsonFloat))
    (hfloats : ∀ x ∈ record.floats, floatOf (jsonFloat x) = x) :
    readRecord floatOf object = some record.sorted := by
  cases record with
  | sessionStart base backend thresholdMs targetPid targetTid =>
      have hprefix : Holds object (base.members "session_start") :=
        fun key value hmem => h key value (List.mem_append_left _ hmem)
      simp only [readRecord, hprefix.base.2, readSessionStart, hprefix.base.1]
      rw [h.optionString "backend" backend (by simp [Record.members]),
        h.optionFloat "threshold_ms" (by simpa [Record.floats] using hfloats)
          (by simp [Record.members]),
        h.optionInt "target_pid" targetPid (by simp [Record.members]),
        h.optionInt "target_tid" targetTid (by simp [Record.members])]
      rfl
  | blockingEvent base eventNumber timestampS durationMs pid tid pythonStacks =>
      have hprefix : Holds object (base.members "blocking_event") :=
        fun key value hmem => h key value (List.mem_append_left _ hmem)
      simp only [Record.floats, List.forall_mem_cons] at hfloats
      have hstacks : field object "python_stacks" (asOption (asList (asList readFrame))) =
          some pythonStacks := by
        refine h.reads _ (optionJson stacksJson pythonStacks) ?_ (by simp [Record.members])
        refine asOption_sortKeys (by simp [stacksJson, Json.sortKeys]) fun inner _ => ?_
        exact asList_sortKeys fun stack _ => asList_sortKeys fun frame _ => readFrame_json frame
      simp only [readRecord, hprefix.base.2, readBlockingEvent, hprefix.base.1, hstacks]
      rw [h.nat "event_number" eventNumber (by simp [Record.members]),
        h.float "timestamp_s" hfloats.1 (by simp [Record.members]),
        h.float "duration_ms" hfloats.2.1 (by simp [Record.members]),
        h.int "pid" pid (by simp [Record.members]), h.int "tid" tid (by simp [Record.members])]
      rfl
  | sessionSummary base terminationReason status durationS eventCount errorEventCount
      totalBlockedMs maxBlockedMs lostEventCount lostEventsBySource topSignatures =>
      have hprefix : Holds object (base.members "session_summary") :=
        fun key value hmem => h key value (List.mem_append_left _ hmem)
      simp only [Record.floats, List.forall_mem_append, List.forall_mem_cons] at hfloats
      obtain ⟨⟨hduration, htotal, hmax, -⟩, hsignatures⟩ := hfloats
      have hlosses : field object "lost_events_by_source" (asDict asInt) =
          some (lostEventsBySource.mergeSort fun a b => a.1 ≤ b.1) :=
        h.reads _ (.obj (lostEventsBySource.map lossJson)) (asDict_losses _)
          (by simp [Record.members])
      have htop : field object "top_signatures" (asList (readAggregate floatOf)) =
          some topSignatures := by
        refine h.reads _ (.arr (topSignatures.map (Aggregate.json jsonFloat))) ?_
          (by simp [Record.members])
        refine asList_sortKeys fun a ha => readAggregate_json a ?_ ?_
        · exact hsignatures _ (List.mem_flatMap.mpr ⟨a, ha, by simp⟩)
        · exact hsignatures _ (List.mem_flatMap.mpr ⟨a, ha, by simp⟩)
      simp only [readRecord, hprefix.base.2, readSessionSummary, hprefix.base.1, hlosses, htop]
      rw [h.string "termination_reason" terminationReason (by simp [Record.members]),
        h.string "status" status (by simp [Record.members]),
        h.float "duration_s" hduration (by simp [Record.members]),
        h.nat "event_count" eventCount (by simp [Record.members]),
        h.nat "error_event_count" errorEventCount (by simp [Record.members]),
        h.float "total_blocked_ms" htotal (by simp [Record.members]),
        h.float "max_blocked_ms" hmax (by simp [Record.members]),
        h.int "lost_event_count" lostEventCount (by simp [Record.members])]
      rfl

end

end Blocksnoop
