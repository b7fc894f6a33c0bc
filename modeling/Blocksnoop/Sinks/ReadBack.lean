import Blocksnoop.Sinks.JsonLines
import Mathlib.Data.Bool.AllAny

/-!
# What the JSON sinks tell

Every line of the stream and of the log file is the dictionary of a record with a few keys
behind it that no record has.  So the reader finds the record in it; and since a dumped text
is printable throughout, it finds the line, whatever it takes for the end of one.
-/

namespace Blocksnoop

open Blocksnoop.Support

variable {F : Type} {jsonFloat : F → String} {floatOf : String → F}

/-! ## Dictionaries with further keys -/

theorem Support.Dict.set_eq_append {α : Type} {d : Dict String α} {key : String} (value : α)
    (hkey : key ∉ d.map Prod.fst) : d.set key value = d ++ [(key, value)] := by
  induction d with
  | nil => rfl
  | cons entry d ih =>
      obtain ⟨k, v⟩ := entry
      simp only [List.map_cons, List.mem_cons, not_or] at hkey
      rw [Dict.set, if_neg hkey.1, ih hkey.2, List.cons_append]

theorem Support.Dict.get_eq_none {α : Type} {d : Dict String α} {key : String}
    (hkey : key ∉ d.map Prod.fst) : d.get key = none := by
  rw [Dict.get, List.lookup_eq_none_iff]
  intro entry hentry
  have hne : key ≠ entry.1 := by
    rintro rfl
    exact hkey (List.mem_map_of_mem hentry)
  simpa using hne

theorem Support.Dict.setDefault_eq_append {α : Type} {d : Dict String α} {key : String} (value : α)
    (hkey : key ∉ d.map Prod.fst) : d.setDefault key value = d ++ [(key, value)] := by
  rw [Dict.setDefault, Dict.get_eq_none hkey, Dict.set_eq_append value hkey]
  rfl

/-- The keys that the sinks add to a record. -/
def addedKeys : List String :=
  ["level", "message", "timestamp", "service", "env", "source", "dd"]

theorem nodup_members (record : Record F) : ((record.members jsonFloat).map Prod.fst).Nodup := by
  cases record <;> simp [Record.members, BaseRecord.members]

theorem not_mem_members (record : Record F) {key : String} (hkey : key ∈ addedKeys) :
    key ∉ (record.members jsonFloat).map Prod.fst := by
  simp only [addedKeys, List.mem_cons, List.not_mem_nil, or_false] at hkey
  rcases hkey with rfl | rfl | rfl | rfl | rfl | rfl | rfl <;>
    cases record <;> simp [Record.members, BaseRecord.members]

theorem lookup_level (record : Record F) (extras : Dict String Json) :
    (record.members jsonFloat ++ extras).lookup "level" = extras.lookup "level" := by
  have hnone : (record.members jsonFloat).lookup "level" = none :=
    Dict.get_eq_none (not_mem_members record (by simp [addedKeys]))
  rw [List.lookup_append, hnone, Option.none_or]

/-- What a sink adds to a record: strings, under keys of their own. -/
structure Added (extras : Dict String Json) : Prop where
  distinct : (extras.map Prod.fst).Nodup
  fresh : ∀ key ∈ extras.map Prod.fst, key ∈ addedKeys
  strings : ∀ scalar ∈ Json.memberScalars extras, ∃ s, scalar = .str s

namespace Added

variable {extras : Dict String Json} {record : Record F}

theorem nodup (h : Added extras) :
    ((record.members jsonFloat ++ extras).map Prod.fst).Nodup := by
  rw [List.map_append, List.nodup_append]
  refine ⟨nodup_members record, h.distinct, ?_⟩
  rintro key hkey other hother rfl
  exact not_mem_members record (h.fresh key hother) hkey

theorem mem_scalars (h : Added extras) {scalar : Json}
    (hscalar : scalar ∈ Json.scalars (.obj (record.members jsonFloat ++ extras))) :
    scalar ∈ Json.scalars (.obj (record.members jsonFloat)) ∨ ∃ s, scalar = .str s := by
  simp only [Json.scalars, Json.memberScalars_eq_flatMap, List.flatMap_append,
    List.mem_append] at hscalar ⊢
  refine hscalar.imp_right fun hextra => h.strings scalar ?_
  rwa [Json.memberScalars_eq_flatMap]

end Added

/-! ## The floats of a record -/

theorem float_not_mem_frame (frame : FrameRecord) (literal : String) :
    .float literal ∉ Json.scalars frame.json := by
  obtain ⟨function, file, line, source⟩ := frame
  cases source <;> simp [FrameRecord.json, optionJson, Json.scalars, Json.memberScalars]

theorem itemScalars_map {α : Type} (json : α → Json) (items : List α) :
    Json.itemScalars (items.map json) = items.flatMap fun item => Json.scalars (json item) := by
  induction items with
  | nil => rfl
  | cons item items ih => rw [List.map_cons, Json.itemScalars, ih, List.flatMap_cons]

theorem float_not_mem_stacks (pythonStacks : List (List FrameRecord)) (literal : String) :
    .float literal ∉ Json.scalars (stacksJson pythonStacks) := by
  rw [stacksJson, Json.scalars, itemScalars_map, List.mem_flatMap]
  rintro ⟨stack, -, hstack⟩
  rw [stackJson, Json.scalars, itemScalars_map, List.mem_flatMap] at hstack
  obtain ⟨frame, -, hframe⟩ := hstack
  exact float_not_mem_frame frame literal hframe

theorem float_not_mem_losses (losses : Dict String ℤ) (literal : String) :
    .float literal ∉ Json.memberScalars (losses.map lossJson) := by
  rw [Json.memberScalars_eq_flatMap, List.flatMap_map, List.mem_flatMap]
  rintro ⟨loss, -, hloss⟩
  simp [lossJson, Json.scalars] at hloss

theorem exists_float_of_mem_aggregates {topSignatures : List (Aggregate F)} {literal : String}
    (h : .float literal ∈ Json.itemScalars (topSignatures.map (Aggregate.json jsonFloat))) :
    ∃ x ∈ topSignatures.flatMap fun a => [a.totalBlockedMs, a.maxBlockedMs],
      jsonFloat x = literal := by
  rw [itemScalars_map, List.mem_flatMap] at h
  obtain ⟨a, ha, hscalar⟩ := h
  simp only [Aggregate.json, Json.scalars, Json.memberScalars, floatJson, List.append_nil,
    List.cons_append, List.nil_append, List.mem_cons, reduceCtorEq, Json.float.injEq,
    List.not_mem_nil, or_false, false_or] at hscalar
  rcases hscalar with rfl | rfl
  · exact ⟨a.totalBlockedMs, List.mem_flatMap.mpr ⟨a, ha, by simp⟩, rfl⟩
  · exact ⟨a.maxBlockedMs, List.mem_flatMap.mpr ⟨a, ha, by simp⟩, rfl⟩

/-- The float literals of a record are those of its floats. -/
theorem exists_float_of_mem_scalars {record : Record F} {literal : String}
    (h : .float literal ∈ Json.scalars (.obj (record.members jsonFloat))) :
    ∃ x ∈ record.floats, jsonFloat x = literal := by
  cases record with
  | sessionStart base backend thresholdMs targetPid targetTid =>
      cases backend <;> cases thresholdMs <;> cases targetPid <;> cases targetTid <;>
        simp_all [Record.members, BaseRecord.members, Record.floats, optionJson, floatJson,
          Json.scalars, Json.memberScalars]
  | blockingEvent base eventNumber timestampS durationMs pid tid pythonStacks =>
      cases pythonStacks with
      | none =>
          simp_all [Record.members, BaseRecord.members, Record.floats, optionJson, floatJson,
            Json.scalars, Json.memberScalars, eq_comm]
      | some stacks' =>
          simp_all [Record.members, BaseRecord.members, Record.floats, optionJson, floatJson,
            Json.scalars, Json.memberScalars, float_not_mem_stacks, eq_comm]
  | sessionSummary base terminationReason status durationS eventCount errorEventCount
      totalBlockedMs maxBlockedMs lostEventCount lostEventsBySource topSignatures =>
      simp only [Record.members, BaseRecord.members, floatJson, Json.scalars, Json.memberScalars,
        List.cons_append, List.nil_append, List.append_nil, List.mem_cons, List.mem_append,
        reduceCtorEq, Json.float.injEq, false_or, float_not_mem_losses] at h
      simp only [Record.floats, List.mem_append, List.mem_cons, List.not_mem_nil, or_false]
      rcases h with rfl | rfl | rfl | h
      · exact ⟨durationS, by simp, rfl⟩
      · exact ⟨totalBlockedMs, by simp, rfl⟩
      · exact ⟨maxBlockedMs, by simp, rfl⟩
      · obtain ⟨x, hx, hliteral⟩ := exists_float_of_mem_aggregates h
        exact ⟨x, .inr hx, hliteral⟩

/-! ## One line -/

/-- The text of a float is one that `json` writes, and it is read as the float. -/
def WritesFloat (jsonFloat : F → String) (floatOf : String → F) (x : F) : Prop :=
  Json.FloatText (jsonFloat x).toList ∧ floatOf (jsonFloat x) = x

/-- No integer of a record is too long to be written. -/
def Record.writable (jsonFloat : F → String) (record : Record F) : Bool :=
  (Json.scalars (.obj (record.members jsonFloat))).all Json.converts

def levelOf (extras : Dict String Json) : Option String :=
  (extras.lookup "level").bind asString

namespace Added

variable {extras : Dict String Json} {record : Record F}

theorem floatsWritten (h : Added extras)
    (hfloats : ∀ x ∈ record.floats, WritesFloat jsonFloat floatOf x) :
    Json.FloatsWritten (.obj (record.members jsonFloat ++ extras)) := by
  intro literal hliteral
  rcases h.mem_scalars hliteral with hmem | ⟨s, hs⟩
  · obtain ⟨x, hx, rfl⟩ := exists_float_of_mem_scalars hmem
    exact (hfloats x hx).1
  · cases hs

theorem all_converts (h : Added extras) :
    (Json.scalars (.obj (record.members jsonFloat ++ extras))).all Json.converts =
      record.writable jsonFloat := by
  rw [Bool.eq_iff_iff, Record.writable, List.all_eq_true, List.all_eq_true]
  constructor
  · intro hall scalar hscalar
    refine hall scalar ?_
    rw [Json.scalars, Json.memberScalars_eq_flatMap] at hscalar ⊢
    rw [List.flatMap_append]
    exact List.mem_append_left _ hscalar
  · intro hall scalar hscalar
    rcases h.mem_scalars hscalar with hmem | ⟨s, rfl⟩
    · exact hall scalar hmem
    · rfl

/-- The reader finds the record and its level in the line. -/
theorem readLine_dumps (h : Added extras)
    (hfloats : ∀ x ∈ record.floats, WritesFloat jsonFloat floatOf x) {line : String}
    (hline : Json.dumps (.obj (record.members jsonFloat ++ extras)) = some line) :
    readLine floatOf line.toList =
      some { record := record.sorted, level := levelOf extras } := by
  have hloads := Json.loads_dumps (h.floatsWritten hfloats) hline "" (by simp)
  rw [String.append_empty, Json.sortKeys] at hloads
  have hholds : Holds (Json.sortByKey (Json.sortMembers (record.members jsonFloat ++ extras)))
      (record.members jsonFloat) :=
    fun key value hmem => holds_self h.nodup key value (List.mem_append_left _ hmem)
  have hlevel : field (Json.sortByKey (Json.sortMembers (record.members jsonFloat ++ extras)))
      "level" asString = levelOf extras := by
    rw [field, Json.get_sortByKey h.nodup, lookup_level, levelOf]
    cases extras.lookup "level" with
    | none => rfl
    | some value => cases value <;> simp [Json.sortKeys, asString]
  rw [readLine, String.ofList_toList, hloads]
  simp only [readRecord_of_holds hholds fun x hx => (hfloats x hx).2, hlevel, Option.map_some]

end Added

/-! ## The text of a sink -/

/-- A text is made of lines, in which the reader finds these records. -/
def Tells (floatOf : String → F) (text : String) (told : List (StreamLine F)) : Prop :=
  ∃ lines : List (List Char), text.toList = lines.flatMap (· ++ ['\n']) ∧
    (∀ line ∈ lines, line ≠ [] ∧ ∀ c ∈ line, Json.IsPrintable c) ∧
    lines.mapM (readLine floatOf) = some told

theorem tells_empty : Tells floatOf "" [] :=
  ⟨[], rfl, by simp, rfl⟩

theorem dumps_ne_nil {members : List (String × Json)} {line : String}
    (hline : Json.dumps (.obj members) = some line) : line.toList ≠ [] := by
  rw [Json.dumps] at hline
  split at hline
  · obtain rfl := Option.some.inj hline
    simp [Json.sortKeys, Json.dump]
  · cases hline

/-- A line more is a record more, unless it cannot be written. -/
theorem Tells.writeLine {extras : Dict String Json} {record : Record F} {text : String}
    {told : List (StreamLine F)} (h : Tells floatOf text told) (hadded : Added extras)
    (hfloats : ∀ x ∈ record.floats, WritesFloat jsonFloat floatOf x) :
    Tells floatOf (writeLine (record.members jsonFloat ++ extras) text).1
      (told ++ if record.writable jsonFloat then
        [{ record := record.sorted, level := levelOf extras }] else []) := by
  rw [Blocksnoop.writeLine]
  cases hline : Json.dumps (.obj (record.members jsonFloat ++ extras)) with
  | none =>
      have hwritable : record.writable jsonFloat = false := by
        rw [Json.dumps, hadded.all_converts] at hline
        simpa using hline
      simpa [hwritable] using h
  | some line =>
      have hwritable : record.writable jsonFloat = true := by
        rw [Json.dumps, hadded.all_converts] at hline
        by_contra hnot
        rw [if_neg hnot] at hline
        cases hline
      obtain ⟨lines, htext, hlines, hread⟩ := h
      rw [if_pos hwritable]
      refine ⟨lines ++ [line.toList], by simp [htext], ?_, ?_⟩
      · rw [List.forall_mem_append, List.forall_mem_singleton]
        exact ⟨hlines, dumps_ne_nil hline,
          Json.isPrintable_dumps (hadded.floatsWritten hfloats) hline⟩
      · rw [List.mapM_append, hread, List.mapM_cons, hadded.readLine_dumps hfloats hline]
        rfl

theorem splitOnP_lines {isBreak : Char → Bool} {lines : List (List Char)}
    (hbreak : isBreak '\n' = true) (hlines : ∀ line ∈ lines, ∀ c ∈ line, isBreak c = false) :
    (lines.flatMap (· ++ ['\n'])).splitOnP isBreak = lines ++ [[]] := by
  induction lines with
  | nil => rfl
  | cons line lines ih =>
      rw [List.flatMap_cons, List.append_assoc, List.singleton_append,
        List.splitOnP_append_cons_of_forall_mem (hlines line List.mem_cons_self) '\n' hbreak,
        ih fun other hother => hlines other (List.mem_cons_of_mem _ hother), List.cons_append]

theorem Tells.readLines {isBreak : Char → Bool} {text : String} {told : List (StreamLine F)}
    (h : Tells floatOf text told) (hbreak : isBreak '\n' = true)
    (hprint : ∀ c, Json.IsPrintable c → isBreak c = false) :
    readLines floatOf isBreak text = some told := by
  obtain ⟨lines, htext, hlines, hread⟩ := h
  have hsplit := splitOnP_lines hbreak fun line hline c hc =>
    hprint c ((hlines line hline).2 c hc)
  have hfilter : lines.filter (fun line => line ≠ []) = lines :=
    List.filter_eq_self.mpr fun line hline => by simpa using (hlines line hline).1
  rw [Blocksnoop.readLines, htext, hsplit, List.filter_append, hfilter]
  simpa using hread

/-! ## What the sinks add -/

theorem not_mem_append_keys {record : Record F} {extras : Dict String Json} {key : String}
    (hkey : key ∈ addedKeys) (hextras : key ∉ extras.map Prod.fst) :
    key ∉ (record.members jsonFloat ++ extras).map Prod.fst := by
  rw [List.map_append, List.mem_append, not_or]
  exact ⟨not_mem_members record hkey, hextras⟩

theorem set_members {record : Record F} {extras : Dict String Json} {key : String} (value : Json)
    (hkey : key ∈ addedKeys) (hextras : key ∉ extras.map Prod.fst) :
    Dict.set (record.members jsonFloat ++ extras) key value =
      record.members jsonFloat ++ (extras ++ [(key, value)]) := by
  rw [Dict.set_eq_append value (not_mem_append_keys hkey hextras), List.append_assoc]

theorem setDefault_members {record : Record F} {extras : Dict String Json} {key : String}
    (value : Json) (hkey : key ∈ addedKeys) (hextras : key ∉ extras.map Prod.fst) :
    Dict.setDefault (record.members jsonFloat ++ extras) key value =
      record.members jsonFloat ++ (extras ++ [(key, value)]) := by
  rw [Dict.setDefault_eq_append value (not_mem_append_keys hkey hextras), List.append_assoc]

def Record.observedAt : Record F → String
  | .sessionStart base _ _ _ _ => base.observedAt
  | .blockingEvent base _ _ _ _ _ _ => base.observedAt
  | .sessionSummary base _ _ _ _ _ _ _ _ _ _ => base.observedAt

theorem get_observedAt (record : Record F) (extras : Dict String Json) :
    Dict.get (record.members jsonFloat ++ extras) "observed_at" =
      some (.str record.observedAt) := by
  cases record <;> simp [Dict.get, Record.members, BaseRecord.members, Record.observedAt,
    List.lookup_cons]

namespace JsonFileSink

variable {sink : JsonFileSink F} {now : String}

/-- The keys of the envelope. -/
def stamp (sink : JsonFileSink F) (observedAt : String) : Dict String Json :=
  [("timestamp", .str observedAt), ("service", .str sink.service), ("env", .str sink.env),
    ("source", .str "blocksnoop"),
    ("dd", .obj [("service", .str sink.service), ("env", .str sink.env)])]

theorem envelope_eq (record : Record F) {extras : Dict String Json}
    (hextras : ∀ key ∈ extras.map Prod.fst, key = "level" ∨ key = "message") :
    sink.envelope now (record.members jsonFloat ++ extras) =
      record.members jsonFloat ++ (extras ++ sink.stamp record.observedAt) := by
  have hfresh (key : String) (hlevel : key ≠ "level") (hmessage : key ≠ "message") :
      key ∉ extras.map Prod.fst := fun hmem => (hextras key hmem).elim hlevel hmessage
  rw [envelope, get_observedAt, Option.getD_some,
    set_members _ (by simp [addedKeys]) (hfresh _ (by simp) (by simp)),
    set_members _ (by simp [addedKeys]) (by simpa using hfresh _ (by simp) (by simp)),
    set_members _ (by simp [addedKeys]) (by simpa using hfresh _ (by simp) (by simp)),
    set_members _ (by simp [addedKeys]) (by simpa using hfresh _ (by simp) (by simp)),
    set_members _ (by simp [addedKeys]) (by simpa using hfresh _ (by simp) (by simp))]
  simp [stamp]

end JsonFileSink

theorem added_nil : Added [] where
  distinct := by simp
  fresh := by simp
  strings := by simp [Json.memberScalars]

theorem added_level (level : String) : Added [("level", .str level)] where
  distinct := by simp
  fresh := by simp [addedKeys]
  strings := by simp [Json.memberScalars, Json.scalars]

theorem JsonFileSink.added_stamp (sink : JsonFileSink F) (level message observedAt : String) :
    Added ([("level", .str level), ("message", .str message)] ++ sink.stamp observedAt) where
  distinct := by simp [stamp]
  fresh := by simp [stamp, addedKeys]
  strings := by simp [stamp, Json.memberScalars, Json.scalars]

/-! ## The calls of a session -/

/-- The reporter hands records of one kind to each method. -/
def SinkCall.Fits : SinkCall F → Prop
  | .emitSessionStart (.sessionStart _ _ _ _ _) => True
  | .emit (.blockingEvent _ _ _ _ _ _ _) => True
  | .emitSummary (.sessionSummary _ _ _ _ _ _ _ _ _ _ _) => True
  | .close => True
  | _ => False

def SinkCall.floats : SinkCall F → List F
  | .emitSessionStart record => record.floats
  | .emit record => record.floats
  | .emitSummary summary => summary.floats
  | .close => []

/-- What is left of some lines in a text: those that can be written, with the losses of a
summary in order. -/
def toldAs (jsonFloat : F → String) (lines : List (StreamLine F)) : List (StreamLine F) :=
  (lines.filter fun line => line.record.writable jsonFloat).map fun line =>
    { line with record := line.record.sorted }

/-- The log file gives a level to the records that have none in the stream. -/
def StreamLine.informed (line : StreamLine F) : StreamLine F :=
  { line with level := some (line.level.getD "info") }

theorem toldAs_append (lines others : List (StreamLine F)) :
    toldAs jsonFloat (lines ++ others) = toldAs jsonFloat lines ++ toldAs jsonFloat others := by
  simp [toldAs]

theorem toldAs_singleton (record : Record F) (level : Option String) :
    toldAs jsonFloat [{ record := record, level := level }] =
      if record.writable jsonFloat then [{ record := record.sorted, level := level }] else [] := by
  cases h : record.writable jsonFloat <;> simp [toldAs, h]

section

variable [PyRuntime F]

/-- The line that a call adds to the stream. -/
def JsonStreamSink.lineOf (errorThresholdMs : F) : SinkCall F → List (StreamLine F)
  | .emitSessionStart record => [{ record := record }]
  | .emit record =>
      [{ record := record
         level := record.durationMs.map fun durationMs =>
           levelForDuration durationMs errorThresholdMs }]
  | .emitSummary summary => [{ record := summary }]
  | .close => []

theorem JsonStreamSink.written_receiveAll (calls : List (SinkCall F)) (sink : JsonStreamSink F) :
    (receiveAll JsonStreamSink.call calls sink).written =
      sink.written ++ calls.flatMap (lineOf sink.errorThresholdMs) := by
  induction calls generalizing sink with
  | nil => simp [receiveAll]
  | cons c calls ih =>
      have hstep : receiveAll JsonStreamSink.call (c :: calls) sink =
          receiveAll JsonStreamSink.call calls (JsonStreamSink.call c sink).1 := rfl
      have hkept : (JsonStreamSink.call c sink).1.errorThresholdMs = sink.errorThresholdMs := by
        cases c <;> rfl
      have hwritten : (JsonStreamSink.call c sink).1.written =
          sink.written ++ lineOf sink.errorThresholdMs c := by
        cases c <;> simp [JsonStreamSink.call, JsonStreamSink.write, JsonStreamSink.line, lineOf]
      rw [hstep, ih, hkept, hwritten, List.flatMap_cons, List.append_assoc]

/-! ### The stream -/

namespace JsonStreamText

theorem leveled_eq (jsonFloat : F → String) (errorThresholdMs : F) (record : Record F) :
    ∃ extras, Added extras ∧
      record.leveled jsonFloat errorThresholdMs = record.members jsonFloat ++ extras ∧
      levelOf extras = record.durationMs.map fun durationMs =>
        levelForDuration durationMs errorThresholdMs := by
  rw [Record.leveled]
  cases record.durationMs with
  | none => exact ⟨[], added_nil, by simp, rfl⟩
  | some durationMs =>
      refine ⟨_, added_level (levelForDuration durationMs errorThresholdMs), ?_, rfl⟩
      exact Dict.set_eq_append _ (not_mem_members record (by simp [addedKeys]))

theorem call_tells {c : SinkCall F} {sink : JsonStreamText F} {told : List (StreamLine F)}
    (h : Tells floatOf sink.stream told)
    (hfloats : ∀ x ∈ c.floats, WritesFloat jsonFloat floatOf x) :
    Tells floatOf (call jsonFloat c sink).1.stream
      (told ++ toldAs jsonFloat (JsonStreamSink.lineOf sink.errorThresholdMs c)) := by
  cases c with
  | emitSessionStart record =>
      have hline := h.writeLine added_nil hfloats
      rw [List.append_nil] at hline
      rw [JsonStreamSink.lineOf, toldAs_singleton]
      exact hline
  | emit record =>
      obtain ⟨extras, hadded, hextras, hlevel⟩ :=
        leveled_eq jsonFloat sink.errorThresholdMs record
      have hline := h.writeLine hadded hfloats
      rw [JsonStreamSink.lineOf, toldAs_singleton, ← hlevel]
      rw [← hextras] at hline
      exact hline
  | emitSummary summary =>
      have hline := h.writeLine added_nil hfloats
      rw [List.append_nil] at hline
      rw [JsonStreamSink.lineOf, toldAs_singleton]
      exact hline
  | close => simpa [JsonStreamSink.lineOf, toldAs, call] using h

theorem errorThresholdMs_call (c : SinkCall F) (sink : JsonStreamText F) :
    (call jsonFloat c sink).1.errorThresholdMs = sink.errorThresholdMs := by
  cases c <;> rfl

theorem receiveAll_tells {calls : List (SinkCall F)} (sink : JsonStreamText F)
    {told : List (StreamLine F)} (h : Tells floatOf sink.stream told)
    (hfloats : ∀ c ∈ calls, ∀ x ∈ c.floats, WritesFloat jsonFloat floatOf x) :
    Tells floatOf (receiveAll (call jsonFloat) calls sink).stream
      (told ++ toldAs jsonFloat (calls.flatMap (JsonStreamSink.lineOf sink.errorThresholdMs))) := by
  induction calls generalizing sink told with
  | nil => simpa [receiveAll, toldAs] using h
  | cons c calls ih =>
      have hstep : receiveAll (call jsonFloat) (c :: calls) sink =
          receiveAll (call jsonFloat) calls (call jsonFloat c sink).1 := rfl
      have hrest := ih _ (call_tells h (hfloats c List.mem_cons_self))
        fun d hd => hfloats d (List.mem_cons_of_mem _ hd)
      rw [errorThresholdMs_call] at hrest
      rw [hstep, List.flatMap_cons, toldAs_append, ← List.append_assoc]
      exact hrest

end JsonStreamText

/-! ### The log file -/

namespace JsonFileSink

variable (format : F → String) (now : String)

omit [PyRuntime F] in
/-- A record with a level and a message becomes a line of the file. -/
theorem write_tells {record : Record F} {level message : String} {sink : JsonFileSink F}
    {told : List (StreamLine F)} (h : Tells floatOf sink.file told)
    (hfloats : ∀ x ∈ record.floats, WritesFloat jsonFloat floatOf x) :
    Tells floatOf (sink.write now (record.members jsonFloat ++
        [("level", .str level), ("message", .str message)])).1.file
      (told ++ toldAs jsonFloat [{ record := record, level := some level }]) := by
  have hline := h.writeLine (sink.added_stamp level message record.observedAt) hfloats
  rw [write, envelope_eq record (by simp), toldAs_singleton]
  exact hline

omit [PyRuntime F] in
theorem setDefaults_eq (record : Record F) (level message : String) :
    ((record.members jsonFloat).setDefault "level" (.str level)).setDefault "message"
        (.str message) =
      record.members jsonFloat ++ [("level", .str level), ("message", .str message)] := by
  rw [Dict.setDefault_eq_append _ (not_mem_members record (by simp [addedKeys])),
    setDefault_members _ (by simp [addedKeys]) (by simp)]
  rfl

omit [PyRuntime F] in
theorem toldAs_informed (lines : List (StreamLine F)) :
    toldAs jsonFloat (lines.map StreamLine.informed) =
      (toldAs jsonFloat lines).map StreamLine.informed := by
  simp [toldAs, List.filter_map, Function.comp_def, StreamLine.informed]

theorem call_tells {c : SinkCall F} {sink : JsonFileSink F} {told : List (StreamLine F)}
    (h : Tells floatOf sink.file told) (hfits : c.Fits)
    (hfloats : ∀ x ∈ c.floats, WritesFloat jsonFloat floatOf x) :
    Tells floatOf (call jsonFloat format now c sink).1.file
      (told ++ toldAs jsonFloat
        ((JsonStreamSink.lineOf sink.errorThresholdMs c).map StreamLine.informed)) := by
  cases c with
  | emitSessionStart record =>
      rw [call, startMembers, setDefaults_eq]
      exact write_tells now h hfloats
  | emit record =>
      cases record with
      | blockingEvent base eventNumber timestampS durationMs pid tid pythonStacks =>
          rw [call, eventMembers, Record.leveled]
          simp only [Record.durationMs]
          rw [Dict.set_eq_append _ (not_mem_members _ (by simp [addedKeys])),
            setDefault_members _ (by simp [addedKeys]) (by simp)]
          exact write_tells now h hfloats
      | sessionStart => exact hfits.elim
      | sessionSummary => exact hfits.elim
  | emitSummary summary =>
      cases summary with
      | sessionSummary =>
          simp only [call, summaryMembers, setDefaults_eq]
          exact write_tells now h hfloats
      | sessionStart => exact hfits.elim
      | blockingEvent => exact hfits.elim
  | close => simpa [JsonStreamSink.lineOf, toldAs, call] using h

theorem errorThresholdMs_call (c : SinkCall F) (sink : JsonFileSink F) :
    (call jsonFloat format now c sink).1.errorThresholdMs = sink.errorThresholdMs := by
  cases c with
  | emitSummary summary => cases summary <;> rfl
  | _ => rfl

theorem receiveAll_tells {calls : List (SinkCall F)} (sink : JsonFileSink F)
    {told : List (StreamLine F)} (h : Tells floatOf sink.file told)
    (hfits : ∀ c ∈ calls, c.Fits)
    (hfloats : ∀ c ∈ calls, ∀ x ∈ c.floats, WritesFloat jsonFloat floatOf x) :
    Tells floatOf (receiveAll (call jsonFloat format now) calls sink).file
      (told ++ (toldAs jsonFloat
        (calls.flatMap (JsonStreamSink.lineOf sink.errorThresholdMs))).map
          StreamLine.informed) := by
  induction calls generalizing sink told with
  | nil => simpa [receiveAll, toldAs] using h
  | cons c calls ih =>
      have hstep : receiveAll (call jsonFloat format now) (c :: calls) sink =
          receiveAll (call jsonFloat format now) calls (call jsonFloat format now c sink).1 := rfl
      have hrest := ih _
        (call_tells format now h (hfits c List.mem_cons_self) (hfloats c List.mem_cons_self))
        (fun d hd => hfits d (List.mem_cons_of_mem _ hd))
        fun d hd => hfloats d (List.mem_cons_of_mem _ hd)
      rw [errorThresholdMs_call, toldAs_informed] at hrest
      rw [hstep, List.flatMap_cons, toldAs_append, List.map_append, ← List.append_assoc]
      exact hrest

end JsonFileSink

/-- Whatever the reader of a session takes for the end of a line, the stream and the log file
are both read back as those lines of the session that have no integer too long to be written:
the same records in the same order, an event with the same level. -/
theorem jsonSinks_readBack (jsonFloat format : F → String) (floatOf : String → F)
    (now service env : String) (errorThresholdMs : F) {isBreak : Char → Bool}
    {calls : List (SinkCall F)} (hbreak : isBreak '\n' = true)
    (hprint : ∀ c, Json.IsPrintable c → isBreak c = false) (hfits : ∀ c ∈ calls, c.Fits)
    (hfloats : ∀ c ∈ calls, ∀ x ∈ c.floats, WritesFloat jsonFloat floatOf x) :
    let session := receiveAll JsonStreamSink.call calls { errorThresholdMs := errorThresholdMs }
    let stream := receiveAll (JsonStreamText.call jsonFloat) calls
      { errorThresholdMs := errorThresholdMs }
    let log := receiveAll (JsonFileSink.call jsonFloat format now) calls
      { service := service, env := env, errorThresholdMs := errorThresholdMs }
    readLines floatOf isBreak stream.stream = some (toldAs jsonFloat session.written) ∧
      readLines floatOf isBreak log.file =
        some ((toldAs jsonFloat session.written).map StreamLine.informed) := by
  have hstream := JsonStreamText.receiveAll_tells
    { errorThresholdMs := errorThresholdMs } tells_empty hfloats
  have hlog := JsonFileSink.receiveAll_tells format now
    { service := service, env := env, errorThresholdMs := errorThresholdMs } tells_empty
    hfits hfloats
  simp only [JsonStreamSink.written_receiveAll, List.nil_append] at hstream hlog ⊢
  exact ⟨hstream.readLines hbreak hprint, hlog.readLines hbreak hprint⟩

end

/-! ## A sample session -/

/-- The floats of the sample session, which `json` writes with one digit after the point. -/
def sampleJsonFloat (x : ℚ) : String :=
  if x = 2 then "2.0" else if x = 100 then "100.0" else if x = 150 then "150.0" else "0.0"

def sampleFloatOf (literal : String) : ℚ :=
  if literal = "2.0" then 2 else if literal = "100.0" then 100
  else if literal = "150.0" then 150 else 0

def sampleBase : BaseRecord where
  schema := eventSchema
  schemaVersion := eventSchemaVersion
  sessionId := "5e8c"
  observedAt := "2025-01-01T00:00:00.000Z"

/-- A frame whose file has a line break, a quote and letters outside ASCII in its name. -/
def sampleFrame : FrameRecord where
  function := "handle"
  file := "/srv/a\"b\n\u2028é😀.py"
  line := 7
  source := some "time.sleep(\"\\\t\")"

def sampleCalls : List (SinkCall ℚ) :=
  [.emitSessionStart (.sessionStart sampleBase (some "core") (some 100) (some 7) none),
    .emit (.blockingEvent sampleBase 1 2 150 7 7 (some [[sampleFrame]])),
    .emitSummary (.sessionSummary sampleBase "clean" "completed" 2 1 0 150 150 3
      [("output", 1), ("core", 2)]
      [{ fingerprint := "f00d", location := "app.py:7 in handle", count := 1
         totalBlockedMs := 150, maxBlockedMs := 150 }]),
    .close]

theorem writesFloat_sample {x : ℚ} (hx : x ∈ [2, 100, 150]) :
    WritesFloat sampleJsonFloat sampleFloatOf x := by
  have htext (n : ℕ) : Json.FloatText (Nat.toDigits 10 n ++ ['.', '0']) := by
    simpa using Json.FloatText.finite false n
      (.some (show Json.IsDigits ['0'] from ⟨by decide, List.all_iff_forall_prop.mp rfl⟩)) .none
      (by simp)
  simp only [List.mem_cons, List.not_mem_nil, or_false] at hx
  rcases hx with rfl | rfl | rfl
  · exact ⟨htext 2, by decide⟩
  · exact ⟨htext 100, by decide⟩
  · exact ⟨htext 150, by decide⟩

theorem jsonSinks_readBack_sample :
    let session := receiveAll JsonStreamSink.call sampleCalls { errorThresholdMs := 100 }
    let stream := receiveAll (JsonStreamText.call sampleJsonFloat) sampleCalls
      { errorThresholdMs := 100 }
    let log := receiveAll (JsonFileSink.call sampleJsonFloat sampleJsonFloat "") sampleCalls
      { service := "shop", env := "prod", errorThresholdMs := 100 }
    readLines sampleFloatOf (· == '\n') stream.stream =
        some (toldAs sampleJsonFloat session.written) ∧
      readLines sampleFloatOf (· == '\n') log.file =
        some ((toldAs sampleJsonFloat session.written).map StreamLine.informed) := by
  refine jsonSinks_readBack sampleJsonFloat sampleJsonFloat sampleFloatOf "" "shop" "prod" 100
    (by decide) ?_ ?_ ?_
  · intro c hc
    simp only [beq_eq_false_iff_ne]
    rintro rfl
    exact absurd hc (by decide)
  · simp [sampleCalls, SinkCall.Fits]
  · intro c hc x hx
    refine writesFloat_sample ?_
    simp only [sampleCalls, List.mem_cons, List.not_mem_nil, or_false] at hc
    rcases hc with rfl | rfl | rfl | rfl
    · simp only [SinkCall.floats, Record.floats, Option.toList_some, List.mem_singleton] at hx
      simp [hx]
    · simp only [SinkCall.floats, Record.floats, List.mem_cons, List.not_mem_nil, or_false] at hx
      rcases hx with rfl | rfl <;> simp
    · simp only [SinkCall.floats, Record.floats, List.flatMap_cons, List.flatMap_nil,
        List.cons_append, List.nil_append, List.append_nil, List.mem_cons, List.not_mem_nil,
        or_false] at hx
      rcases hx with rfl | rfl | rfl | rfl | rfl <;> simp
    · simp [SinkCall.floats] at hx

end Blocksnoop
