import Blocksnoop.CoreBackend.RoundTrip

/-!
# What the reader makes of its lines

The well-formed event and lost lines, read off a line alone, and the reader that
goes through the lines of a sidecar while its callbacks return or raise.  An
exception that leaves `_handle_line` ends the reader.
-/

namespace Blocksnoop.CoreBackend

open Blocksnoop.Support

variable {F : Type} [PyRuntime F]

/-! ## Well-formed lines -/

def strField (message : List (String × Json)) (field : String) : Option String :=
  match Json.get message field with
  | some (.str s) => some s
  | _ => none

/-- The message of a line, if it is one of the type under version 2. -/
def messageOf (F : Type) [PyRuntime F] (line type : String) :
    Option (List (String × Json)) :=
  match Json.loads line with
  | .ok (.obj message) =>
      if equalsInt F (Json.get message "version") protocolVersion ∧
          strField message "type" = some type then some message
      else none
  | _ => none

def intField (message : List (String × Json)) (field : String) : Option ℤ :=
  match Json.get message field with
  | some (.int i) => some i
  | _ => none

/-- The event of a well-formed message for the expected thread. -/
def eventFrom (d : CoreDetector F) (message : List (String × Json)) :
    Option BlockingEvent := do
  let startNs ← intField message "start_ns"
  let endNs ← intField message "end_ns"
  let pid ← intField message "pid"
  let tid ← intField message "tid"
  let dev ← intField message "pidns_dev"
  let ino ← intField message "pidns_ino"
  if 0 ≤ startNs ∧ startNs ≤ endNs ∧ pid = d.expectedPid ∧ some tid = d.expectedTid ∧
      some dev = d.pidnsDev ∧ some ino = d.pidnsIno then
    some { startNs, endNs, pid, tid }
  else none

/-- The losses of a well-formed message for the expected namespace. -/
def lostFrom (d : CoreDetector F) (message : List (String × Json)) : Option LostEvent := do
  let count ← intField message "count"
  let dev ← intField message "pidns_dev"
  let ino ← intField message "pidns_ino"
  let source ← strField message "source"
  if 0 ≤ count ∧ count ≤ uint64Max ∧ source ∈ lossSources ∧
      some dev = d.pidnsDev ∧ some ino = d.pidnsIno then
    some { count, source }
  else none

def eventOf (d : CoreDetector F) (line : String) : Option BlockingEvent :=
  (messageOf F line "event").bind (eventFrom d)

def lostOf (d : CoreDetector F) (line : String) : Option LostEvent :=
  (messageOf F line "lost").bind (lostFrom d)

/-- A lost line that is well-formed but for its source, which is a list or an
object. -/
def UnhashableSource (F : Type) [PyRuntime F] (line : String) : Prop :=
  ∃ message count dev ino, messageOf F line "lost" = some message ∧
    intField message "count" = some count ∧ intField message "pidns_dev" = some dev ∧
    intField message "pidns_ino" = some ino ∧ 0 ≤ count ∧ count ≤ uint64Max ∧
    ((∃ items, Json.get message "source" = some (.arr items)) ∨
      ∃ members, Json.get message "source" = some (.obj members))

/-- The record of losses an action makes. -/
def Action.losses : Action → List LostEvent
  | .lost e => [e]
  | _ => []

/-! ## The handlers and the well-formed lines -/

theorem toOption_requireEventInt (message : List (String × Json)) (field : String) :
    (requireEventInt message field).toOption = intField message field := by
  unfold requireEventInt intField
  rcases Json.get message field with _ | value
  · rfl
  · cases value <;> rfl

theorem toOption_bind {ε α β : Type} (x : Except ε α) (f : α → Except ε β) :
    (x >>= f).toOption = x.toOption.bind fun a => (f a).toOption := by
  cases x <;> rfl

theorem toOption_eventFields (message : List (String × Json)) :
    (eventFields message).toOption =
      (do
        let startNs ← intField message "start_ns"
        let endNs ← intField message "end_ns"
        let pid ← intField message "pid"
        let tid ← intField message "tid"
        let dev ← intField message "pidns_dev"
        let ino ← intField message "pidns_ino"
        return (startNs, endNs, pid, tid, dev, ino)) := by
  simp only [eventFields, requirePidns, toOption_bind, toOption_requireEventInt, bind_assoc,
    pure_bind]
  rfl

theorem toOption_lostFields (message : List (String × Json)) :
    (lostFields message).toOption =
      (do
        let count ← intField message "count"
        let dev ← intField message "pidns_dev"
        let ino ← intField message "pidns_ino"
        return (count, dev, ino)) := by
  simp only [lostFields, requirePidns, toOption_bind, toOption_requireEventInt, bind_assoc,
    pure_bind]
  rfl


omit [PyRuntime F] in
theorem delivered_handleEvent (d : CoreDetector F) (message : List (String × Json)) :
    (handleEvent d message).delivered = (eventFrom d message).toList := by
  have hfields := toOption_eventFields message
  have hfrom : eventFrom d message =
      (eventFields message).toOption.bind fun (startNs, endNs, pid, tid, dev, ino) =>
        if 0 ≤ startNs ∧ startNs ≤ endNs ∧ pid = d.expectedPid ∧ some tid = d.expectedTid ∧
            some dev = d.pidnsDev ∧ some ino = d.pidnsIno then
          some { startNs, endNs, pid, tid }
        else none := by
    rw [hfields]
    simp only [Option.bind_eq_bind, Option.bind_assoc, Option.pure_def, Option.bind_some]
    rfl
  rw [hfrom]
  unfold handleEvent
  cases eventFields message with
  | error e => rfl
  | ok fields =>
      obtain ⟨startNs, endNs, pid, tid, dev, ino⟩ := fields
      simp only [Except.toOption, Option.bind_some]
      have hinvalid : (startNs < 0 ∨ endNs < startNs ∨ pid ≠ d.expectedPid ∨
          some tid ≠ d.expectedTid ∨ (some dev, some ino) ≠ (d.pidnsDev, d.pidnsIno)) ↔
          ¬ (0 ≤ startNs ∧ startNs ≤ endNs ∧ pid = d.expectedPid ∧ some tid = d.expectedTid ∧
            some dev = d.pidnsDev ∧ some ino = d.pidnsIno) := by
        grind
      by_cases h : 0 ≤ startNs ∧ startNs ≤ endNs ∧ pid = d.expectedPid ∧
          some tid = d.expectedTid ∧ some dev = d.pidnsDev ∧ some ino = d.pidnsIno
      · rw [if_pos h, if_neg (fun hbad => hinvalid.mp hbad h)]
        rfl
      · rw [if_neg h, if_pos (hinvalid.mpr h)]
        rfl

omit [PyRuntime F] in
/-- What a lost message does, by its fields and its source. -/
theorem handleLost_eq (d : CoreDetector F) {message : List (String × Json)}
    {count dev ino : ℤ} (hfields : lostFields message = .ok (count, dev, ino))
    (hcount : 0 ≤ count ∧ count ≤ uint64Max) :
    handleLost d message =
      match inLossSources (Json.get message "source") with
      | .error e => .raised e
      | .ok none => .setError "received invalid lost record"
      | .ok (some source) =>
          if (some dev, some ino) ≠ (d.pidnsDev, d.pidnsIno) then
            .setError "received invalid lost record"
          else .lost { count, source } := by
  have hrange : ¬ (count < 0 ∨ uint64Max < count) := by omega
  unfold handleLost
  rw [hfields]
  refine (if_neg hrange).trans ?_
  cases inLossSources (Json.get message "source") with
  | error e => rfl
  | ok source =>
      cases source with
      | none => rfl
      | some source => rfl

omit [PyRuntime F] in
theorem lostFrom_eq (d : CoreDetector F) (message : List (String × Json)) :
    lostFrom d message =
      (lostFields message).toOption.bind fun (count, dev, ino) =>
        (strField message "source").bind fun source =>
          if 0 ≤ count ∧ count ≤ uint64Max ∧ source ∈ lossSources ∧
              some dev = d.pidnsDev ∧ some ino = d.pidnsIno then
            some { count, source }
          else none := by
  rw [toOption_lostFields]
  simp only [Option.bind_eq_bind, Option.bind_assoc, Option.pure_def, Option.bind_some]
  rfl

omit [PyRuntime F] in
theorem losses_handleLost (d : CoreDetector F) (message : List (String × Json)) :
    (handleLost d message).losses = (lostFrom d message).toList := by
  rw [lostFrom_eq]
  cases hfields : lostFields message with
  | error e =>
      unfold handleLost
      rw [hfields]
      rfl
  | ok fields =>
      obtain ⟨count, dev, ino⟩ := fields
      simp only [Except.toOption, Option.bind_some]
      by_cases hcount : 0 ≤ count ∧ count ≤ uint64Max
      · rw [handleLost_eq d hfields hcount]
        unfold inLossSources strField
        rcases Json.get message "source" with _ | source
        · rfl
        · cases source with
          | str s =>
              by_cases hs : s ∈ lossSources
              · by_cases hns : (some dev, some ino) = (d.pidnsDev, d.pidnsIno)
                · have hids := Prod.mk.inj hns
                  simp [hs, hcount, hids, Action.losses]
                · have hids : ¬ (some dev = d.pidnsDev ∧ some ino = d.pidnsIno) :=
                    fun hids => hns (Prod.ext hids.1 hids.2)
                  simp only [hs, if_true, ne_eq, hns, not_false_eq_true, Option.bind_some]
                  rw [if_neg (fun h => hids h.2.2.2)]
                  rfl
              · simp [hs, Action.losses]
          | _ => rfl
      · have hrange : count < 0 ∨ uint64Max < count := by omega
        unfold handleLost
        rw [hfields]
        dsimp only
        rw [if_pos hrange]
        cases strField message "source" with
        | none => rfl
        | some source =>
            rw [Option.bind_some, if_neg (fun h => hcount ⟨h.1, h.2.1⟩)]
            rfl

omit [PyRuntime F] in
/-- A lost message raises only for a source that has no hash. -/
theorem crashes_handleLost_iff (d : CoreDetector F) (message : List (String × Json)) :
    (handleLost d message).crashes = true ↔
      ∃ count dev ino, intField message "count" = some count ∧
        intField message "pidns_dev" = some dev ∧ intField message "pidns_ino" = some ino ∧
        0 ≤ count ∧ count ≤ uint64Max ∧
        ((∃ items, Json.get message "source" = some (.arr items)) ∨
          ∃ members, Json.get message "source" = some (.obj members)) := by
  have hfields := toOption_lostFields message
  constructor
  · intro hcrash
    cases hlost : lostFields message with
    | error e =>
        unfold handleLost at hcrash
        rw [hlost] at hcrash
        cases hcrash
    | ok fields =>
        obtain ⟨count, dev, ino⟩ := fields
        rw [hlost] at hfields
        simp only [Except.toOption, Option.bind_eq_bind, Option.pure_def] at hfields
        obtain ⟨c, hc, hfields⟩ := Option.bind_eq_some_iff.mp hfields.symm
        obtain ⟨v, hv, hfields⟩ := Option.bind_eq_some_iff.mp hfields
        obtain ⟨n, hn, hfields⟩ := Option.bind_eq_some_iff.mp hfields
        simp only [Option.some.injEq, Prod.mk.injEq] at hfields
        obtain ⟨rfl, rfl, rfl⟩ := hfields
        by_cases hcount : 0 ≤ c ∧ c ≤ uint64Max
        · refine ⟨c, v, n, hc, hv, hn, hcount.1, hcount.2, ?_⟩
          rw [handleLost_eq d hlost hcount] at hcrash
          cases hsource : Json.get message "source" with
          | none =>
              rw [hsource] at hcrash
              cases hcrash
          | some source =>
              rw [hsource] at hcrash
              cases source with
              | arr items => exact Or.inl ⟨items, rfl⟩
              | obj members => exact Or.inr ⟨members, rfl⟩
              | str s =>
                  unfold inLossSources at hcrash
                  dsimp only at hcrash
                  split at hcrash
                  next h => cases h
                  · cases hcrash
                  · split at hcrash <;> cases hcrash
              | _ => cases hcrash
        · have hrange : c < 0 ∨ uint64Max < c := by omega
          unfold handleLost at hcrash
          rw [hlost] at hcrash
          dsimp only at hcrash
          rw [if_pos hrange] at hcrash
          cases hcrash
  · rintro ⟨count, dev, ino, hc, hv, hn, hmin, hmax, hsource⟩
    rw [hc, hv, hn] at hfields
    have hlost : lostFields message = .ok (count, dev, ino) := by
      cases hl : lostFields message with
      | error e =>
          rw [hl] at hfields
          cases hfields
      | ok fields =>
          rw [hl] at hfields
          exact congrArg Except.ok (Option.some.inj hfields)
    rw [handleLost_eq d hlost ⟨hmin, hmax⟩]
    rcases hsource with ⟨items, hsource⟩ | ⟨members, hsource⟩
    · rw [hsource]
      rfl
    · rw [hsource]
      rfl

theorem delivered_handleReady (d : CoreDetector F) (message : List (String × Json)) :
    (handleReady d message).delivered = [] ∧ (handleReady d message).losses = [] := by
  unfold handleReady
  split
  · exact ⟨rfl, rfl⟩
  · split
    · exact ⟨rfl, rfl⟩
    · split
      · exact ⟨rfl, rfl⟩
      · exact ⟨rfl, rfl⟩

omit [PyRuntime F] in
theorem losses_handleEvent (d : CoreDetector F) (message : List (String × Json)) :
    (handleEvent d message).losses = [] ∧ (handleEvent d message).crashes = false := by
  unfold handleEvent
  split
  · exact ⟨rfl, rfl⟩
  · split
    · exact ⟨rfl, rfl⟩
    · exact ⟨rfl, rfl⟩

omit [PyRuntime F] in
theorem delivered_handleLost (d : CoreDetector F) (message : List (String × Json)) :
    (handleLost d message).delivered = [] := by
  unfold handleLost
  split
  · rfl
  · split
    · rfl
    · split
      · rfl
      · rfl
      · split
        · rfl
        · rfl

/-! ## Lines -/

theorem messageOf_eq_some_iff {line type : String} {message : List (String × Json)} :
    messageOf F line type = some message ↔
      Json.loads line = .ok (.obj message) ∧
      equalsInt F (Json.get message "version") protocolVersion = true ∧
      Json.get message "type" = some (.str type) := by
  have hstr : strField message "type" = some type ↔
      Json.get message "type" = some (.str type) := by
    unfold strField
    rcases Json.get message "type" with _ | value
    · simp
    · cases value <;> simp
  unfold messageOf
  split
  next message' hloads =>
    rw [hloads]
    constructor
    · intro h
      split at h
      next hfields =>
        obtain rfl := Option.some.inj h
        exact ⟨rfl, hfields.1, hstr.mp hfields.2⟩
      · cases h
    · rintro ⟨hmessage, hversion, htype⟩
      obtain rfl := Json.obj.inj (Except.ok.inj hmessage)
      rw [if_pos ⟨hversion, hstr.mpr htype⟩]
  next hother =>
    constructor
    · intro h
      cases h
    · rintro ⟨hmessage, -⟩
      exact absurd hmessage (hother message)

theorem messageOf_eq_none_of_ne {line type other : String} {message : List (String × Json)}
    (h : messageOf F line type = some message) (hne : other ≠ type) :
    messageOf F line other = none := by
  cases hother : messageOf F line other with
  | none => rfl
  | some message' =>
      obtain ⟨hloads, -, htype⟩ := messageOf_eq_some_iff.mp h
      obtain ⟨hloads', -, htype'⟩ := messageOf_eq_some_iff.mp hother
      rw [hloads] at hloads'
      obtain rfl := Json.obj.inj (Except.ok.inj hloads')
      rw [htype] at htype'
      exact absurd (Json.str.inj (Option.some.inj htype')).symm hne

/-- A line that is no message under version 2 is no message of any type. -/
theorem messageOf_eq_none {line : String} (type : String)
    (h : ∀ message, Json.loads line = .ok (.obj message) →
      equalsInt F (Json.get message "version") protocolVersion = true →
      Json.get message "type" ≠ some (.str type)) :
    messageOf F line type = none := by
  cases hmessage : messageOf F line type with
  | none => rfl
  | some message =>
      obtain ⟨hloads, hversion, htype⟩ := messageOf_eq_some_iff.mp hmessage
      exact absurd htype (h message hloads hversion)

theorem handleMessage_of_version (d : CoreDetector F) {message : List (String × Json)}
    (hversion : equalsInt F (Json.get message "version") protocolVersion = true) :
    (Json.get message "type" = some (.str "ready") ∧
      handleMessage d message = handleReady d message) ∨
    (Json.get message "type" = some (.str "event") ∧
      handleMessage d message = handleEvent d message) ∨
    (Json.get message "type" = some (.str "lost") ∧
      handleMessage d message = handleLost d message) ∨
    (Json.get message "type" ≠ some (.str "event") ∧
      Json.get message "type" ≠ some (.str "lost") ∧
      ∃ error, handleMessage d message = .setError error) := by
  unfold handleMessage
  rw [hversion]
  simp only [Bool.not_true, Bool.false_eq_true, if_false]
  split
  next htype => exact Or.inl ⟨htype, rfl⟩
  next htype => exact Or.inr (Or.inl ⟨htype, rfl⟩)
  next htype => exact Or.inr (Or.inr (Or.inl ⟨htype, rfl⟩))
  next htype =>
    refine Or.inr (Or.inr (Or.inr ⟨?_, ?_, _, rfl⟩))
    · rw [htype]
      simp
    · rw [htype]
      simp
  next _ hevent hlost _ => exact Or.inr (Or.inr (Or.inr ⟨hevent, hlost, _, rfl⟩))

/-- What a line asks for, by the type of its message. -/
theorem handleLine_cases (d : CoreDetector F) (line : String) :
    (∃ message, messageOf F line "ready" = some message ∧
      handleLine d line = handleReady d message) ∨
    (∃ message, messageOf F line "event" = some message ∧
      handleLine d line = handleEvent d message) ∨
    (∃ message, messageOf F line "lost" = some message ∧
      handleLine d line = handleLost d message) ∨
    (messageOf F line "event" = none ∧ messageOf F line "lost" = none ∧
      ((∃ error, handleLine d line = .setError error) ∨
        Json.loads line = .error .valueError)) := by
  unfold handleLine
  cases hloads : Json.loads line with
  | error e =>
      have hnone (type : String) : messageOf F line type = none := by
        refine messageOf_eq_none type ?_
        intro message hmessage
        rw [hloads] at hmessage
        cases hmessage
      refine Or.inr (Or.inr (Or.inr ⟨hnone _, hnone _, ?_⟩))
      cases e with
      | jsonDecodeError => exact Or.inl ⟨_, rfl⟩
      | valueError => exact Or.inr rfl
  | ok value =>
      cases value with
      | obj message =>
          by_cases hversion :
              equalsInt F (Json.get message "version") protocolVersion = true
          · rcases handleMessage_of_version d hversion with
              ⟨htype, haction⟩ | ⟨htype, haction⟩ | ⟨htype, haction⟩ | ⟨hevent, hlost, haction⟩
            · exact Or.inl ⟨message, messageOf_eq_some_iff.mpr ⟨hloads, hversion, htype⟩, haction⟩
            · exact Or.inr (Or.inl
                ⟨message, messageOf_eq_some_iff.mpr ⟨hloads, hversion, htype⟩, haction⟩)
            · exact Or.inr (Or.inr (Or.inl
                ⟨message, messageOf_eq_some_iff.mpr ⟨hloads, hversion, htype⟩, haction⟩))
            · refine Or.inr (Or.inr (Or.inr ⟨?_, ?_, Or.inl haction⟩))
              · refine messageOf_eq_none _ ?_
                intro message' hmessage _
                obtain rfl := Json.obj.inj (Except.ok.inj (hloads.symm.trans hmessage))
                exact hevent
              · refine messageOf_eq_none _ ?_
                intro message' hmessage _
                obtain rfl := Json.obj.inj (Except.ok.inj (hloads.symm.trans hmessage))
                exact hlost
          · have hnone (type : String) : messageOf F line type = none := by
              refine messageOf_eq_none type ?_
              intro message' hmessage hother
              obtain rfl := Json.obj.inj (Except.ok.inj (hloads.symm.trans hmessage))
              exact absurd hother hversion
            have haction : handleMessage d message =
                .setError ("unsupported protocol version " ++
                  reprGet F (Json.get message "version")) := by
              rw [Bool.not_eq_true] at hversion
              unfold handleMessage
              rw [hversion]
              rfl
            exact Or.inr (Or.inr (Or.inr ⟨hnone _, hnone _, Or.inl ⟨_, haction⟩⟩))
      | _ =>
          have hnone (type : String) : messageOf F line type = none := by
            refine messageOf_eq_none type ?_
            intro message hmessage
            rw [hloads] at hmessage
            cases hmessage
          exact Or.inr (Or.inr (Or.inr ⟨hnone _, hnone _, Or.inl ⟨_, rfl⟩⟩))

theorem delivered_handleLine (d : CoreDetector F) (line : String) :
    (handleLine d line).delivered = (eventOf d line).toList := by
  unfold eventOf
  rcases handleLine_cases d line with
    ⟨message, htype, haction⟩ | ⟨message, htype, haction⟩ | ⟨message, htype, haction⟩ |
    ⟨hevent, -, haction⟩
  · rw [haction, messageOf_eq_none_of_ne htype (by decide), (delivered_handleReady d message).1]
    rfl
  · rw [haction, htype]
    exact delivered_handleEvent d message
  · rw [haction, messageOf_eq_none_of_ne htype (by decide), delivered_handleLost]
    rfl
  · rw [hevent]
    rcases haction with ⟨error, haction⟩ | hvalue
    · rw [haction]
      rfl
    · unfold handleLine
      rw [hvalue]
      rfl

theorem losses_handleLine (d : CoreDetector F) (line : String) :
    (handleLine d line).losses = (lostOf d line).toList := by
  unfold lostOf
  rcases handleLine_cases d line with
    ⟨message, htype, haction⟩ | ⟨message, htype, haction⟩ | ⟨message, htype, haction⟩ |
    ⟨-, hlost, haction⟩
  · rw [haction, messageOf_eq_none_of_ne htype (by decide), (delivered_handleReady d message).2]
    rfl
  · rw [haction, messageOf_eq_none_of_ne htype (by decide), (losses_handleEvent d message).1]
    rfl
  · rw [haction, htype]
    exact losses_handleLost d message
  · rw [hlost]
    rcases haction with ⟨error, haction⟩ | hvalue
    · rw [haction]
      rfl
    · unfold handleLine
      rw [hvalue]
      rfl

/-! ## The reader and its callbacks -/

/-- The reader after some lines: the calls of its callbacks so far, and the
exception that has ended it. -/
structure Reading (F : Type) where
  detector : CoreDetector F
  events : List BlockingEvent := []
  losses : List LostEvent := []
  raised : Option PyException := none

/-- An exception that `except Exception` does not catch. -/
def escaping (raised : Option PyException) : Option PyException :=
  raised.filter fun e => !e.isException

namespace Reading

/-- One line.  `callbacks` says what each call of a callback raises, by the number
of calls before it. -/
def handle (callbacks : ℕ → Option PyException) (s : Reading F) (line : String) : Reading F :=
  match s.raised with
  | some _ => s
  | none =>
      let action := handleLine s.detector line
      { detector := s.detector.perform action
        events := s.events ++ action.delivered
        losses := s.losses ++ action.losses
        raised :=
          match action with
          | .raised e => some e
          | .event _ => escaping (callbacks (s.events.length + s.losses.length))
          | .lost _ => escaping (callbacks (s.events.length + s.losses.length))
          | _ => none }

def handleAll (callbacks : ℕ → Option PyException) (s : Reading F) (lines : List String) :
    Reading F :=
  lines.foldl (handle callbacks) s

end Reading

/-- The reader has survived the lines: no line has raised, and the callbacks and
the counts have what the well-formed lines say. -/
structure Survived (s s' : Reading F) (lines : List String) : Prop where
  raised : s'.raised = none
  events : s'.events = s.events ++ lines.filterMap (eventOf s.detector)
  losses : s'.losses = s.losses ++ lines.filterMap (lostOf s.detector)
  lossCounts : ∀ source, (s'.detector.lossCounts.get source).getD 0 =
    (s.detector.lossCounts.get source).getD 0 +
      (((lines.filterMap (lostOf s.detector)).filter fun e => e.source = source).map
        LostEvent.count).sum

/-! ### The expectations stay -/

/-- The fields that the handlers compare the lines with. -/
structure SameExpectations (d d' : CoreDetector F) : Prop where
  config : d'.config = d.config
  pid : d'.expectedPid = d.expectedPid
  tid : d'.expectedTid = d.expectedTid
  dev : d'.pidnsDev = d.pidnsDev
  ino : d'.pidnsIno = d.pidnsIno

omit [PyRuntime F] in
theorem sameExpectations_perform (d : CoreDetector F) (action : Action) :
    SameExpectations d (d.perform action) := by
  cases action with
  | setError error =>
      unfold CoreDetector.perform CoreDetector.setError
      dsimp only
      split
      · exact ⟨rfl, rfl, rfl, rfl, rfl⟩
      · exact ⟨rfl, rfl, rfl, rfl, rfl⟩
  | _ => exact ⟨rfl, rfl, rfl, rfl, rfl⟩

theorem SameExpectations.handleLine {d d' : CoreDetector F} (h : SameExpectations d d')
    (line : String) : handleLine d' line = handleLine d line := by
  unfold CoreBackend.handleLine handleMessage handleReady handleEvent handleLost
  rw [h.config, h.pid, h.tid, h.dev, h.ino]

theorem SameExpectations.eventOf {d d' : CoreDetector F} (h : SameExpectations d d') :
    eventOf d' = eventOf d := by
  unfold CoreBackend.eventOf eventFrom
  rw [h.pid, h.tid, h.dev, h.ino]

theorem SameExpectations.lostOf {d d' : CoreDetector F} (h : SameExpectations d d') :
    lostOf d' = lostOf d := by
  unfold CoreBackend.lostOf lostFrom
  rw [h.dev, h.ino]

/-! ### One line -/

namespace Reading

variable {callbacks : ℕ → Option PyException} {s : Reading F}

/-- The number of callbacks that the reader has called. -/
def calls (s : Reading F) : ℕ :=
  s.events.length + s.losses.length

theorem sameExpectations_handle (line : String) :
    SameExpectations s.detector (s.handle callbacks line).detector := by
  unfold handle
  split
  · exact ⟨rfl, rfl, rfl, rfl, rfl⟩
  · exact sameExpectations_perform _ _

theorem handle_of_raised {e : PyException} (h : s.raised = some e) (line : String) :
    s.handle callbacks line = s := by
  unfold handle
  rw [h]

theorem handleAll_of_raised {e : PyException} (h : s.raised = some e) (lines : List String) :
    s.handleAll callbacks lines = s := by
  induction lines with
  | nil => rfl
  | cons line lines ih =>
      have hstep : s.handleAll callbacks (line :: lines) =
          (s.handle callbacks line).handleAll callbacks lines := rfl
      rw [hstep, handle_of_raised h, ih]

/-- A line returns when its action does and its callback raises nothing that
escapes. -/
theorem handle_raised_iff (callbacks : ℕ → Option PyException) (h : s.raised = none) (line : String) :
    (s.handle callbacks line).raised = none ↔
      (handleLine s.detector line).crashes = false ∧
      ∀ k < (eventOf s.detector line).toList.length + (lostOf s.detector line).toList.length,
        escaping (callbacks (s.calls + k)) = none := by
  rw [← delivered_handleLine, ← losses_handleLine]
  unfold handle
  rw [h]
  cases handleLine s.detector line with
  | event e => simp [Action.crashes, Action.delivered, Action.losses, calls]
  | lost e => simp [Action.crashes, Action.delivered, Action.losses, calls]
  | raised e => simp [Action.crashes]
  | _ => simp [Action.crashes, Action.delivered, Action.losses]

theorem calls_handle (h : s.raised = none) (line : String) :
    (s.handle callbacks line).calls = s.calls +
      ((eventOf s.detector line).toList.length + (lostOf s.detector line).toList.length) := by
  rw [← delivered_handleLine, ← losses_handleLine]
  unfold handle calls
  rw [h]
  simp only [List.length_append]
  omega

theorem events_handle (h : s.raised = none) (line : String) :
    (s.handle callbacks line).events =
      s.events ++ [line].filterMap (eventOf s.detector) := by
  have hevent : [line].filterMap (eventOf s.detector) =
      (handleLine s.detector line).delivered := by
    rw [delivered_handleLine]
    cases hline : eventOf s.detector line <;> simp [hline]
  rw [hevent]
  unfold handle
  rw [h]

theorem losses_handle (h : s.raised = none) (line : String) :
    (s.handle callbacks line).losses =
      s.losses ++ [line].filterMap (lostOf s.detector) := by
  have hlost : [line].filterMap (lostOf s.detector) = (handleLine s.detector line).losses := by
    rw [losses_handleLine]
    cases hline : lostOf s.detector line <;> simp [hline]
  rw [hlost]
  unfold handle
  rw [h]

/-- A line counts its losses, also when its callback raises. -/
theorem lossCounts_handle (h : s.raised = none) (line source : String) :
    ((s.handle callbacks line).detector.lossCounts.get source).getD 0 =
      (s.detector.lossCounts.get source).getD 0 +
        ((([line].filterMap (lostOf s.detector)).filter fun e => e.source = source).map
          LostEvent.count).sum := by
  have hlost : [line].filterMap (lostOf s.detector) = (handleLine s.detector line).losses := by
    rw [losses_handleLine]
    cases hline : lostOf s.detector line <;> simp [hline]
  have hdetector : (s.handle callbacks line).detector =
      s.detector.perform (handleLine s.detector line) := by
    unfold handle
    rw [h]
  rw [hlost, hdetector]
  cases handleLine s.detector line with
  | lost e =>
      by_cases hsource : e.source = source
      · subst hsource
        simp [CoreDetector.perform, CoreDetector.addLoss, Action.losses, Dict.get_set_self]
      · simp [CoreDetector.perform, CoreDetector.addLoss, Action.losses, hsource,
          Dict.get_set_of_ne _ _ (Ne.symm hsource)]
  | setError error =>
      have hcounts : (s.detector.perform (.setError error)).lossCounts =
          s.detector.lossCounts := by
        unfold CoreDetector.perform CoreDetector.setError
        dsimp only
        split <;> rfl
      simp [hcounts, Action.losses]
  | _ => simp [CoreDetector.perform, Action.losses]

theorem survived_handle (h : s.raised = none) {line : String}
    (hline : (s.handle callbacks line).raised = none) :
    Survived s (s.handle callbacks line) [line] where
  raised := hline
  events := events_handle h line
  losses := losses_handle h line
  lossCounts := lossCounts_handle h line

end Reading

/-! ### All lines -/

theorem Survived.append {s s' s'' : Reading F} {lines more : List String}
    (h : Survived s s' lines) (h' : Survived s' s'' more)
    (hsame : SameExpectations s.detector s'.detector) : Survived s s'' (lines ++ more) where
  raised := h'.raised
  events := by
    rw [h'.events, h.events, hsame.eventOf, List.filterMap_append, List.append_assoc]
  losses := by
    rw [h'.losses, h.losses, hsame.lostOf, List.filterMap_append, List.append_assoc]
  lossCounts := by
    intro source
    rw [h'.lossCounts, h.lossCounts, hsame.lostOf, List.filterMap_append, List.filter_append,
      List.map_append, List.sum_append]
    ring

theorem forall_lt_add_iff {P : ℕ → Prop} {m n : ℕ} :
    (∀ k < m + n, P k) ↔ (∀ k < m, P k) ∧ ∀ k < n, P (m + k) := by
  constructor
  · intro h
    exact ⟨fun k hk => h k (by omega), fun k hk => h (m + k) (by omega)⟩
  · rintro ⟨hm, hn⟩ k hk
    by_cases hkm : k < m
    · exact hm k hkm
    · have hrest := hn (k - m) (by omega)
      rwa [show m + (k - m) = k by omega] at hrest

namespace Reading

variable {callbacks : ℕ → Option PyException}

theorem survived_handleAll {s : Reading F} {lines : List String} (h : s.raised = none)
    (hlines : (s.handleAll callbacks lines).raised = none) :
    Survived s (s.handleAll callbacks lines) lines := by
  induction lines generalizing s with
  | nil => exact ⟨h, by simp [handleAll], by simp [handleAll], by simp [handleAll]⟩
  | cons line lines ih =>
      have hstep : s.handleAll callbacks (line :: lines) =
          (s.handle callbacks line).handleAll callbacks lines := rfl
      rw [hstep] at hlines ⊢
      have hline : (s.handle callbacks line).raised = none := by
        cases hraised : (s.handle callbacks line).raised with
        | none => rfl
        | some e =>
            rw [handleAll_of_raised hraised, hraised] at hlines
            cases hlines
      exact (survived_handle h hline).append (ih hline hlines)
        (sameExpectations_handle line)

theorem handleAll_raised_iff {s : Reading F} {lines : List String} (h : s.raised = none) :
    (s.handleAll callbacks lines).raised = none ↔
      (∀ line ∈ lines, (handleLine s.detector line).crashes = false) ∧
      ∀ k < (lines.filterMap (eventOf s.detector)).length +
          (lines.filterMap (lostOf s.detector)).length,
        escaping (callbacks (s.calls + k)) = none := by
  induction lines generalizing s with
  | nil => simp [handleAll, h]
  | cons line lines ih =>
      have hstep : s.handleAll callbacks (line :: lines) =
          (s.handle callbacks line).handleAll callbacks lines := rfl
      have hsame : SameExpectations s.detector (s.handle callbacks line).detector :=
        sameExpectations_handle line
      have hevents : ((line :: lines).filterMap (eventOf s.detector)).length =
          (eventOf s.detector line).toList.length +
            (lines.filterMap (eventOf s.detector)).length := by
        cases hevent : eventOf s.detector line <;> simp [hevent, Nat.add_comm]
      have hlosses : ((line :: lines).filterMap (lostOf s.detector)).length =
          (lostOf s.detector line).toList.length +
            (lines.filterMap (lostOf s.detector)).length := by
        cases hlost : lostOf s.detector line <;> simp [hlost, Nat.add_comm]
      have hfirst := handle_raised_iff callbacks h line
      rw [hstep, hevents, hlosses, add_add_add_comm, forall_lt_add_iff]
      cases hraised : (s.handle callbacks line).raised with
      | some e =>
          rw [handleAll_of_raised hraised, hraised]
          constructor
          · intro hnone
            cases hnone
          · rintro ⟨hcrash, hcalls, -⟩
            rw [hraised] at hfirst
            exact hfirst.mpr ⟨hcrash line List.mem_cons_self, hcalls⟩
      | none =>
          obtain ⟨hcrash, hcalls⟩ := hfirst.mp hraised
          rw [ih hraised, hsame.eventOf, hsame.lostOf, calls_handle h]
          simp only [hsame.handleLine, List.forall_mem_cons, hcrash, true_and, Nat.add_assoc]
          exact ⟨fun hrest => ⟨hrest.1, hcalls, hrest.2⟩,
            fun hrest => ⟨hrest.1, hrest.2.2⟩⟩

end Reading

/-! ## Lines that raise -/

/-- A detector that has accepted a ready line has a threshold. -/
theorem exists_thresholdNs_of_ready {d : CoreDetector F} {line : String}
    (h : handleLine d line = .ready) : ∃ thresholdNs, d.config.thresholdNs = .ok thresholdNs := by
  rcases handleLine_cases d line with
    ⟨message, -, haction⟩ | ⟨message, -, haction⟩ | ⟨message, -, haction⟩ |
    ⟨-, -, ⟨error, haction⟩ | hvalue⟩
  · rw [h] at haction
    unfold handleReady at haction
    split at haction
    · cases haction
    · split at haction
      · cases haction
      next thresholdNs hthreshold => exact ⟨thresholdNs, hthreshold⟩
  · rw [h] at haction
    unfold handleEvent at haction
    split at haction
    · cases haction
    · split at haction <;> cases haction
  · rw [h] at haction
    unfold handleLost at haction
    split at haction
    · cases haction
    · split at haction
      · cases haction
      · split at haction
        · cases haction
        · cases haction
        · split at haction <;> cases haction
  · rw [h] at haction
    cases haction
  · unfold handleLine at h
    rw [hvalue] at h
    cases h

theorem crashes_handleReady {d : CoreDetector F} {thresholdNs : ℤ}
    (h : d.config.thresholdNs = .ok thresholdNs) (message : List (String × Json)) :
    (handleReady d message).crashes = false := by
  unfold handleReady
  split
  · rfl
  · rw [h]
    dsimp only
    split <;> rfl

/-- Only a source without a hash makes a line raise. -/
theorem crashes_handleLine_iff {d : CoreDetector F} {thresholdNs : ℤ}
    (hthreshold : d.config.thresholdNs = .ok thresholdNs) {line : String}
    (hloads : Json.loads line ≠ .error .valueError) :
    (handleLine d line).crashes = true ↔ UnhashableSource F line := by
  have hnot (hnone : messageOf F line "lost" = none) : ¬ UnhashableSource F line := by
    rintro ⟨message, count, dev, ino, hmessage, -⟩
    rw [hnone] at hmessage
    cases hmessage
  rcases handleLine_cases d line with
    ⟨message, htype, haction⟩ | ⟨message, htype, haction⟩ | ⟨message, htype, haction⟩ |
    ⟨-, hlost, ⟨error, haction⟩ | hvalue⟩
  · rw [haction, crashes_handleReady hthreshold]
    simp [hnot (messageOf_eq_none_of_ne htype (by decide))]
  · rw [haction, (losses_handleEvent d message).2]
    simp [hnot (messageOf_eq_none_of_ne htype (by decide))]
  · rw [haction, crashes_handleLost_iff]
    constructor
    · rintro ⟨count, dev, ino, h⟩
      exact ⟨message, count, dev, ino, htype, h⟩
    · rintro ⟨message', count, dev, ino, htype', h⟩
      obtain rfl := Option.some.inj (htype.symm.trans htype')
      exact ⟨count, dev, ino, h⟩
  · rw [haction]
    simp [hnot hlost, Action.crashes]
  · exact absurd hvalue hloads

/-- After an accepted ready line the reader survives its lines, and hands on what
the well-formed ones say, exactly if no lost line has a list or an object as its
source and no callback raises what it does not catch. -/
theorem survived_iff (d : CoreDetector F) (readyLine : String)
    (hready : handleLine d readyLine = .ready) (callbacks : ℕ → Option PyException)
    (lines : List String) (hloads : ∀ line ∈ lines, Json.loads line ≠ .error .valueError) :
    Survived { detector := d.perform .ready }
        (({ detector := d.perform .ready } : Reading F).handleAll callbacks lines) lines ↔
      (∀ line ∈ lines, ¬ UnhashableSource F line) ∧
      ∀ k < (lines.filterMap (eventOf d)).length + (lines.filterMap (lostOf d)).length,
        escaping (callbacks k) = none := by
  obtain ⟨thresholdNs, hthreshold⟩ := exists_thresholdNs_of_ready hready
  let s : Reading F := { detector := d.perform .ready }
  have hraised : (s.handleAll callbacks lines).raised = none ↔ _ :=
    Reading.handleAll_raised_iff rfl
  have hevents : eventOf (d.perform .ready) = eventOf d :=
    (sameExpectations_perform d .ready).eventOf
  have hlosses : lostOf (d.perform .ready) = lostOf d :=
    (sameExpectations_perform d .ready).lostOf
  have hlines : (∀ line ∈ lines, (handleLine (d.perform .ready) line).crashes = false) ↔
      ∀ line ∈ lines, ¬ UnhashableSource F line := by
    refine forall₂_congr fun line hline => ?_
    rw [(sameExpectations_perform d .ready).handleLine,
      ← crashes_handleLine_iff hthreshold (hloads line hline), Bool.not_eq_true]
  have hcalls : s.calls = 0 := rfl
  rw [hlines, hevents, hlosses, hcalls] at hraised
  simp only [Nat.zero_add] at hraised
  rw [← hraised]
  exact ⟨Survived.raised, Reading.survived_handleAll rfl⟩

/-! ## Lines and the handshake -/

namespace Reading

/-- The callbacks are called for well-formed lines alone, in order. -/
theorem handleAll_prefix (callbacks : ℕ → Option PyException) (s : Reading F) (lines : List String) :
    (s.handleAll callbacks lines).events <+:
        s.events ++ lines.filterMap (eventOf s.detector) ∧
      (s.handleAll callbacks lines).losses <+:
        s.losses ++ lines.filterMap (lostOf s.detector) := by
  induction lines generalizing s with
  | nil => simp [handleAll]
  | cons line lines ih =>
      cases hraised : s.raised with
      | some e =>
          rw [handleAll_of_raised hraised]
          exact ⟨List.prefix_append _ _, List.prefix_append _ _⟩
      | none =>
          have hstep : s.handleAll callbacks (line :: lines) =
              (s.handle callbacks line).handleAll callbacks lines := rfl
          have hsame : SameExpectations s.detector (s.handle callbacks line).detector :=
            sameExpectations_handle line
          have hrest := ih (s.handle callbacks line)
          have hcons {α : Type} (f : String → Option α) :
              (line :: lines).filterMap f = [line].filterMap f ++ lines.filterMap f := by
            rw [← List.filterMap_append, List.singleton_append]
          rw [events_handle hraised, losses_handle hraised, hsame.eventOf, hsame.lostOf,
            List.append_assoc, List.append_assoc, ← hcons, ← hcons] at hrest
          rw [hstep]
          exact hrest

end Reading

/-- The counts are the sums of the losses that were handed on. -/
def Counted (initial : CoreDetector F) (s : Reading F) : Prop :=
  ∀ source, (s.detector.lossCounts.get source).getD 0 =
    (initial.lossCounts.get source).getD 0 +
      ((s.losses.filter fun e => e.source = source).map LostEvent.count).sum

theorem Counted.handleAll {initial : CoreDetector F} {callbacks : ℕ → Option PyException}
    {s : Reading F} (h : Counted initial s) (lines : List String) :
    Counted initial (s.handleAll callbacks lines) := by
  induction lines generalizing s with
  | nil => exact h
  | cons line lines ih =>
      have hstep : s.handleAll callbacks (line :: lines) =
          (s.handle callbacks line).handleAll callbacks lines := rfl
      rw [hstep]
      refine ih ?_
      cases hraised : s.raised with
      | some e =>
          rw [Reading.handle_of_raised hraised]
          exact h
      | none =>
          intro source
          rw [Reading.lossCounts_handle hraised, Reading.losses_handle hraised, h source,
            List.filter_append, List.map_append, List.sum_append, Int.add_assoc]

/-- Whatever the state of the handshake, the event callback is called, and losses
are counted, for lines that are themselves well-formed for the expected thread and
namespace; as long as no line raises, for all of them. -/
theorem handed_prefix (d : CoreDetector F) (callbacks : ℕ → Option PyException)
    (lines : List String) :
    let s := ({ detector := d } : Reading F).handleAll callbacks lines
    s.events <+: lines.filterMap (eventOf d) ∧ s.losses <+: lines.filterMap (lostOf d) ∧
      Counted d s ∧
      (s.raised = none →
        s.events = lines.filterMap (eventOf d) ∧ s.losses = lines.filterMap (lostOf d)) := by
  intro s
  have hread := Reading.handleAll_prefix callbacks { detector := d } lines
  refine ⟨hread.1, hread.2, ?_, ?_⟩
  · refine Counted.handleAll ?_ lines
    intro source
    simp
  · intro hraised
    have hsurvived := Reading.survived_handleAll (s := { detector := d }) rfl hraised
    exact ⟨hsurvived.events, hsurvived.losses⟩

/-! ## Sample lines -/

def sampleConfig : Native.DetectorConfig := ⟨7, 9, 12500000, 7, 8⟩

theorem expects_sampleConfig : Expects nestedLaunched sampleConfig :=
  ⟨rfl, rfl, rfl, rfl, nestedDetector_thresholdNs⟩

def sampleReadyLine : String :=
  Native.emitReady sampleConfig fun v => v == .epollWait

theorem handleLine_sampleReadyLine : handleLine nestedLaunched sampleReadyLine = .ready :=
  handleLine_emitReady expects_sampleConfig ⟨.epollWait, rfl⟩

def sampleEventLine : String :=
  Native.emitEvent { startNs := 10, endNs := 20, pid := 7, tid := 9 } sampleConfig

theorem handleLine_sampleEventLine :
    handleLine nestedLaunched sampleEventLine =
      .event { startNs := 10, endNs := 20, pid := 7, tid := 9 } :=
  handleLine_emitEvent expects_sampleConfig rfl rfl (by decide)

/-- A lost record with a list as its source. -/
def listSourceLine : String :=
  "\x7b\"version\":2,\"type\":\"lost\",\"count\":1,\"source\":[],\"pidns_dev\":7,\"pidns_ino\":8\x7d"

theorem crashes_listSourceLine : (handleLine nestedLaunched listSourceLine).crashes = true := by
  decide +kernel

def fatalLine : String :=
  "\x7b\"version\":2,\"type\":\"fatal\"\x7d"

theorem handleLine_fatalLine :
    handleLine nestedLaunched fatalLine = .setError "unknown sidecar error" := by
  decide +kernel

theorem loads_ne_valueError {d : CoreDetector F} {line : String}
    (h : (handleLine d line).crashes = false) : Json.loads line ≠ .error .valueError := by
  intro hvalue
  unfold handleLine at h
  rw [hvalue] at h
  cases h

/-- An event behind a fatal line. -/
theorem survived_iff_sample :
    Survived { detector := nestedLaunched.perform .ready }
        (({ detector := nestedLaunched.perform .ready } : Reading ℚ).handleAll
          (fun _ => some (.other "OSError")) [fatalLine, sampleEventLine])
        [fatalLine, sampleEventLine] ↔
      (∀ line ∈ [fatalLine, sampleEventLine], ¬ UnhashableSource ℚ line) ∧
      ∀ k < ([fatalLine, sampleEventLine].filterMap (eventOf nestedLaunched)).length +
          ([fatalLine, sampleEventLine].filterMap (lostOf nestedLaunched)).length,
        escaping (some (.other "OSError")) = none := by
  refine survived_iff nestedLaunched sampleReadyLine handleLine_sampleReadyLine
    (fun _ => some (.other "OSError")) [fatalLine, sampleEventLine] ?_
  intro line hline
  simp only [List.mem_cons, List.not_mem_nil, or_false] at hline
  rcases hline with rfl | rfl
  · have hreturns : (handleLine nestedLaunched fatalLine).crashes = false := by
      rw [handleLine_fatalLine]
      rfl
    exact loads_ne_valueError hreturns
  · have hreturns : (handleLine nestedLaunched sampleEventLine).crashes = false := by
      rw [handleLine_sampleEventLine]
      rfl
    exact loads_ne_valueError hreturns

/-- A list as the source of a lost record ends the reader: the event behind it is
not handed on. -/
theorem exists_not_survived :
    ∃ (d : CoreDetector ℚ) (readyLine : String) (lines : List String),
      handleLine d readyLine = .ready ∧
      ¬ Survived { detector := d.perform .ready }
        (({ detector := d.perform .ready } : Reading ℚ).handleAll (fun _ => none) lines)
        lines := by
  refine ⟨nestedLaunched, sampleReadyLine, [listSourceLine, sampleEventLine],
    handleLine_sampleReadyLine, ?_⟩
  intro h
  have hraised := (Reading.handleAll_raised_iff rfl).mp h.raised
  have hreturns := hraised.1 listSourceLine List.mem_cons_self
  have hcrash := crashes_listSourceLine
  rw [← (sameExpectations_perform nestedLaunched .ready).handleLine, hreturns] at hcrash
  cases hcrash

/-- The first message is fatal and no ready line follows, and the event behind it
is handed to the callback. -/
theorem exists_delivered_without_ready :
    ∃ (d : CoreDetector ℚ) (lines : List String), d.ready = false ∧
      (∀ line ∈ lines, handleLine d line ≠ .ready) ∧
      (({ detector := d } : Reading ℚ).handleAll (fun _ => none) lines).events ≠ [] := by
  refine ⟨nestedLaunched, [fatalLine, sampleEventLine], rfl, ?_, ?_⟩
  · intro line hline
    simp only [List.mem_cons, List.not_mem_nil, or_false] at hline
    rcases hline with rfl | rfl
    · rw [handleLine_fatalLine]
      simp
    · rw [handleLine_sampleEventLine]
      simp
  · have hfatal : ({ detector := nestedLaunched } : Reading ℚ).handle (fun _ => none) fatalLine =
        { detector := nestedLaunched.perform (.setError "unknown sidecar error") } := by
      unfold Reading.handle
      dsimp only
      rw [handleLine_fatalLine]
      rfl
    have hrun : ({ detector := nestedLaunched } : Reading ℚ).handleAll (fun _ => none)
        [fatalLine, sampleEventLine] =
          ({ detector := nestedLaunched.perform (.setError "unknown sidecar error") } :
            Reading ℚ).handle (fun _ => none) sampleEventLine := by
      simp only [Reading.handleAll, List.foldl_cons, List.foldl_nil, hfatal]
    rw [hrun]
    unfold Reading.handle
    dsimp only
    rw [(sameExpectations_perform nestedLaunched _).handleLine, handleLine_sampleEventLine]
    simp [Action.delivered]

end Blocksnoop.CoreBackend
