import Blocksnoop.Reporter.Reports

/-!
# The call path of an event

The reporter aggregates events by a digest of their selected frames, written one behind
the other with a bar between frames and colons between the parts of a frame.  Nothing is
escaped, so a file or function name with a separator in it can be read as a part of
another call path.
-/

namespace Blocksnoop

open Blocksnoop.Support

/-- The selected frames of the first stack, by file, line and function. -/
def callPath (event : BlockingEvent) : List (String × ℤ × String) :=
  match event.pythonStacks with
  | [] => []
  | first :: _ => (Correlator.selected first).map fun frame =>
      (frame.file, frame.line, frame.function)

/-- The text that is digested. -/
def eventIdentity (event : BlockingEvent) : String :=
  if event.pythonStacks = [] then "no-python-stack"
  else "|".intercalate ((callPath event).map fun frame =>
    frame.1 ++ ":" ++ strInt frame.2.1 ++ ":" ++ frame.2.2)

def digest (host : ReporterHost) (identity : String) : String :=
  String.ofList ((host.hexdigest identity).toList.take 12)

/-- The key of the entry under which an event is aggregated. -/
def entryKey (host : ReporterHost) (event : BlockingEvent) : Except PyException String :=
  (signatureForStacks host (renderStacks host event.pythonStacks)).map Signature.fingerprint

/-- An event whose first stack is not empty. -/
def HasFrames (event : BlockingEvent) : Prop :=
  ∃ first rest, event.pythonStacks = first :: rest ∧ first.frames ≠ []

/-- The digests of the two events' texts do not collide. -/
def DistinctDigests (host : ReporterHost) (a b : BlockingEvent) : Prop :=
  digest host (eventIdentity a) = digest host (eventIdentity b) →
    eventIdentity a = eventIdentity b

/-! ## The entry of an event -/

theorem HasFrames.pythonStacks_ne_nil {event : BlockingEvent} (h : HasFrames event) :
    event.pythonStacks ≠ [] := by
  obtain ⟨first, rest, hstacks, -⟩ := h
  rw [hstacks]
  exact List.cons_ne_nil first rest

theorem HasFrames.callPath_ne_nil {event : BlockingEvent} (h : HasFrames event) :
    callPath event ≠ [] := by
  obtain ⟨first, rest, hstacks, hframes⟩ := h
  unfold callPath
  rw [hstacks]
  exact fun h => Correlator.selected_ne_nil hframes (List.map_eq_nil_iff.mp h)

theorem entryKey_of_nil (host : ReporterHost) {event : BlockingEvent}
    (h : event.pythonStacks = []) : entryKey host event = .ok (digest host (eventIdentity event)) := by
  unfold entryKey eventIdentity
  rw [h]
  rfl

theorem HasFrames.entryKey_eq (host : ReporterHost) {event : BlockingEvent} (h : HasFrames event) :
    entryKey host event = .ok (digest host (eventIdentity event)) := by
  obtain ⟨first, rest, hstacks, hframes⟩ := h
  obtain ⟨root, frames, hselected⟩ := List.exists_cons_of_ne_nil (Correlator.selected_ne_nil hframes)
  unfold entryKey eventIdentity callPath
  rw [hstacks, renderStacks_cons]
  simp only [signatureForStacks, Option.getD_some, List.map_cons, selectedFrames_map_record,
    hselected, List.map_map, if_neg (List.cons_ne_nil first rest)]
  rfl

/-! ## The text of a call path -/

/-- The fields of a frame as they are written. -/
def frameFields (frame : String × ℤ × String) : Fields Char :=
  (frame.1.toList, Json.renderInt frame.2.1, frame.2.2.toList)

theorem notMem_renderInt {c : Char} (hc : c.isDigit = false) (hminus : c ≠ '-') (i : ℤ) :
    c ∉ Json.renderInt i := by
  have hdigits : c ∉ Nat.toDigits 10 i.natAbs := by
    intro h
    rw [Json.isDigit_of_mem_toDigits h] at hc
    cases hc
  unfold Json.renderInt
  split
  · exact List.not_mem_cons_of_ne_of_not_mem hminus hdigits
  · exact hdigits

theorem renderInt_injective : Function.Injective Json.renderInt := by
  have hminus : ∀ n m : ℕ, '-' :: Nat.toDigits 10 n ≠ Nat.toDigits 10 m := by
    intro n m h
    have hmem : '-' ∈ Nat.toDigits 10 m := h ▸ List.mem_cons_self
    exact absurd (Json.isDigit_of_mem_toDigits hmem) (by decide)
  have hdigits : ∀ {n m : ℕ}, Nat.toDigits 10 n = Nat.toDigits 10 m → n = m := by
    intro n m h
    rw [← Nat.ofDigitChars_ten_toDigits (n := n), h, Nat.ofDigitChars_ten_toDigits]
  intro i j h
  unfold Json.renderInt at h
  split at h
  · split at h
    · have habs := hdigits (List.cons.inj h).2
      omega
    · exact absurd h (hminus _ _)
  · split at h
    · exact absurd h.symm (hminus _ _)
    · have habs := hdigits h
      omega

theorem frameFields_injective : Function.Injective frameFields := by
  rintro ⟨file, line, function⟩ ⟨file', line', function'⟩ h
  obtain ⟨hfile, h⟩ := Prod.mk.inj h
  obtain ⟨hline, hfunction⟩ := Prod.mk.inj h
  exact Prod.ext (String.toList_inj.mp hfile)
    (Prod.ext (renderInt_injective hline) (String.toList_inj.mp hfunction))

theorem toList_eventIdentity {event : BlockingEvent} (h : event.pythonStacks ≠ []) :
    (eventIdentity event).toList = joinRecords '|' ':' ((callPath event).map frameFields) := by
  unfold eventIdentity joinRecords
  rw [if_neg h, String.toList_intercalate, List.map_map, List.map_map]
  congr 1
  apply List.map_congr_left
  intro frame _
  simp [frameFields, renderRecord, strInt]

theorem eventIdentity_eq {a b : BlockingEvent} (ha : HasFrames a) (hb : HasFrames b)
    (h : callPath a = callPath b) : eventIdentity a = eventIdentity b := by
  rw [← String.toList_inj, toList_eventIdentity ha.pythonStacks_ne_nil,
    toList_eventIdentity hb.pythonStacks_ne_nil, h]

/-- The text of a call path has a colon in it. -/
theorem HasFrames.eventIdentity_ne {a b : BlockingEvent} (ha : HasFrames a)
    (hb : b.pythonStacks = []) : eventIdentity a ≠ eventIdentity b := by
  intro h
  have hcolon : ':' ∈ (eventIdentity a).toList := by
    rw [toList_eventIdentity ha.pythonStacks_ne_nil]
    exact mem_joinRecords fun hnil => ha.callPath_ne_nil (List.map_eq_nil_iff.mp hnil)
  rw [h, eventIdentity, if_pos hb] at hcolon
  exact absurd hcolon (by decide)

/-! ## Separators in names -/

/-- Which separators may occur in the file names and in the function names. -/
structure Separators where
  fileColon : Bool
  fileBar : Bool
  functionColon : Bool
  functionBar : Bool
  deriving DecidableEq

namespace Separators

/-- The names of the frame have no other separators. -/
def AllowsFrame (allowed : Separators) (frame : String × ℤ × String) : Prop :=
  (':' ∈ frame.1.toList → allowed.fileColon = true) ∧
    ('|' ∈ frame.1.toList → allowed.fileBar = true) ∧
    (':' ∈ frame.2.2.toList → allowed.functionColon = true) ∧
    ('|' ∈ frame.2.2.toList → allowed.functionBar = true)

def Allows (allowed : Separators) (event : BlockingEvent) : Prop :=
  ∀ frame ∈ callPath event, allowed.AllowsFrame frame

/-- The text can be read from the left, or it can be read from the right. -/
def Readable (allowed : Separators) : Prop :=
  (allowed.fileColon = false ∧ allowed.functionBar = false) ∨
    (allowed.functionColon = false ∧ allowed.fileBar = false)

theorem readFromLeft {allowed : Separators} {event : BlockingEvent} (h : allowed.Allows event)
    (hcolon : allowed.fileColon = false) (hbar : allowed.functionBar = false) :
    ∀ r ∈ (callPath event).map frameFields, ReadFromLeft '|' ':' r := by
  intro r hr
  obtain ⟨frame, hframe, rfl⟩ := List.mem_map.mp hr
  obtain ⟨hfile, -, -, hfunction⟩ := h frame hframe
  refine ⟨fun hmem => ?_, notMem_renderInt (by decide) (by decide) _, fun hmem => ?_⟩
  · exact Bool.false_ne_true (hcolon.symm.trans (hfile hmem))
  · exact Bool.false_ne_true (hbar.symm.trans (hfunction hmem))

theorem readFromRight {allowed : Separators} {event : BlockingEvent} (h : allowed.Allows event)
    (hcolon : allowed.functionColon = false) (hbar : allowed.fileBar = false) :
    ∀ r ∈ (callPath event).map frameFields, ReadFromRight '|' ':' r := by
  intro r hr
  obtain ⟨frame, hframe, rfl⟩ := List.mem_map.mp hr
  obtain ⟨-, hfile, hfunction, -⟩ := h frame hframe
  refine ⟨fun hmem => ?_, notMem_renderInt (by decide) (by decide) _, fun hmem => ?_⟩
  · exact Bool.false_ne_true (hbar.symm.trans (hfile hmem))
  · exact Bool.false_ne_true (hcolon.symm.trans (hfunction hmem))

/-- Where the text is readable, it determines the call path. -/
theorem Readable.callPath_eq {allowed : Separators} (h : allowed.Readable) {a b : BlockingEvent}
    (ha : HasFrames a) (hb : HasFrames b) (hallowsA : allowed.Allows a)
    (hallowsB : allowed.Allows b) (hidentity : eventIdentity a = eventIdentity b) :
    callPath a = callPath b := by
  have hne : (callPath a).map frameFields ≠ [] := fun h =>
    ha.callPath_ne_nil (List.map_eq_nil_iff.mp h)
  have hne' : (callPath b).map frameFields ≠ [] := fun h =>
    hb.callPath_ne_nil (List.map_eq_nil_iff.mp h)
  have hjoined : joinRecords '|' ':' ((callPath a).map frameFields) =
      joinRecords '|' ':' ((callPath b).map frameFields) := by
    rw [← toList_eventIdentity ha.pythonStacks_ne_nil,
      ← toList_eventIdentity hb.pythonStacks_ne_nil, hidentity]
  apply List.map_injective_iff.mpr frameFields_injective
  rcases h with ⟨hcolon, hbar⟩ | ⟨hcolon, hbar⟩
  · exact joinRecords_inj_left (readFromLeft hallowsA hcolon hbar)
      (readFromLeft hallowsB hcolon hbar) hne hne' hjoined
  · exact joinRecords_inj_right (readFromRight hallowsA hcolon hbar)
      (readFromRight hallowsB hcolon hbar) hne hne' hjoined

end Separators

/-- An event with one stack of the given frames. -/
def eventOf (frames : List (String × ℤ × String)) : BlockingEvent where
  startNs := 0
  endNs := 0
  pid := 1
  tid := 1
  pythonStacks :=
    [{ threadId := 1, threadName := "main", frames := frames.map fun f => ⟨f.2.2, f.1, f.2.1⟩ }]

/-- Two events with the same text whose call paths differ. -/
structure Collide (allowed : Separators) (a b : BlockingEvent) : Prop where
  left : HasFrames a
  right : HasFrames b
  allowsLeft : allowed.Allows a
  allowsRight : allowed.Allows b
  identity_eq : eventIdentity a = eventIdentity b
  callPath_ne : callPath a ≠ callPath b

theorem hasFrames_eventOf {frames : List (String × ℤ × String)} (h : frames ≠ []) :
    HasFrames (eventOf frames) :=
  ⟨_, [], rfl, fun hnil => h (List.map_eq_nil_iff.mp hnil)⟩

theorem collide_eventOf {allowed : Separators} (xs ys : List (String × ℤ × String))
    (hxs : callPath (eventOf xs) = xs) (hys : callPath (eventOf ys) = ys)
    (hne : xs ≠ [] ∧ ys ≠ [] ∧ xs ≠ ys)
    (hallows : (∀ frame ∈ xs, allowed.AllowsFrame frame) ∧ ∀ frame ∈ ys, allowed.AllowsFrame frame)
    (htext : joinRecords '|' ':' (xs.map frameFields) = joinRecords '|' ':' (ys.map frameFields)) :
    Collide allowed (eventOf xs) (eventOf ys) where
  left := hasFrames_eventOf hne.1
  right := hasFrames_eventOf hne.2.1
  allowsLeft := by
    unfold Separators.Allows
    rw [hxs]
    exact hallows.1
  allowsRight := by
    unfold Separators.Allows
    rw [hys]
    exact hallows.2
  identity_eq := by
    rw [← String.toList_inj, toList_eventIdentity (List.cons_ne_nil _ _),
      toList_eventIdentity (List.cons_ne_nil _ _), hxs, hys, htext]
  callPath_ne := by
    rw [hxs, hys]
    exact hne.2.2

/-- Where the text is not readable, a name can hold what another frame has as a separator. -/
theorem exists_collide {allowed : Separators} (h : ¬ allowed.Readable) :
    ∃ a b, Collide allowed a b := by
  obtain ⟨hleft, hright⟩ := not_or.mp h
  rw [not_and_or, Bool.not_eq_false, Bool.not_eq_false] at hleft hright
  rcases hleft with hfileColon | hfunctionBar
  · rcases hright with hfunctionColon | hfileBar
    · refine ⟨_, _, collide_eventOf [("a:1", 2, "f")] [("a", 1, "2:f")]
        (by decide) (by decide) (by decide) ?_ (by decide)⟩
      simp [Separators.AllowsFrame, hfileColon, hfunctionColon]
    · refine ⟨_, _, collide_eventOf [("a:1:f|b", 2, "g")]
        [("a", 1, "f"), ("b", 2, "g")]
        (by decide) (by decide) (by decide) ?_ (by decide)⟩
      simp [Separators.AllowsFrame, hfileColon, hfileBar]
  · rcases hright with hfunctionColon | hfileBar
    · refine ⟨_, _, collide_eventOf [("a", 1, "f|b:2:g")]
        [("a", 1, "f"), ("b", 2, "g")]
        (by decide) (by decide) (by decide) ?_ (by decide)⟩
      simp [Separators.AllowsFrame, hfunctionBar, hfunctionColon]
    · refine ⟨_, _, collide_eventOf [("a", 1, "f|x"), ("b", 2, "g")]
        [("a", 1, "f"), ("x|b", 2, "g")]
        (by decide) (by decide) (by decide) ?_ (by decide)⟩
      simp [Separators.AllowsFrame, hfunctionBar, hfileBar]

/-! ## Aggregation by call path -/

/-- Events whose digests do not collide are aggregated by call path, and apart from those
without a stack, in a class of names exactly where its separators leave the text readable. -/
theorem entryKey_eq_iff_callPath_eq (host : ReporterHost) (allowed : Separators) :
    ((∀ a b, HasFrames a → HasFrames b → allowed.Allows a → allowed.Allows b →
        DistinctDigests host a b →
        (entryKey host a = entryKey host b ↔ callPath a = callPath b)) ↔ allowed.Readable) ∧
      ∀ a b, HasFrames a → b.pythonStacks = [] → DistinctDigests host a b →
        entryKey host a ≠ entryKey host b := by
  refine ⟨⟨fun h => ?_, fun h => ?_⟩, ?_⟩
  · by_contra hnot
    obtain ⟨a, b, hcollide⟩ := exists_collide hnot
    have hkeys : entryKey host a = entryKey host b := by
      rw [hcollide.left.entryKey_eq, hcollide.right.entryKey_eq, hcollide.identity_eq]
    exact hcollide.callPath_ne ((h a b hcollide.left hcollide.right hcollide.allowsLeft
      hcollide.allowsRight fun _ => hcollide.identity_eq).mp hkeys)
  · intro a b ha hb hallowsA hallowsB hdigests
    rw [ha.entryKey_eq, hb.entryKey_eq]
    constructor
    · intro hkeys
      exact h.callPath_eq ha hb hallowsA hallowsB (hdigests (Except.ok.inj hkeys))
    · intro hpaths
      rw [eventIdentity_eq ha hb hpaths]
  · intro a b ha hb hdigests hkeys
    rw [ha.entryKey_eq, entryKey_of_nil host hb] at hkeys
    exact ha.eventIdentity_ne hb (hdigests (Except.ok.inj hkeys))

/-- A frame in a file that is called `a.py:1:f|b.py`, and two frames. -/
theorem exists_same_entryKey :
    let a := eventOf [("a.py:1:f|b.py", 2, "g")]
    let b := eventOf [("a.py", 1, "f"), ("b.py", 2, "g")]
    HasFrames a ∧ HasFrames b ∧ callPath a ≠ callPath b ∧
      ∀ host, DistinctDigests host a b ∧ entryKey host a = entryKey host b := by
  intro a b
  have hcollide : Collide ⟨true, true, true, true⟩ a b :=
    collide_eventOf _ _ (by decide) (by decide) (by decide)
      (by simp [Separators.AllowsFrame]) (by decide)
  refine ⟨hcollide.left, hcollide.right, hcollide.callPath_ne, fun host => ⟨?_, ?_⟩⟩
  · exact fun _ => hcollide.identity_eq
  · rw [hcollide.left.entryKey_eq, hcollide.right.entryKey_eq, hcollide.identity_eq]

end Blocksnoop
