import Blocksnoop.Stats
import Blocksnoop.Support.Terminal

/-!
# Redrawing the statistics

`_print_console` erases as many rows as it has printed before and prints its lines over
them.  The first frame erases nothing, so that it may leave text that stood in its first
row; from the second one on the terminal shows the latest frame and nothing else.
-/

namespace Blocksnoop

open Blocksnoop.Support

variable {F : Type} [StatsRuntime F]

namespace StatsCollector

/-- What a call of `_print_console` finds, and its time. -/
structure ConsoleCall (F : Type) where
  durations : List F
  warned : Bool
  elapsed : F

def found (c : StatsCollector F) (call : ConsoleCall F) : StatsCollector F :=
  { c with durations := call.durations, warned := call.warned }

/-- A call that raises has written nothing. -/
def printCall (percents : Percents F) (c : StatsCollector F) (call : ConsoleCall F) :
    StatsCollector F :=
  match (c.found call).printConsole percents call.elapsed with
  | .ok printed => printed
  | .error _ => c.found call

def printCalls (percents : Percents F) (c : StatsCollector F) (calls : List (ConsoleCall F)) :
    StatsCollector F :=
  calls.foldl (printCall percents) c

/-- The lines that warn of a large number of events. -/
def warningLines (c : StatsCollector F) : List String :=
  if c.warned then
    ["", "  warning: 10,000,000 events collected (~" ++
      Nat.repr (c.durations.length * 8 / 1000000) ++ " MB)"]
  else []

/-- The lines of a frame. -/
def frameLines (percents : Percents F) (c : StatsCollector F) (elapsed : F) :
    Except PyException (List String) := do
  let printed ← figures? percents c.durations
  let values := match printed with
    | none => statLabels.map fun _ => "       ---"
    | some figures => figures.toList.map (StatsRuntime.format 10 1)
  return [c.headline c.durations.length elapsed, ""] ++ List.zipWith statLine statLabels values ++
    c.warningLines

/-- The frames that the calls draw. -/
def frames (percents : Percents F) (c : StatsCollector F) (calls : List (ConsoleCall F)) :
    List (List String) :=
  calls.filterMap fun call => ((c.found call).frameLines percents call.elapsed).toOption

/-- The terminal after what was written. -/
def screen (t : Terminal) (written : List (Written F)) : Terminal :=
  written.foldl
    (fun t entry =>
      match entry with
      | .frame text => t.write text
      | .record _ => t) t

/-- A printed float takes places in a row and has no control characters. -/
def FormatsPrintably (F : Type) [StatsRuntime F] : Prop :=
  ∀ width digits (x : F), ∀ c ∈ (StatsRuntime.format width digits x).toList,
    isPrintable c = true

/-! ## The lines of a frame -/

theorem printConsole_eq (percents : Percents F) (c : StatsCollector F) (elapsed : F) :
    c.printConsole percents elapsed =
      (c.frameLines percents elapsed).map fun lines =>
        { c with
          stream := c.stream ++
            [.frame (eraseFrame c.linesPrinted ++ "\n".intercalate lines ++ "\n")]
          linesPrinted := lines.length } := by
  unfold printConsole frameLines
  cases figures? percents c.durations with
  | error e => rfl
  | ok printed => rfl

def Printable (text : String) : Prop :=
  ∀ c ∈ text.toList, isPrintable c = true

instance (text : String) : Decidable (Printable text) :=
  decidable_of_iff (text.toList.all isPrintable = true) List.all_eq_true

theorem Printable.append {text rest : String} (h : Printable text) (hrest : Printable rest) :
    Printable (text ++ rest) := by
  intro c hc
  rw [String.toList_append] at hc
  rcases List.mem_append.mp hc with hc | hc
  · exact h c hc
  · exact hrest c hc

theorem isPrintable_of_isDigit {c : Char} (h : c.isDigit = true) : isPrintable c = true := by
  have hbounds : 48 ≤ c.toNat ∧ c.toNat ≤ 57 := by
    simpa [Char.isDigit, UInt32.le_iff_toNat_le] using h
  simp only [isPrintable, Bool.and_eq_true, decide_eq_true_eq, Bool.not_eq_true',
    Bool.and_eq_false_iff, decide_eq_false_iff_not]
  omega

theorem printable_repr (n : ℕ) : Printable (Nat.repr n) := by
  intro c hc
  apply isPrintable_of_isDigit
  apply Json.isDigit_of_mem_toDigits (n := n)
  simpa [Nat.repr] using hc

theorem printable_strInt (i : ℤ) : Printable (strInt i) := by
  intro c hc
  simp only [strInt, Json.renderInt, String.toList_ofList] at hc
  split at hc
  · rcases List.mem_cons.mp hc with rfl | hc
    · decide
    · exact isPrintable_of_isDigit (Json.isDigit_of_mem_toDigits hc)
  · exact isPrintable_of_isDigit (Json.isDigit_of_mem_toDigits hc)

theorem printable_headline (hformat : FormatsPrintably F) (c : StatsCollector F) (count : ℕ)
    (elapsed : F) : Printable (c.headline count elapsed) := by
  unfold headline
  have hopening : Printable "blocksnoop stats — PID " := by decide
  have hdash : Printable " — " := by decide
  have hseconds : Printable "s — " := by decide
  have hevents : Printable " events (" := by decide
  have hrate : Printable "/s)" := by decide
  exact ((((((((hopening.append (printable_strInt _)).append hdash).append
    (hformat _ _ _)).append hseconds).append (printable_repr _)).append hevents).append
    (hformat _ _ _)).append hrate)

theorem printable_statLine {label value : String} (hlabel : label ∈ statLabels)
    (hvalue : Printable value) : Printable (statLine label value) := by
  unfold statLine
  have hlabels : ∀ label ∈ statLabels, Printable label := by decide
  have hindent : Printable "  " := by decide
  have hgap : Printable "    " := by decide
  have hunit : Printable "ms" := by decide
  exact (((hindent.append (hlabels label hlabel)).append hgap).append hvalue).append hunit

theorem printable_zipWith {values : List String} (hvalues : ∀ value ∈ values, Printable value) :
    ∀ line ∈ List.zipWith statLine statLabels values, Printable line := by
  intro line hline
  rw [← List.map_uncurry_zip_eq_zipWith] at hline
  obtain ⟨⟨label, value⟩, hpair, rfl⟩ := List.mem_map.mp hline
  obtain ⟨hlabel, hvalue⟩ := List.of_mem_zip hpair
  exact printable_statLine hlabel (hvalues value hvalue)

theorem printable_warning (count : ℕ) :
    Printable ("  warning: 10,000,000 events collected (~" ++ Nat.repr count ++ " MB)") := by
  have hopening : Printable "  warning: 10,000,000 events collected (~" := by decide
  have hclosing : Printable " MB)" := by decide
  exact (hopening.append (printable_repr count)).append hclosing

/-- A frame has lines, and all of them are printable. -/
theorem printable_frameLines (hformat : FormatsPrintably F) {percents : Percents F}
    {c : StatsCollector F} {elapsed : F} {lines : List String}
    (h : c.frameLines percents elapsed = .ok lines) :
    lines ≠ [] ∧ ∀ line ∈ lines, Printable line := by
  obtain ⟨printed, -, hlines⟩ := exists_of_bind_eq_ok h
  obtain rfl := Except.ok.inj hlines
  refine ⟨by simp, ?_⟩
  intro line hline
  rcases List.mem_append.mp hline with hline | hwarning
  · rcases List.mem_append.mp hline with hfirst | hstat
    · rcases List.mem_cons.mp hfirst with rfl | hblank
      · exact printable_headline hformat c _ elapsed
      · rw [List.mem_singleton.mp hblank]
        decide
    · refine printable_zipWith ?_ line hstat
      cases printed with
      | none =>
          have hdashes : ∀ value ∈ statLabels.map fun _ => "       ---", Printable value := by
            decide
          exact hdashes
      | some figures =>
          intro value hvalue
          obtain ⟨x, -, rfl⟩ := List.mem_map.mp hvalue
          exact hformat 10 1 x
  · unfold warningLines at hwarning
    by_cases hwarned : c.warned = true
    · rw [if_pos hwarned] at hwarning
      rcases List.mem_cons.mp hwarning with rfl | hlast
      · decide
      · rw [List.mem_singleton.mp hlast]
        exact printable_warning _
    · rw [if_neg hwarned] at hwarning
      cases hwarning

/-! ## The frames on the terminal -/

theorem intercalate_concat {α : Type*} (sep : α) {lines : List (List α)} (h : lines ≠ []) :
    [sep].intercalate lines ++ [sep] = lines.flatMap (· ++ [sep]) := by
  induction lines with
  | nil => exact absurd rfl h
  | cons line lines ih =>
      cases lines with
      | nil => simp
      | cons next lines =>
          rw [List.intercalate_cons_cons, List.append_assoc, ih (List.cons_ne_nil next lines)]
          simp

theorem toList_eraseFrame (linesPrinted : ℕ) :
    (eraseFrame linesPrinted).toList =
      if linesPrinted = 0 then []
      else Terminal.cursorUp linesPrinted ++
        (List.replicate linesPrinted (Terminal.eraseLine ++ ['\n'])).flatten ++
        Terminal.cursorUp linesPrinted := by
  unfold eraseFrame
  by_cases hzero : linesPrinted = 0
  · rw [if_pos hzero, if_pos hzero]
    rfl
  · have hline : "\x1b[2K\n".toList = Terminal.eraseLine ++ ['\n'] := by decide
    have hrows : (String.join (List.replicate linesPrinted "\x1b[2K\n")).toList =
        (List.replicate linesPrinted (Terminal.eraseLine ++ ['\n'])).flatten := by
      rw [String.toList_join, List.flatMap_def, List.map_replicate, hline]
    rw [if_neg hzero, if_neg hzero]
    simp [Terminal.cursorUp, Nat.repr, hrows]

/-- What a call writes erases the lines printed before and draws its own. -/
theorem toList_frame (linesPrinted : ℕ) {lines : List String} (h : lines ≠ []) :
    (eraseFrame linesPrinted ++ "\n".intercalate lines ++ "\n").toList =
      Terminal.redraw linesPrinted (lines.map String.toList) := by
  have hlines : lines.map String.toList ≠ [] := fun hnil => h (List.map_eq_nil_iff.mp hnil)
  have hend : "\n".toList = ['\n'] := by decide
  rw [String.toList_append, String.toList_append, toList_eraseFrame, String.toList_intercalate,
    hend, List.append_assoc, intercalate_concat '\n' hlines]
  rfl

theorem headline_congr {c c' : StatsCollector F} (h : c.pid = c'.pid) (count : ℕ)
    (elapsed : F) : c.headline count elapsed = c'.headline count elapsed := by
  unfold headline
  rw [h]

/-- A frame depends on the collector only by its process. -/
theorem frameLines_congr (percents : Percents F) {c c' : StatsCollector F} (h : c.pid = c'.pid)
    (call : ConsoleCall F) (elapsed : F) :
    (c.found call).frameLines percents elapsed = (c'.found call).frameLines percents elapsed := by
  have hfound : (c.found call).pid = (c'.found call).pid := h
  have hwarning : (c.found call).warningLines = (c'.found call).warningLines := rfl
  unfold frameLines
  rw [headline_congr hfound, hwarning]
  rfl

theorem frames_congr (percents : Percents F) {c c' : StatsCollector F} (h : c.pid = c'.pid)
    (calls : List (ConsoleCall F)) : frames percents c calls = frames percents c' calls := by
  apply List.filterMap_congr
  intro call _
  rw [frameLines_congr percents h]

theorem frameLines_ne_nil {percents : Percents F} {c : StatsCollector F} {elapsed : F}
    {lines : List String} (h : c.frameLines percents elapsed = .ok lines) : lines ≠ [] := by
  obtain ⟨printed, -, hlines⟩ := exists_of_bind_eq_ok h
  obtain rfl := Except.ok.inj hlines
  simp

/-- The terminal is fed the redraws of the frames. -/
theorem screen_printCalls (percents : Percents F) (t : Terminal) (c : StatsCollector F)
    (calls : List (ConsoleCall F)) :
    screen t (printCalls percents c calls).stream =
      (screen t c.stream).feed (Terminal.redraws c.linesPrinted
        ((frames percents c calls).map (·.map String.toList))) := by
  induction calls generalizing c with
  | nil => rfl
  | cons call calls ih =>
      have hstep : printCalls percents c (call :: calls) =
          printCalls percents (printCall percents c call) calls := rfl
      rw [hstep, ih]
      cases hlines : (c.found call).frameLines percents call.elapsed with
      | error e =>
          have hcall : printCall percents c call = c.found call := by
            unfold printCall
            rw [printConsole_eq, hlines]
            rfl
          have hframes : frames percents c (call :: calls) = frames percents c calls := by
            simp [frames, hlines, Except.toOption]
          rw [hcall, hframes, frames_congr percents (show (c.found call).pid = c.pid from rfl)]
          rfl
      | ok lines =>
          have hne := frameLines_ne_nil hlines
          have hcall : printCall percents c call =
              { c.found call with
                stream := c.stream ++
                  [.frame (eraseFrame c.linesPrinted ++ "\n".intercalate lines ++ "\n")]
                linesPrinted := lines.length } := by
            unfold printCall
            rw [printConsole_eq, hlines]
            rfl
          have hframes : frames percents c (call :: calls) = lines :: frames percents c calls := by
            simp [frames, hlines, Except.toOption]
          have hscreen : screen t (c.stream ++
              [.frame (eraseFrame c.linesPrinted ++ "\n".intercalate lines ++ "\n")]) =
                (screen t c.stream).feed
                  (Terminal.redraw c.linesPrinted (lines.map String.toList)) := by
            rw [← toList_frame c.linesPrinted hne]
            exact List.foldl_append
          have hsame : frames percents (printCall percents c call) calls =
              frames percents c calls := by
            apply frames_congr
            rw [hcall]
            rfl
          rw [hsame, hcall, hframes, List.map_cons, Terminal.redraws, Terminal.feed_append,
            ← hscreen, List.length_map]

/-- A collector that has printed nothing. -/
def fresh (pid : ℤ) (startTime : F) : StatsCollector F where
  pid := pid
  jsonMode := false
  startTime := startTime

theorem printableFrames (hformat : FormatsPrintably F) (percents : Percents F)
    (c : StatsCollector F) (calls : List (ConsoleCall F)) :
    Terminal.PrintableFrames ((frames percents c calls).map (·.map String.toList)) := by
  intro lines hmem
  obtain ⟨frame, hframe, rfl⟩ := List.mem_map.mp hmem
  obtain ⟨call, -, hcall⟩ := List.mem_filterMap.mp hframe
  cases hlines : (c.found call).frameLines percents call.elapsed with
  | error e =>
      rw [hlines] at hcall
      cases hcall
  | ok drawn =>
      rw [hlines] at hcall
      obtain rfl := Option.some.inj hcall
      obtain ⟨hne, hprintable⟩ := printable_frameLines hformat hlines
      refine ⟨fun hnil => hne (List.map_eq_nil_iff.mp hnil), ?_⟩
      intro line hline
      obtain ⟨text, htext, rfl⟩ := List.mem_map.mp hline
      exact hprintable text htext

theorem getD_map_toList (lines : List String) (i : ℕ) :
    (lines.map String.toList)[i]?.getD [] = (lines[i]?.getD "").toList := by
  rw [List.getElem?_map]
  cases lines[i]? with
  | none => rfl
  | some line => rfl

/-- The latest frame stands over what the first one found only if there was none before. -/
theorem screen_eq_showing (hformat : FormatsPrintably F) {percents : Percents F}
    {c : StatsCollector F} {calls : List (ConsoleCall F)} {t : Terminal}
    (hstream : c.stream = []) (hprinted : c.linesPrinted = 0) (hmode : t.mode = .ground)
    (hcol : t.col = 0) (hblank : t.BlankBelow) {earlier : List (List String)}
    {latest : List String} (hframes : frames percents c calls = earlier ++ [latest]) :
    screen t (printCalls percents c calls).stream =
      (if earlier = [] then t else t.cleared).showing (latest.map String.toList) := by
  have hprintable := printableFrames hformat percents c calls
  rw [hframes, List.map_append, List.map_singleton] at hprintable
  rw [screen_printCalls, hstream, hprinted, hframes, List.map_append, List.map_singleton]
  refine (Terminal.feed_redraws hmode hcol hblank hprintable).trans ?_
  simp only [List.map_eq_nil_iff]

/-- The first frame stands over what the first row held and over blank rows. -/
theorem rows_showing_first {t : Terminal} (hblank : t.BlankBelow) (lines : List String) (i : ℕ) :
    (t.showing (lines.map String.toList)).rows (t.row + i) = (lines[i]?.getD "").toList ++
      if i = 0 then (t.rows t.row).drop (lines[0]?.getD "").length else [] := by
  rw [t.rows_showing, getD_map_toList]
  cases i with
  | zero =>
      rw [if_pos rfl, overlay, String.length_toList]
      rfl
  | succ i =>
      have hrow : t.rows (t.row + (i + 1)) = [] :=
        hblank _ (Nat.lt_add_of_pos_right (Nat.succ_pos i))
      rw [if_neg (Nat.succ_ne_zero i), overlay, hrow, List.drop_nil]

/-- A later frame leaves the rows above it alone as the first one did. -/
theorem rows_showing_cleared_of_lt {t : Terminal} (lines : List (List Char)) {i : ℕ}
    (hi : i < t.row) : (t.cleared.showing lines).rows i = t.rows i := by
  have hcleared : (t.cleared.showing lines).rows i = t.cleared.rows i :=
    Terminal.rows_showing_of_lt hi
  exact hcleared.trans (Function.update_of_ne (Nat.ne_of_lt hi) _ _)

/-- On a terminal with nothing below the cursor, the rows from the first one on hold the
lines of the latest frame and the cursor is in the row behind them.  The first row keeps
what it held beyond its first headline until a second frame is drawn. -/
theorem screen_shows_latest (hformat : FormatsPrintably F) (percents : Percents F) (pid : ℤ)
    (startTime : F) (calls : List (ConsoleCall F)) (rows : ℕ → List Char) (row : ℕ)
    (hblank : ∀ i, row < i → rows i = []) :
    let t : Terminal := { rows := rows, row := row, col := 0 }
    let c := fresh pid startTime
    let after := screen t (printCalls percents c calls).stream
    (frames percents c calls = [] → after = t) ∧
      ∀ earlier latest, frames percents c calls = earlier ++ [latest] →
        after.row = row + latest.length ∧ after.col = 0 ∧
          (∀ i < row, after.rows i = rows i) ∧
          ∀ i, after.rows (row + i) = (latest[i]?.getD "").toList ++
            if i = 0 ∧ earlier = [] then (rows row).drop (latest[0]?.getD "").length else [] := by
  intro t c after
  constructor
  · intro hnil
    change screen t (printCalls percents c calls).stream = t
    rw [screen_printCalls, hnil]
    rfl
  · intro earlier latest hframes
    have hshown : after = (if earlier = [] then t else t.cleared).showing
        (latest.map String.toList) :=
      @screen_eq_showing F _ hformat percents c calls t rfl rfl rfl rfl hblank earlier latest
        hframes
    by_cases hearlier : earlier = []
    · rw [if_pos hearlier] at hshown
      rw [hshown]
      refine ⟨by simp [Terminal.showing, t], rfl, fun i hi => Terminal.rows_showing_of_lt hi, ?_⟩
      intro i
      simp only [hearlier, and_true]
      exact rows_showing_first (t := t) hblank latest i
    · rw [if_neg hearlier] at hshown
      rw [hshown]
      refine ⟨by simp [Terminal.showing, Terminal.cleared, Terminal.setRow, t], rfl, ?_, ?_⟩
      · exact fun i hi => rows_showing_cleared_of_lt (t := t) _ hi
      · intro i
        rw [if_neg fun h => hearlier h.2, List.append_nil, ← getD_map_toList]
        exact Terminal.rows_showing_cleared (t := t) hblank _ i

/-! ## A float that is always zero -/

inductive ZeroFloat where
  | zero
  deriving Repr, DecidableEq

/-- `format(0.0, "width.digitsf")` -/
def formatZero (width digits : ℕ) : String :=
  let text := '0' :: if digits = 0 then [] else '.' :: List.replicate digits '0'
  String.ofList (List.replicate (width - text.length) ' ' ++ text)

instance : StatsRuntime ZeroFloat where
  ofLiteral _ := .zero
  reprFloat _ := "0.0"
  eqInt _ n := n == 0
  mulInt _ _ := .zero
  toInt _ := .ok 0
  divInt _ _ := .ok .zero
  round _ _ := .zero
  zero := .zero
  add _ _ := .zero
  sub _ _ := .zero
  lt _ _ := false
  le _ _ := true
  reprStr s := s
  sum _ := .zero
  divNat _ _ := .zero
  natDiv _ _ := .zero
  format width digits _ := formatZero width digits

theorem formatsPrintably_zeroFloat : FormatsPrintably ZeroFloat := by
  intro width digits x c hc
  have hzero : isPrintable '0' = true := by decide
  have hspace : isPrintable ' ' = true := by decide
  have hpoint : isPrintable '.' = true := by decide
  have hcases : c = ' ' ∨ c = '0' ∨ c = '.' := by
    simp only [StatsRuntime.format, formatZero, String.toList_ofList, List.mem_append,
      List.mem_replicate, List.mem_cons] at hc
    rcases hc with ⟨-, rfl⟩ | rfl | hc
    · simp
    · simp
    · split at hc
      · cases hc
      · rcases List.mem_cons.mp hc with rfl | hc
        · simp
        · simp [(List.mem_replicate.mp hc).2]
  rcases hcases with rfl | rfl | rfl
  · exact hspace
  · exact hzero
  · exact hpoint

def zeroPercents : Percents ZeroFloat where
  p50 := .zero
  p90 := .zero
  p95 := .zero
  p99 := .zero

/-- No events, then one, then the warning. -/
def zeroCalls : List (ConsoleCall ZeroFloat) :=
  [⟨[], false, .zero⟩, ⟨[.zero], false, .zero⟩, ⟨[.zero, .zero], true, .zero⟩]

theorem screen_shows_latest_zero :
    ∃ earlier latest,
      frames zeroPercents (fresh 1 ZeroFloat.zero) zeroCalls = earlier ++ [latest] ∧
        latest.length = 11 ∧
        (screen { rows := fun _ => [], row := 5, col := 0 }
          (printCalls zeroPercents (fresh 1 ZeroFloat.zero) zeroCalls).stream).row = 16 := by
  have hlatest := (screen_shows_latest formatsPrintably_zeroFloat zeroPercents 1 ZeroFloat.zero
    zeroCalls (fun _ => []) 5 fun _ _ => rfl).2
  refine ⟨[_, _], _, rfl, by decide, ?_⟩
  exact (hlatest [_, _] _ rfl).1

def emptyCall : ConsoleCall ZeroFloat where
  durations := []
  warned := false
  elapsed := .zero

def emptyFrame : List String :=
  ["blocksnoop stats — PID 1 — 0.0s — 0 events (0/s)", "", "  min           ---ms",
    "  avg           ---ms", "  p50           ---ms", "  p90           ---ms",
    "  p95           ---ms", "  p99           ---ms", "  max           ---ms"]

theorem frames_emptyCall :
    frames zeroPercents (fresh 1 ZeroFloat.zero) [emptyCall] = [] ++ [emptyFrame] := by
  decide

/-- A progress bar that ends in a carriage return. -/
def barRows (i : ℕ) : List Char :=
  if i = 0 then List.replicate 60 '=' else []

/-- The bar is longer than the headline that is drawn over it. -/
theorem exists_residue :
    ∃ (calls : List (ConsoleCall ZeroFloat)) (rows : ℕ → List Char) (row : ℕ)
      (latest : List String),
      (∀ i, row < i → rows i = []) ∧
        frames zeroPercents (fresh 1 ZeroFloat.zero) calls = [latest] ∧
        (screen { rows := rows, row := row, col := 0 }
          (printCalls zeroPercents (fresh 1 ZeroFloat.zero) calls).stream).rows row ≠
            (latest[0]?.getD "").toList := by
  have hblank : ∀ i, 0 < i → barRows i = [] := fun i hi => if_neg (Nat.ne_of_gt hi)
  refine ⟨[emptyCall], barRows, 0, emptyFrame, hblank, frames_emptyCall, ?_⟩
  have hbelow : Terminal.BlankBelow { rows := barRows, row := 0, col := 0 } := hblank
  rw [screen_eq_showing formatsPrintably_zeroFloat rfl rfl rfl rfl hbelow frames_emptyCall,
    if_pos rfl]
  have hrow := Terminal.rows_showing { rows := barRows, row := 0, col := 0 }
    (emptyFrame.map String.toList) 0
  intro hheadline
  have hlength := congrArg List.length (hrow.symm.trans hheadline)
  revert hlength
  decide

end StatsCollector

end Blocksnoop
