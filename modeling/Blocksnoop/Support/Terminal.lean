import Mathlib.Data.List.Basic
import Mathlib.Logic.Function.Basic
import Mathlib.Tactic

/-!
# A terminal

Rows of characters without an end to the right or below, and a cursor.  Text is written over
what stands at the cursor; a line end leads to the beginning of the next row.  Of the
control sequences, those that move the cursor up and erase in a row are followed.
-/

namespace Blocksnoop.Support

/-- How far a control sequence has been read. -/
inductive TerminalMode where
  | ground
  | escape
  | control (digits : List Char)
  deriving Repr, DecidableEq

structure Terminal where
  rows : ℕ → List Char
  row : ℕ
  col : ℕ
  mode : TerminalMode := .ground

/-- A character that takes a place in a row. -/
def isPrintable (c : Char) : Bool :=
  0x20 ≤ c.toNat && !(0x7F ≤ c.toNat && c.toNat < 0xA0)

/-- A line over what is in a row already. -/
def overlay (line old : List Char) : List Char :=
  line ++ old.drop line.length

/-- Lines over the rows from the given one on. -/
def paste (lines : List (List Char)) (row : ℕ) (rows : ℕ → List Char) (i : ℕ) : List Char :=
  if row ≤ i then overlay (lines[i - row]?.getD []) (rows i) else rows i

/-- Rows from the given one on are erased. -/
def wipe (count row : ℕ) (rows : ℕ → List Char) (i : ℕ) : List Char :=
  if row ≤ i ∧ i < row + count then [] else rows i

namespace Terminal

def setRow (t : Terminal) (text : List Char) : Terminal :=
  { t with rows := Function.update t.rows t.row text }

def put (t : Terminal) (c : Char) : Terminal :=
  let old := t.rows t.row
  let padded := old ++ List.replicate (t.col - old.length) ' '
  { t.setRow (padded.take t.col ++ c :: padded.drop (t.col + 1)) with col := t.col + 1 }

def newLine (t : Terminal) : Terminal :=
  { t with row := t.row + 1, col := 0 }

/-- From the cursor on, up to it, or the whole row. -/
def eraseInLine (t : Terminal) (n : ℕ) : Terminal :=
  let old := t.rows t.row
  if n = 0 then t.setRow (old.take t.col)
  else if n = 1 then t.setRow (overlay (List.replicate (t.col + 1) ' ') old)
  else t.setRow []

/-- The control sequence with the given parameter. -/
def control (t : Terminal) (digits : List Char) (final : Char) : Terminal :=
  let n := Nat.ofDigitChars 10 digits 0
  if final = 'A' then { t with row := t.row - max 1 n }
  else if final = 'K' then t.eraseInLine n
  else t

def step (t : Terminal) (c : Char) : Terminal :=
  match t.mode with
  | .ground =>
      if c = '\n' then t.newLine
      else if c = '\r' then { t with col := 0 }
      else if c = '\x1b' then { t with mode := .escape }
      else if isPrintable c then t.put c
      else t
  | .escape => { t with mode := if c = '[' then .control [] else .ground }
  | .control digits =>
      if c.isDigit then { t with mode := .control (digits ++ [c]) }
      else { t.control digits c with mode := .ground }

def feed (t : Terminal) (text : List Char) : Terminal :=
  text.foldl step t

def write (t : Terminal) (text : String) : Terminal :=
  t.feed text.toList

/-! ## Text -/

variable {t : Terminal}

theorem feed_append (t : Terminal) (text rest : List Char) :
    t.feed (text ++ rest) = (t.feed text).feed rest :=
  List.foldl_append

theorem feed_cons (t : Terminal) (c : Char) (rest : List Char) :
    t.feed (c :: rest) = (t.step c).feed rest :=
  rfl

theorem step_newLine (hmode : t.mode = .ground) :
    t.step '\n' = { t with row := t.row + 1, col := 0 } := by
  simp [step, hmode, newLine]

theorem step_printable {c : Char} (hmode : t.mode = .ground) (hc : isPrintable c = true) :
    t.step c = t.put c := by
  have hline : c ≠ '\n' := by
    rintro rfl
    exact absurd hc (by decide)
  have hreturn : c ≠ '\r' := by
    rintro rfl
    exact absurd hc (by decide)
  have hescape : c ≠ '\x1b' := by
    rintro rfl
    exact absurd hc (by decide)
  unfold step
  rw [hmode]
  dsimp only
  rw [if_neg hline, if_neg hreturn, if_neg hescape, if_pos hc]

/-- A character behind what has been written. -/
theorem put_eq {before after : List Char} (hrow : t.rows t.row = before ++ after)
    (hcol : t.col = before.length) (c : Char) :
    t.put c =
      { t with
        rows := Function.update t.rows t.row (before ++ c :: after.drop 1)
        col := before.length + 1 } := by
  have hpadding : before.length - (before ++ after).length = 0 := by simp
  have hdrop : (before ++ after).drop (before.length + 1) = after.drop 1 := by
    rw [← List.drop_drop, List.drop_left]
  unfold put setRow
  dsimp only
  rw [hrow, hcol, hpadding, List.replicate_zero, List.append_nil, List.take_left, hdrop]

/-- Text goes over what stands behind the cursor. -/
theorem feed_printable {before after text : List Char} (hmode : t.mode = .ground)
    (hrow : t.rows t.row = before ++ after) (hcol : t.col = before.length)
    (htext : ∀ c ∈ text, isPrintable c = true) :
    t.feed text =
      { t with
        rows := Function.update t.rows t.row (before ++ overlay text after)
        col := (before ++ text).length } := by
  induction text generalizing t before after with
  | nil =>
      have hrows : Function.update t.rows t.row (before ++ after) = t.rows := by
        rw [← hrow, Function.update_eq_self]
      simp [feed, overlay, hrows, ← hcol]
  | cons c text ih =>
      rw [feed_cons, step_printable hmode (htext c List.mem_cons_self), put_eq hrow hcol]
      have hrest := @ih
        { t with
          rows := Function.update t.rows t.row (before ++ c :: after.drop 1)
          col := before.length + 1 }
        (before ++ [c]) (after.drop 1) hmode (by simp) (by simp)
        (fun c hc => htext c (List.mem_cons_of_mem _ hc))
      rw [hrest]
      simp [overlay]

theorem feed_line {line : List Char} (hmode : t.mode = .ground) (hcol : t.col = 0)
    (hline : ∀ c ∈ line, isPrintable c = true) :
    t.feed (line ++ ['\n']) =
      { t with
        rows := Function.update t.rows t.row (overlay line (t.rows t.row))
        row := t.row + 1
        col := 0 } := by
  rw [feed_append, @feed_printable t [] _ line hmode (List.nil_append _).symm hcol hline,
    feed_cons, step_newLine]
  · simp [feed]
  · exact hmode

/-! ## Several rows -/

theorem paste_cons (line : List Char) (lines : List (List Char)) (row : ℕ)
    (rows : ℕ → List Char) :
    paste (line :: lines) row rows =
      paste lines (row + 1) (Function.update rows row (overlay line (rows row))) := by
  funext i
  unfold paste
  rcases lt_trichotomy i row with hlt | rfl | hgt
  · rw [if_neg (by omega), if_neg (by omega), Function.update_of_ne (by omega)]
  · rw [if_pos (le_refl i), if_neg (by omega), Function.update_self, Nat.sub_self]
    rfl
  · rw [if_pos (by omega), if_pos (by omega), Function.update_of_ne (by omega),
      show i - row = i - (row + 1) + 1 by omega]
    rfl

theorem paste_nil (row : ℕ) (rows : ℕ → List Char) : paste [] row rows = rows := by
  funext i
  simp [paste, overlay]

/-- A frame is written line by line. -/
theorem feed_lines {lines : List (List Char)} (hmode : t.mode = .ground) (hcol : t.col = 0)
    (hlines : ∀ line ∈ lines, ∀ c ∈ line, isPrintable c = true) :
    t.feed (lines.flatMap (· ++ ['\n'])) =
      { t with rows := paste lines t.row t.rows, row := t.row + lines.length, col := 0 } := by
  induction lines generalizing t with
  | nil =>
      obtain ⟨rows, row, col, mode⟩ := t
      obtain rfl : col = 0 := hcol
      simp [feed, paste_nil]
  | cons line lines ih =>
      rw [List.flatMap_cons, feed_append, feed_line hmode hcol (hlines line List.mem_cons_self)]
      have hrest := @ih
        { t with
          rows := Function.update t.rows t.row (overlay line (t.rows t.row))
          row := t.row + 1
          col := 0 }
        hmode rfl (fun line hline => hlines line (List.mem_cons_of_mem _ hline))
      rw [hrest, paste_cons]
      simp [Nat.add_comm, Nat.add_left_comm]

/-! ## Control sequences -/

theorem feed_digits {digits rest : List Char} {read : List Char}
    (hmode : t.mode = .control read) (hdigits : ∀ c ∈ digits, c.isDigit = true) :
    t.feed (digits ++ rest) = { t with mode := .control (read ++ digits) }.feed rest := by
  induction digits generalizing t read with
  | nil => simp [← hmode]
  | cons c digits ih =>
      have hstep : t.step c = { t with mode := .control (read ++ [c]) } := by
        unfold step
        rw [hmode]
        exact if_pos (hdigits c List.mem_cons_self)
      rw [List.cons_append, feed_cons, hstep,
        @ih { t with mode := .control (read ++ [c]) } (read ++ [c]) rfl
          (fun c hc => hdigits c (List.mem_cons_of_mem _ hc))]
      simp

theorem step_final {digits : List Char} {final : Char} (hmode : t.mode = .control digits)
    (hfinal : final.isDigit = false) :
    t.step final = { t.control digits final with mode := .ground } := by
  simp [step, hmode, hfinal]

/-- A control sequence with a decimal parameter. -/
theorem feed_control (hmode : t.mode = .ground) (n : ℕ) {final : Char}
    (hfinal : final.isDigit = false) (rest : List Char) :
    t.feed ('\x1b' :: '[' :: (Nat.toDigits 10 n ++ final :: rest)) =
      { { t with mode := .control (Nat.toDigits 10 n) }.control (Nat.toDigits 10 n) final with
        mode := .ground }.feed rest := by
  have hescape : t.step '\x1b' = { t with mode := .escape } := by simp [step, hmode]
  have hbracket : { t with mode := .escape }.step '[' = { t with mode := .control [] } := by
    simp [step]
  rw [feed_cons, hescape, feed_cons, hbracket, feed_digits rfl fun c hc =>
    Nat.isDigit_of_mem_toDigits (by decide) (by decide) hc, feed_cons, step_final rfl hfinal]
  rfl

/-- The code that moves the cursor up. -/
def cursorUp (n : ℕ) : List Char :=
  '\x1b' :: '[' :: (Nat.toDigits 10 n ++ ['A'])

theorem feed_cursorUp (hmode : t.mode = .ground) {n : ℕ} (hn : 0 < n) (rest : List Char) :
    t.feed (cursorUp n ++ rest) = { t with row := t.row - n }.feed rest := by
  have htext : cursorUp n ++ rest = '\x1b' :: '[' :: (Nat.toDigits 10 n ++ 'A' :: rest) := by
    simp [cursorUp]
  rw [htext, feed_control hmode n (by decide)]
  have hmax : max 1 n = n := max_eq_right hn
  simp [control, Nat.ofDigitChars_ten_toDigits, hmax, ← hmode]

/-- The code that erases a row. -/
def eraseLine : List Char :=
  ['\x1b', '[', '2', 'K']

theorem feed_eraseLine (hmode : t.mode = .ground) (rest : List Char) :
    t.feed (eraseLine ++ rest) =
      { t with rows := Function.update t.rows t.row [] }.feed rest := by
  have htwo : eraseLine ++ rest = '\x1b' :: '[' :: (Nat.toDigits 10 2 ++ 'K' :: rest) := rfl
  rw [htwo, feed_control hmode 2 (by decide)]
  simp [control, eraseInLine, setRow, Nat.ofDigitChars_ten_toDigits, ← hmode]

theorem wipe_succ (count row : ℕ) (rows : ℕ → List Char) :
    wipe (count + 1) row rows = wipe count (row + 1) (Function.update rows row []) := by
  funext i
  unfold wipe
  by_cases hi : i = row
  · subst hi
    rw [if_pos (by omega), if_neg (by omega), Function.update_self]
  · rw [Function.update_of_ne hi]
    exact if_congr (by omega) rfl rfl

/-- Rows are erased from the cursor on. -/
theorem feed_eraseLines (hmode : t.mode = .ground) (hcol : t.col = 0) (count : ℕ)
    (rest : List Char) :
    t.feed ((List.replicate count (eraseLine ++ ['\n'])).flatten ++ rest) =
      { t with rows := wipe count t.row t.rows, row := t.row + count }.feed rest := by
  induction count generalizing t with
  | zero =>
      have hwipe : wipe 0 t.row t.rows = t.rows := by
        funext i
        exact if_neg (by omega)
      simp [hwipe]
  | succ count ih =>
      have hline : { t with rows := Function.update t.rows t.row [] }.step '\n' =
          { t with rows := Function.update t.rows t.row [], row := t.row + 1 } := by
        rw [@step_newLine { t with rows := Function.update t.rows t.row [] } hmode, hcol]
      have hrest := @ih { t with rows := Function.update t.rows t.row [], row := t.row + 1 }
        hmode hcol
      rw [List.replicate_succ, List.flatten_cons, List.append_assoc, List.append_assoc,
        feed_eraseLine hmode, List.singleton_append, feed_cons, hline, hrest, wipe_succ]
      simp [Nat.add_comm, Nat.add_left_comm]

/-! ## Redrawing in place -/

/-- What erases a frame of some lines above the cursor and draws the next one. -/
def redraw (printed : ℕ) (lines : List (List Char)) : List Char :=
  (if printed = 0 then []
    else cursorUp printed ++ (List.replicate printed (eraseLine ++ ['\n'])).flatten ++
      cursorUp printed) ++
    lines.flatMap (· ++ ['\n'])

/-- The frame begins where the one before began. -/
theorem feed_redraw {printed : ℕ} {lines : List (List Char)} (hmode : t.mode = .ground)
    (hcol : t.col = 0) (hprinted : printed ≤ t.row)
    (hlines : ∀ line ∈ lines, ∀ c ∈ line, isPrintable c = true) :
    t.feed (redraw printed lines) =
      { t with
        rows := paste lines (t.row - printed) (wipe printed (t.row - printed) t.rows)
        row := t.row - printed + lines.length } := by
  by_cases hzero : printed = 0
  · have hwipe : wipe 0 t.row t.rows = t.rows := by
      funext i
      exact if_neg (by omega)
    rw [redraw, if_pos hzero, List.nil_append, feed_lines hmode hcol hlines, hzero,
      Nat.sub_zero, hwipe, hcol]
  · have hpos : 0 < printed := Nat.pos_of_ne_zero hzero
    have hback : t.row - printed + printed - printed = t.row - printed := by omega
    have herase := @feed_eraseLines { t with row := t.row - printed } hmode hcol printed
      (cursorUp printed ++ lines.flatMap (· ++ ['\n']))
    have hup := @feed_cursorUp
      { t with
        rows := wipe printed (t.row - printed) t.rows
        row := t.row - printed + printed }
      hmode printed hpos (lines.flatMap (· ++ ['\n']))
    rw [redraw, if_neg hzero, List.append_assoc, List.append_assoc, feed_cursorUp hmode hpos,
      herase, hup, hback]
    have hframe := @feed_lines
      { t with rows := wipe printed (t.row - printed) t.rows, row := t.row - printed } lines
      hmode hcol hlines
    rw [hframe, hcol]

/-- The terminal with a frame in its rows from the cursor on. -/
def showing (t : Terminal) (lines : List (List Char)) : Terminal :=
  { t with rows := paste lines t.row t.rows, row := t.row + lines.length }

/-- The terminal without the text in the row of the cursor. -/
def cleared (t : Terminal) : Terminal :=
  t.setRow []

theorem rows_cleared (t : Terminal) : t.cleared.rows = Function.update t.rows t.row [] :=
  rfl

theorem cleared_cleared (t : Terminal) : t.cleared.cleared = t.cleared := by
  simp [cleared, setRow]

/-- Nothing stands below the cursor. -/
def BlankBelow (t : Terminal) : Prop :=
  ∀ i, t.row < i → t.rows i = []

theorem BlankBelow.cleared (h : t.BlankBelow) : t.cleared.BlankBelow := by
  intro i hi
  have hne : i ≠ t.row := Nat.ne_of_gt hi
  exact (Function.update_of_ne hne _ _).trans (h i hi)

theorem wipe_paste (h : t.BlankBelow) {lines : List (List Char)} (hlines : lines ≠ []) :
    wipe lines.length t.row (paste lines t.row t.rows) = t.cleared.rows := by
  have hpos : 0 < lines.length := List.length_pos_iff.mpr hlines
  funext i
  rw [rows_cleared]
  unfold wipe paste
  rcases lt_trichotomy i t.row with hlt | rfl | hgt
  · rw [if_neg (by omega), if_neg (by omega), Function.update_of_ne (by omega)]
  · rw [if_pos (by omega), Function.update_self]
  · rw [Function.update_of_ne (by omega), h i hgt]
    split
    · rfl
    · rw [if_pos (by omega), List.getElem?_eq_none (by omega)]
      rfl

/-- A frame gives way to the next one, and nothing is left of the text before. -/
theorem feed_redraw_showing {lines next : List (List Char)} (hmode : t.mode = .ground)
    (hcol : t.col = 0) (hblank : t.BlankBelow) (hlines : lines ≠ [])
    (hnext : ∀ line ∈ next, ∀ c ∈ line, isPrintable c = true) :
    (t.showing lines).feed (redraw lines.length next) = t.cleared.showing next := by
  have hredraw := @feed_redraw (t.showing lines) lines.length next hmode hcol
    (Nat.le_add_left _ _) hnext
  have hrow : (t.showing lines).row - lines.length = t.row := Nat.add_sub_cancel _ _
  have hrows : wipe lines.length t.row (t.showing lines).rows = t.cleared.rows :=
    wipe_paste hblank hlines
  rw [hredraw, hrow, hrows]
  rfl

/-- The frames are drawn one after the other. -/
def redraws : ℕ → List (List (List Char)) → List Char
  | _, [] => []
  | printed, lines :: frames => redraw printed lines ++ redraws lines.length frames

/-- Frames that are made of printable lines, at least one each. -/
def PrintableFrames (frames : List (List (List Char))) : Prop :=
  ∀ lines ∈ frames, lines ≠ [] ∧ ∀ line ∈ lines, ∀ c ∈ line, isPrintable c = true

/-- Only the last of several frames is to be seen, over nothing. -/
theorem feed_redraws_showing {lines : List (List Char)} {frames : List (List (List Char))}
    (hmode : t.mode = .ground) (hcol : t.col = 0) (hblank : t.BlankBelow) (hlines : lines ≠ [])
    (hframes : PrintableFrames frames) :
    (t.showing lines).feed (redraws lines.length frames) =
      frames.getLast?.elim (t.showing lines) t.cleared.showing := by
  induction frames generalizing t lines with
  | nil => rfl
  | cons next frames ih =>
      obtain ⟨hne, hnext⟩ := hframes next List.mem_cons_self
      rw [redraws, feed_append, feed_redraw_showing hmode hcol hblank hlines hnext,
        @ih t.cleared next hmode hcol hblank.cleared hne
          (fun lines hmem => hframes lines (List.mem_cons_of_mem _ hmem)), cleared_cleared]
      cases frames with
      | nil => rfl
      | cons other frames =>
          rw [List.getLast?_cons_cons]
          cases hlast : (other :: frames).getLast? with
          | none => cases List.getLast?_eq_none_iff.mp hlast
          | some latest => rfl

/-- The first frame is drawn over what stands in its rows. -/
theorem feed_redraw_zero {lines : List (List Char)} (hmode : t.mode = .ground)
    (hcol : t.col = 0) (hlines : ∀ line ∈ lines, ∀ c ∈ line, isPrintable c = true) :
    t.feed (redraw 0 lines) = t.showing lines := by
  rw [redraw, if_pos rfl, List.nil_append, feed_lines hmode hcol hlines, showing, hcol]

/-- Drawing erases what stood in the first row as soon as there are two frames. -/
theorem feed_redraws {earlier : List (List (List Char))} {latest : List (List Char)}
    (hmode : t.mode = .ground) (hcol : t.col = 0) (hblank : t.BlankBelow)
    (hframes : PrintableFrames (earlier ++ [latest])) :
    t.feed (redraws 0 (earlier ++ [latest])) =
      (if earlier = [] then t else t.cleared).showing latest := by
  cases earlier with
  | nil =>
      have hlatest := (hframes latest (by simp)).2
      rw [if_pos rfl, List.nil_append, redraws, redraws, List.append_nil,
        feed_redraw_zero hmode hcol hlatest]
  | cons first earlier =>
      obtain ⟨hne, hfirst⟩ := hframes first (by simp)
      have hrest : PrintableFrames (earlier ++ [latest]) :=
        fun lines hmem => hframes lines (List.mem_cons_of_mem _ hmem)
      rw [if_neg (List.cons_ne_nil _ _), List.cons_append, redraws, feed_append,
        feed_redraw_zero hmode hcol hfirst,
        feed_redraws_showing hmode hcol hblank hne hrest, List.getLast?_concat]
      rfl

theorem rows_showing (t : Terminal) (lines : List (List Char)) (i : ℕ) :
    (t.showing lines).rows (t.row + i) =
      overlay (lines[i]?.getD []) (t.rows (t.row + i)) := by
  unfold showing paste
  dsimp only
  rw [if_pos (Nat.le_add_right _ _), Nat.add_sub_cancel_left]

theorem rows_showing_of_lt {lines : List (List Char)} {i : ℕ} (hi : i < t.row) :
    (t.showing lines).rows i = t.rows i := by
  unfold showing paste
  dsimp only
  rw [if_neg (by omega)]

theorem rows_cleared_add (h : t.BlankBelow) (i : ℕ) : t.cleared.rows (t.row + i) = [] := by
  cases i with
  | zero => exact Function.update_self _ _ _
  | succ i => exact h.cleared _ (Nat.lt_add_of_pos_right (Nat.succ_pos i))

/-- Where nothing stood, a frame is all that is to be seen. -/
theorem rows_showing_cleared (h : t.BlankBelow) (lines : List (List Char)) (i : ℕ) :
    (t.cleared.showing lines).rows (t.row + i) = lines[i]?.getD [] := by
  have hrows := t.cleared.rows_showing lines i
  have hblank : t.cleared.rows (t.cleared.row + i) = [] := rows_cleared_add h i
  rw [hblank, overlay, List.drop_nil, List.append_nil] at hrows
  exact hrows

end Terminal

end Blocksnoop.Support
