import Mathlib.Data.List.TakeWhile
import Mathlib.Tactic

/-!
# JSON texts

A reader for JSON texts that accepts and rejects what the standard `json`
module of Python does: white space is allowed around every token, a string may
not hold a raw control character, a number is an `int` exactly when it has no
fraction and no exponent, and `NaN` and `Infinity` are numbers.  The fractional
literals are kept as text; their numeric value is a matter of the floats of the
language that reads them.

The second half is the compact writer.  `loads_render` is the round trip: a
written value is read back as itself.
-/

namespace Blocksnoop.Support

/-- A JSON value.  The members of an object stand in the order of the text. -/
inductive Json where
  | null
  | bool (b : Bool)
  | int (i : ℤ)
  | float (literal : String)
  | str (s : String)
  | arr (items : List Json)
  | obj (members : List (String × Json))
  deriving Repr, Inhabited

/-- Why a text is not read: it is not JSON, or one of its integers has more
digits than the interpreter converts. -/
inductive LoadsError where
  | jsonDecodeError
  | valueError
  deriving Repr, DecidableEq

namespace Json

/-- The value under a key; of two members with one key the later one counts. -/
def get (members : List (String × Json)) (key : String) : Option Json :=
  members.reverse.lookup key

/-! ## Reading -/

def isSpace (c : Char) : Bool :=
  c == ' ' || c == '\t' || c == '\n' || c == '\r'

def skipSpace (cs : List Char) : List Char :=
  cs.dropWhile isSpace

/-- The longest integer text that is converted (`sys.int_info`). -/
def maxStrDigits : ℕ := 4300

def hexValue (c : Char) : Option ℕ :=
  if c.isDigit then some (c.toNat - '0'.toNat)
  else if 'a' ≤ c ∧ c ≤ 'f' then some (c.toNat - 'a'.toNat + 10)
  else if 'A' ≤ c ∧ c ≤ 'F' then some (c.toNat - 'A'.toNat + 10)
  else none

def hexValue4 (a b c d : Char) : Option ℕ := do
  let a ← hexValue a
  let b ← hexValue b
  let c ← hexValue c
  let d ← hexValue d
  return ((a * 16 + b) * 16 + c) * 16 + d

/-- The character of a code point; a lone surrogate, which is no character,
becomes the replacement character. -/
def codePoint (n : ℕ) : Char :=
  if n.isValidChar then Char.ofNat n else '\uFFFD'

def simpleEscape (c : Char) : Option Char :=
  if c = '"' then some '"'
  else if c = '\\' then some '\\'
  else if c = '/' then some '/'
  else if c = 'b' then some (Char.ofNat 8)
  else if c = 'f' then some (Char.ofNat 12)
  else if c = 'n' then some '\n'
  else if c = 'r' then some '\r'
  else if c = 't' then some '\t'
  else none

/-- The body of a string up to its closing quote.  An escape `\u` gives a code
unit, everything else a character. -/
def scanUnits : List Char → Except LoadsError (List (Char ⊕ ℕ) × List Char)
  | '"' :: rest => .ok ([], rest)
  | '\\' :: 'u' :: a :: b :: c :: d :: rest =>
      match hexValue4 a b c d with
      | none => .error .jsonDecodeError
      | some n => (scanUnits rest).map fun p => (.inr n :: p.1, p.2)
  | '\\' :: c :: rest =>
      match simpleEscape c with
      | none => .error .jsonDecodeError
      | some c' => (scanUnits rest).map fun p => (.inl c' :: p.1, p.2)
  | c :: rest =>
      if c = '\\' ∨ c.toNat < 0x20 then .error .jsonDecodeError
      else (scanUnits rest).map fun p => (.inl c :: p.1, p.2)
  | [] => .error .jsonDecodeError

/-- Two escapes in a row that form a surrogate pair are one character. -/
def joinUnits : List (Char ⊕ ℕ) → List Char
  | .inr high :: .inr low :: rest =>
      if 0xD800 ≤ high ∧ high ≤ 0xDBFF ∧ 0xDC00 ≤ low ∧ low ≤ 0xDFFF then
        codePoint (0x10000 + (high - 0xD800) * 0x400 + (low - 0xDC00)) ::
          joinUnits rest
      else codePoint high :: joinUnits (.inr low :: rest)
  | .inr n :: rest => codePoint n :: joinUnits rest
  | .inl c :: rest => c :: joinUnits rest
  | [] => []

def scanString (cs : List Char) : Except LoadsError (List Char × List Char) :=
  (scanUnits cs).map fun p => (joinUnits p.1, p.2)

/-- The digits of an integer: a lone zero, or a run that starts with another
digit. -/
def scanDigits : List Char → Option (List Char × List Char)
  | '0' :: rest => some (['0'], rest)
  | cs =>
      match cs.takeWhile Char.isDigit with
      | [] => none
      | digits => some (digits, cs.dropWhile Char.isDigit)

/-- A fraction, when a point is followed by a digit. -/
def scanFraction : List Char → List Char × List Char
  | '.' :: cs =>
      match cs.takeWhile Char.isDigit with
      | [] => ([], '.' :: cs)
      | digits => ('.' :: digits, cs.dropWhile Char.isDigit)
  | cs => ([], cs)

/-- An exponent, when the mark is followed by an optional sign and a digit. -/
def scanExponent : List Char → List Char × List Char
  | mark :: cs =>
      if mark = 'e' ∨ mark = 'E' then
        let sign := (cs.take 1).filter fun c => c == '+' || c == '-'
        let digits := (cs.drop sign.length).takeWhile Char.isDigit
        if digits = [] then ([], mark :: cs)
        else (mark :: sign ++ digits,
          (cs.drop sign.length).dropWhile Char.isDigit)
      else ([], mark :: cs)
  | [] => ([], [])

/-- A number after its sign. -/
def scanNumber (negative : Bool) (cs : List Char) :
    Except LoadsError (Json × List Char) :=
  match scanDigits cs with
  | none => .error .jsonDecodeError
  | some (digits, rest) =>
      let (fraction, rest) := scanFraction rest
      let (exponent, rest) := scanExponent rest
      if fraction = [] ∧ exponent = [] then
        if maxStrDigits < digits.length then .error .valueError
        else
          let value : ℤ := Nat.ofDigitChars 10 digits 0
          .ok (.int (if negative then -value else value), rest)
      else
        let sign := if negative then ['-'] else []
        .ok (.float (String.ofList (sign ++ digits ++ fraction ++ exponent)), rest)

mutual

/-- One value at the head of the text.  The first argument bounds the nesting;
the length of the text is enough. -/
def scanOnce : ℕ → List Char → Except LoadsError (Json × List Char)
  | 0, _ => .error .jsonDecodeError
  | _ + 1, '"' :: cs =>
      (scanString cs).map fun p => (.str (String.ofList p.1), p.2)
  | fuel + 1, '{' :: cs =>
      match skipSpace cs with
      | '}' :: rest => .ok (.obj [], rest)
      | rest => (scanMembers fuel rest).map fun p => (.obj p.1, p.2)
  | fuel + 1, '[' :: cs =>
      match skipSpace cs with
      | ']' :: rest => .ok (.arr [], rest)
      | rest => (scanItems fuel rest).map fun p => (.arr p.1, p.2)
  | _ + 1, 'n' :: 'u' :: 'l' :: 'l' :: rest => .ok (.null, rest)
  | _ + 1, 't' :: 'r' :: 'u' :: 'e' :: rest => .ok (.bool true, rest)
  | _ + 1, 'f' :: 'a' :: 'l' :: 's' :: 'e' :: rest => .ok (.bool false, rest)
  | _ + 1, 'N' :: 'a' :: 'N' :: rest => .ok (.float "NaN", rest)
  | _ + 1, 'I' :: 'n' :: 'f' :: 'i' :: 'n' :: 'i' :: 't' :: 'y' :: rest =>
      .ok (.float "Infinity", rest)
  | _ + 1, '-' :: 'I' :: 'n' :: 'f' :: 'i' :: 'n' :: 'i' :: 't' :: 'y' :: rest =>
      .ok (.float "-Infinity", rest)
  | _ + 1, '-' :: cs => scanNumber true cs
  | _ + 1, cs => scanNumber false cs

/-- The items of an array up to its closing bracket. -/
def scanItems : ℕ → List Char → Except LoadsError (List Json × List Char)
  | 0, _ => .error .jsonDecodeError
  | fuel + 1, cs =>
      match scanOnce fuel cs with
      | .error e => .error e
      | .ok (item, rest) =>
          match skipSpace rest with
          | ']' :: rest => .ok ([item], rest)
          | ',' :: rest =>
              (scanItems fuel (skipSpace rest)).map fun p => (item :: p.1, p.2)
          | _ => .error .jsonDecodeError

/-- The members of an object up to its closing brace. -/
def scanMembers : ℕ → List Char → Except LoadsError (List (String × Json) × List Char)
  | fuel + 1, '"' :: cs =>
      match scanString cs with
      | .error e => .error e
      | .ok (key, rest) =>
          match skipSpace rest with
          | ':' :: rest =>
              match scanOnce fuel (skipSpace rest) with
              | .error e => .error e
              | .ok (value, rest) =>
                  match skipSpace rest with
                  | '}' :: rest => .ok ([(String.ofList key, value)], rest)
                  | ',' :: rest =>
                      (scanMembers fuel (skipSpace rest)).map fun p =>
                        ((String.ofList key, value) :: p.1, p.2)
                  | _ => .error .jsonDecodeError
          | _ => .error .jsonDecodeError
  | _, _ => .error .jsonDecodeError

end

/-- The value of a whole text: one value with white space around it. -/
def loads (text : String) : Except LoadsError Json :=
  let cs := text.toList
  match scanOnce (cs.length + 1) (skipSpace cs) with
  | .error e => .error e
  | .ok (value, rest) =>
      if skipSpace rest = [] then .ok value else .error .jsonDecodeError

/-! ## Writing -/

def escapeChar (c : Char) : List Char :=
  if c = '"' then ['\\', '"']
  else if c = '\\' then ['\\', '\\']
  else if c.toNat < 0x20 then
    ['\\', 'u', '0', '0', Nat.digitChar (c.toNat / 16), Nat.digitChar (c.toNat % 16)]
  else [c]

def renderString (s : String) : List Char :=
  '"' :: (s.toList.flatMap escapeChar ++ ['"'])

def renderInt (i : ℤ) : List Char :=
  if i < 0 then '-' :: Nat.toDigits 10 i.natAbs else Nat.toDigits 10 i.natAbs

mutual

/-- The compact text of a value, without white space. -/
def render : Json → List Char
  | .null => ['n', 'u', 'l', 'l']
  | .bool true => ['t', 'r', 'u', 'e']
  | .bool false => ['f', 'a', 'l', 's', 'e']
  | .int i => renderInt i
  | .float literal => literal.toList
  | .str s => renderString s
  | .arr items => '[' :: (renderItems items ++ [']'])
  | .obj members => '{' :: (renderMembers members ++ ['}'])

def renderItems : List Json → List Char
  | [] => []
  | [item] => render item
  | item :: next :: items => render item ++ ',' :: renderItems (next :: items)

def renderMembers : List (String × Json) → List Char
  | [] => []
  | [(key, value)] => renderString key ++ ':' :: render value
  | (key, value) :: next :: members =>
      renderString key ++ ':' :: (render value ++ ',' :: renderMembers (next :: members))

end

mutual

/-- The values whose text is read back as themselves: no float, and every
integer within the digit limit. -/
def Plain : Json → Prop
  | .null => True
  | .bool _ => True
  | .int i => (Nat.toDigits 10 i.natAbs).length ≤ maxStrDigits
  | .float _ => False
  | .str _ => True
  | .arr items => PlainItems items
  | .obj members => PlainMembers members

def PlainItems : List Json → Prop
  | [] => True
  | item :: items => Plain item ∧ PlainItems items

def PlainMembers : List (String × Json) → Prop
  | [] => True
  | (_, value) :: members => Plain value ∧ PlainMembers members

end

/-! ## The round trip -/

theorem hexValue_digitChar {d : ℕ} (hd : d < 16) :
    hexValue (Nat.digitChar d) = some d := by
  revert d
  decide

theorem codePoint_toNat (c : Char) : codePoint c.toNat = c := by
  have hvalid : c.toNat.isValidChar := c.valid
  simp [codePoint, hvalid]

/-- The unit that the escaped form of a character is read as. -/
def unitOf (c : Char) : Char ⊕ ℕ :=
  if c ≠ '"' ∧ c ≠ '\\' ∧ c.toNat < 0x20 then .inr c.toNat else .inl c

theorem scanUnits_escapeChar (c : Char) (rest : List Char) :
    scanUnits (escapeChar c ++ rest) =
      (scanUnits rest).map fun p => (unitOf c :: p.1, p.2) := by
  by_cases hquote : c = '"'
  · subst hquote
    simp [escapeChar, unitOf, scanUnits, simpleEscape]
  by_cases hback : c = '\\'
  · subst hback
    simp [escapeChar, unitOf, scanUnits, simpleEscape]
  by_cases hcontrol : c.toNat < 0x20
  · have hhigh : hexValue (Nat.digitChar (c.toNat / 16)) = some (c.toNat / 16) :=
      hexValue_digitChar (by omega)
    have hlow : hexValue (Nat.digitChar (c.toNat % 16)) = some (c.toNat % 16) :=
      hexValue_digitChar (by omega)
    have hzero : hexValue '0' = some 0 := by decide
    have hvalue : hexValue4 '0' '0' (Nat.digitChar (c.toNat / 16))
        (Nat.digitChar (c.toNat % 16)) = some c.toNat := by
      simp only [hexValue4, hhigh, hlow, hzero, Option.bind_eq_bind, Option.bind_some,
        Option.pure_def, Option.some.injEq]
      omega
    simp [escapeChar, unitOf, hquote, hback, hcontrol, scanUnits, hvalue]
  · simp [escapeChar, unitOf, hquote, hback, hcontrol, scanUnits]

theorem scanUnits_flatMap_escapeChar (cs rest : List Char) :
    scanUnits (cs.flatMap escapeChar ++ '"' :: rest) =
      .ok (cs.map unitOf, rest) := by
  induction cs with
  | nil => simp [scanUnits]
  | cons c cs ih =>
      rw [List.flatMap_cons, List.append_assoc, scanUnits_escapeChar, ih]
      rfl

theorem joinUnits_map_unitOf (cs : List Char) :
    joinUnits (cs.map unitOf) = cs := by
  induction cs with
  | nil => rfl
  | cons c cs ih =>
      rw [List.map_cons]
      by_cases hplain : c ≠ '"' ∧ c ≠ '\\' ∧ c.toNat < 0x20
      · have hunit : unitOf c = .inr c.toNat := by simp [unitOf, hplain]
        rw [hunit]
        cases hrest : cs.map unitOf with
        | nil =>
            rw [hrest] at ih
            simp [joinUnits, codePoint_toNat, ← ih]
        | cons u us =>
            rw [hrest] at ih
            have hlow : ¬ 0xD800 ≤ c.toNat := by omega
            cases u with
            | inl d => simp [joinUnits, codePoint_toNat, ← ih]
            | inr n => simp [joinUnits, hlow, codePoint_toNat, ← ih]
      · have hunit : unitOf c = .inl c := by simp [unitOf, hplain]
        rw [hunit, joinUnits, ih]

theorem scanString_renderString (s : String) (rest : List Char) :
    scanString (s.toList.flatMap escapeChar ++ '"' :: rest) =
      .ok (s.toList, rest) := by
  rw [scanString, scanUnits_flatMap_escapeChar]
  simp [Except.map, joinUnits_map_unitOf]

/-- What may follow a number without being taken for a part of it. -/
def EndsNumber (rest : List Char) : Prop :=
  ∀ c ∈ rest.head?, c.isDigit = false ∧ c ≠ '.' ∧ c ≠ 'e' ∧ c ≠ 'E'

theorem isDigit_of_mem_toDigits {n : ℕ} {c : Char}
    (hc : c ∈ Nat.toDigits 10 n) : c.isDigit = true :=
  Nat.isDigit_of_mem_toDigits (by decide) (by decide) hc

theorem takeWhile_toDigits_append (n : ℕ) {rest : List Char}
    (hrest : EndsNumber rest) :
    (Nat.toDigits 10 n ++ rest).takeWhile Char.isDigit = Nat.toDigits 10 n := by
  rw [List.takeWhile_append_of_pos fun c hc => isDigit_of_mem_toDigits hc]
  cases rest with
  | nil => simp
  | cons c rest => simp [(hrest c rfl).1]

theorem dropWhile_toDigits_append (n : ℕ) {rest : List Char}
    (hrest : EndsNumber rest) :
    (Nat.toDigits 10 n ++ rest).dropWhile Char.isDigit = rest := by
  rw [List.dropWhile_append_of_pos fun c hc => isDigit_of_mem_toDigits hc]
  cases rest with
  | nil => simp
  | cons c rest => simp [(hrest c rfl).1]

theorem toDigits_head_ne_zero {n : ℕ} (hn : 0 < n) :
    ∃ c cs, Nat.toDigits 10 n = c :: cs ∧ c ≠ '0' := by
  induction n using Nat.base_induction 10 (by decide) with
  | single m hm =>
      refine ⟨Nat.digitChar m, [], Nat.toDigits_of_lt_base hm, ?_⟩
      interval_cases m <;> decide
  | digit m k hk hm ih =>
      obtain ⟨c, cs, hcs, hc⟩ := ih hm
      refine ⟨c, cs ++ Nat.toDigits 10 k, ?_, hc⟩
      rw [← Nat.toDigits_append_toDigits (by decide) hm hk, hcs, List.cons_append]

theorem scanDigits_toDigits_append (n : ℕ) {rest : List Char}
    (hrest : EndsNumber rest) :
    scanDigits (Nat.toDigits 10 n ++ rest) = some (Nat.toDigits 10 n, rest) := by
  rcases Nat.eq_zero_or_pos n with rfl | hn
  · rfl
  · have htake := takeWhile_toDigits_append n hrest
    have hdrop := dropWhile_toDigits_append n hrest
    obtain ⟨c, cs, hcs, hc⟩ := toDigits_head_ne_zero hn
    rw [hcs] at htake hdrop ⊢
    rw [List.cons_append] at htake hdrop ⊢
    rw [scanDigits, htake, hdrop]
    exact fun _ h => hc (List.cons.inj h).1

theorem scanFraction_of_endsNumber {rest : List Char}
    (hrest : EndsNumber rest) : scanFraction rest = ([], rest) := by
  cases rest with
  | nil => rfl
  | cons c rest =>
      have hc := (hrest c rfl).2.1
      rw [scanFraction]
      exact fun _ h => hc (List.cons.inj h).1

theorem scanExponent_of_endsNumber {rest : List Char}
    (hrest : EndsNumber rest) : scanExponent rest = ([], rest) := by
  cases rest with
  | nil => rfl
  | cons c rest =>
      have hc := (hrest c rfl).2.2
      simp [scanExponent, hc.1, hc.2]

theorem scanNumber_toDigits_append (negative : Bool) {n : ℕ} {rest : List Char}
    (hlength : (Nat.toDigits 10 n).length ≤ maxStrDigits)
    (hrest : EndsNumber rest) :
    scanNumber negative (Nat.toDigits 10 n ++ rest) =
      .ok (.int (if negative then -(n : ℤ) else n), rest) := by
  rw [scanNumber, scanDigits_toDigits_append n hrest]
  simp [scanFraction_of_endsNumber hrest, scanExponent_of_endsNumber hrest,
    Nat.not_lt.mpr hlength]

theorem isDigit_cases {c : Char} (hc : c.isDigit = true) :
    c = '0' ∨ c = '1' ∨ c = '2' ∨ c = '3' ∨ c = '4' ∨ c = '5' ∨ c = '6' ∨
      c = '7' ∨ c = '8' ∨ c = '9' := by
  have hbounds : 48 ≤ c.toNat ∧ c.toNat ≤ 57 := by
    simpa [Char.isDigit, UInt32.le_iff_toNat_le] using hc
  simp only [← Char.toNat_inj, Char.reduceToNat]
  omega

theorem scanOnce_digit (fuel : ℕ) {c : Char} (cs : List Char)
    (hc : c.isDigit = true) :
    scanOnce (fuel + 1) (c :: cs) = scanNumber false (c :: cs) := by
  rcases isDigit_cases hc with
    rfl | rfl | rfl | rfl | rfl | rfl | rfl | rfl | rfl | rfl <;>
    simp [scanOnce]

theorem scanOnce_minus_digit (fuel : ℕ) {c : Char} (cs : List Char)
    (hc : c.isDigit = true) :
    scanOnce (fuel + 1) ('-' :: c :: cs) = scanNumber true (c :: cs) := by
  rcases isDigit_cases hc with
    rfl | rfl | rfl | rfl | rfl | rfl | rfl | rfl | rfl | rfl <;>
    simp [scanOnce]

theorem toDigits_eq_cons (n : ℕ) :
    ∃ c cs, Nat.toDigits 10 n = c :: cs ∧ c.isDigit = true := by
  cases h : Nat.toDigits 10 n with
  | nil => exact (Nat.toDigits_ne_nil h).elim
  | cons c cs =>
      exact ⟨c, cs, rfl, isDigit_of_mem_toDigits (n := n) (by simp [h])⟩

theorem scanOnce_renderInt (fuel : ℕ) {i : ℤ} {rest : List Char}
    (hlength : (Nat.toDigits 10 i.natAbs).length ≤ maxStrDigits)
    (hrest : EndsNumber rest) :
    scanOnce (fuel + 1) (renderInt i ++ rest) = .ok (.int i, rest) := by
  obtain ⟨c, cs, hcs, hc⟩ := toDigits_eq_cons i.natAbs
  by_cases hneg : i < 0
  · have hscan := scanNumber_toDigits_append true hlength hrest
    rw [hcs, List.cons_append] at hscan
    simp only [renderInt, hneg, if_true, hcs, List.cons_append]
    rw [scanOnce_minus_digit fuel _ hc, hscan]
    simp [abs_of_neg hneg]
  · have hscan := scanNumber_toDigits_append false hlength hrest
    rw [hcs, List.cons_append] at hscan
    simp only [renderInt, hneg, if_false, hcs, List.cons_append]
    rw [scanOnce_digit fuel _ hc, hscan]
    simp [abs_of_nonneg (not_lt.mp hneg)]

theorem render_eq_cons {value : Json} (hplain : Plain value) :
    ∃ c cs, render value = c :: cs ∧ isSpace c = false ∧ c ≠ ']' := by
  cases value with
  | null => exact ⟨_, _, rfl, by decide, by decide⟩
  | bool b => cases b <;> exact ⟨_, _, rfl, by decide, by decide⟩
  | int i =>
      obtain ⟨c, cs, hcs, hc⟩ := toDigits_eq_cons i.natAbs
      by_cases hneg : i < 0
      · exact ⟨'-', _, by simp [render, renderInt, hneg]; rfl, by decide, by decide⟩
      · refine ⟨c, cs, by simp [render, renderInt, hneg, hcs], ?_, ?_⟩ <;>
          rcases isDigit_cases hc with
            rfl | rfl | rfl | rfl | rfl | rfl | rfl | rfl | rfl | rfl <;> decide
  | float literal => exact hplain.elim
  | str s => exact ⟨'"', _, rfl, by decide, by decide⟩
  | arr items => exact ⟨'[', _, rfl, by decide, by decide⟩
  | obj members => exact ⟨'{', _, rfl, by decide, by decide⟩

theorem skipSpace_cons {c : Char} {cs : List Char} (hc : isSpace c = false) :
    skipSpace (c :: cs) = c :: cs := by
  simp [skipSpace, hc]

theorem skipSpace_render {value : Json} (hplain : Plain value) (rest : List Char) :
    skipSpace (render value ++ rest) = render value ++ rest := by
  obtain ⟨c, cs, hcs, hspace, -⟩ := render_eq_cons hplain
  rw [hcs, List.cons_append, skipSpace_cons hspace]

theorem endsNumber_cons {c : Char} {cs : List Char}
    (hc : c.isDigit = false ∧ c ≠ '.' ∧ c ≠ 'e' ∧ c ≠ 'E') :
    EndsNumber (c :: cs) := by
  intro d hd
  obtain rfl : c = d := by simpa using hd
  exact hc

theorem renderItems_eq_cons {item : Json} (items : List Json) (hplain : Plain item) :
    ∃ c cs, renderItems (item :: items) = c :: cs ∧ isSpace c = false ∧ c ≠ ']' := by
  obtain ⟨c, cs, hcs, hc⟩ := render_eq_cons hplain
  cases items with
  | nil => exact ⟨c, cs, by rw [renderItems, hcs], hc⟩
  | cons next items =>
      exact ⟨c, _, by rw [renderItems, hcs, List.cons_append], hc⟩

theorem renderMembers_eq_cons (key : String) (value : Json)
    (members : List (String × Json)) :
    ∃ cs, renderMembers ((key, value) :: members) = '"' :: cs := by
  cases members with
  | nil => exact ⟨_, rfl⟩
  | cons next members => exact ⟨_, rfl⟩

mutual

/-- A written value at the head of a text is read back, with fuel for its
length. -/
theorem scanOnce_render : ∀ (value : Json) (fuel : ℕ) (rest : List Char),
    Plain value → (render value).length ≤ fuel → EndsNumber rest →
      scanOnce fuel (render value ++ rest) = .ok (value, rest)
  | .null, fuel + 1, rest, _, _, _ => by simp [render, scanOnce]
  | .bool true, fuel + 1, rest, _, _, _ => by simp [render, scanOnce]
  | .bool false, fuel + 1, rest, _, _, _ => by simp [render, scanOnce]
  | .int i, fuel, rest, hplain, hfuel, hrest => by
      obtain ⟨c, cs, hcs, -⟩ := render_eq_cons hplain
      obtain ⟨fuel, rfl⟩ : ∃ k, fuel = k + 1 := by
        refine ⟨fuel - 1, ?_⟩
        rw [hcs, List.length_cons] at hfuel
        omega
      exact scanOnce_renderInt fuel hplain hrest
  | .float literal, _, _, hplain, _, _ => hplain.elim
  | .str s, fuel + 1, rest, _, _, _ => by
      simp only [render, renderString, List.cons_append, List.append_assoc]
      rw [scanOnce, List.nil_append, scanString_renderString]
      simp [Except.map]
  | .arr [], fuel + 1, rest, _, _, _ => by
      simp [render, renderItems, scanOnce, skipSpace, isSpace]
  | .arr (item :: items), fuel + 1, rest, hplain, hfuel, hrest => by
      have hitems := scanItems_renderItems item items fuel rest
        hplain (by simpa [render] using hfuel)
      obtain ⟨c, cs, hcs, hspace, hc⟩ := renderItems_eq_cons items hplain.1
      simp only [render, List.cons_append, List.append_assoc, List.nil_append]
      rw [hcs, List.cons_append] at hitems ⊢
      rw [scanOnce, skipSpace_cons hspace]
      simp [hc, hitems, Except.map]
  | .obj [], fuel + 1, rest, _, _, _ => by
      simp [render, renderMembers, scanOnce, skipSpace, isSpace]
  | .obj ((key, value) :: members), fuel + 1, rest, hplain, hfuel, hrest => by
      have hmembers := scanMembers_renderMembers key value members fuel rest
        hplain (by simpa [render] using hfuel)
      obtain ⟨cs, hcs⟩ := renderMembers_eq_cons key value members
      simp only [render, List.cons_append, List.append_assoc, List.nil_append]
      rw [hcs, List.cons_append] at hmembers ⊢
      rw [scanOnce, skipSpace_cons (by decide)]
      simp [hmembers, Except.map]

theorem scanItems_renderItems : ∀ (item : Json) (items : List Json)
    (fuel : ℕ) (rest : List Char),
    PlainItems (item :: items) → (renderItems (item :: items)).length + 1 ≤ fuel →
      scanItems fuel (renderItems (item :: items) ++ ']' :: rest) =
        .ok (item :: items, rest)
  | item, [], fuel + 1, rest, hplain, hfuel => by
      have hitem := scanOnce_render item fuel (']' :: rest)
        hplain.1 (by simpa [renderItems] using hfuel) (endsNumber_cons (by decide))
      rw [renderItems, scanItems, hitem]
      simp [skipSpace, isSpace]
  | item, next :: items, fuel + 1, rest, hplain, hfuel => by
      simp only [renderItems, List.length_append, List.length_cons] at hfuel
      have hitem := scanOnce_render item fuel
        (',' :: (renderItems (next :: items) ++ ']' :: rest))
        hplain.1 (by omega) (endsNumber_cons (by decide))
      have hitems := scanItems_renderItems next items fuel rest
        hplain.2 (by omega)
      obtain ⟨c, cs, hcs, hspace, -⟩ := renderItems_eq_cons items hplain.2.1
      rw [renderItems, List.append_assoc, List.cons_append, scanItems, hitem]
      rw [hcs, List.cons_append] at hitems ⊢
      simp only [skipSpace_cons (c := ',') (by decide), skipSpace_cons hspace, hitems]
      rfl

theorem scanMembers_renderMembers : ∀ (key : String) (value : Json)
    (members : List (String × Json)) (fuel : ℕ) (rest : List Char),
    PlainMembers ((key, value) :: members) →
      (renderMembers ((key, value) :: members)).length + 1 ≤ fuel →
      scanMembers fuel (renderMembers ((key, value) :: members) ++ '}' :: rest) =
        .ok ((key, value) :: members, rest)
  | key, value, [], fuel + 1, rest, hplain, hfuel => by
      simp only [renderMembers, renderString, List.length_append, List.length_cons]
        at hfuel
      have hvalue := scanOnce_render value fuel ('}' :: rest)
        hplain.1 (by omega) (endsNumber_cons (by decide))
      simp only [renderMembers, renderString, List.cons_append, List.append_assoc,
        List.nil_append]
      rw [scanMembers, scanString_renderString]
      simp [skipSpace_cons (c := ':') (by decide), skipSpace_render hplain.1, hvalue,
        skipSpace_cons (c := '}') (by decide)]
  | key, value, (nextKey, next) :: members, fuel + 1, rest, hplain, hfuel => by
      simp only [renderMembers, renderString, List.length_append, List.length_cons]
        at hfuel
      have hvalue := scanOnce_render value fuel
        (',' :: (renderMembers ((nextKey, next) :: members) ++ '}' :: rest))
        hplain.1 (by omega) (endsNumber_cons (by decide))
      have hmembers := scanMembers_renderMembers nextKey next members fuel rest
        hplain.2 (by omega)
      obtain ⟨cs, hcs⟩ := renderMembers_eq_cons nextKey next members
      simp only [renderMembers, renderString, List.cons_append, List.append_assoc,
        List.nil_append]
      rw [hcs, List.cons_append] at hmembers hvalue ⊢
      rw [scanMembers, scanString_renderString]
      simp [skipSpace_cons (c := ':') (by decide), skipSpace_render hplain.1, hvalue,
        skipSpace_cons (c := ',') (by decide), skipSpace_cons (c := '"') (by decide),
        hmembers, Except.map]

end

theorem endsNumber_of_isSpace {rest : List Char}
    (hspace : ∀ c ∈ rest, isSpace c = true) : EndsNumber rest := by
  intro c hc
  have hc := hspace c (List.mem_of_mem_head? hc)
  simp only [isSpace, Bool.or_eq_true, beq_iff_eq] at hc
  rcases hc with ((rfl | rfl) | rfl) | rfl <;> decide

/-- Reading inverts writing; the text may end in white space, such as the line
break of a line protocol. -/
theorem loads_render {value : Json} (hplain : Plain value) (space : String)
    (hspace : ∀ c ∈ space.toList, isSpace c = true) :
    loads (String.ofList (render value) ++ space) = .ok value := by
  have hscan := scanOnce_render value
    ((render value ++ space.toList).length + 1) space.toList
    hplain (by rw [List.length_append]; omega) (endsNumber_of_isSpace hspace)
  have hskip : skipSpace space.toList = [] :=
    List.dropWhile_eq_nil_iff.2 hspace
  simp only [loads, String.toList_append, String.toList_ofList]
  rw [skipSpace_render hplain, hscan]
  simp [hskip]

end Json

end Blocksnoop.Support
