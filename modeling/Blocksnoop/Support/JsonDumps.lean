import Blocksnoop.Support.Json
import Mathlib.Data.Bool.AllAny

/-!
# Dumped JSON

The writer of the `json` module of Python as `json.dumps(value, sort_keys=True)` calls it:
`", "` stands between items and `": "` after a key, the members of an object are sorted by
their keys, and every character outside printable ASCII is escaped.  A float is written by
a text of its own, which the value holds; an integer with more digits than the interpreter
converts raises.

`loads_dumps` reads a dumped text back.  `printable_of_mem_dump` says that the text has
nothing in it that any reader takes for the end of a line.
-/

namespace Blocksnoop.Support

namespace Json

/-! ## Writing -/

/-- The UTF-16 code units of a character. -/
def codeUnits (c : Char) : List ℕ :=
  if c.toNat < 0x10000 then [c.toNat]
  else [0xD800 + (c.toNat - 0x10000) / 0x400, 0xDC00 + (c.toNat - 0x10000) % 0x400]

def unicodeEscape (n : ℕ) : List Char :=
  ['\\', 'u', Nat.digitChar (n / 0x1000), Nat.digitChar (n / 0x100 % 0x10),
    Nat.digitChar (n / 0x10 % 0x10), Nat.digitChar (n % 0x10)]

def asciiEscape (c : Char) : List Char :=
  if c = '"' then ['\\', '"']
  else if c = '\\' then ['\\', '\\']
  else if 0x20 ≤ c.toNat ∧ c.toNat ≤ 0x7E then [c]
  else if c = '\n' then ['\\', 'n']
  else if c = '\r' then ['\\', 'r']
  else if c = '\t' then ['\\', 't']
  else if c = Char.ofNat 8 then ['\\', 'b']
  else if c = Char.ofNat 12 then ['\\', 'f']
  else (codeUnits c).flatMap unicodeEscape

def dumpString (s : String) : List Char :=
  '"' :: (s.toList.flatMap asciiEscape ++ ['"'])

mutual

def dump : Json → List Char
  | .null => ['n', 'u', 'l', 'l']
  | .bool true => ['t', 'r', 'u', 'e']
  | .bool false => ['f', 'a', 'l', 's', 'e']
  | .int i => renderInt i
  | .float literal => literal.toList
  | .str s => dumpString s
  | .arr items => '[' :: (dumpItems items ++ [']'])
  | .obj members => '{' :: (dumpMembers members ++ ['}'])

def dumpItems : List Json → List Char
  | [] => []
  | [item] => dump item
  | item :: next :: items => dump item ++ ',' :: ' ' :: dumpItems (next :: items)

def dumpMembers : List (String × Json) → List Char
  | [] => []
  | [(key, value)] => dumpString key ++ ':' :: ' ' :: dump value
  | (key, value) :: next :: members =>
      dumpString key ++ ':' :: ' ' :: (dump value ++ ',' :: ' ' :: dumpMembers (next :: members))

end

def sortByKey (members : List (String × Json)) : List (String × Json) :=
  members.mergeSort fun a b => a.1 ≤ b.1

mutual

/-- The value with the members of every object in the order of their keys. -/
def sortKeys : Json → Json
  | .arr items => .arr (sortItems items)
  | .obj members => .obj (sortByKey (sortMembers members))
  | value => value

def sortItems : List Json → List Json
  | [] => []
  | item :: items => sortKeys item :: sortItems items

def sortMembers : List (String × Json) → List (String × Json)
  | [] => []
  | (key, value) :: members => (key, sortKeys value) :: sortMembers members

end

mutual

/-- Everything in a value that is neither an array nor an object. -/
def scalars : Json → List Json
  | .arr items => itemScalars items
  | .obj members => memberScalars members
  | value => [value]

def itemScalars : List Json → List Json
  | [] => []
  | item :: items => scalars item ++ itemScalars items

def memberScalars : List (String × Json) → List Json
  | [] => []
  | (_, value) :: members => scalars value ++ memberScalars members

end

/-- An integer is converted to text up to the digit limit. -/
def converts : Json → Bool
  | .int i => (Nat.toDigits 10 i.natAbs).length ≤ maxStrDigits
  | _ => true

/-- `json.dumps(value, sort_keys=True)`; `none` where it raises `ValueError`. -/
def dumps (value : Json) : Option String :=
  if value.scalars.all converts then some (String.ofList (dump (sortKeys value))) else none

/-! ## Float literals -/

def IsDigits (cs : List Char) : Prop :=
  cs ≠ [] ∧ ∀ c ∈ cs, c.isDigit = true

inductive IsFraction : List Char → Prop
  | none : IsFraction []
  | some {digits : List Char} (hdigits : IsDigits digits) : IsFraction ('.' :: digits)

inductive IsExponent : List Char → Prop
  | none : IsExponent []
  | some {digits : List Char} (sign : Option Char) (hsign : ∀ c ∈ sign, c = '+' ∨ c = '-')
      (hdigits : IsDigits digits) : IsExponent ('e' :: (sign.toList ++ digits))

/-- The texts by which `json` writes a float: the `repr` of a finite float, which has a
fraction or an exponent, and the names of the others. -/
inductive FloatText : List Char → Prop
  | nan : FloatText "NaN".toList
  | infinity : FloatText "Infinity".toList
  | negativeInfinity : FloatText "-Infinity".toList
  | finite (negative : Bool) (n : ℕ) {fraction exponent : List Char}
      (hfraction : IsFraction fraction) (hexponent : IsExponent exponent)
      (hsome : ¬ (fraction = [] ∧ exponent = [])) :
      FloatText ((if negative then ['-'] else []) ++ Nat.toDigits 10 n ++ fraction ++ exponent)

/-- What the round trip asks of a scalar: it is converted, and a float has the text of
one. -/
def Legible : Json → Prop
  | .int i => converts (.int i) = true
  | .float literal => FloatText literal.toList
  | _ => True

/-! ## Strings -/

/-- What the escaped form of a character is read as. -/
def asciiUnits (c : Char) : List (Char ⊕ ℕ) :=
  if (0x20 ≤ c.toNat ∧ c.toNat ≤ 0x7E) ∨ c = '\n' ∨ c = '\r' ∨ c = '\t' ∨ c = Char.ofNat 8 ∨
      c = Char.ofNat 12 then [.inl c]
  else (codeUnits c).map .inr

theorem codeUnits_lt (c : Char) : ∀ n ∈ codeUnits c, n < 0x10000 := by
  intro n hn
  have hmax : c.toNat < 0x110000 := by
    have := c.valid
    simp only [UInt32.isValidChar, Nat.isValidChar] at this
    change c.val.toNat < 0x110000
    omega
  rw [codeUnits] at hn
  split at hn <;> simp only [List.mem_cons, List.not_mem_nil, or_false] at hn <;> omega

theorem hexValue4_digitChar {n : ℕ} (hn : n < 0x10000) :
    hexValue4 (Nat.digitChar (n / 0x1000)) (Nat.digitChar (n / 0x100 % 0x10))
      (Nat.digitChar (n / 0x10 % 0x10)) (Nat.digitChar (n % 0x10)) = some n := by
  have hfirst := hexValue_digitChar (d := n / 0x1000) (by omega)
  have hsecond := hexValue_digitChar (d := n / 0x100 % 0x10) (by omega)
  have hthird := hexValue_digitChar (d := n / 0x10 % 0x10) (by omega)
  have hfourth := hexValue_digitChar (d := n % 0x10) (by omega)
  simp only [hexValue4, hfirst, hsecond, hthird, hfourth, Option.bind_eq_bind, Option.bind_some,
    Option.pure_def, Option.some.injEq]
  omega

theorem scanUnits_unicodeEscape {n : ℕ} (hn : n < 0x10000) (rest : List Char) :
    scanUnits (unicodeEscape n ++ rest) = (scanUnits rest).map fun p => (.inr n :: p.1, p.2) := by
  simp only [unicodeEscape, List.cons_append, List.nil_append, scanUnits, hexValue4_digitChar hn]

theorem map_map_except {ε α β γ : Type} (x : Except ε α) (f : α → β) (g : β → γ) :
    (x.map f).map g = x.map (g ∘ f) := by
  cases x <;> rfl

theorem scanUnits_flatMap_unicodeEscape {ns : List ℕ} (hns : ∀ n ∈ ns, n < 0x10000)
    (rest : List Char) :
    scanUnits (ns.flatMap unicodeEscape ++ rest) =
      (scanUnits rest).map fun p => (ns.map .inr ++ p.1, p.2) := by
  induction ns with
  | nil => cases h : scanUnits rest <;> simp [h, Except.map]
  | cons n ns ih =>
      rw [List.flatMap_cons, List.append_assoc, scanUnits_unicodeEscape (hns n (by simp)),
        ih fun m hm => hns m (by simp [hm]), map_map_except]
      rfl

theorem scanUnits_cons_of_printable {c : Char} (hquote : c ≠ '"') (hback : c ≠ '\\')
    (hprint : 0x20 ≤ c.toNat) (rest : List Char) :
    scanUnits (c :: rest) = (scanUnits rest).map fun p => (.inl c :: p.1, p.2) := by
  have hcontrol : ¬ c.toNat < 0x20 := by omega
  simp [scanUnits, hback, hcontrol]

theorem scanUnits_asciiEscape (c : Char) (rest : List Char) :
    scanUnits (asciiEscape c ++ rest) =
      (scanUnits rest).map fun p => (asciiUnits c ++ p.1, p.2) := by
  by_cases hquote : c = '"'
  · subst hquote
    simp [asciiEscape, asciiUnits, scanUnits, simpleEscape]
  by_cases hback : c = '\\'
  · subst hback
    simp [asciiEscape, asciiUnits, scanUnits, simpleEscape]
  by_cases hprint : 0x20 ≤ c.toNat ∧ c.toNat ≤ 0x7E
  · simp only [asciiEscape, asciiUnits, hquote, hback, hprint, if_false, if_true, true_and,
      true_or, List.cons_append, List.nil_append]
    exact scanUnits_cons_of_printable hquote hback hprint.1 rest
  -- the short escapes, one by one
  by_cases hshort : c = '\n' ∨ c = '\r' ∨ c = '\t' ∨ c = Char.ofNat 8 ∨ c = Char.ofNat 12
  · rcases hshort with rfl | rfl | rfl | rfl | rfl <;>
      simp [asciiEscape, asciiUnits, scanUnits, simpleEscape]
  · have hunits : asciiUnits c = (codeUnits c).map .inr := by
      rw [asciiUnits, if_neg (by tauto)]
    have hescape : asciiEscape c = (codeUnits c).flatMap unicodeEscape := by
      simp only [not_or] at hshort
      simp [asciiEscape, hquote, hback, hprint, hshort]
    rw [hescape, hunits, scanUnits_flatMap_unicodeEscape (codeUnits_lt c)]

theorem scanUnits_flatMap_asciiEscape (cs rest : List Char) :
    scanUnits (cs.flatMap asciiEscape ++ '"' :: rest) = .ok (cs.flatMap asciiUnits, rest) := by
  induction cs with
  | nil => simp [scanUnits]
  | cons c cs ih =>
      rw [List.flatMap_cons, List.append_assoc, scanUnits_asciiEscape, ih]
      rfl

theorem joinUnits_inr_cons {n : ℕ} (hn : ¬ (0xD800 ≤ n ∧ n ≤ 0xDBFF)) (rest : List (Char ⊕ ℕ)) :
    joinUnits (.inr n :: rest) = codePoint n :: joinUnits rest := by
  cases rest with
  | nil => rfl
  | cons u us =>
      cases u with
      | inl c => rfl
      | inr low =>
          have hpair : ¬ (0xD800 ≤ n ∧ n ≤ 0xDBFF ∧ 0xDC00 ≤ low ∧ low ≤ 0xDFFF) := by tauto
          rw [joinUnits, if_neg hpair]

/-- The units of a character outside the basic plane are a surrogate pair, and no other
character has a high surrogate as its unit. -/
theorem joinUnits_codeUnits (c : Char) (rest : List (Char ⊕ ℕ)) :
    joinUnits ((codeUnits c).map .inr ++ rest) = c :: joinUnits rest := by
  have hvalid := c.valid
  simp only [UInt32.isValidChar, Nat.isValidChar] at hvalid
  change c.toNat < 0xD800 ∨ 0xDFFF < c.toNat ∧ c.toNat < 0x110000 at hvalid
  by_cases hbasic : c.toNat < 0x10000
  · have hunits : codeUnits c = [c.toNat] := if_pos hbasic
    rw [hunits, List.map_singleton, List.singleton_append, joinUnits_inr_cons (by omega),
      codePoint_toNat]
  · have hunits : codeUnits c =
        [0xD800 + (c.toNat - 0x10000) / 0x400, 0xDC00 + (c.toNat - 0x10000) % 0x400] :=
      if_neg hbasic
    have hjoined : 0x10000 + (0xD800 + (c.toNat - 0x10000) / 0x400 - 0xD800) * 0x400 +
        (0xDC00 + (c.toNat - 0x10000) % 0x400 - 0xDC00) = c.toNat := by omega
    simp only [hunits, List.map_cons, List.map_nil, List.cons_append, List.nil_append]
    rw [joinUnits, if_pos (by omega), hjoined, codePoint_toNat]

theorem joinUnits_flatMap_asciiUnits (cs : List Char) :
    joinUnits (cs.flatMap asciiUnits) = cs := by
  induction cs with
  | nil => rfl
  | cons c cs ih =>
      rw [List.flatMap_cons, asciiUnits]
      split
      · rw [List.singleton_append, joinUnits, ih]
      · rw [joinUnits_codeUnits, ih]

theorem scanString_dumpString (s : String) (rest : List Char) :
    scanString (s.toList.flatMap asciiEscape ++ '"' :: rest) = .ok (s.toList, rest) := by
  rw [scanString, scanUnits_flatMap_asciiEscape]
  simp [Except.map, joinUnits_flatMap_asciiUnits]

/-! ## Floats -/

theorem takeWhile_isDigit_append {digits rest : List Char}
    (hdigits : ∀ c ∈ digits, c.isDigit = true) (hrest : ∀ c ∈ rest.head?, c.isDigit = false) :
    (digits ++ rest).takeWhile Char.isDigit = digits ∧
      (digits ++ rest).dropWhile Char.isDigit = rest := by
  rw [List.takeWhile_append_of_pos hdigits, List.dropWhile_append_of_pos hdigits]
  cases rest with
  | nil => simp
  | cons c rest => simp [hrest c rfl]

theorem scanDigits_append (n : ℕ) {rest : List Char}
    (hrest : ∀ c ∈ rest.head?, c.isDigit = false) :
    scanDigits (Nat.toDigits 10 n ++ rest) = some (Nat.toDigits 10 n, rest) := by
  obtain ⟨htake, hdrop⟩ := takeWhile_isDigit_append
    (fun c hc => isDigit_of_mem_toDigits (n := n) hc) hrest
  rcases Nat.eq_zero_or_pos n with rfl | hn
  · rfl
  · obtain ⟨c, cs, hcs, hc⟩ := toDigits_head_ne_zero hn
    rw [hcs, List.cons_append] at htake hdrop ⊢
    rw [scanDigits, htake, hdrop]
    exact fun _ h => hc (List.cons.inj h).1

theorem scanFraction_append {fraction rest : List Char} (hfraction : IsFraction fraction)
    (hrest : ∀ c ∈ rest.head?, c.isDigit = false ∧ c ≠ '.') :
    scanFraction (fraction ++ rest) = (fraction, rest) := by
  cases hfraction with
  | none =>
      cases rest with
      | nil => rfl
      | cons c rest =>
          rw [List.nil_append, scanFraction]
          exact fun _ h => (hrest c rfl).2 (List.cons.inj h).1
  | some hdigits =>
      obtain ⟨htake, hdrop⟩ := takeWhile_isDigit_append hdigits.2 fun c hc => (hrest c hc).1
      obtain ⟨c, cs, hcs⟩ := List.exists_cons_of_ne_nil hdigits.1
      rw [List.cons_append, scanFraction, htake, hdrop, hcs]

theorem scanExponent_append {exponent rest : List Char} (hexponent : IsExponent exponent)
    (hrest : EndsNumber rest) : scanExponent (exponent ++ rest) = (exponent, rest) := by
  cases hexponent with
  | none => exact scanExponent_of_endsNumber hrest
  | some sign hsign hdigits =>
      obtain ⟨htake, hdrop⟩ := takeWhile_isDigit_append hdigits.2 fun c hc => (hrest c hc).1
      cases sign with
      | none =>
          obtain ⟨c, cs, hcs⟩ := List.exists_cons_of_ne_nil hdigits.1
          have hc : c.isDigit = true := hdigits.2 c (by simp [hcs])
          have hnone : ¬ (c = '+' ∨ c = '-') := by
            rintro (rfl | rfl) <;> exact absurd hc (by decide)
          have hfilter : ([c].filter fun c => c == '+' || c == '-') = [] := by simpa using hnone
          rw [hcs, List.cons_append] at htake hdrop
          simp [scanExponent, hcs, hfilter, htake, hdrop]
      | some c =>
          have hc : (c == '+' || c == '-') = true := by simpa using hsign c rfl
          have hfilter : ([c].filter fun c => c == '+' || c == '-') = [c] := by
            simpa using hsign c rfl
          simp [scanExponent, hfilter, htake, hdrop, hdigits.1]

theorem head_exponent_append {exponent rest : List Char} (hexponent : IsExponent exponent)
    (hrest : EndsNumber rest) :
    ∀ c ∈ (exponent ++ rest).head?, c.isDigit = false ∧ c ≠ '.' := by
  cases hexponent with
  | none => exact fun c hc => ⟨(hrest c hc).1, (hrest c hc).2.1⟩
  | some sign hsign hdigits =>
      rintro c hc
      obtain rfl : 'e' = c := by simpa using hc
      decide

theorem head_fraction_append {fraction rest : List Char} (hfraction : IsFraction fraction)
    (hrest : ∀ c ∈ rest.head?, c.isDigit = false ∧ c ≠ '.') :
    ∀ c ∈ (fraction ++ rest).head?, c.isDigit = false := by
  cases hfraction with
  | none => exact fun c hc => (hrest c hc).1
  | some hdigits =>
      rintro c hc
      obtain rfl : '.' = c := by simpa using hc
      decide

theorem scanNumber_finite (negative : Bool) (n : ℕ) {fraction exponent rest : List Char}
    (hfraction : IsFraction fraction) (hexponent : IsExponent exponent)
    (hsome : ¬ (fraction = [] ∧ exponent = [])) (hrest : EndsNumber rest) :
    scanNumber negative (Nat.toDigits 10 n ++ (fraction ++ (exponent ++ rest))) =
      .ok (.float (String.ofList ((if negative then ['-'] else []) ++ Nat.toDigits 10 n ++
        fraction ++ exponent)), rest) := by
  have hbehind := head_exponent_append hexponent hrest
  rw [scanNumber, scanDigits_append n (head_fraction_append hfraction hbehind)]
  simp only [scanFraction_append hfraction hbehind, scanExponent_append hexponent hrest,
    if_neg hsome]

theorem scanOnce_floatText (fuel : ℕ) {literal rest : List Char} (hliteral : FloatText literal)
    (hrest : EndsNumber rest) :
    scanOnce (fuel + 1) (literal ++ rest) = .ok (.float (String.ofList literal), rest) := by
  cases hliteral with
  | nan => simp [scanOnce]
  | infinity => simp [scanOnce]
  | negativeInfinity => simp [scanOnce]
  | finite negative n hfraction hexponent hsome =>
      have hscan := scanNumber_finite negative n hfraction hexponent hsome hrest
      obtain ⟨c, cs, hcs, hc⟩ := toDigits_eq_cons n
      rw [hcs] at hscan ⊢
      simp only [List.append_assoc, List.cons_append] at hscan ⊢
      cases negative with
      | false => rw [← hscan]; exact scanOnce_digit fuel _ hc
      | true => rw [← hscan]; exact scanOnce_minus_digit fuel _ hc

/-! ## The round trip -/

theorem head_digit {c : Char} (hc : c.isDigit = true) : isSpace c = false ∧ c ≠ ']' := by
  rcases isDigit_cases hc with
    rfl | rfl | rfl | rfl | rfl | rfl | rfl | rfl | rfl | rfl <;> decide

theorem floatText_eq_cons {literal : List Char} (hliteral : FloatText literal) :
    ∃ c cs, literal = c :: cs ∧ isSpace c = false ∧ c ≠ ']' := by
  cases hliteral with
  | nan => exact ⟨'N', _, rfl, by decide, by decide⟩
  | infinity => exact ⟨'I', _, rfl, by decide, by decide⟩
  | negativeInfinity => exact ⟨'-', _, rfl, by decide, by decide⟩
  | finite negative n hfraction hexponent hsome =>
      obtain ⟨c, cs, hcs, hc⟩ := toDigits_eq_cons n
      cases negative with
      | true => exact ⟨'-', _, rfl, by decide, by decide⟩
      | false => exact ⟨c, _, by rw [hcs]; rfl, head_digit hc⟩

theorem renderInt_eq_cons (i : ℤ) :
    ∃ c cs, renderInt i = c :: cs ∧ isSpace c = false ∧ c ≠ ']' := by
  obtain ⟨c, cs, hcs, hc⟩ := toDigits_eq_cons i.natAbs
  by_cases hneg : i < 0
  · exact ⟨'-', _, by rw [renderInt, if_pos hneg], by decide, by decide⟩
  · exact ⟨c, cs, by rw [renderInt, if_neg hneg, hcs], head_digit hc⟩

theorem dump_eq_cons {value : Json} (hlegible : ∀ scalar ∈ scalars value, Legible scalar) :
    ∃ c cs, dump value = c :: cs ∧ isSpace c = false ∧ c ≠ ']' := by
  cases value with
  | null => exact ⟨_, _, rfl, by decide, by decide⟩
  | bool b => cases b <;> exact ⟨_, _, rfl, by decide, by decide⟩
  | int i => exact renderInt_eq_cons i
  | float literal => exact floatText_eq_cons (hlegible (.float literal) (by simp [scalars]))
  | str s => exact ⟨'"', _, rfl, by decide, by decide⟩
  | arr items => exact ⟨'[', _, rfl, by decide, by decide⟩
  | obj members => exact ⟨'{', _, rfl, by decide, by decide⟩

theorem legible_itemScalars_cons {item : Json} {items : List Json}
    (hlegible : ∀ scalar ∈ itemScalars (item :: items), Legible scalar) :
    (∀ scalar ∈ scalars item, Legible scalar) ∧
      ∀ scalar ∈ itemScalars items, Legible scalar := by
  simpa only [itemScalars, List.forall_mem_append] using hlegible

theorem legible_memberScalars_cons {key : String} {value : Json}
    {members : List (String × Json)}
    (hlegible : ∀ scalar ∈ memberScalars ((key, value) :: members), Legible scalar) :
    (∀ scalar ∈ scalars value, Legible scalar) ∧
      ∀ scalar ∈ memberScalars members, Legible scalar := by
  simpa only [memberScalars, List.forall_mem_append] using hlegible

theorem dumpItems_eq_cons {item : Json} (items : List Json)
    (hlegible : ∀ scalar ∈ scalars item, Legible scalar) :
    ∃ c cs, dumpItems (item :: items) = c :: cs ∧ isSpace c = false ∧ c ≠ ']' := by
  obtain ⟨c, cs, hcs, hc⟩ := dump_eq_cons hlegible
  cases items with
  | nil => exact ⟨c, cs, by rw [dumpItems, hcs], hc⟩
  | cons next items => exact ⟨c, _, by rw [dumpItems, hcs, List.cons_append], hc⟩

theorem dumpMembers_eq_cons (key : String) (value : Json) (members : List (String × Json)) :
    ∃ cs, dumpMembers ((key, value) :: members) = '"' :: cs := by
  cases members with
  | nil => exact ⟨_, rfl⟩
  | cons next members => exact ⟨_, rfl⟩

theorem skipSpace_blank (cs : List Char) : skipSpace (' ' :: cs) = skipSpace cs := by
  simp [skipSpace, isSpace]

theorem skipSpace_dump {value : Json} (hlegible : ∀ scalar ∈ scalars value, Legible scalar)
    (rest : List Char) : skipSpace (dump value ++ rest) = dump value ++ rest := by
  obtain ⟨c, cs, hcs, hspace, -⟩ := dump_eq_cons hlegible
  rw [hcs, List.cons_append, skipSpace_cons hspace]

mutual

/-- A dumped value at the head of a text is read back, with fuel for its length. -/
theorem scanOnce_dump : ∀ (value : Json) (fuel : ℕ) (rest : List Char),
    (∀ scalar ∈ scalars value, Legible scalar) → (dump value).length ≤ fuel → EndsNumber rest →
      scanOnce fuel (dump value ++ rest) = .ok (value, rest)
  | .null, fuel + 1, rest, _, _, _ => by simp [dump, scanOnce]
  | .bool true, fuel + 1, rest, _, _, _ => by simp [dump, scanOnce]
  | .bool false, fuel + 1, rest, _, _, _ => by simp [dump, scanOnce]
  | .int i, fuel, rest, hlegible, hfuel, hrest => by
      have hlength := hlegible (.int i) (by simp [scalars])
      obtain ⟨c, cs, hcs, -⟩ := renderInt_eq_cons i
      obtain ⟨fuel, rfl⟩ : ∃ k, fuel = k + 1 := by
        refine ⟨fuel - 1, ?_⟩
        rw [dump, hcs, List.length_cons] at hfuel
        omega
      exact scanOnce_renderInt fuel (by simpa [Legible, converts] using hlength) hrest
  | .float literal, fuel, rest, hlegible, hfuel, hrest => by
      have hliteral : FloatText literal.toList := hlegible (.float literal) (by simp [scalars])
      obtain ⟨c, cs, hcs, -⟩ := floatText_eq_cons hliteral
      obtain ⟨fuel, rfl⟩ : ∃ k, fuel = k + 1 := by
        refine ⟨fuel - 1, ?_⟩
        rw [dump, hcs, List.length_cons] at hfuel
        omega
      simpa [dump] using scanOnce_floatText fuel hliteral hrest
  | .str s, fuel + 1, rest, _, _, _ => by
      simp only [dump, dumpString, List.cons_append, List.append_assoc]
      rw [scanOnce, List.nil_append, scanString_dumpString]
      simp [Except.map]
  | .arr [], fuel + 1, rest, _, _, _ => by
      simp [dump, dumpItems, scanOnce, skipSpace, isSpace]
  | .arr (item :: items), fuel + 1, rest, hlegible, hfuel, hrest => by
      rw [scalars] at hlegible
      have hitems := scanItems_dumpItems item items fuel rest hlegible (by simpa [dump] using hfuel)
      obtain ⟨c, cs, hcs, hspace, hc⟩ :=
        dumpItems_eq_cons items (legible_itemScalars_cons hlegible).1
      simp only [dump, List.cons_append, List.append_assoc, List.nil_append]
      rw [hcs, List.cons_append] at hitems ⊢
      rw [scanOnce, skipSpace_cons hspace]
      simp [hc, hitems, Except.map]
  | .obj [], fuel + 1, rest, _, _, _ => by
      simp [dump, dumpMembers, scanOnce, skipSpace, isSpace]
  | .obj ((key, value) :: members), fuel + 1, rest, hlegible, hfuel, hrest => by
      have hmembers := scanMembers_dumpMembers key value members fuel rest
        (by rwa [scalars] at hlegible) (by simpa [dump] using hfuel)
      obtain ⟨cs, hcs⟩ := dumpMembers_eq_cons key value members
      simp only [dump, List.cons_append, List.append_assoc, List.nil_append]
      rw [hcs, List.cons_append] at hmembers ⊢
      rw [scanOnce, skipSpace_cons (by decide)]
      simp [hmembers, Except.map]

theorem scanItems_dumpItems : ∀ (item : Json) (items : List Json) (fuel : ℕ) (rest : List Char),
    (∀ scalar ∈ itemScalars (item :: items), Legible scalar) →
      (dumpItems (item :: items)).length + 1 ≤ fuel →
      scanItems fuel (dumpItems (item :: items) ++ ']' :: rest) = .ok (item :: items, rest)
  | item, [], fuel + 1, rest, hlegible, hfuel => by
      have hitem := scanOnce_dump item fuel (']' :: rest)
        (legible_itemScalars_cons hlegible).1 (by simpa [dumpItems] using hfuel)
        (endsNumber_cons (by decide))
      rw [dumpItems, scanItems, hitem]
      simp [skipSpace, isSpace]
  | item, next :: items, fuel + 1, rest, hlegible, hfuel => by
      simp only [dumpItems, List.length_append, List.length_cons] at hfuel
      obtain ⟨hfirst, hnext⟩ := legible_itemScalars_cons hlegible
      have hitem := scanOnce_dump item fuel
        (',' :: ' ' :: (dumpItems (next :: items) ++ ']' :: rest)) hfirst (by omega)
        (endsNumber_cons (by decide))
      have hitems := scanItems_dumpItems next items fuel rest hnext (by omega)
      obtain ⟨c, cs, hcs, hspace, -⟩ :=
        dumpItems_eq_cons items (legible_itemScalars_cons hnext).1
      rw [dumpItems, List.append_assoc, List.cons_append, List.cons_append, scanItems, hitem]
      rw [hcs, List.cons_append] at hitems ⊢
      simp only [skipSpace_cons (c := ',') (by decide), skipSpace_blank, skipSpace_cons hspace,
        hitems]
      rfl

theorem scanMembers_dumpMembers : ∀ (key : String) (value : Json)
    (members : List (String × Json)) (fuel : ℕ) (rest : List Char),
    (∀ scalar ∈ memberScalars ((key, value) :: members), Legible scalar) →
      (dumpMembers ((key, value) :: members)).length + 1 ≤ fuel →
      scanMembers fuel (dumpMembers ((key, value) :: members) ++ '}' :: rest) =
        .ok ((key, value) :: members, rest)
  | key, value, [], fuel + 1, rest, hlegible, hfuel => by
      have hfirst := (legible_memberScalars_cons hlegible).1
      simp only [dumpMembers, dumpString, List.length_append, List.length_cons] at hfuel
      have hvalue := scanOnce_dump value fuel ('}' :: rest) hfirst (by omega)
        (endsNumber_cons (by decide))
      simp only [dumpMembers, dumpString, List.cons_append, List.append_assoc, List.nil_append]
      rw [scanMembers, scanString_dumpString]
      simp [skipSpace_cons (c := ':') (by decide), skipSpace_blank, skipSpace_dump hfirst, hvalue,
        skipSpace_cons (c := '}') (by decide)]
  | key, value, (nextKey, next) :: members, fuel + 1, rest, hlegible, hfuel => by
      obtain ⟨hfirst, hnext⟩ := legible_memberScalars_cons hlegible
      simp only [dumpMembers, dumpString, List.length_append, List.length_cons] at hfuel
      have hvalue := scanOnce_dump value fuel
        (',' :: ' ' :: (dumpMembers ((nextKey, next) :: members) ++ '}' :: rest)) hfirst
        (by omega) (endsNumber_cons (by decide))
      have hmembers := scanMembers_dumpMembers nextKey next members fuel rest hnext (by omega)
      obtain ⟨cs, hcs⟩ := dumpMembers_eq_cons nextKey next members
      simp only [dumpMembers, dumpString, List.cons_append, List.append_assoc, List.nil_append]
      rw [hcs, List.cons_append] at hmembers hvalue ⊢
      rw [scanMembers, scanString_dumpString]
      simp [skipSpace_cons (c := ':') (by decide), skipSpace_blank, skipSpace_dump hfirst, hvalue,
        skipSpace_cons (c := ',') (by decide), skipSpace_cons (c := '"') (by decide), hmembers,
        Except.map]

end

/-! ## Sorted keys -/

theorem lookup_eq_some_iff_mem {α : Type} {members : List (String × α)}
    (hnodup : (members.map Prod.fst).Nodup) (key : String) (value : α) :
    members.lookup key = some value ↔ (key, value) ∈ members := by
  induction members with
  | nil => simp
  | cons member members ih =>
      obtain ⟨k, v⟩ := member
      obtain ⟨hk, hrest⟩ := List.nodup_cons.mp hnodup
      rw [List.lookup_cons, List.mem_cons, ← ih hrest]
      by_cases hkey : key = k
      · subst hkey
        have hnone : members.lookup key ≠ some value := by
          rw [Ne, ih hrest]
          exact fun hmem => hk (List.mem_map.mpr ⟨(key, value), hmem, rfl⟩)
        simp [hnone, eq_comm]
      · have hbeq : (key == k) = false := by simpa using hkey
        simp [hkey, hbeq]

/-- Of distinct keys, the order does not matter. -/
theorem lookup_eq_of_perm {α : Type} {members others : List (String × α)}
    (hperm : members.Perm others) (hnodup : (members.map Prod.fst).Nodup) (key : String) :
    members.lookup key = others.lookup key := by
  have hother : (others.map Prod.fst).Nodup := (hperm.map Prod.fst).nodup_iff.mp hnodup
  ext value
  rw [lookup_eq_some_iff_mem hnodup, lookup_eq_some_iff_mem hother, hperm.mem_iff]

theorem sortMembers_eq_map (members : List (String × Json)) :
    sortMembers members = members.map fun member => (member.1, sortKeys member.2) := by
  induction members with
  | nil => rfl
  | cons member members ih => rw [sortMembers, ih, List.map_cons]

theorem sortItems_eq_map (items : List Json) : sortItems items = items.map sortKeys := by
  induction items with
  | nil => rfl
  | cons item items ih => rw [sortItems, ih, List.map_cons]

theorem lookup_sortMembers (members : List (String × Json)) (key : String) :
    (sortMembers members).lookup key = (members.lookup key).map sortKeys := by
  induction members with
  | nil => rfl
  | cons member members ih =>
      obtain ⟨k, v⟩ := member
      rw [sortMembers, List.lookup_cons, List.lookup_cons, ih]
      cases key == k <;> rfl

/-- Sorting the keys of an object loses none of its members. -/
theorem get_sortByKey {members : List (String × Json)}
    (hnodup : (members.map Prod.fst).Nodup) (key : String) :
    get (sortByKey (sortMembers members)) key = (members.lookup key).map sortKeys := by
  have hkeys : ((sortMembers members).map Prod.fst).Nodup := by
    simpa [sortMembers_eq_map, Function.comp_def] using hnodup
  have hperm : (sortMembers members).Perm (sortByKey (sortMembers members)).reverse :=
    ((sortMembers members).mergeSort_perm _).symm.trans (List.reverse_perm _).symm
  rw [get, ← lookup_eq_of_perm hperm hkeys, lookup_sortMembers]

theorem memberScalars_eq_flatMap (members : List (String × Json)) :
    memberScalars members = members.flatMap fun member => scalars member.2 := by
  induction members with
  | nil => rfl
  | cons member members ih => rw [memberScalars, ih, List.flatMap_cons]

theorem mem_memberScalars_sortByKey {members : List (String × Json)} {scalar : Json} :
    scalar ∈ memberScalars (sortByKey members) ↔ scalar ∈ memberScalars members := by
  simp only [memberScalars_eq_flatMap, List.mem_flatMap, sortByKey, List.mem_mergeSort]

mutual

theorem mem_scalars_sortKeys : ∀ (value : Json) {scalar : Json},
    scalar ∈ scalars (sortKeys value) → scalar ∈ scalars value
  | .null, _, h => h
  | .bool _, _, h => h
  | .int _, _, h => h
  | .float _, _, h => h
  | .str _, _, h => h
  | .arr items, _, h => mem_itemScalars_sortItems items h
  | .obj members, _, h =>
      mem_memberScalars_sortMembers members (mem_memberScalars_sortByKey.mp h)

theorem mem_itemScalars_sortItems : ∀ (items : List Json) {scalar : Json},
    scalar ∈ itemScalars (sortItems items) → scalar ∈ itemScalars items
  | [], _, h => h
  | item :: items, _, h =>
      List.mem_append.mpr ((List.mem_append.mp h).imp (mem_scalars_sortKeys item)
        (mem_itemScalars_sortItems items))

theorem mem_memberScalars_sortMembers : ∀ (members : List (String × Json)) {scalar : Json},
    scalar ∈ memberScalars (sortMembers members) → scalar ∈ memberScalars members
  | [], _, h => h
  | (_, value) :: members, _, h =>
      List.mem_append.mpr ((List.mem_append.mp h).imp (mem_scalars_sortKeys value)
        (mem_memberScalars_sortMembers members))

end

/-- Every float of a value is written by the text of one. -/
def FloatsWritten (value : Json) : Prop :=
  ∀ literal, .float literal ∈ scalars value → FloatText literal.toList

theorem legible_of_converts {value : Json} (hfloats : FloatsWritten value)
    (hconverts : value.scalars.all converts) :
    ∀ scalar ∈ scalars (sortKeys value), Legible scalar := by
  intro scalar hscalar
  have hmem := mem_scalars_sortKeys value hscalar
  cases scalar with
  | int i => exact List.all_eq_true.mp hconverts _ hmem
  | float literal => exact hfloats literal hmem
  | _ => trivial

/-- A dumped text is read back as the value with its keys sorted; the text may end in
white space. -/
theorem loads_dumps {value : Json} {text : String} (hfloats : FloatsWritten value)
    (hdumps : dumps value = some text) (space : String)
    (hspace : ∀ c ∈ space.toList, isSpace c = true) :
    loads (text ++ space) = .ok (sortKeys value) := by
  by_cases hconverts : value.scalars.all converts
  · rw [dumps, if_pos hconverts] at hdumps
    obtain rfl := Option.some.inj hdumps
    have hlegible := legible_of_converts hfloats hconverts
    have hscan := scanOnce_dump (sortKeys value)
      ((dump (sortKeys value) ++ space.toList).length + 1) space.toList hlegible
      (by rw [List.length_append]; omega) (endsNumber_of_isSpace hspace)
    have hskip : skipSpace space.toList = [] := List.dropWhile_eq_nil_iff.2 hspace
    simp only [loads, String.toList_append, String.toList_ofList]
    rw [skipSpace_dump hlegible, hscan]
    simp [hskip]
  · rw [dumps, if_neg hconverts] at hdumps
    cases hdumps

/-! ## Printable texts -/

def IsPrintable (c : Char) : Prop :=
  0x20 ≤ c.toNat ∧ c.toNat ≤ 0x7E

instance (c : Char) : Decidable (IsPrintable c) :=
  inferInstanceAs (Decidable (_ ∧ _))

theorem isPrintable_digitChar {d : ℕ} (hd : d < 16) : IsPrintable (Nat.digitChar d) := by
  revert d
  decide

theorem isPrintable_of_isDigit {c : Char} (hc : c.isDigit = true) : IsPrintable c := by
  rcases isDigit_cases hc with
    rfl | rfl | rfl | rfl | rfl | rfl | rfl | rfl | rfl | rfl <;> decide

theorem isPrintable_unicodeEscape {n : ℕ} (hn : n < 0x10000) :
    ∀ c ∈ unicodeEscape n, IsPrintable c := by
  simp only [unicodeEscape, List.forall_mem_cons, List.not_mem_nil, false_imp_iff, implies_true,
    and_true]
  exact ⟨by decide, by decide, isPrintable_digitChar (by omega), isPrintable_digitChar (by omega),
    isPrintable_digitChar (by omega), isPrintable_digitChar (by omega)⟩

theorem isPrintable_asciiEscape (c : Char) : ∀ d ∈ asciiEscape c, IsPrintable d := by
  fun_cases asciiEscape c with
  | case3 hquote hback hprint => simpa [IsPrintable] using hprint
  | case9 =>
      intro d hd
      obtain ⟨n, hn, hd⟩ := List.mem_flatMap.mp hd
      exact isPrintable_unicodeEscape (codeUnits_lt c n hn) d hd
  | _ => exact List.all_iff_forall_prop.mp rfl

theorem isPrintable_dumpString (s : String) : ∀ c ∈ dumpString s, IsPrintable c := by
  intro c hc
  rw [dumpString, List.mem_cons, List.mem_append, List.mem_singleton] at hc
  rcases hc with rfl | hc | rfl
  · decide
  · obtain ⟨d, -, hc⟩ := List.mem_flatMap.mp hc
    exact isPrintable_asciiEscape d c hc
  · decide

theorem isPrintable_renderInt (i : ℤ) : ∀ c ∈ renderInt i, IsPrintable c := by
  have hdigits : ∀ c ∈ Nat.toDigits 10 i.natAbs, IsPrintable c := fun c hc =>
    isPrintable_of_isDigit (isDigit_of_mem_toDigits hc)
  rw [renderInt]
  split
  · exact List.forall_mem_cons.mpr ⟨by decide, hdigits⟩
  · exact hdigits

theorem isPrintable_floatText {literal : List Char} (hliteral : FloatText literal) :
    ∀ c ∈ literal, IsPrintable c := by
  cases hliteral with
  | nan => exact List.all_iff_forall_prop.mp rfl
  | infinity => exact List.all_iff_forall_prop.mp rfl
  | negativeInfinity => exact List.all_iff_forall_prop.mp rfl
  | finite negative n hfraction hexponent hsome =>
      have hdigits : ∀ {digits : List Char}, IsDigits digits → ∀ c ∈ digits, IsPrintable c :=
        fun hdigits c hc => isPrintable_of_isDigit (hdigits.2 c hc)
      simp only [List.forall_mem_append]
      refine ⟨⟨⟨?_, fun c hc => isPrintable_of_isDigit (isDigit_of_mem_toDigits hc)⟩, ?_⟩, ?_⟩
      · cases negative <;> exact List.all_iff_forall_prop.mp rfl
      · cases hfraction with
        | none => simp
        | some hrun => exact List.forall_mem_cons.mpr ⟨by decide, hdigits hrun⟩
      · cases hexponent with
        | none => simp
        | some sign hsign hrun =>
            refine List.forall_mem_cons.mpr
              ⟨by decide, List.forall_mem_append.mpr ⟨fun c hc => ?_, hdigits hrun⟩⟩
            rcases hsign c (by simpa using hc) with rfl | rfl <;> decide

mutual

theorem isPrintable_dump : ∀ (value : Json), (∀ scalar ∈ scalars value, Legible scalar) →
    ∀ c ∈ dump value, IsPrintable c
  | .null, _ => List.all_iff_forall_prop.mp rfl
  | .bool true, _ => List.all_iff_forall_prop.mp rfl
  | .bool false, _ => List.all_iff_forall_prop.mp rfl
  | .int i, _ => isPrintable_renderInt i
  | .float literal, hlegible =>
      isPrintable_floatText (hlegible (.float literal) (by simp [scalars]))
  | .str s, _ => isPrintable_dumpString s
  | .arr items, hlegible => by
      have hitems := isPrintable_dumpItems items (by rwa [scalars] at hlegible)
      rw [dump, List.forall_mem_cons, List.forall_mem_append, List.forall_mem_singleton]
      exact ⟨by decide, hitems, by decide⟩
  | .obj members, hlegible => by
      have hmembers := isPrintable_dumpMembers members (by rwa [scalars] at hlegible)
      rw [dump, List.forall_mem_cons, List.forall_mem_append, List.forall_mem_singleton]
      exact ⟨by decide, hmembers, by decide⟩

theorem isPrintable_dumpItems : ∀ (items : List Json),
    (∀ scalar ∈ itemScalars items, Legible scalar) → ∀ c ∈ dumpItems items, IsPrintable c
  | [], _ => by simp [dumpItems]
  | [item], hlegible => by
      rw [dumpItems]
      exact isPrintable_dump item (legible_itemScalars_cons hlegible).1
  | item :: next :: items, hlegible => by
      obtain ⟨hfirst, hnext⟩ := legible_itemScalars_cons hlegible
      rw [dumpItems, List.forall_mem_append, List.forall_mem_cons, List.forall_mem_cons]
      exact ⟨isPrintable_dump item hfirst, by decide, by decide,
        isPrintable_dumpItems (next :: items) hnext⟩

theorem isPrintable_dumpMembers : ∀ (members : List (String × Json)),
    (∀ scalar ∈ memberScalars members, Legible scalar) → ∀ c ∈ dumpMembers members, IsPrintable c
  | [], _ => by simp [dumpMembers]
  | [(key, value)], hlegible => by
      rw [dumpMembers, List.forall_mem_append, List.forall_mem_cons, List.forall_mem_cons]
      exact ⟨isPrintable_dumpString key, by decide, by decide,
        isPrintable_dump value (legible_memberScalars_cons hlegible).1⟩
  | (key, value) :: next :: members, hlegible => by
      obtain ⟨hfirst, hnext⟩ := legible_memberScalars_cons hlegible
      rw [dumpMembers, List.forall_mem_append, List.forall_mem_cons, List.forall_mem_cons,
        List.forall_mem_append, List.forall_mem_cons, List.forall_mem_cons]
      exact ⟨isPrintable_dumpString key, by decide, by decide, isPrintable_dump value hfirst,
        by decide, by decide, isPrintable_dumpMembers (next :: members) hnext⟩

end

theorem isPrintable_dumps {value : Json} {text : String} (hfloats : FloatsWritten value)
    (hdumps : dumps value = some text) : ∀ c ∈ text.toList, IsPrintable c := by
  by_cases hconverts : value.scalars.all converts
  · rw [dumps, if_pos hconverts] at hdumps
    obtain rfl := Option.some.inj hdumps
    rw [String.toList_ofList]
    exact isPrintable_dump _ (legible_of_converts hfloats hconverts)
  · rw [dumps, if_neg hconverts] at hdumps
    cases hdumps

end Json

end Blocksnoop.Support
