import Blocksnoop.Support.Json
import Mathlib.Algebra.Order.Floor.Ring
import Mathlib.Data.List.Infix

/-!
# The Python runtime under the program

The floats of the interpreter and its `repr` of a string are a parameter: the
program multiplies a float by an integer, truncates it and compares it with an
integer, and what it does with the results does not depend on how they round.
Only the range of the integers that convert to a float is that of the doubles.
Integers, strings, dictionaries and the reading of integers and lines follow
the language reference.
-/

namespace Blocksnoop.Support

/-- The exceptions the program tells apart.  `other` is any further subclass of
`Exception`, by its name. -/
inductive PyException where
  | coreDetectorError (message : String)
  | bccDetectorError (message : String)
  | other (name : String)
  | systemExit (code : ℤ)
  | keyboardInterrupt
  deriving Repr, DecidableEq

/-- `except Exception` catches everything but the exits. -/
def PyException.isException : PyException → Bool
  | .systemExit _ => false
  | .keyboardInterrupt => false
  | _ => true

/-- The floats of the interpreter and the text forms that depend on its tables. -/
class PyRuntime (F : Type) where
  /-- `float(text)` -/
  ofLiteral : String → F
  /-- `repr(x)` -/
  reprFloat : F → String
  /-- `x == n` -/
  eqInt : F → ℤ → Bool
  /-- `x * n` -/
  mulInt : F → ℤ → F
  /-- `int(x)`, which raises on an infinity and on a NaN -/
  toInt : F → Except PyException ℤ
  /-- `n / m` of integers, which raises when the quotient is too large -/
  divInt : ℤ → ℤ → Except PyException F
  /-- `round(x, digits)` -/
  round : F → ℕ → F
  zero : F
  add : F → F → F
  sub : F → F → F
  lt : F → F → Bool
  le : F → F → Bool
  /-- `repr(s)` of a string -/
  reprStr : String → String

/-- The nearest integer, the even one at a tie. -/
def roundHalfEven (x : ℚ) : ℤ :=
  let fraction := x - ⌊x⌋
  if fraction < 1 / 2 ∨ (fraction = 1 / 2 ∧ ⌊x⌋ % 2 = 0) then ⌊x⌋ else ⌊x⌋ + 1

/-- Exact arithmetic in place of rounded floats; literals read as zero. -/
instance exactRuntime : PyRuntime ℚ where
  ofLiteral _ := 0
  reprFloat _ := ""
  eqInt x n := x == n
  mulInt x n := x * n
  toInt x := .ok (if x < 0 then ⌈x⌉ else ⌊x⌋)
  divInt n m := .ok (n / m)
  round x digits := roundHalfEven (x * 10 ^ digits) / 10 ^ digits
  zero := 0
  add x y := x + y
  sub x y := x - y
  lt x y := x < y
  le x y := x ≤ y
  reprStr s := s

/-- The least integer that `float` refuses: half a unit in the last place above the largest
double, where the even neighbour is `2 ^ 1024`. -/
def floatOverflow : ℕ :=
  2 ^ 1024 - 2 ^ 970

/-- A double holds what fits a machine word. -/
theorem two_pow_64_lt_floatOverflow : 2 ^ 64 < floatOverflow := by
  decide +kernel

/-- `float(n)` of an integer, as far as it raises. -/
def floatInt (n : ℤ) : Except PyException Unit :=
  if n.natAbs < floatOverflow then .ok () else .error (.other "OverflowError")

/-- A sequence of fallible steps succeeds only when its first step does. -/
theorem exists_of_bind_eq_ok {ε α β : Type} {x : Except ε α} {f : α → Except ε β}
    {b : β} (h : x >>= f = .ok b) : ∃ a, x = .ok a ∧ f a = .ok b := by
  cases x with
  | error e => cases h
  | ok a => exact ⟨a, rfl, h⟩

/-! ## Text -/

/-- `str(n)` of an integer. -/
def strInt (n : ℤ) : String :=
  String.ofList (Json.renderInt n)

/-- `str.isspace` of one character. -/
def isPySpace (c : Char) : Bool :=
  (0x09 ≤ c.toNat && c.toNat ≤ 0x0D) || (0x1C ≤ c.toNat && c.toNat ≤ 0x20) ||
    c.toNat == 0x85 || c.toNat == 0xA0 || c.toNat == 0x1680 ||
    (0x2000 ≤ c.toNat && c.toNat ≤ 0x200A) || c.toNat == 0x2028 ||
    c.toNat == 0x2029 || c.toNat == 0x202F || c.toNat == 0x205F ||
    c.toNat == 0x3000

/-- `text.strip()` -/
def pyStrip (cs : List Char) : List Char :=
  ((cs.dropWhile isPySpace).reverse.dropWhile isPySpace).reverse

/-- `text.split()` -/
def pySplit (cs : List Char) : List (List Char) :=
  (cs.splitOnP isPySpace).filter fun word => word ≠ []

/-- `part in text` -/
def pyContains (text part : String) : Bool :=
  decide (part.toList <:+: text.toList)

/-- The lines of a text file, without their line ends. -/
def pyLines (text : String) : List (List Char) :=
  text.toList.splitOnP fun c => c == '\n' || c == '\r'

/-- The digits of an integer literal, where single underscores may separate
digits. -/
def intDigits : List Char → Option (List Char)
  | [] => none
  | [c] => if c.isDigit then some [c] else none
  | c :: '_' :: rest => if c.isDigit then (intDigits rest).map (c :: ·) else none
  | c :: rest => if c.isDigit then (intDigits rest).map (c :: ·) else none

/-- The number of an integer literal that is not too long to be converted. -/
def intNumeral (cs : List Char) : Option ℕ :=
  (intDigits cs).bind fun ds =>
    if Json.maxStrDigits < ds.length then none else some (Nat.ofDigitChars 10 ds 0)

/-- `int(text)` for a text with no digits but those of ASCII; `none` where it raises
`ValueError`. -/
def pyInt (cs : List Char) : Option ℤ :=
  match pyStrip cs with
  | '-' :: rest => (intNumeral rest).map fun n => -(n : ℤ)
  | '+' :: rest => (intNumeral rest).map fun n => (n : ℤ)
  | rest => (intNumeral rest).map fun n => (n : ℤ)

/-! ## Bisection -/

/-- The loop of the `bisect` module: the bounds move until they meet.  `goesRight`
says on which side of an entry the insertion point is. -/
def bisectLoop (goesRight : ℤ → Bool) (a : List ℤ) : ℕ → ℕ → ℕ → ℕ
  | 0, lo, _ => lo
  | fuel + 1, lo, hi =>
      if lo < hi then
        let mid := (lo + hi) / 2
        if goesRight (a.getD mid 0) then bisectLoop goesRight a fuel (mid + 1) hi
        else bisectLoop goesRight a fuel lo mid
      else lo

/-- `bisect.bisect_left(a, x)` -/
def bisectLeft (a : List ℤ) (x : ℤ) : ℕ :=
  bisectLoop (fun entry => entry < x) a a.length 0 a.length

/-- `bisect.bisect_right(a, x)` -/
def bisectRight (a : List ℤ) (x : ℤ) : ℕ :=
  bisectLoop (fun entry => entry ≤ x) a a.length 0 a.length

/-! ## Dictionaries -/

/-- A dictionary in insertion order. -/
abbrev Dict (κ α : Type) := List (κ × α)

namespace Dict

variable {κ α : Type} [DecidableEq κ]

def get (d : Dict κ α) (key : κ) : Option α :=
  d.lookup key

def set (d : Dict κ α) (key : κ) (value : α) : Dict κ α :=
  match d with
  | [] => [(key, value)]
  | (k, v) :: rest =>
      if key = k then (k, value) :: rest else (k, v) :: set rest key value

/-- `d.values()` -/
def values (d : Dict κ α) : List α :=
  d.map (·.2)

theorem get_set_self (d : Dict κ α) (key : κ) (value : α) :
    (d.set key value).get key = some value := by
  induction d with
  | nil => simp [set, get]
  | cons entry rest ih =>
      obtain ⟨k, v⟩ := entry
      by_cases hk : key = k
      · simp [set, get, hk]
      · have hbeq : (key == k) = false := by simpa using hk
        simpa [set, get, hk, List.lookup_cons, hbeq] using ih

theorem get_set_of_ne (d : Dict κ α) {key other : κ} (value : α) (h : other ≠ key) :
    (d.set key value).get other = d.get other := by
  induction d with
  | nil => simp [set, get, List.lookup_cons, beq_false_of_ne h]
  | cons entry rest ih =>
      obtain ⟨k, v⟩ := entry
      by_cases hk : key = k
      · subst hk
        simp [set, get, List.lookup_cons, beq_false_of_ne h]
      · by_cases hother : other = k
        · simp [set, get, hk, hother]
        · simpa [set, get, hk, List.lookup_cons, beq_false_of_ne hother] using ih

/-- A key that is there keeps its place. -/
theorem exists_set_of_get_some {d : Dict κ α} {key : κ} {old : α} (value : α)
    (h : d.get key = some old) :
    ∃ before after, d = before ++ (key, old) :: after ∧
      d.set key value = before ++ (key, value) :: after := by
  induction d with
  | nil => cases h
  | cons entry rest ih =>
      obtain ⟨k, v⟩ := entry
      by_cases hk : key = k
      · subst hk
        have hv : v = old := by simpa [get, List.lookup_cons] using h
        exact ⟨[], rest, by rw [hv, List.nil_append], by simp [set]⟩
      · have hbeq : (key == k) = false := by simpa using hk
        have hrest : Dict.get rest key = some old := by
          simpa [get, List.lookup_cons, hbeq] using h
        obtain ⟨before, after, hd, hset⟩ := ih hrest
        refine ⟨(k, v) :: before, after, by rw [hd, List.cons_append], ?_⟩
        rw [set, if_neg hk, hset, List.cons_append]

end Dict

end Blocksnoop.Support
