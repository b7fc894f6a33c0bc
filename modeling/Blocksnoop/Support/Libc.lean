import Mathlib.Data.List.TakeWhile
import Mathlib.Tactic

/-!
# The C library calls of the collector

`strtoull` in base ten (on an LP64 system `strtoul` is the same function) and
`getopt_long` with an empty string of short options.  Both follow their
documented behaviour: `strtoull` skips white space, takes an optional sign,
negates modulo `2 ^ 64` and saturates on overflow; `getopt_long` accepts
`--name value`, `--name=value` and unambiguous abbreviations, collects operands
from anywhere in the argument list and stops at `--`.
-/

namespace Blocksnoop.Support

/-! ## Numbers -/

/-- What `strtoull` returns, the text `endptr` points to, and whether it set
`errno`. -/
structure Strtoull where
  value : UInt64
  rest : List Char
  erange : Bool
  deriving Repr, DecidableEq

def isCSpace (c : Char) : Bool :=
  c == ' ' || (0x09 ≤ c.toNat && c.toNat ≤ 0x0D)

/-- The optional sign and the text after it. -/
def takeSign : List Char → Bool × List Char
  | '-' :: cs => (true, cs)
  | '+' :: cs => (false, cs)
  | cs => (false, cs)

def strtoull (text : List Char) : Strtoull :=
  let (negative, cs) := takeSign (text.dropWhile isCSpace)
  let digits := cs.takeWhile Char.isDigit
  let rest := cs.dropWhile Char.isDigit
  let magnitude := Nat.ofDigitChars 10 digits 0
  if digits = [] then ⟨0, text, false⟩
  else if 2 ^ 64 ≤ magnitude then ⟨UInt64.ofNat (2 ^ 64 - 1), rest, true⟩
  else if negative then ⟨-UInt64.ofNat magnitude, rest, false⟩
  else ⟨UInt64.ofNat magnitude, rest, false⟩

theorem toDigits_dropWhile_isCSpace (n : ℕ) :
    (Nat.toDigits 10 n).dropWhile isCSpace = Nat.toDigits 10 n := by
  cases h : Nat.toDigits 10 n with
  | nil => rfl
  | cons c cs =>
      have hc : c.isDigit = true :=
        Nat.isDigit_of_mem_toDigits (b := 10) (n := n) (by decide) (by decide) (by simp [h])
      have hspace : isCSpace c = false := by
        have hbounds : 48 ≤ c.toNat ∧ c.toNat ≤ 57 := by
          simpa [Char.isDigit, UInt32.le_iff_toNat_le] using hc
        have hne : c ≠ ' ' := by
          rintro rfl
          simp at hbounds
        simp [isCSpace, hne]
        omega
      simp [hspace]

theorem takeSign_toDigits (n : ℕ) :
    takeSign (Nat.toDigits 10 n) = (false, Nat.toDigits 10 n) := by
  cases h : Nat.toDigits 10 n with
  | nil => rfl
  | cons c cs =>
      have hc : c.isDigit = true :=
        Nat.isDigit_of_mem_toDigits (b := 10) (n := n) (by decide) (by decide) (by simp [h])
      have hminus : c ≠ '-' := by
        rintro rfl
        simp at hc
      have hplus : c ≠ '+' := by
        rintro rfl
        simp at hc
      rw [takeSign]
      · exact fun _ h => hminus (List.cons.inj h).1
      · exact fun _ h => hplus (List.cons.inj h).1

/-- A decimal numeral in range is read as the number it was written from. -/
theorem strtoull_toDigits {n : ℕ} (hn : n < 2 ^ 64) :
    strtoull (Nat.toDigits 10 n) = ⟨UInt64.ofNat n, [], false⟩ := by
  have hdigits : ∀ c ∈ Nat.toDigits 10 n, c.isDigit = true := fun c hc =>
    Nat.isDigit_of_mem_toDigits (by decide) (by decide) hc
  have htake : (Nat.toDigits 10 n).takeWhile Char.isDigit = Nat.toDigits 10 n :=
    List.takeWhile_eq_self_iff.mpr hdigits
  have hdrop : (Nat.toDigits 10 n).dropWhile Char.isDigit = [] :=
    List.dropWhile_eq_nil_iff.mpr hdigits
  simp only [strtoull, toDigits_dropWhile_isCSpace, takeSign_toDigits, htake, hdrop,
    Nat.ofDigitChars_ten_toDigits]
  rw [if_neg Nat.toDigits_ne_nil, if_neg (Nat.not_le.mpr hn)]
  simp

/-! ## Options -/

structure LongOption where
  name : String
  requiredArgument : Bool
  val : Char
  deriving Repr, DecidableEq

/-- One return of `getopt_long`: an option with its `optarg`, or the question
mark of an unknown, ambiguous or incomplete one. -/
inductive Getopt where
  | option (val : Char) (optarg : Option String)
  | unknown
  deriving Repr, DecidableEq

/-- The option of a name: the one so called, or else the only one the name
abbreviates. -/
def findLongOption (options : List LongOption) (name : List Char) : Option LongOption :=
  match options.find? fun o => o.name.toList == name with
  | some o => some o
  | none =>
      match options.filter fun o => name.isPrefixOf o.name.toList with
      | [o] => some o
      | _ => none

/-- The text after the first `=` of a long option, if there is one. -/
def attachedArgument (cs : List Char) : Option String :=
  match cs.dropWhile (· != '=') with
  | _ :: value => some (String.ofList value)
  | [] => none

/-- Everything `getopt_long` returns on an argument list, and the operands left
from `optind` on. -/
def getoptLong (options : List LongOption) :
    List String → List Getopt × List String
  | [] => ([], [])
  | arg :: rest =>
      match arg.toList with
      | ['-', '-'] => ([], rest)
      | '-' :: '-' :: cs =>
          match findLongOption options (cs.takeWhile (· != '=')) with
          | none => ((getoptLong options rest).map (Getopt.unknown :: ·) id)
          | some o =>
              if o.requiredArgument then
                match attachedArgument cs with
                | some value =>
                    (getoptLong options rest).map (Getopt.option o.val (some value) :: ·) id
                | none =>
                    match rest with
                    | value :: rest =>
                        (getoptLong options rest).map
                          (Getopt.option o.val (some value) :: ·) id
                    | [] => ([.unknown], [])
              else if (attachedArgument cs).isSome then
                (getoptLong options rest).map (Getopt.unknown :: ·) id
              else (getoptLong options rest).map (Getopt.option o.val none :: ·) id
      | '-' :: _ :: _ => (getoptLong options rest).map (Getopt.unknown :: ·) id
      | _ => (getoptLong options rest).map id (arg :: ·)

/-- A required argument may stand in the next word, whatever that word is. -/
theorem getoptLong_required {options : List LongOption} {o : LongOption}
    {arg : String} {name : List Char} (value : String) (rest : List String)
    (harg : arg.toList = '-' :: '-' :: name) (hname : name ≠ []) (heq : '=' ∉ name)
    (hfind : findLongOption options name = some o)
    (hrequired : o.requiredArgument = true) :
    getoptLong options (arg :: value :: rest) =
      (getoptLong options rest).map (Getopt.option o.val (some value) :: ·) id := by
  have hne : ∀ c ∈ name, (c != '=') = true := fun c hc => by
    simpa using fun h : c = '=' => heq (h ▸ hc)
  have htake : name.takeWhile (· != '=') = name := List.takeWhile_eq_self_iff.mpr hne
  have hdrop : name.dropWhile (· != '=') = [] := List.dropWhile_eq_nil_iff.mpr hne
  rw [getoptLong, harg]
  cases name with
  | nil => exact (hname rfl).elim
  | cons c cs =>
      simp only [htake, hfind, hrequired, attachedArgument, hdrop]
      simp

end Blocksnoop.Support
