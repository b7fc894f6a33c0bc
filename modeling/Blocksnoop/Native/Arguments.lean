import Blocksnoop.Native.Sidecar

/-!
# Numeric arguments

What `parse_u32` and `parse_u64` accept, against the integer that the text denotes.  The
library negates modulo `2 ^ 64`, so a negative number close enough to `-2 ^ 64` comes out
as a small one; `parse_u64` looks for a sign in the first character only, and white space
may stand there.
-/

namespace Blocksnoop.Native

open Blocksnoop.Support

/-- The integer that a text denotes: white space, an optional sign and decimal digits. -/
def denotes (text : List Char) : Option ℤ :=
  let (negative, digits) := takeSign (text.dropWhile isCSpace)
  if digits ≠ [] ∧ digits.all Char.isDigit then
    some (if negative then -(Nat.ofDigitChars 10 digits 0 : ℤ)
      else (Nat.ofDigitChars 10 digits 0 : ℤ))
  else none

/-! ## The library call -/

theorem strtoull_of_denotes {text : List Char} {z : ℤ} (h : denotes text = some z) :
    (strtoull text).rest = [] ∧
      ((strtoull text).erange = false ↔ z.natAbs < 2 ^ 64) ∧
      (z.natAbs < 2 ^ 64 → ((strtoull text).value.toNat : ℤ) = z % 2 ^ 64) := by
  unfold denotes at h
  unfold strtoull
  generalize takeSign (text.dropWhile isCSpace) = parts at h ⊢
  obtain ⟨negative, digits⟩ := parts
  dsimp only at h ⊢
  split at h
  · next hdigits =>
      have hall : ∀ c ∈ digits, c.isDigit = true := List.all_eq_true.mp hdigits.2
      have htake : digits.takeWhile Char.isDigit = digits := List.takeWhile_eq_self_iff.mpr hall
      have hdrop : digits.dropWhile Char.isDigit = [] := List.dropWhile_eq_nil_iff.mpr hall
      rw [htake, hdrop, if_neg hdigits.1]
      generalize Nat.ofDigitChars 10 digits 0 = magnitude at h ⊢
      obtain rfl := Option.some.inj h
      have habs : (if negative then -(magnitude : ℤ) else (magnitude : ℤ)).natAbs = magnitude := by
        split <;> simp
      rw [habs]
      by_cases hlarge : 2 ^ 64 ≤ magnitude
      · rw [if_pos hlarge]
        refine ⟨rfl, iff_of_false Bool.false_ne_true.symm (Nat.not_lt.mpr hlarge), fun hsmall => ?_⟩
        exact absurd hlarge (Nat.not_le.mpr hsmall)
      · have hsmall := Nat.not_le.mp hlarge
        rw [if_neg hlarge]
        cases negative with
        | true =>
            refine ⟨rfl, iff_of_true rfl hsmall, fun _ => ?_⟩
            have hsize : UInt64.size = 2 ^ 64 := rfl
            simp [hsize]
            omega
        | false =>
            refine ⟨rfl, iff_of_true rfl hsmall, fun _ => ?_⟩
            simp
  · cases h

/-- Where no integer is denoted, something is left of the text. -/
theorem strtoull_of_not_denotes {text : List Char} (h : denotes text = none) (hne : text ≠ []) :
    (strtoull text).rest ≠ [] := by
  unfold denotes at h
  unfold strtoull
  generalize takeSign (text.dropWhile isCSpace) = parts at h ⊢
  obtain ⟨negative, digits⟩ := parts
  dsimp only at h ⊢
  by_cases hempty : digits.takeWhile Char.isDigit = []
  · rw [if_pos hempty]
    exact hne
  · have hrest : digits.dropWhile Char.isDigit ≠ [] := by
      intro hdrop
      have hall : ∀ c ∈ digits, c.isDigit = true := List.dropWhile_eq_nil_iff.mp hdrop
      have hdigits : digits ≠ [] := by
        rintro rfl
        exact hempty rfl
      rw [if_pos ⟨hdigits, List.all_eq_true.mpr hall⟩] at h
      cases h
    rw [if_neg hempty]
    split
    · exact hrest
    · split
      · exact hrest
      · exact hrest

/-! ## What the two functions accept -/

theorem denotes_ne_nil {text : List Char} {z : ℤ} (h : denotes text = some z) : text ≠ [] := by
  rintro rfl
  simp [denotes, takeSign] at h

/-- The five conditions under which `parse_u32` returns zero. -/
theorem parseU32_checks (value : String) (v : UInt32) :
    parseU32 value = some v ↔
      value.toList ≠ [] ∧ (strtoull value.toList).rest = [] ∧
        (strtoull value.toList).erange = false ∧ (strtoull value.toList).value ≠ 0 ∧
        (strtoull value.toList).value ≤ 0xFFFFFFFF ∧
        (strtoull value.toList).value.toUInt32 = v := by
  simp [parseU32]
  tauto

theorem parseU64_checks (value : String) (v : UInt64) :
    parseU64 value = some v ↔
      value.toList ≠ [] ∧ (∀ c ∈ value.toList.head?, c ≠ '-' ∧ c ≠ '+') ∧
        (strtoull value.toList).rest = [] ∧ (strtoull value.toList).erange = false ∧
        (strtoull value.toList).value = v := by
  unfold parseU64
  split
  · simp [*]
  · simp [*]
  · simp [*]
  · next hne hminus hplus =>
      have hsign : ∀ c ∈ value.toList.head?, c ≠ '-' ∧ c ≠ '+' := by
        intro c hc
        obtain ⟨cs, hcs⟩ := List.head?_eq_some_iff.mp hc
        constructor
        · rintro rfl
          exact hminus cs hcs
        · rintro rfl
          exact hplus cs hcs
      rw [and_iff_right hne, and_iff_right hsign]
      simp
      tauto

theorem parseU32_eq_some_iff (value : String) (v : UInt32) :
    parseU32 value = some v ↔
      ∃ z, denotes value.toList = some z ∧ z.natAbs < 2 ^ 64 ∧ (v.toNat : ℤ) = z % 2 ^ 64 ∧
        v ≠ 0 := by
  rw [parseU32_checks]
  constructor
  · rintro ⟨hne, hrest, herange, hzero, hlarge, rfl⟩
    cases hdenotes : denotes value.toList with
    | none => exact absurd hrest (strtoull_of_not_denotes hdenotes hne)
    | some z =>
        obtain ⟨-, hiff, hvalue⟩ := strtoull_of_denotes hdenotes
        have hsmall := hiff.mp herange
        have hlt : (strtoull value.toList).value.toNat < 2 ^ 32 := by
          rw [UInt64.le_iff_toNat_le] at hlarge
          exact Nat.lt_succ_of_le hlarge
        have htruncated : (strtoull value.toList).value.toUInt32.toNat =
            (strtoull value.toList).value.toNat := Nat.mod_eq_of_lt hlt
        refine ⟨z, rfl, hsmall, ?_, ?_⟩
        · rw [htruncated]
          exact hvalue hsmall
        · intro h
          apply hzero
          apply UInt64.toNat.inj
          rw [← htruncated, h]
          rfl
  · rintro ⟨z, hdenotes, hsmall, hv, hzero⟩
    obtain ⟨hrest, hiff, hvalue⟩ := strtoull_of_denotes hdenotes
    have hparsed := hvalue hsmall
    rw [← hv, Int.natCast_inj] at hparsed
    have hlt := v.toNat_lt
    refine ⟨denotes_ne_nil hdenotes, hrest, hiff.mpr hsmall, ?_, ?_, ?_⟩
    · intro h
      rw [h] at hparsed
      exact hzero (UInt32.toNat.inj hparsed.symm)
    · rw [UInt64.le_iff_toNat_le, hparsed]
      exact Nat.le_of_lt_succ hlt
    · apply UInt32.toNat.inj
      exact (congrArg (· % 2 ^ 32) hparsed).trans (Nat.mod_eq_of_lt hlt)

theorem parseU64_eq_some_iff (value : String) (v : UInt64) :
    parseU64 value = some v ↔
      (∀ c ∈ value.toList.head?, c ≠ '-' ∧ c ≠ '+') ∧
        ∃ z, denotes value.toList = some z ∧ z.natAbs < 2 ^ 64 ∧ (v.toNat : ℤ) = z % 2 ^ 64 := by
  rw [parseU64_checks]
  constructor
  · rintro ⟨hne, hsign, hrest, herange, rfl⟩
    cases hdenotes : denotes value.toList with
    | none => exact absurd hrest (strtoull_of_not_denotes hdenotes hne)
    | some z =>
        obtain ⟨-, hiff, hvalue⟩ := strtoull_of_denotes hdenotes
        have hsmall := hiff.mp herange
        exact ⟨hsign, z, rfl, hsmall, hvalue hsmall⟩
  · rintro ⟨hsign, z, hdenotes, hsmall, hv⟩
    obtain ⟨hrest, hiff, hvalue⟩ := strtoull_of_denotes hdenotes
    refine ⟨denotes_ne_nil hdenotes, hsign, hrest, hiff.mpr hsmall, ?_⟩
    apply UInt64.toNat.inj
    have hparsed := (hvalue hsmall).trans hv.symm
    exact_mod_cast hparsed

/-! ## The texts that are misread -/

/-- The text denotes a number so far below zero that it wraps to one of 32 bits. -/
def WrapsU32 (value : String) : Prop :=
  ∃ z, denotes value.toList = some z ∧ -2 ^ 64 < z ∧ z < -2 ^ 64 + 2 ^ 32

/-- White space before the sign of a negative number. -/
def WrapsU64 (value : String) : Prop :=
  (∃ c ∈ value.toList.head?, isCSpace c = true) ∧
    ∃ z, denotes value.toList = some z ∧ -2 ^ 64 < z ∧ z < 0

/-- A negative number starts with its sign or with white space. -/
theorem head_of_denotes_neg {text : List Char} {z : ℤ} (h : denotes text = some z) (hz : z < 0) :
    ∃ c ∈ text.head?, isCSpace c = true ∨ c = '-' := by
  cases text with
  | nil => exact absurd rfl (denotes_ne_nil h)
  | cons c cs =>
      refine ⟨c, rfl, ?_⟩
      by_contra hnot
      obtain ⟨hspace, hminus⟩ := not_or.mp hnot
      unfold denotes at h
      rw [List.dropWhile_cons_of_neg hspace] at h
      have hsign : (takeSign (c :: cs)).1 = false := by
        unfold takeSign
        split
        · next heq => exact absurd (List.cons.inj heq).1 hminus
        · rfl
        · rfl
      generalize takeSign (c :: cs) = parts at h hsign
      obtain ⟨negative, digits⟩ := parts
      dsimp only at h hsign
      rw [hsign] at h
      split at h
      · obtain rfl := Option.some.inj h
        simp at hz
        omega
      · cases h

theorem emod_of_neg {z : ℤ} (hlow : -2 ^ 64 < z) (hz : z < 0) : z % 2 ^ 64 = z + 2 ^ 64 := by
  omega

theorem parseU32_denotes_iff (value : String) :
    (∀ v, parseU32 value = some v →
        denotes value.toList = some (v.toNat : ℤ) ∧ 1 ≤ v.toNat ∧ v.toNat ≤ 2 ^ 32 - 1) ↔
      ¬ WrapsU32 value := by
  constructor
  · rintro h ⟨z, hdenotes, hlow, hhigh⟩
    have hwrapped := emod_of_neg hlow (by omega)
    have hsmall : (z + 2 ^ 64).toNat < 2 ^ 32 := by omega
    have hv : ((UInt32.ofNat (z + 2 ^ 64).toNat).toNat : ℤ) = z + 2 ^ 64 := by
      rw [UInt32.toNat_ofNat_of_lt' hsmall]
      omega
    have hparsed : parseU32 value = some (UInt32.ofNat (z + 2 ^ 64).toNat) := by
      refine (parseU32_eq_some_iff value _).mpr ⟨z, hdenotes, by omega, hv.trans hwrapped.symm, ?_⟩
      intro hzero
      rw [hzero, UInt32.toNat_zero] at hv
      omega
    have hsame := Option.some.inj (hdenotes.symm.trans (h _ hparsed).1)
    omega
  · intro hwraps v hparsed
    obtain ⟨z, hdenotes, hsmall, hv, hzero⟩ := (parseU32_eq_some_iff value v).mp hparsed
    have hlt := v.toNat_lt
    have hpos : 0 < v.toNat := Nat.pos_of_ne_zero fun h => hzero (UInt32.toNat.inj h)
    have hnonneg : 0 ≤ z := by
      by_contra hneg
      refine hwraps ⟨z, hdenotes, by omega, ?_⟩
      rw [emod_of_neg (by omega) (by omega)] at hv
      omega
    rw [Int.emod_eq_of_lt hnonneg (by omega)] at hv
    exact ⟨by rw [hv]; exact hdenotes, hpos, by omega⟩

theorem parseU64_denotes_iff (value : String) :
    (∀ v, parseU64 value = some v →
        denotes value.toList = some (v.toNat : ℤ) ∧ v.toNat ≤ 2 ^ 64 - 1) ↔
      ¬ WrapsU64 value := by
  constructor
  · rintro h ⟨⟨c, hc, hspace⟩, z, hdenotes, hlow, hz⟩
    have hwrapped := emod_of_neg hlow hz
    have hsmall : (z + 2 ^ 64).toNat < 2 ^ 64 := by omega
    have hv : ((UInt64.ofNat (z + 2 ^ 64).toNat).toNat : ℤ) = z + 2 ^ 64 := by
      rw [UInt64.toNat_ofNat_of_lt' hsmall]
      omega
    have hparsed : parseU64 value = some (UInt64.ofNat (z + 2 ^ 64).toNat) := by
      refine (parseU64_eq_some_iff value _).mpr
        ⟨?_, z, hdenotes, by omega, hv.trans hwrapped.symm⟩
      intro c' hc'
      obtain rfl := Option.some.inj (hc.symm.trans hc')
      constructor
      · rintro rfl
        exact absurd hspace (by decide)
      · rintro rfl
        exact absurd hspace (by decide)
    have hsame := Option.some.inj (hdenotes.symm.trans (h _ hparsed).1)
    omega
  · intro hwraps v hparsed
    obtain ⟨hsign, z, hdenotes, hsmall, hv⟩ := (parseU64_eq_some_iff value v).mp hparsed
    have hlt := v.toNat_lt
    have hnonneg : 0 ≤ z := by
      by_contra hneg
      obtain ⟨c, hc, hspace | hminus⟩ := head_of_denotes_neg hdenotes (by omega)
      · exact hwraps ⟨⟨c, hc, hspace⟩, z, hdenotes, by omega, by omega⟩
      · exact (hsign c hc).1 hminus
    rw [Int.emod_eq_of_lt hnonneg (by omega)] at hv
    exact ⟨by rw [hv]; exact hdenotes, by omega⟩

/-- An accepted text denotes the number that is stored, for each of the two functions,
exactly where it does not wrap. -/
theorem parse_denotes_iff (value : String) :
    ((∀ v, parseU32 value = some v →
        denotes value.toList = some (v.toNat : ℤ) ∧ 1 ≤ v.toNat ∧ v.toNat ≤ 2 ^ 32 - 1) ↔
      ¬ WrapsU32 value) ∧
    ((∀ v, parseU64 value = some v →
        denotes value.toList = some (v.toNat : ℤ) ∧ v.toNat ≤ 2 ^ 64 - 1) ↔
      ¬ WrapsU64 value) :=
  ⟨parseU32_denotes_iff value, parseU64_denotes_iff value⟩

/-- A negative threshold behind a blank, and a process number near `-2 ^ 64`. -/
theorem exists_accepted_negative :
    (∃ v, parseU64 " -1" = some v ∧ denotes " -1".toList = some (-1) ∧ v.toNat = 2 ^ 64 - 1) ∧
      ∃ v, parseU32 "-18446744073709551615" = some v ∧
        denotes "-18446744073709551615".toList = some (-18446744073709551615) ∧ v.toNat = 1 := by
  exact ⟨⟨18446744073709551615, by decide, by decide, rfl⟩, ⟨1, by decide, by decide, rfl⟩⟩

end Blocksnoop.Native
