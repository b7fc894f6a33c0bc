import Blocksnoop.Support.Python
import Mathlib.Algebra.Order.Monoid.Unbundled.Basic

/-!
# Exact arithmetic

The laws of a runtime whose numbers are added and compared exactly.  A number that
has been rounded is a multiple of the last decimal, and sums of such multiples are
multiples again.  The rational numbers are an instance.
-/

namespace Blocksnoop.Support

/-- Numbers of a runtime that are added, compared and rounded without error. -/
class ExactArithmetic (F : Type) [PyRuntime F] [AddCommMonoid F] [LinearOrder F] : Prop where
  zero_eq : (PyRuntime.zero : F) = 0
  add_eq (x y : F) : PyRuntime.add x y = x + y
  le_iff (x y : F) : PyRuntime.le x y = true ↔ x ≤ y
  lt_iff (x y : F) : PyRuntime.lt x y = true ↔ x < y
  round_zero (digits : ℕ) : PyRuntime.round (0 : F) digits = 0
  round_round (x : F) (digits : ℕ) :
    PyRuntime.round (PyRuntime.round x digits) digits = PyRuntime.round x digits
  round_add {x y : F} {digits : ℕ} (hx : PyRuntime.round x digits = x)
    (hy : PyRuntime.round y digits = y) : PyRuntime.round (x + y) digits = x + y
  round_nonneg {x : F} (hx : 0 ≤ x) (digits : ℕ) : 0 ≤ PyRuntime.round x digits
  exists_divInt {n m : ℤ} (hn : 0 ≤ n) (hm : 0 < m) :
    ∃ x : F, PyRuntime.divInt n m = .ok x ∧ 0 ≤ x

theorem roundHalfEven_intCast (k : ℤ) : roundHalfEven (k : ℚ) = k := by
  simp [roundHalfEven]

/-- A rounded rational is a multiple of the last decimal. -/
theorem round_eq_self_iff (x : ℚ) (digits : ℕ) :
    PyRuntime.round x digits = x ↔ ∃ k : ℤ, x * 10 ^ digits = k := by
  have hpow : (10 : ℚ) ^ digits ≠ 0 := pow_ne_zero _ (by norm_num)
  have hround : PyRuntime.round x digits = (roundHalfEven (x * 10 ^ digits) : ℚ) / 10 ^ digits :=
    rfl
  rw [hround, div_eq_iff hpow]
  constructor
  · intro h
    exact ⟨_, h.symm⟩
  · rintro ⟨k, hk⟩
    rw [hk, roundHalfEven_intCast]

instance : ExactArithmetic ℚ where
  zero_eq := rfl
  add_eq _ _ := rfl
  le_iff x y := decide_eq_true_iff
  lt_iff x y := decide_eq_true_iff
  round_zero digits := (round_eq_self_iff 0 digits).mpr ⟨0, by simp⟩
  round_round x digits := by
    have hpow : (10 : ℚ) ^ digits ≠ 0 := pow_ne_zero _ (by norm_num)
    exact (round_eq_self_iff _ digits).mpr ⟨_, div_mul_cancel₀ _ hpow⟩
  round_add {x y digits} hx hy := by
    obtain ⟨k, hk⟩ := (round_eq_self_iff x digits).mp hx
    obtain ⟨l, hl⟩ := (round_eq_self_iff y digits).mp hy
    refine (round_eq_self_iff _ digits).mpr ⟨k + l, ?_⟩
    rw [add_mul, hk, hl, Int.cast_add]
  round_nonneg {x} hx digits := by
    have hpow : (0 : ℚ) ≤ 10 ^ digits := pow_nonneg (by norm_num) _
    have hfloor : 0 ≤ ⌊x * 10 ^ digits⌋ := Int.floor_nonneg.mpr (mul_nonneg hx hpow)
    have hrounded : 0 ≤ roundHalfEven (x * 10 ^ digits) := by
      unfold roundHalfEven
      dsimp only
      split <;> omega
    exact div_nonneg (Int.cast_nonneg hrounded) hpow
  exists_divInt {n m} hn hm :=
    ⟨_, rfl, div_nonneg (Int.cast_nonneg hn) (Int.cast_nonneg hm.le)⟩

end Blocksnoop.Support
