import Mathlib.Data.List.Basic

/-!
# Sequential transducers

A machine that reads a list of inputs, keeps a state and writes a list of
outputs.  The two rules compare whole runs: a simulation relates two machines
that read the same inputs, and a filter leaves out the inputs a machine ignores.
-/

namespace Blocksnoop.Support

structure Transducer (α β σ : Type*) where
  step : σ → α → σ × List β

namespace Transducer

variable {α β γ σ τ : Type*}

def run (m : Transducer α β σ) (s : σ) : List α → σ × List β
  | [] => (s, [])
  | a :: as =>
      let next := m.step s a
      let rest := run m next.1 as
      (rest.1, next.2 ++ rest.2)

@[simp] theorem run_nil (m : Transducer α β σ) (s : σ) : m.run s [] = (s, []) := rfl

theorem run_cons (m : Transducer α β σ) (s : σ) (a : α) (as : List α) :
    m.run s (a :: as) =
      ((m.run (m.step s a).1 as).1, (m.step s a).2 ++ (m.run (m.step s a).1 as).2) :=
  rfl

theorem run_append (m : Transducer α β σ) (s : σ) (as bs : List α) :
    m.run s (as ++ bs) =
      ((m.run (m.run s as).1 bs).1, (m.run s as).2 ++ (m.run (m.run s as).1 bs).2) := by
  induction as generalizing s with
  | nil => rfl
  | cons a as ih => simp [run_cons, ih]

/-- A run is extended at its end by one step. -/
theorem run_concat (m : Transducer α β σ) (s : σ) (as : List α) (a : α) :
    m.run s (as ++ [a]) =
      ((m.step (m.run s as).1 a).1, (m.run s as).2 ++ (m.step (m.run s as).1 a).2) := by
  simp [run_append, run_cons]

/-- Machines whose states stay related, and whose outputs agree under `f`, agree
on whole runs. -/
theorem run_simulation {m : Transducer α β σ} {n : Transducer α γ τ}
    {R : σ → τ → Prop} {f : β → γ}
    (hstep : ∀ s t a, R s t →
      R (m.step s a).1 (n.step t a).1 ∧ (n.step t a).2 = (m.step s a).2.map f)
    {s : σ} {t : τ} (hst : R s t) (as : List α) :
    R (m.run s as).1 (n.run t as).1 ∧ (n.run t as).2 = (m.run s as).2.map f := by
  induction as generalizing s t with
  | nil => exact ⟨hst, rfl⟩
  | cons a as ih =>
      obtain ⟨hnext, hout⟩ := hstep s t a hst
      obtain ⟨ihState, ihOut⟩ := ih hnext
      exact ⟨ihState, by simp [run_cons, hout, ihOut]⟩

/-- The machine that ignores the inputs outside `p`. -/
def restrict (m : Transducer α β σ) (p : α → Bool) : Transducer α β σ where
  step s a := if p a then m.step s a else (s, [])

theorem run_restrict (m : Transducer α β σ) (p : α → Bool) (s : σ) (as : List α) :
    (m.restrict p).run s as = m.run s (as.filter p) := by
  induction as generalizing s with
  | nil => rfl
  | cons a as ih =>
      by_cases ha : p a = true
      · simp [run_cons, restrict, ha, ← ih]
      · simp [run_cons, restrict, ha, ← ih]

end Transducer

end Blocksnoop.Support
