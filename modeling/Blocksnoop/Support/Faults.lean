import Mathlib.Tactic

/-!
# Programs with points of failure

A plan says what happens at each named point of a program: nothing, an exception of the
callee, or an exit that a signal handler raises before or after the effect of the point.
The state survives whatever is raised, so the cleaning up after a failure can be followed.
An exit is no exception: handlers for exceptions let it pass.
-/

namespace Blocksnoop.Support

inductive Fault (ε : Type) where
  | none
  | raises (error : ε)
  | exitBefore
  | exitAfter
  deriving Repr, DecidableEq

inductive Raised (ε : Type) where
  | exception (error : ε)
  | systemExit
  deriving Repr, DecidableEq

namespace Fault

variable {ε : Type}

/-- The signal handler raises at the point. -/
def IsExit (f : Fault ε) : Prop :=
  f = exitBefore ∨ f = exitAfter

@[simp] theorem not_isExit_none : ¬ (none : Fault ε).IsExit := by
  simp [IsExit]

@[simp] theorem not_isExit_raises (error : ε) : ¬ (raises error).IsExit := by
  simp [IsExit]

/-- What is raised at a point without an effect. -/
def outcome : Fault ε → Except (Raised ε) Unit
  | none => .ok ()
  | raises error => .error (.exception error)
  | exitBefore => .error .systemExit
  | exitAfter => .error .systemExit

end Fault

/-- A program over the points `π` with the states `σ`. -/
structure Faulty (π ε σ α : Type) where
  run : (π → Fault ε) → σ → Except (Raised ε) α × σ

namespace Faulty

variable {π ε σ α β : Type}

protected def pure (a : α) : Faulty π ε σ α where
  run _ s := (.ok a, s)

protected def bind (p : Faulty π ε σ α) (f : α → Faulty π ε σ β) : Faulty π ε σ β where
  run plan s :=
    match p.run plan s with
    | (.ok a, s') => (f a).run plan s'
    | (.error raised, s') => (.error raised, s')

instance : Monad (Faulty π ε σ) where
  pure := Faulty.pure
  bind := Faulty.bind

def get (f : σ → α) : Faulty π ε σ α where
  run _ s := (.ok (f s), s)

def modify (f : σ → σ) : Faulty π ε σ Unit where
  run _ s := (.ok (), f s)

def raise (error : ε) : Faulty π ε σ α where
  run _ s := (.error (.exception error), s)

/-- A call of something that may raise. -/
def call (point : π) (p : Faulty π ε σ α) : Faulty π ε σ α where
  run plan s :=
    match plan point with
    | .none => p.run plan s
    | .raises error => (.error (.exception error), s)
    | .exitBefore => (.error .systemExit, s)
    | .exitAfter => (.error .systemExit, (p.run plan s).2)

/-- A statement that raises nothing of itself. -/
def step (point : π) (p : Faulty π ε σ α) : Faulty π ε σ α where
  run plan s :=
    match plan point with
    | .none => p.run plan s
    | .raises _ => p.run plan s
    | .exitBefore => (.error .systemExit, s)
    | .exitAfter => (.error .systemExit, (p.run plan s).2)

/-- `try: … except Exception: …` -/
def tryExcept (p : Faulty π ε σ α) (onError : ε → Faulty π ε σ α) : Faulty π ε σ α where
  run plan s :=
    match p.run plan s with
    | (.error (.exception error), s') => (onError error).run plan s'
    | result => result

/-- Calls without an effect, one after the other. -/
def calls : List π → Faulty π ε σ Unit
  | [] => pure ()
  | point :: points => do
      call point (pure ())
      calls points

/-! ## Runs -/

section

variable {plan : π → Fault ε} {s : σ} {point : π}

@[simp] theorem run_pure (a : α) : (pure a : Faulty π ε σ α).run plan s = (.ok a, s) :=
  rfl

@[simp] theorem run_get (f : σ → α) : (get f : Faulty π ε σ α).run plan s = (.ok (f s), s) :=
  rfl

@[simp] theorem run_modify (f : σ → σ) :
    (modify f : Faulty π ε σ Unit).run plan s = (.ok (), f s) :=
  rfl

@[simp] theorem run_raise (error : ε) :
    (raise error : Faulty π ε σ α).run plan s = (.error (.exception error), s) :=
  rfl

theorem run_bind_ok {p : Faulty π ε σ α} {f : α → Faulty π ε σ β} {a : α} {s' : σ}
    (h : p.run plan s = (.ok a, s')) : (p >>= f).run plan s = (f a).run plan s' := by
  change (Faulty.bind p f).run plan s = _
  simp only [Faulty.bind, h]

theorem run_bind_error {p : Faulty π ε σ α} {f : α → Faulty π ε σ β} {raised : Raised ε} {s' : σ}
    (h : p.run plan s = (.error raised, s')) :
    (p >>= f).run plan s = (.error raised, s') := by
  change (Faulty.bind p f).run plan s = _
  simp only [Faulty.bind, h]

theorem run_call (p : Faulty π ε σ α) :
    (call point p).run plan s =
      match plan point with
      | .none => p.run plan s
      | .raises error => (.error (.exception error), s)
      | .exitBefore => (.error .systemExit, s)
      | .exitAfter => (.error .systemExit, (p.run plan s).2) :=
  rfl

theorem run_step (p : Faulty π ε σ α) :
    (step point p).run plan s =
      match plan point with
      | .none => p.run plan s
      | .raises _ => p.run plan s
      | .exitBefore => (.error .systemExit, s)
      | .exitAfter => (.error .systemExit, (p.run plan s).2) :=
  rfl

/-- The first point of a list at which something is raised. -/
def firstFault (plan : π → Fault ε) : List π → Fault ε
  | [] => .none
  | point :: points =>
      match plan point with
      | .none => firstFault plan points
      | fault => fault

/-- Calls without an effect raise what is raised first. -/
theorem run_calls (points : List π) :
    (calls points : Faulty π ε σ Unit).run plan s = ((firstFault plan points).outcome, s) := by
  induction points with
  | nil => rfl
  | cons point points ih =>
      cases hpoint : plan point with
      | none =>
          have hcall : (call point (pure ()) : Faulty π ε σ Unit).run plan s = (.ok (), s) := by
            simp only [call, hpoint, run_pure]
          rw [calls, run_bind_ok hcall, ih]
          simp only [firstFault, hpoint]
      | raises error =>
          have hcall : (call point (pure ()) : Faulty π ε σ Unit).run plan s =
              (.error (.exception error), s) := by
            simp only [call, hpoint]
          rw [calls, run_bind_error hcall]
          simp only [firstFault, hpoint, Fault.outcome]
      | exitBefore =>
          have hcall : (call point (pure ()) : Faulty π ε σ Unit).run plan s =
              (.error .systemExit, s) := by
            simp only [call, hpoint]
          rw [calls, run_bind_error hcall]
          simp only [firstFault, hpoint, Fault.outcome]
      | exitAfter =>
          have hcall : (call point (pure ()) : Faulty π ε σ Unit).run plan s =
              (.error .systemExit, s) := by
            simp only [call, hpoint, run_pure]
          rw [calls, run_bind_error hcall]
          simp only [firstFault, hpoint, Fault.outcome]

end

/-! ## Weakest preconditions -/

/-- What the program ends with, and in which state. -/
def ensures (plan : π → Fault ε) (p : Faulty π ε σ α) (Q : Except (Raised ε) α → σ → Prop) (s : σ) :
    Prop :=
  Q (p.run plan s).1 (p.run plan s).2

section

variable {plan : π → Fault ε} {s : σ} {point : π} {p : Faulty π ε σ α}

theorem ensures.mono {Q Q' : Except (Raised ε) α → σ → Prop} (h : ensures plan p Q s)
    (hmono : ∀ result s', Q result s' → Q' result s') : ensures plan p Q' s :=
  hmono _ _ h

theorem ensures_pure {a : α} {Q : Except (Raised ε) α → σ → Prop} (h : Q (.ok a) s) :
    ensures plan (pure a) Q s :=
  h

theorem ensures_get {g : σ → α} {Q : Except (Raised ε) α → σ → Prop} (h : Q (.ok (g s)) s) :
    ensures plan (get g) Q s :=
  h

theorem ensures_modify {g : σ → σ} {Q : Except (Raised ε) Unit → σ → Prop} (h : Q (.ok ()) (g s)) :
    ensures plan (modify g) Q s :=
  h

theorem ensures_raise {error : ε} {Q : Except (Raised ε) α → σ → Prop}
    (h : Q (.error (.exception error)) s) : ensures plan (raise error) Q s :=
  h

theorem ensures_then {f : α → Faulty π ε σ β} {Q : Except (Raised ε) β → σ → Prop}
    (h : ensures plan p (fun result s' =>
      match result with
      | .ok a => ensures plan (f a) Q s'
      | .error raised => Q (.error raised) s') s) :
    ensures plan (p >>= f) Q s := by
  unfold ensures at h ⊢
  rcases hrun : p.run plan s with ⟨result, s'⟩
  rw [hrun] at h
  cases result with
  | ok a =>
      rw [run_bind_ok hrun]
      exact h
  | error raised =>
      rw [run_bind_error hrun]
      exact h

/-- The three ways past a call. -/
theorem ensures_call {Q : Except (Raised ε) α → σ → Prop}
    (hnone : plan point = .none → ensures plan p Q s)
    (hraises : ∀ error, plan point = .raises error → Q (.error (.exception error)) s)
    (hbefore : plan point = .exitBefore → Q (.error .systemExit) s)
    (hafter : plan point = .exitAfter → Q (.error .systemExit) (p.run plan s).2) :
    ensures plan (call point p) Q s := by
  unfold ensures
  rw [run_call]
  cases hpoint : plan point with
  | none => exact hnone hpoint
  | raises error => exact hraises error hpoint
  | exitBefore => exact hbefore hpoint
  | exitAfter => exact hafter hpoint

theorem ensures_step {Q : Except (Raised ε) α → σ → Prop}
    (hpast : ¬ (plan point).IsExit → ensures plan p Q s)
    (hbefore : plan point = .exitBefore → Q (.error .systemExit) s)
    (hafter : plan point = .exitAfter → Q (.error .systemExit) (p.run plan s).2) :
    ensures plan (step point p) Q s := by
  unfold ensures
  rw [run_step]
  cases hpoint : plan point with
  | none => exact hpast (by simp [hpoint, Fault.IsExit])
  | raises error => exact hpast (by simp [hpoint, Fault.IsExit])
  | exitBefore => exact hbefore hpoint
  | exitAfter => exact hafter hpoint

theorem ensures_calls {points : List π} {Q : Except (Raised ε) Unit → σ → Prop}
    (hnone : firstFault plan points = .none → Q (.ok ()) s)
    (hraises : ∀ error, firstFault plan points = .raises error → Q (.error (.exception error)) s)
    (hexit : (firstFault plan points).IsExit → Q (.error .systemExit) s) :
    ensures plan (calls points) Q s := by
  unfold ensures
  rw [run_calls]
  cases hfault : firstFault plan points with
  | none => exact hnone hfault
  | raises error => exact hraises error hfault
  | exitBefore => exact hexit (.inl hfault)
  | exitAfter => exact hexit (.inr hfault)

theorem ensures_tryExcept {onError : ε → Faulty π ε σ α} {Q : Except (Raised ε) α → σ → Prop}
    (h : ensures plan p (fun result s' =>
      match result with
      | .error (.exception error) => ensures plan (onError error) Q s'
      | result => Q result s') s) :
    ensures plan (tryExcept p onError) Q s := by
  unfold ensures at h ⊢
  unfold tryExcept
  dsimp only
  rcases hrun : p.run plan s with ⟨result, s'⟩
  rw [hrun] at h
  cases result with
  | ok a => exact h
  | error raised =>
      cases raised with
      | exception error => exact h
      | systemExit => exact h

end

end Faulty

end Blocksnoop.Support
