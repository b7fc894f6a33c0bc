import Mathlib.Order.UpperLower.CompleteLattice

/-!
# Interruptible programs

Programs that change a state, raise exceptions and can be interrupted at marked
points by a handler that runs on top of them.  A run is followed as far as its
state says: it returns, raises or pauses where the state has nothing more to offer.
The state is preordered by its history, and a program only extends the history.

The rules of pre- and postconditions speak about runs with a fine history, that
is, one in a given lower set.  Since every initial part of a fine history is
fine, the restriction passes through all constructs.
-/

namespace Blocksnoop.Support

/-- How a run ends. -/
inductive Outcome (ε α : Type) where
  | ok (a : α)
  | raised (e : ε)
  | paused
  deriving Repr, DecidableEq

/-- The run returned or raised. -/
def Outcome.ended {ε α : Type} : Outcome ε α → Bool
  | .ok _ => true
  | .raised _ => true
  | .paused => false

structure Prog (σ ε : Type) [Preorder σ] (α : Type) where
  run : σ → Outcome ε α × σ
  le_run : ∀ s, s ≤ (run s).2

namespace Prog

variable {σ ε κ α β : Type} [Preorder σ]

def pure (a : α) : Prog σ ε α where
  run s := (.ok a, s)
  le_run _ := le_rfl

def raise (e : ε) : Prog σ ε α where
  run s := (.raised e, s)
  le_run _ := le_rfl

def pause : Prog σ ε α where
  run s := (.paused, s)
  le_run _ := le_rfl

def get (f : σ → α) : Prog σ ε α where
  run s := (.ok (f s), s)
  le_run _ := le_rfl

def modify (f : σ → σ) (h : ∀ s, s ≤ f s) : Prog σ ε Unit where
  run s := (.ok (), f s)
  le_run := h

/-- Run `p` and go on with what it returned or raised. -/
def tryElse (p : Prog σ ε α) (onRaise : ε → Prog σ ε β) (onOk : α → Prog σ ε β) :
    Prog σ ε β where
  run s :=
    match p.run s with
    | (.ok a, s') => (onOk a).run s'
    | (.raised e, s') => (onRaise e).run s'
    | (.paused, s') => (.paused, s')
  le_run s := by
    have hp := p.le_run s
    rcases hrun : p.run s with ⟨outcome, s'⟩
    rw [hrun] at hp
    cases outcome with
    | ok a => exact hp.trans ((onOk a).le_run s')
    | raised e => exact hp.trans ((onRaise e).le_run s')
    | paused => exact hp

def bind (p : Prog σ ε α) (f : α → Prog σ ε β) : Prog σ ε β :=
  tryElse p raise f

instance : Monad (Prog σ ε) where
  pure := pure
  bind := bind

def tryCatch (p : Prog σ ε α) (onRaise : ε → Prog σ ε α) : Prog σ ε α :=
  tryElse p onRaise pure

/-- Run `final` after `p`, whether it returned or raised; an exception of `final`
replaces the one of `p`. -/
def tryFinally (p : Prog σ ε α) (final : Prog σ ε Unit) : Prog σ ε α :=
  tryElse p (fun e => bind final fun _ => raise e) (fun a => bind final fun _ => pure a)

/-- A point at which the program can be interrupted.  The state offers the next
step with or without an interrupt, or nothing more. -/
def interruptible (next : σ → Option (σ × Option κ × α))
    (hnext : ∀ s step, next s = some step → s ≤ step.1)
    (handler : κ → Prog σ ε Unit) : Prog σ ε α where
  run s :=
    match next s with
    | none => (.paused, s)
    | some (s', none, a) => (.ok a, s')
    | some (s', some k, a) => (bind (handler k) fun _ => pure a).run s'
  le_run s := by
    cases h : next s with
    | none => exact le_rfl
    | some step =>
        obtain ⟨s', interrupt, a⟩ := step
        have hs' : s ≤ s' := hnext s _ h
        cases interrupt with
        | none => exact hs'
        | some k => exact hs'.trans ((bind (handler k) fun _ => pure a).le_run s')

end Prog

/-! ## Postconditions -/

/-- A condition for every way to end. -/
structure Post (σ ε α : Type) where
  ok : α → σ → Prop
  raised : ε → σ → Prop
  paused : σ → Prop

namespace Post

variable {σ ε α : Type}

def Holds (Q : Post σ ε α) : Outcome ε α × σ → Prop
  | (.ok a, s) => Q.ok a s
  | (.raised e, s) => Q.raised e s
  | (.paused, s) => Q.paused s

end Post

/-! ## Weakest preconditions -/

section

variable {σ ε κ α β : Type} [Preorder σ] {fine : LowerSet σ}

/-- Every run of `p` from `s` with a fine history ends as `Q` says. -/
def wp (fine : LowerSet σ) (p : Prog σ ε α) (Q : Post σ ε α) (s : σ) : Prop :=
  (p.run s).2 ∈ fine → Q.Holds (p.run s)

/-- A postcondition may be weakened, knowing that the history is fine. -/
theorem wp.mono {p : Prog σ ε α} {Q Q' : Post σ ε α} {s : σ} (h : wp fine p Q s)
    (hok : ∀ a s', s' ∈ fine → Q.ok a s' → Q'.ok a s')
    (hraised : ∀ e s', s' ∈ fine → Q.raised e s' → Q'.raised e s')
    (hpaused : ∀ s', s' ∈ fine → Q.paused s' → Q'.paused s') :
    wp fine p Q' s := by
  intro hfine
  have hQ := h hfine
  rcases hrun : p.run s with ⟨outcome, s'⟩
  rw [hrun] at hQ hfine
  cases outcome with
  | ok a => exact hok a s' hfine hQ
  | raised e => exact hraised e s' hfine hQ
  | paused => exact hpaused s' hfine hQ

/-- A program that returns only extends the history. -/
theorem wp.from_start {p : Prog σ ε α} {Q : Post σ ε α} {s : σ} (h : wp fine p Q s) :
    wp fine p { Q with ok := fun a s' => Q.ok a s' ∧ s ≤ s' } s := by
  intro hfine
  have hQ := h hfine
  have hle := p.le_run s
  rcases hrun : p.run s with ⟨outcome, s'⟩
  rw [hrun] at hQ hle
  cases outcome with
  | ok a => exact ⟨hQ, hle⟩
  | raised e => exact hQ
  | paused => exact hQ

theorem wp_pure {a : α} {Q : Post σ ε α} {s : σ} (h : Q.ok a s) :
    wp fine (Prog.pure a) Q s :=
  fun _ => h

theorem wp_raise {e : ε} {Q : Post σ ε α} {s : σ} (h : Q.raised e s) :
    wp fine (Prog.raise e) Q s :=
  fun _ => h

theorem wp_pause {Q : Post σ ε α} {s : σ} (h : Q.paused s) :
    wp fine (Prog.pause : Prog σ ε α) Q s :=
  fun _ => h

theorem wp_get {f : σ → α} {Q : Post σ ε α} {s : σ} (h : Q.ok (f s) s) :
    wp fine (Prog.get f) Q s :=
  fun _ => h

theorem wp_modify {f : σ → σ} {hf : ∀ s, s ≤ f s} {Q : Post σ ε Unit} {s : σ}
    (h : f s ∈ fine → Q.ok () (f s)) : wp fine (Prog.modify f hf) Q s :=
  fun hfine => h hfine

theorem wp_tryElse {p : Prog σ ε α} {onRaise : ε → Prog σ ε β} {onOk : α → Prog σ ε β}
    {Q : Post σ ε β} {s : σ}
    (h : wp fine p
      { ok := fun a => wp fine (onOk a) Q
        raised := fun e => wp fine (onRaise e) Q
        paused := Q.paused } s) :
    wp fine (Prog.tryElse p onRaise onOk) Q s := by
  unfold wp at h ⊢
  simp only [Prog.tryElse]
  rcases hrun : p.run s with ⟨outcome, s'⟩
  rw [hrun] at h
  cases outcome with
  | ok a =>
      intro hfine
      exact h (fine.lower ((onOk a).le_run s') hfine) hfine
  | raised e =>
      intro hfine
      exact h (fine.lower ((onRaise e).le_run s') hfine) hfine
  | paused => exact h

theorem wp_bind {p : Prog σ ε α} {f : α → Prog σ ε β} {Q : Post σ ε β} {s : σ}
    (h : wp fine p
      { ok := fun a => wp fine (f a) Q
        raised := Q.raised
        paused := Q.paused } s) :
    wp fine (p >>= f) Q s :=
  wp_tryElse (h.mono (fun _ _ _ h => h) (fun _ _ _ h => wp_raise h)
    (fun _ _ h => h))

theorem wp_get_bind {g : σ → α} {f : α → Prog σ ε β} {Q : Post σ ε β} {s : σ}
    (h : wp fine (f (g s)) Q s) : wp fine (Prog.get g >>= f) Q s :=
  wp_bind (wp_get h)

theorem wp_modify_bind {g : σ → σ} {hg : ∀ s, s ≤ g s} {f : Unit → Prog σ ε β}
    {Q : Post σ ε β} {s : σ} (h : g s ∈ fine → wp fine (f ()) Q (g s)) :
    wp fine (Prog.modify g hg >>= f) Q s :=
  wp_bind (wp_modify h)

theorem wp_tryCatch {p : Prog σ ε α} {onRaise : ε → Prog σ ε α} {Q : Post σ ε α} {s : σ}
    (h : wp fine p { Q with raised := fun e => wp fine (onRaise e) Q } s) :
    wp fine (Prog.tryCatch p onRaise) Q s :=
  wp_tryElse (h.mono (fun _ _ _ h => wp_pure h) (fun _ _ _ h => h)
    (fun _ _ h => h))

theorem wp_tryFinally {p : Prog σ ε α} {final : Prog σ ε Unit} {Q : Post σ ε α} {s : σ}
    (h : wp fine p
      { ok := fun a => wp fine final { Q with ok := fun _ => Q.ok a }
        raised := fun e => wp fine final { Q with ok := fun _ => Q.raised e }
        paused := Q.paused } s) :
    wp fine (Prog.tryFinally p final) Q s :=
  wp_tryElse (h.mono
    (fun _ _ _ h => wp_bind (h.mono (fun _ _ _ h => wp_pure h) (fun _ _ _ h => h)
      (fun _ _ h => h)))
    (fun _ _ _ h => wp_bind (h.mono (fun _ _ _ h => wp_raise h) (fun _ _ _ h => h)
      (fun _ _ h => h)))
    (fun _ _ h => h))

theorem wp_interruptible {next : σ → Option (σ × Option κ × α)}
    {hnext : ∀ s step, next s = some step → s ≤ step.1} {handler : κ → Prog σ ε Unit}
    {Q : Post σ ε α} {s : σ}
    (hpaused : next s = none → Q.paused s)
    (hquiet : ∀ s' a, next s = some (s', none, a) → Q.ok a s')
    (hinterrupt : ∀ s' k a, next s = some (s', some k, a) → s' ∈ fine →
      wp fine (handler k) { Q with ok := fun _ => Q.ok a } s') :
    wp fine (Prog.interruptible next hnext handler) Q s := by
  unfold wp
  simp only [Prog.interruptible]
  cases h : next s with
  | none => exact fun _ => hpaused h
  | some step =>
      obtain ⟨s', interrupt, a⟩ := step
      cases interrupt with
      | none => exact fun _ => hquiet s' a h
      | some k =>
          intro hfine
          have hs' : s' ∈ fine :=
            fine.lower ((Prog.bind (handler k) fun _ => Prog.pure a).le_run s') hfine
          refine wp_bind (f := fun _ => Prog.pure a) ?_ hfine
          exact (hinterrupt s' k a h hs').mono (fun _ _ _ h => wp_pure h) (fun _ _ _ h => h)
            (fun _ _ h => h)

end

end Blocksnoop.Support
