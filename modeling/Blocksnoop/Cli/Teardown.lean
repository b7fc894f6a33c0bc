import Blocksnoop.Cli.RunLoop

/-!
# The stages of a run

A run of the loop is open until the flag `cleaned_up` is set; then `stop` runs,
`on_exit` runs and the child is stopped.  A property of runs is given by what it
says of the world in each of these stages.  When the world and the callbacks
respect the stages, every run does, whatever signals arrive: this is proved once
here, by induction on the depth of the handler.
-/

namespace Blocksnoop.Cli

open Blocksnoop.Support

section

variable {χ ι : Type} [Environment χ ι]

/-- The condition does not depend on what the world does between two steps. -/
def Stable (P : World χ ι → Prop) : Prop :=
  ∀ s entry rest, s.schedule = entry :: rest → P s → P (s.advance entry.env rest)

theorem Stable.of_advance {P : World χ ι → Prop}
    (h : ∀ s env schedule, P s → P (s.advance env schedule)) : Stable P :=
  fun s entry rest _ hs => h s entry.env rest hs

theorem Stable.and {P R : World χ ι → Prop} (hP : Stable P) (hR : Stable R) :
    Stable fun s => P s ∧ R s :=
  fun s entry rest hschedule h =>
    ⟨hP s entry rest hschedule h.1, hR s entry rest hschedule h.2⟩

/-- What the rest of the world keeps of the state of the callbacks holds until the
next step. -/
theorem advance_inner {P : χ → Prop} (h : ∀ action x, P x → P (Environment.act (ι := ι) action x))
    {s : World χ ι} (env : List (EnvAction ι)) (schedule : List (Entry ι)) (hs : P s.inner) :
    P (s.advance env schedule).inner := by
  change P (env.foldl World.applyEnv s).inner
  induction env generalizing s with
  | nil => exact hs
  | cons action env ih =>
      rw [List.foldl_cons]
      refine ih ?_
      cases action with
      | childExits returncode => exact hs
      | inner action => exact h action s.inner hs

variable {fine : LowerSet (World χ ι)}

/-- A step boundary uses up an entry of the schedule. -/
theorem wp_tick_entry {handler : Handler χ ι} {Q : Post (World χ ι) PyException Behaviour}
    {s : World χ ι} (hpaused : Q.paused s)
    (hok : ∀ entry rest, s.schedule = entry :: rest → entry.signal = none →
      Q.ok entry.behaviour (s.advance entry.env rest))
    (hsignal : ∀ entry rest signum, s.schedule = entry :: rest → entry.signal = some signum →
      (s.advance entry.env rest).record (.signal signum) ∈ fine →
      wp fine (handler signum) { Q with ok := fun _ => Q.ok entry.behaviour }
        ((s.advance entry.env rest).record (.signal signum))) :
    wp fine (tick handler) Q s := by
  refine wp_interruptible (fun _ => hpaused) ?_ ?_
  · intro s' behaviour hoffer
    unfold World.offer at hoffer
    split at hoffer
    · cases hoffer
    · rename_i entry rest hschedule
      dsimp only at hoffer
      split at hoffer
      next hquiet =>
        obtain ⟨rfl, rfl⟩ : _ ∧ _ := by simpa using hoffer
        exact hok entry rest hschedule hquiet
      · simp at hoffer
  · intro s' signum behaviour hoffer hfine
    unfold World.offer at hoffer
    split at hoffer
    · cases hoffer
    · rename_i entry rest hschedule
      dsimp only at hoffer
      split at hoffer
      · simp at hoffer
      next signum' hsome =>
        obtain ⟨rfl, rfl, rfl⟩ : _ ∧ _ ∧ _ := by simpa using hoffer
        exact hsignal entry rest signum' hschedule hsome hfine

theorem wp_tick {P : World χ ι → Prop} {handler : Handler χ ι}
    {Q : Post (World χ ι) PyException Behaviour} {s : World χ ι}
    (hP : Stable P) (hs : P s) (hpaused : Q.paused s)
    (hok : ∀ behaviour s', P s' → Q.ok behaviour s')
    (hsignal : ∀ signum s' behaviour, P s' → s'.record (.signal signum) ∈ fine →
      wp fine (handler signum) { Q with ok := fun _ => Q.ok behaviour }
        (s'.record (.signal signum))) :
    wp fine (tick handler) Q s :=
  wp_tick_entry hpaused
    (fun entry rest hschedule _ => hok _ _ (hP s entry rest hschedule hs))
    (fun entry rest _ hschedule _ => hsignal _ _ _ (hP s entry rest hschedule hs))

omit [Environment χ ι] in
/-- `poll` collects the exit status and returns it. -/
theorem wp_poll {Q : Post (World χ ι) PyException (Option ℤ)} {s : World χ ι}
    (h : Q.ok (s.child.bind Child.exitCode) { s with child := s.child.map Child.collect }) :
    wp fine (poll : Main χ ι (Option ℤ)) Q s := by
  refine wp_modify_bind fun _ => wp_get ?_
  have hcode : (s.child.map Child.collect).bind Child.exitCode =
      s.child.bind Child.exitCode := by
    cases s.child <;> rfl
  rw [hcode]
  exact h

/-! ## Fine histories -/

/-- Every event of the history is as `ok` says after the events before it. -/
def Along (ok : List (Event χ) → Event χ → Prop) (history : List (Event χ)) : Prop :=
  ∀ before event after, history = before ++ event :: after → ok before event

omit [Environment χ ι] in
theorem along_concat {ok : List (Event χ) → Event χ → Prop} {history : List (Event χ)}
    {event : Event χ} :
    Along ok (history ++ [event]) ↔ Along ok history ∧ ok history event := by
  constructor
  · intro h
    refine ⟨?_, h history event [] rfl⟩
    rintro before e after rfl
    exact h before e (after ++ [event]) (by simp)
  · rintro ⟨hhistory, hevent⟩ before e after heq
    rcases List.eq_nil_or_concat after with rfl | ⟨after, last, rfl⟩
    · obtain ⟨rfl, hlast⟩ := List.append_inj' heq rfl
      obtain rfl : event = e := by simpa using hlast
      exact hevent
    · have heq' : history ++ [event] = (before ++ e :: after) ++ [last] := by
        rw [heq]
        simp
      obtain ⟨rfl, -⟩ := List.append_inj' heq' rfl
      exact hhistory before e after rfl

/-- The worlds whose history is fine. -/
def fineAlong (ι : Type) (ok : List (Event χ) → Event χ → Prop) : LowerSet (World χ ι) where
  carrier := {s | Along ok s.history}
  lower' := by
    rintro s s' ⟨rest, hrest⟩ hs before event after heq
    refine hs before event (after ++ rest) ?_
    rw [← hrest, heq]
    simp

omit [Environment χ ι] in
theorem record_mem_fineAlong {ok : List (Event χ) → Event χ → Prop} {s : World χ ι}
    {mark : Mark} :
    s.record mark ∈ fineAlong ι ok ↔
      s ∈ fineAlong ι ok ∧ ok s.history ⟨mark, s.cleanedUp, s.child, s.inner⟩ :=
  along_concat

/-! ## Marks -/

def marks (history : List (Event χ)) : List Mark :=
  history.map Event.mark

omit [Environment χ ι] in
theorem marks_record (mark : Mark) (s : World χ ι) :
    marks (s.record mark).history = marks s.history ++ [mark] := by
  simp [marks, World.record]

def isSignal : Mark → Bool
  | .signal _ => true
  | _ => false

def Ended (c : Call) (l : List Mark) : Prop :=
  .returned c ∈ l ∨ .raised c ∈ l

omit [Environment χ ι] in
/-- A history is fine when all its signals are as `q` says and `ok` asks no more. -/
theorem along_of_signals {ok : List (Event χ) → Event χ → Prop} {history : List (Event χ)}
    (q : Event χ → Bool)
    (hok : ∀ before event, (∀ signum, event.mark = .signal signum → q event = true) →
      ok before event)
    (h : history.all (fun event => !isSignal event.mark || q event) = true) :
    Along ok history := by
  intro before event after heq
  refine hok before event ?_
  intro signum hmark
  have hevent := List.all_eq_true.mp h event (by rw [heq]; simp)
  simpa [hmark, isSignal] using hevent

/-! ## Ends of a program -/

/-- A program that returns, raises or pauses; `Always` holds where it pauses. -/
def ends {α : Type} (Always : World χ ι → Prop) (ok : α → World χ ι → Prop)
    (raised : PyException → World χ ι → Prop) : Post (World χ ι) PyException α where
  ok := ok
  raised := raised
  paused := Always

section

variable {Always : World χ ι → Prop}

omit [Environment χ ι] in
theorem wp_bind_ends {α β : Type} {p : Main χ ι α} {f : α → Main χ ι β}
    {A : α → World χ ι → Prop} {B : β → World χ ι → Prop}
    {E E' : PyException → World χ ι → Prop} {s : World χ ι}
    (hp : wp fine p (ends Always A E) s)
    (hf : ∀ a s', s' ∈ fine → A a s' → wp fine (f a) (ends Always B E') s')
    (hE : ∀ e s', E e s' → E' e s') :
    wp fine (p >>= f) (ends Always B E') s :=
  wp_bind (hp.mono hf (fun e s' _ h => hE e s' h) (fun _ _ h => h))

omit [Environment χ ι] in
theorem wp_weaken {α : Type} {p : Main χ ι α} {A A' : α → World χ ι → Prop}
    {E E' : PyException → World χ ι → Prop} {s : World χ ι}
    (hp : wp fine p (ends Always A E) s) (hA : ∀ a s', A a s' → A' a s')
    (hE : ∀ e s', E e s' → E' e s') :
    wp fine p (ends Always A' E') s :=
  hp.mono (fun a s' _ h => hA a s' h) (fun e s' _ h => hE e s' h) (fun _ _ h => h)

omit [Environment χ ι] in
theorem wp_tryElse_ends {α β : Type} {p : Main χ ι α} {onRaise : PyException → Main χ ι β}
    {onOk : α → Main χ ι β} {A : α → World χ ι → Prop} {B : β → World χ ι → Prop}
    {E E' : PyException → World χ ι → Prop} {s : World χ ι}
    (hp : wp fine p (ends Always A E) s)
    (hok : ∀ a s', s' ∈ fine → A a s' → wp fine (onOk a) (ends Always B E') s')
    (hraised : ∀ e s', s' ∈ fine → E e s' → wp fine (onRaise e) (ends Always B E') s') :
    wp fine (Prog.tryElse p onRaise onOk) (ends Always B E') s :=
  wp_tryElse (hp.mono hok hraised (fun _ _ h => h))

omit [Environment χ ι] in
theorem wp_tryFinally_ends {α : Type} {p : Main χ ι α} {final : Main χ ι Unit}
    {A B : α → World χ ι → Prop} {E E' : PyException → World χ ι → Prop} {s : World χ ι}
    (hp : wp fine p (ends Always A E) s)
    (hok : ∀ a s', s' ∈ fine → A a s' → wp fine final (ends Always (fun _ => B a) E') s')
    (hraised : ∀ e s', s' ∈ fine → E e s' → wp fine final (ends Always (fun _ => E' e) E') s') :
    wp fine (Prog.tryFinally p final) (ends Always B E') s :=
  wp_tryFinally (hp.mono hok hraised (fun _ _ h => h))

end

/-! ## Stages -/

/-- The reason of a run whose child has exited. -/
def exitReason (returncode : Option ℤ) : String :=
  if returncode = none ∨ returncode = some 0 then "clean" else "child_exit"

/-- The reason of a run that an exception ends. -/
def endReason (e : PyException) : String :=
  if e = .keyboardInterrupt then "signal" else "runtime_error"

/-- The stages of a property of the runs with a fine history.  `Initial` holds until
`start` is called; `Due` and the two stages after it know the reason that is to be
handed to `on_exit`; `Always` is what holds where a run pauses. -/
structure Stages (fine : LowerSet (World χ ι)) where
  Initial : World χ ι → Prop
  Open : World χ ι → Prop
  Due : String → World χ ι → Prop
  Flagged : String → World χ ι → Prop
  Stopped : String → World χ ι → Prop
  Exited : World χ ι → Prop
  Final : World χ ι → Prop
  Always : World χ ι → Prop
  initial_stable : Stable Initial
  open_stable : Stable Open
  due_stable : ∀ reason, Stable (Due reason)
  flagged_stable : ∀ reason, Stable (Flagged reason)
  stopped_stable : ∀ reason, Stable (Stopped reason)
  exited_stable : Stable Exited
  final_stable : Stable Final
  cleanedUp_of_due : ∀ reason s, Due reason s → s.cleanedUp = false
  cleanedUp_of_stopped : ∀ reason s, Stopped reason s → s.cleanedUp = true
  cleanedUp_of_exited : ∀ s, Exited s → s.cleanedUp = true
  cleanedUp_of_final : ∀ s, Final s → s.cleanedUp = true
  always_of_initial : ∀ s, Initial s → Always s
  always_of_open : ∀ s, Open s → Always s
  always_of_due : ∀ reason s, Due reason s → Always s
  always_of_flagged : ∀ reason s, Flagged reason s → Always s
  always_of_stopped : ∀ reason s, Stopped reason s → Always s
  always_of_exited : ∀ s, Exited s → Always s
  always_of_final : ∀ s, Final s → Always s
  initial_signal : ∀ signum s, Initial s → s.record (.signal signum) ∈ fine →
    Due "signal" (s.record (.signal signum))
  open_signal : ∀ signum s, Open s → s.record (.signal signum) ∈ fine →
    Due "signal" (s.record (.signal signum))
  due_signal : ∀ reason signum s, Due reason s → s.record (.signal signum) ∈ fine →
    Due "signal" (s.record (.signal signum))
  flagged_signal : ∀ reason signum s, Flagged reason s → s.record (.signal signum) ∈ fine →
    Stopped "runtime_error" (s.record (.signal signum)) ∧
      Exited (s.record (.signal signum)) ∧ Final (s.record (.signal signum))
  stopped_signal : ∀ reason signum s, Stopped reason s → s.record (.signal signum) ∈ fine →
    Stopped reason (s.record (.signal signum)) ∧
      Exited (s.record (.signal signum)) ∧ Final (s.record (.signal signum))
  exited_signal : ∀ signum s, Exited s → s.record (.signal signum) ∈ fine →
    Exited (s.record (.signal signum)) ∧ Final (s.record (.signal signum))
  final_signal : ∀ signum s, Final s → s.record (.signal signum) ∈ fine →
    Final (s.record (.signal signum))
  flagged_of_due : ∀ reason s, Due reason s → Flagged reason { s with cleanedUp := true }
  open_poll : ∀ s, Open s → Open { s with child := s.child.map Child.collect }
  due_poll : ∀ reason s, Due reason s →
    Due reason { s with child := s.child.map Child.collect }
  open_observed : ∀ returncode s, Open s → s.child.bind Child.exitCode = some returncode →
    s.record (.observed returncode) ∈ fine →
    Due (exitReason (some returncode)) (s.record (.observed returncode))

/-- A condition that no signal breaks once the flag is set. -/
structure Settled (fine : LowerSet (World χ ι)) (R : World χ ι → Prop) : Prop where
  stable : Stable R
  signal : ∀ signum s, R s → s.record (.signal signum) ∈ fine → R (s.record (.signal signum))
  cleanedUp : ∀ s, R s → s.cleanedUp = true

def IsExit (e : PyException) : Prop :=
  ∃ code, e = .systemExit code

/-- The program keeps a settled condition; all it may raise is the exit. -/
def keeping {α : Type} (ok : α → World χ ι → Prop) (R : World χ ι → Prop) :
    Post (World χ ι) PyException α where
  ok := ok
  raised e s := IsExit e ∧ R s
  paused := R

namespace Stages

variable (S : Stages fine)

/-- The ways a program of the loop ends. -/
abbrev ends {α : Type} (ok : α → World χ ι → Prop)
    (raised : PyException → World χ ι → Prop) : Post (World χ ι) PyException α :=
  Cli.ends S.Always ok raised

/-- What a handler does: once the flag is set it only raises the exit, before
that it tears the run down. -/
structure Handles (handler : Handler χ ι) : Prop where
  idle : ∀ R, Settled fine R → ∀ signum s, R s →
    wp fine (handler signum) (keeping (fun _ _ => False) R) s
  teardown : ∀ signum s, S.Due "signal" s →
    wp fine (handler signum) (S.ends (fun _ _ => False) fun _ => S.Final) s

variable {S}

/-! ### Step boundaries -/

/-- A step boundary where a signal leads to a settled condition. -/
theorem tick_settled {P R : World χ ι → Prop} {handler : Handler χ ι} {s : World χ ι}
    (hhandler : S.Handles handler) (hP : Stable P) (hR : Settled fine R)
    (halwaysP : ∀ s, P s → S.Always s) (halwaysR : ∀ s, R s → S.Always s)
    (hsignal : ∀ signum s, P s → s.record (.signal signum) ∈ fine →
      R (s.record (.signal signum)))
    (hs : P s) :
    wp fine (tick handler) (S.ends (fun _ => P) fun e s' => IsExit e ∧ R s') s := by
  refine wp_tick hP hs (halwaysP s hs) (fun _ _ h => h) ?_
  intro signum s' behaviour hs' hfine
  exact (hhandler.idle R hR signum _ (hsignal signum s' hs' hfine)).mono
    (fun _ _ _ h => h.elim) (fun _ _ _ h => h) (fun s'' _ h => halwaysR s'' h)

/-- A step boundary where a signal is due to end the run. -/
theorem tick_open {P : World χ ι → Prop} {handler : Handler χ ι} {s : World χ ι}
    (hhandler : S.Handles handler) (hP : Stable P) (halways : ∀ s, P s → S.Always s)
    (hsignal : ∀ signum s, P s → s.record (.signal signum) ∈ fine →
      S.Due "signal" (s.record (.signal signum)))
    (hs : P s) :
    wp fine (tick handler) (S.ends (fun _ => P) fun _ => S.Final) s := by
  refine wp_tick hP hs (halways s hs) (fun _ _ h => h) ?_
  intro signum s' behaviour hs' hfine
  exact (hhandler.teardown signum _ (hsignal signum s' hs' hfine)).mono
    (fun _ _ _ h => h.elim) (fun _ _ _ h => h) (fun _ _ h => h)

/-- A step boundary where a settled condition holds. -/
theorem tick_keeping {R : World χ ι → Prop} {handler : Handler χ ι} {s : World χ ι}
    (hhandler : S.Handles handler) (hR : Settled fine R) (hs : R s) :
    wp fine (tick handler) (keeping (fun _ => R) R) s := by
  refine wp_tick hR.stable hs hs (fun _ _ h => h) ?_
  intro signum s' behaviour hs' hfine
  exact (hhandler.idle R hR signum _ (hR.signal signum s' hs' hfine)).mono
    (fun _ _ _ h => h.elim) (fun _ _ _ h => h) (fun _ _ h => h)

omit [Environment χ ι] in
theorem wp_bind_keeping {α β : Type} {R : World χ ι → Prop} {p : Main χ ι α}
    {f : α → Main χ ι β} {Q : β → World χ ι → Prop} {s : World χ ι}
    (hp : wp fine p (keeping (fun _ => R) R) s)
    (hf : ∀ a s', R s' → wp fine (f a) (keeping Q R) s') :
    wp fine (p >>= f) (keeping Q R) s :=
  wp_bind (hp.mono (fun a s' _ h => hf a s' h) (fun _ _ _ h => h) (fun _ _ h => h))

/-- What keeps a settled condition ends as the stages allow. -/
theorem ends_of_keeping {α : Type} {R : World χ ι → Prop} {p : Main χ ι α} {s : World χ ι}
    (hp : wp fine p (keeping (fun _ => R) R) s) (halways : ∀ s, R s → S.Always s) :
    wp fine p (S.ends (fun _ => R) fun e s' => IsExit e ∧ R s') s :=
  hp.mono (fun _ _ _ h => h) (fun _ _ _ h => h) (fun s' _ h => halways s' h)

theorem settled_final : Settled fine S.Final where
  stable := S.final_stable
  signal := S.final_signal
  cleanedUp := S.cleanedUp_of_final

theorem settled_stopped (reason : String) :
    Settled fine fun s => S.Stopped reason s ∧ S.Exited s ∧ S.Final s where
  stable := (S.stopped_stable reason).and (S.exited_stable.and S.final_stable)
  signal signum s h := S.stopped_signal reason signum s h.1
  cleanedUp s h := S.cleanedUp_of_stopped reason s h.1

variable {handler : Handler χ ι} {s : World χ ι}

theorem tick_of_initial (hhandler : S.Handles handler) (hs : S.Initial s) :
    wp fine (tick handler) (S.ends (fun _ => S.Initial) fun _ => S.Final) s :=
  tick_open hhandler S.initial_stable S.always_of_initial S.initial_signal hs

theorem tick_of_open (hhandler : S.Handles handler) (hs : S.Open s) :
    wp fine (tick handler) (S.ends (fun _ => S.Open) fun _ => S.Final) s :=
  tick_open hhandler S.open_stable S.always_of_open S.open_signal hs

theorem tick_of_due {reason : String} (hhandler : S.Handles handler) (hs : S.Due reason s) :
    wp fine (tick handler) (S.ends (fun _ => S.Due reason) fun _ => S.Final) s :=
  tick_open hhandler (S.due_stable reason) (S.always_of_due reason) (S.due_signal reason) hs

theorem tick_of_final (hhandler : S.Handles handler) (hs : S.Final s) :
    wp fine (tick handler) (S.ends (fun _ => S.Final) fun _ => S.Final) s :=
  wp_weaken (tick_settled hhandler S.final_stable settled_final S.always_of_final
    S.always_of_final S.final_signal hs) (fun _ _ h => h) (fun _ _ h => h.2)

theorem tick_of_stopped {reason : String} (hhandler : S.Handles handler)
    (hs : S.Stopped reason s) :
    wp fine (tick handler) (S.ends (fun _ => S.Stopped reason) fun e s' =>
      IsExit e ∧ S.Stopped reason s' ∧ S.Exited s' ∧ S.Final s') s :=
  tick_settled hhandler (S.stopped_stable reason) (settled_stopped reason)
    (S.always_of_stopped reason) (fun s h => S.always_of_stopped reason s h.1)
    (S.stopped_signal reason) hs

theorem tick_of_flagged {reason : String} (hhandler : S.Handles handler)
    (hs : S.Flagged reason s) :
    wp fine (tick handler) (S.ends (fun _ => S.Flagged reason) fun e s' =>
      IsExit e ∧ S.Stopped "runtime_error" s' ∧ S.Exited s' ∧ S.Final s') s :=
  tick_settled hhandler (S.flagged_stable reason) (settled_stopped _)
    (S.always_of_flagged reason) (fun s h => S.always_of_stopped _ s h.1)
    (S.flagged_signal reason) hs

end Stages

/-! ## Stopping a process -/

/-- What holds while a process is being stopped: `R` between the steps, `E` where
one of them raises, and `T` where that is no error of the process. -/
structure Reaps (fine : LowerSet (World χ ι)) (Always : World χ ι → Prop)
    (handler : Handler χ ι) (exited : Main χ ι Bool) (R T : World χ ι → Prop)
    (E : PyException → World χ ι → Prop) : Prop where
  tick : ∀ s, R s → wp fine (tick handler) (ends Always (fun _ => R) E) s
  exited : ∀ s, R s → wp fine exited (ends Always (fun _ => R) E) s
  fails : ∀ e s, isChildError e = true → R s → E e s
  caught : ∀ e s, E e s → isChildError e = true → R s
  raised : ∀ e s, E e s → isChildError e = false → T s

namespace Reaps

variable {Always : World χ ι → Prop} {handler : Handler χ ι} {exited : Main χ ι Bool}
  {R T : World χ ι → Prop} {E : PyException → World χ ι → Prop} {s : World χ ι}

theorem waitTimeout_spec (h : Reaps fine Always handler exited R T E) (hs : R s) :
    wp fine (waitTimeout handler exited) (ends Always (fun _ => R) E) s := by
  refine wp_bind_ends (h.tick s hs) ?_ (fun _ _ h => h)
  intro _ s₁ _ hs₁
  refine wp_bind_ends (h.exited s₁ hs₁) ?_ (fun _ _ h => h)
  intro done s₂ _ hs₂
  cases done with
  | true => exact wp_pure hs₂
  | false => exact wp_raise (h.fails _ s₂ rfl hs₂)

theorem sendSignal_spec (h : Reaps fine Always handler exited R T E) (hs : R s) :
    wp fine (sendSignal handler) (ends Always (fun _ => R) E) s := by
  refine wp_bind_ends (h.tick s hs) ?_ (fun _ _ h => h)
  intro behaviour s₁ _ hs₁
  cases behaviour.2 with
  | none => exact wp_pure hs₁
  | some e => exact wp_raise (h.fails _ s₁ rfl hs₁)

theorem reap_spec (h : Reaps fine Always handler exited R T E) (hs : R s) :
    wp fine (reap handler exited) (ends Always (fun _ => R) fun _ => T) s := by
  have hterminate : wp fine
      (do
        let _ ← Cli.tick handler
        let done ← exited
        if done then Prog.pure () else sendSignal handler
        waitTimeout handler exited)
      (ends Always (fun _ => R) E) s := by
    refine wp_bind_ends (h.tick s hs) ?_ (fun _ _ h => h)
    intro _ s₁ _ hs₁
    refine wp_bind_ends (h.exited s₁ hs₁) ?_ (fun _ _ h => h)
    intro done s₂ _ hs₂
    cases done with
    | true =>
        refine wp_bind (wp_pure ?_)
        exact h.waitTimeout_spec hs₂
    | false =>
        refine wp_bind_ends (h.sendSignal_spec hs₂) ?_ (fun _ _ h => h)
        intro _ s₃ _ hs₃
        exact h.waitTimeout_spec hs₃
  have hkill : ∀ s, R s → wp fine
      (do
        sendSignal handler
        waitTimeout handler exited)
      (ends Always (fun _ => R) E) s := by
    intro s hs
    refine wp_bind_ends (h.sendSignal_spec hs) ?_ (fun _ _ h => h)
    intro _ s₁ _ hs₁
    exact h.waitTimeout_spec hs₁
  refine wp_tryElse_ends hterminate (fun _ _ _ h => wp_pure h) ?_
  intro e s₁ _ hs₁
  cases he : isChildError e with
  | false =>
      rw [if_neg Bool.false_ne_true]
      exact wp_raise (h.raised e s₁ hs₁ he)
  | true =>
      rw [if_pos rfl]
      refine wp_tryElse_ends (hkill s₁ (h.caught e s₁ hs₁ he)) (fun _ _ _ h => wp_pure h) ?_
      intro e' s₂ _ hs₂
      cases he' : isChildError e' with
      | false =>
          rw [if_neg Bool.false_ne_true]
          exact wp_raise (h.raised e' s₂ hs₂ he')
      | true =>
          rw [if_pos rfl]
          exact wp_pure (h.caught e' s₂ hs₂ he')

end Reaps

/-! ## Stopping the child -/

/-- A condition that holds while the child is being stopped. -/
structure Stages.Reaping (S : Stages fine) (R : World χ ι → Prop) : Prop where
  stable : Stable R
  polled : ∀ s, R s → R { s with child := s.child.map Child.collect }
  signal : ∀ signum s, R s → s.record (.signal signum) ∈ fine →
    S.Final (s.record (.signal signum))
  always : ∀ s, R s → S.Always s

namespace Stages.Reaping

variable {S : Stages fine} {R : World χ ι → Prop} {handler : Handler χ ι} {s : World χ ι}

/-- An operation on the child fails with an error of its own, or with the exit of
a signal. -/
theorem reaps (hR : S.Reaping R) (hhandler : S.Handles handler) :
    Reaps fine S.Always handler childExited R S.Final
      fun e s => (isChildError e = true ∧ R s) ∨ (isChildError e = false ∧ S.Final s) where
  tick s hs := by
    refine wp_weaken (Stages.tick_settled hhandler hR.stable Stages.settled_final hR.always
      S.always_of_final hR.signal hs) (fun _ _ h => h) ?_
    rintro e s' ⟨⟨code, rfl⟩, hfinal⟩
    exact Or.inr ⟨rfl, hfinal⟩
  exited s hs := wp_bind (wp_poll (wp_pure (hR.polled s hs)))
  fails e s he hs := Or.inl ⟨he, hs⟩
  caught e s h he := h.elim And.right fun h => absurd (he.symm.trans h.1) (by simp)
  raised e s h he := h.elim (fun h => absurd (he.symm.trans h.1) (by simp)) And.right

/-- `_stop_child` runs to its end unless a signal arrives. -/
theorem stopChild_spec (hR : S.Reaping R) (hhandler : S.Handles handler)
    (hbegan : s.record (.began .stopChild) ∈ fine → R (s.record (.began .stopChild)))
    (hreturned : ∀ s, R s → s.record (.returned .stopChild) ∈ fine →
      S.Final (s.record (.returned .stopChild)))
    (hraised : ∀ s, S.Final s → s.record (.raised .stopChild) ∈ fine →
      S.Final (s.record (.raised .stopChild))) :
    wp fine (stopChild handler) (S.ends (fun _ => S.Final) fun _ => S.Final) s := by
  refine wp_modify_bind fun hfine => ?_
  have hbody : wp fine
      (do
        let _ ← tick handler
        let launched ← Prog.get fun s => s.child.isSome
        if launched then reap handler childExited else Prog.pure ())
      (S.ends (fun _ => R) fun _ => S.Final) (s.record (.began .stopChild)) := by
    refine wp_bind_ends (Stages.tick_settled hhandler hR.stable Stages.settled_final
      hR.always S.always_of_final hR.signal (hbegan hfine)) ?_ (fun _ _ h => h.2)
    intro _ s₁ _ hs₁
    refine wp_get_bind ?_
    cases s₁.child.isSome with
    | true => exact (hR.reaps hhandler).reap_spec hs₁
    | false => exact wp_pure hs₁
  refine wp_tryElse_ends hbody ?_ ?_
  · intro _ s₁ _ hs₁
    exact wp_modify_bind fun hfine' => wp_pure (hreturned s₁ hs₁ hfine')
  · intro e s₁ _ hs₁
    exact wp_modify_bind fun hfine' => wp_raise (hraised s₁ hs₁ hfine')

end Stages.Reaping

/-! ## Unknown callbacks -/

/-- At a step boundary the program goes on in `P` or is left in `E`. -/
def Ticks (fine : LowerSet (World χ ι)) (Always : World χ ι → Prop) (handler : Handler χ ι)
    (P E : World χ ι → Prop) : Prop :=
  ∀ s, P s → wp fine (tick handler) (ends Always (fun _ => P) fun _ => E) s

section

variable {Always : World χ ι → Prop} {handler : Handler χ ι} {P E : World χ ι → Prop}
  {s : World χ ι}

theorem Ticks.or {P' E' : World χ ι → Prop} (h : Ticks fine Always handler P E)
    (h' : Ticks fine Always handler P' E') :
    Ticks fine Always handler (fun s => P s ∨ P' s) fun s => E s ∨ E' s := by
  rintro s (hs | hs)
  · exact wp_weaken (h s hs) (fun _ _ h => Or.inl h) (fun _ _ h => Or.inl h)
  · exact wp_weaken (h' s hs) (fun _ _ h => Or.inr h) (fun _ _ h => Or.inr h)

theorem Ticks.weaken {E' : World χ ι → Prop} (h : Ticks fine Always handler P E)
    (hE : ∀ s, E s → E' s) : Ticks fine Always handler P E' :=
  fun s hs => wp_weaken (h s hs) (fun _ _ h => h) fun _ s' h => hE s' h

theorem Ticks.ticks_spec (h : Ticks fine Always handler P E) (n : ℕ) (hs : P s) :
    wp fine (ticks handler n) (ends Always (fun _ => P) fun _ => E) s := by
  induction n generalizing s with
  | zero => exact wp_pure hs
  | succ n ih =>
      refine wp_bind_ends (h s hs) ?_ (fun _ _ h => h)
      intro _ s₁ _ hs₁
      exact ih hs₁

/-- Unknown code may raise at the end; otherwise it only passes step boundaries. -/
theorem Ticks.unknown_spec (h : Ticks fine Always handler P E) (hs : P s) :
    wp fine (unknown handler) (ends Always (fun _ => P) fun _ s' => P s' ∨ E s') s := by
  refine wp_bind_ends (h s hs) ?_ (fun _ _ h => Or.inr h)
  intro behaviour s₁ _ hs₁
  refine wp_bind_ends (h.ticks_spec behaviour.1 hs₁) ?_ (fun _ _ h => Or.inr h)
  intro _ s₂ _ hs₂
  cases behaviour.2 with
  | none => exact wp_pure hs₂
  | some e => exact wp_raise (Or.inl hs₂)

/-- Unknown code keeps a condition that every step boundary keeps. -/
theorem Ticks.unknown_keeps (h : Ticks fine Always handler P P) (hs : P s) :
    wp fine (unknown handler) (ends Always (fun _ => P) fun _ => P) s :=
  wp_weaken (h.unknown_spec hs) (fun _ _ h => h) fun _ _ h => or_self_iff.mp h

omit [Environment χ ι] in
/-- A call between its marks, in terms of what runs inside. -/
theorem wp_call {α : Type} {c : Call} {p : Main χ ι α} {A B : α → World χ ι → Prop}
    {E E' : PyException → World χ ι → Prop}
    (hp : s.record (.began c) ∈ fine → wp fine p (ends Always A E) (s.record (.began c)))
    (hreturned : ∀ a s', A a s' → s'.record (.returned c) ∈ fine →
      B a (s'.record (.returned c)))
    (hraised : ∀ e s', E e s' → s'.record (.raised c) ∈ fine → E' e (s'.record (.raised c))) :
    wp fine (call c p) (ends Always B E') s := by
  refine wp_modify_bind fun hfine => ?_
  refine wp_tryElse_ends (hp hfine) ?_ ?_
  · intro a s₁ _ hs₁
    exact wp_modify_bind fun hfine' => wp_pure (hreturned a s₁ hs₁ hfine')
  · intro e s₁ _ hs₁
    exact wp_modify_bind fun hfine' => wp_raise (hraised e s₁ hs₁ hfine')

/-- A `stop` keeps a condition that its parts keep. -/
theorem Ticks.stopParts_spec (h : Ticks fine Always handler P P)
    (hmarks : ∀ i s, P s → P (s.record (.began (.stopPart i))) ∧
      P (s.record (.returned (.stopPart i))) ∧ P (s.record (.raised (.stopPart i))))
    {parts : List (Handler χ ι → Main χ ι Unit)}
    (hparts : ∀ part ∈ parts, ∀ s, P s →
      wp fine (part handler) (ends Always (fun _ => P) fun _ => P) s) (i : ℕ) (hs : P s) :
    wp fine (stopParts parts handler i) (ends Always (fun _ => P) fun _ => P) s := by
  induction parts generalizing i s with
  | nil => exact wp_pure hs
  | cons part rest ih =>
      have hpart : wp fine (call (.stopPart i) (part handler))
          (ends Always (fun _ => P) fun _ => P) s :=
        wp_call (fun _ => hparts part List.mem_cons_self _ (hmarks i s hs).1)
          (fun _ s' hs' _ => (hmarks i s' hs').2.1) (fun _ s' hs' _ => (hmarks i s' hs').2.2)
      refine wp_bind_ends hpart ?_ (fun _ _ h => h)
      intro _ s₁ _ hs₁
      refine wp_bind_ends (h s₁ hs₁) ?_ (fun _ _ h => h)
      intro _ s₂ _ hs₂
      exact ih (fun part hmem => hparts part (List.mem_cons_of_mem _ hmem)) (i + 1) hs₂

end

namespace Stages

variable {S : Stages fine} {handler : Handler χ ι} {s : World χ ι}

theorem ticks_settled {R : World χ ι → Prop} (hhandler : S.Handles handler)
    (hR : Settled fine R) (halways : ∀ s, R s → S.Always s) :
    Ticks fine S.Always handler R R := by
  intro s hs
  exact wp_weaken (ends_of_keeping (tick_keeping hhandler hR hs) halways) (fun _ _ h => h)
    (fun _ _ h => h.2)

/-- A part of the open stage is left by a signal only. -/
theorem ticks_of_open {P : World χ ι → Prop} (hhandler : S.Handles handler) (hP : Stable P)
    (hopen : ∀ s, P s → S.Open s) : Ticks fine S.Always handler P S.Final :=
  fun _ hs => tick_open hhandler hP (fun s h => S.always_of_open s (hopen s h))
    (fun signum s h hfine => S.open_signal signum s (hopen s h) hfine) hs

/-- Unknown code keeps a settled condition, whatever it raises. -/
theorem unknown_settled {R : World χ ι → Prop} (hhandler : S.Handles handler)
    (hR : Settled fine R) (halways : ∀ s, R s → S.Always s) (hs : R s) :
    wp fine (unknown handler) (S.ends (fun _ => R) fun _ => R) s :=
  (ticks_settled hhandler hR halways).unknown_keeps hs

/-- Unknown code in an open run leaves it open, unless a signal tears it down. -/
theorem unknown_open (hhandler : S.Handles handler) (hs : S.Open s) :
    wp fine (unknown handler)
      (S.ends (fun _ => S.Open) fun _ s' => S.Open s' ∨ S.Final s') s :=
  (ticks_of_open hhandler S.open_stable fun _ h => h).unknown_spec hs

end Stages

/-! ## Callbacks that respect the stages -/

/-- The callbacks take each stage to the next one. -/
structure Respects (S : Stages fine) (callbacks : Callbacks χ ι) : Prop where
  start : ∀ handler, S.Handles handler → ∀ s, S.Initial s →
    wp fine (call .start (callbacks.start handler))
      (S.ends (fun _ => S.Open) fun e s' => S.Due (endReason e) s' ∨ S.Final s') s
  checkHealth : ∀ handler, S.Handles handler → ∀ s, S.Open s →
    wp fine (call .checkHealth (callbacks.checkHealth handler))
      (S.ends (fun _ => S.Open) fun e s' => S.Due (endReason e) s' ∨ S.Final s') s
  stop : ∀ reason handler, S.Handles handler → ∀ s, S.Flagged reason s →
    wp fine (call .stop (callbacks.stop handler))
      (S.ends (fun _ => S.Stopped reason) fun _ => S.Stopped "runtime_error") s
  onExit : ∀ reason handler, S.Handles handler → ∀ s, S.Stopped reason s →
    wp fine (call (.onExit reason) (callbacks.onExit reason handler))
      (S.ends (fun _ => S.Exited) fun _ => S.Exited) s
  stopChild : ∀ handler, S.Handles handler → ∀ s, S.Exited s →
    wp fine (stopChild handler) (S.ends (fun _ => S.Final) fun _ => S.Final) s

namespace Respects

variable {S : Stages fine} {callbacks : Callbacks χ ι} {handler : Handler χ ι}
  {s : World χ ι}

theorem exitAndStopChild_spec (hcallbacks : Respects S callbacks)
    (hhandler : S.Handles handler) {reason : String} (hs : S.Stopped reason s) :
    wp fine (exitAndStopChild callbacks handler reason)
      (S.ends (fun _ => S.Final) fun _ => S.Final) s := by
  have hexit : wp fine
      (do
        let _ ← tick handler
        call (.onExit reason) (callbacks.onExit reason handler))
      (S.ends (fun _ => S.Exited) fun _ => S.Exited) s := by
    refine wp_bind_ends (Stages.tick_of_stopped hhandler hs) ?_ ?_
    · intro _ s' _ hs'
      exact hcallbacks.onExit reason handler hhandler s' hs'
    · rintro e s' ⟨-, -, hexited, -⟩
      exact hexited
  refine wp_tryFinally_ends hexit ?_ ?_
  · intro _ s' _ hs'
    exact hcallbacks.stopChild handler hhandler s' hs'
  · intro _ s' _ hs'
    exact hcallbacks.stopChild handler hhandler s' hs'

/-- Once the flag is set, `_cleanup` returns at once. -/
theorem cleanup_keeping {R : World χ ι → Prop} (hR : Settled fine R)
    (hhandler : S.Handles handler) (terminationReason : String) (hs : R s) :
    wp fine (cleanup callbacks handler terminationReason) (keeping (fun _ => R) R) s := by
  refine Stages.wp_bind_keeping (Stages.tick_keeping hhandler hR hs) ?_
  intro _ s' hs'
  refine wp_get_bind ?_
  rw [hR.cleanedUp s' hs', if_pos rfl]
  exact wp_pure hs'

/-- The part of `_cleanup` after the flag is set. -/
theorem teardown_spec (hcallbacks : Respects S callbacks) (hhandler : S.Handles handler)
    {reason : String} (hs : S.Flagged reason s) :
    wp fine
      (Prog.tryElse
        (do
          let _ ← tick handler
          call .stop (callbacks.stop handler))
        (fun e => do
          let _ ← tick handler
          exitAndStopChild callbacks handler "runtime_error"
          let _ ← tick handler
          Prog.raise e)
        (fun _ => do
          let _ ← tick handler
          exitAndStopChild callbacks handler reason))
      (S.ends (fun _ => S.Final) fun _ => S.Final) s := by
  have hstop : wp fine
      (do
        let _ ← tick handler
        call .stop (callbacks.stop handler))
      (S.ends (fun _ => S.Stopped reason) fun _ => S.Stopped "runtime_error") s := by
    refine wp_bind_ends (Stages.tick_of_flagged hhandler hs) ?_ ?_
    · intro _ s' _ hs'
      exact hcallbacks.stop reason handler hhandler s' hs'
    · rintro e s' ⟨-, hstopped, -, -⟩
      exact hstopped
  refine wp_tryElse_ends hstop ?_ ?_
  · intro _ s' _ hs'
    refine wp_bind_ends (Stages.tick_of_stopped hhandler hs') ?_ ?_
    · intro _ s'' _ hs''
      exact hcallbacks.exitAndStopChild_spec hhandler hs''
    · rintro e s'' ⟨-, -, -, hfinal⟩
      exact hfinal
  · intro e s' _ hs'
    refine wp_bind_ends (Stages.tick_of_stopped hhandler hs') ?_ ?_
    · intro _ s'' _ hs''
      refine wp_bind_ends (hcallbacks.exitAndStopChild_spec hhandler hs'') ?_ (fun _ _ h => h)
      intro _ s₃ _ hs₃
      refine wp_bind_ends (Stages.tick_of_final hhandler hs₃) ?_ (fun _ _ h => h)
      intro _ s₄ _ hs₄
      exact wp_raise hs₄
    · rintro e' s'' ⟨-, -, -, hfinal⟩
      exact hfinal

/-- `_cleanup` takes a run that is due to end through all its stages. -/
theorem cleanup_spec (hcallbacks : Respects S callbacks) (hhandler : S.Handles handler)
    {reason : String} (hs : S.Due reason s) :
    wp fine (cleanup callbacks handler reason)
      (S.ends (fun _ => S.Final) fun _ => S.Final) s := by
  refine wp_bind_ends (Stages.tick_of_due hhandler hs) ?_ (fun _ _ h => h)
  intro _ s₁ _ hs₁
  refine wp_get_bind ?_
  rw [S.cleanedUp_of_due reason s₁ hs₁, if_neg Bool.false_ne_true]
  refine wp_bind_ends (Stages.tick_of_due hhandler hs₁) ?_ (fun _ _ h => h)
  intro _ s₂ _ hs₂
  refine wp_modify_bind fun _ => ?_
  refine wp_bind_ends
    (Stages.tick_of_flagged hhandler (S.flagged_of_due reason s₂ hs₂)) ?_
    (fun _ _ h => h.2.2.2)
  intro _ s₃ _ hs₃
  exact hcallbacks.teardown_spec hhandler hs₃

/-! ## The signal handler -/

/-- The handler of the loop tears down a run that is due to end and raises the
exit; a signal on top of the teardown only raises the exit. -/
theorem handles_shutdown (hcallbacks : Respects S callbacks) (depth : ℕ) :
    S.Handles (shutdown callbacks depth) := by
  induction depth with
  | zero =>
      exact ⟨fun R _ _ _ hs => wp_pause hs,
        fun _ s hs => wp_pause (S.always_of_due "signal" s hs)⟩
  | succ depth ih =>
      refine ⟨?_, ?_⟩
      · intro R hR signum s hs
        refine Stages.wp_bind_keeping (cleanup_keeping hR ih "signal" hs) ?_
        intro _ s₁ hs₁
        refine Stages.wp_bind_keeping (Stages.tick_keeping ih hR hs₁) ?_
        intro _ s₂ hs₂
        exact wp_raise ⟨⟨_, rfl⟩, hs₂⟩
      · intro signum s hs
        refine wp_bind_ends (hcallbacks.cleanup_spec ih hs) ?_ (fun _ _ h => h)
        intro _ s₁ _ hs₁
        refine wp_bind_ends (Stages.tick_of_final ih hs₁) ?_ (fun _ _ h => h)
        intro _ s₂ _ hs₂
        exact wp_raise hs₂

/-! ## The loop -/

/-- The child has exited, and its exit code gives the reason. -/
def ExitedWith (S : Stages fine) (returncode : ℤ) (s : World χ ι) : Prop :=
  S.Due (exitReason (some returncode)) s ∧ s.child.bind Child.exitCode = some returncode

omit [Environment χ ι] in
theorem bind_exitCode_collect (child : Option Child) :
    (child.map Child.collect).bind Child.exitCode = child.bind Child.exitCode := by
  cases child <;> rfl

theorem exitCode_advance {returncode : ℤ} {s : World χ ι} (env : List (EnvAction ι))
    (schedule : List (Entry ι)) (hs : s.child.bind Child.exitCode = some returncode) :
    (s.advance env schedule).child.bind Child.exitCode = some returncode := by
  change (env.foldl World.applyEnv s).child.bind Child.exitCode = some returncode
  induction env generalizing s with
  | nil => exact hs
  | cons action env ih =>
      rw [List.foldl_cons]
      apply ih
      cases action with
      | inner action => exact hs
      | childExits code =>
          obtain ⟨c, hchild, hcode⟩ := Option.bind_eq_some_iff.mp hs
          simp [World.applyEnv, hchild, Child.exit, hcode]

theorem pollLoop_spec (hcallbacks : Respects S callbacks) (hhandler : S.Handles handler)
    (steps : ℕ) (hs : S.Open s) :
    wp fine (pollLoop callbacks handler steps)
      (S.ends (fun _ s' => ∃ returncode, ExitedWith S returncode s')
        fun e s' => S.Due (endReason e) s' ∨ S.Final s') s := by
  induction steps generalizing s with
  | zero => exact wp_pause (S.always_of_open s hs)
  | succ steps ih =>
      refine wp_bind_ends (Stages.tick_of_open hhandler hs) ?_ (fun _ _ h => Or.inr h)
      intro _ s₁ _ hs₁
      refine wp_bind (wp_poll ?_)
      have hpolled := S.open_poll s₁ hs₁
      have hcollected := bind_exitCode_collect s₁.child
      cases hcode : s₁.child.bind Child.exitCode with
      | some returncode =>
          rw [hcode] at hcollected
          exact wp_modify fun hfine =>
            ⟨returncode, S.open_observed returncode _ hpolled hcollected hfine, hcollected⟩
      | none =>
          refine wp_bind_ends (Stages.tick_of_open hhandler hpolled) ?_ (fun _ _ h => Or.inr h)
          intro _ s₂ _ hs₂
          refine wp_bind_ends (hcallbacks.checkHealth handler hhandler s₂ hs₂) ?_
            (fun _ _ h => h)
          intro _ s₃ _ hs₃
          refine wp_bind_ends (Stages.tick_of_open hhandler hs₃) ?_
            (fun _ _ h => Or.inr h)
          intro _ s₄ _ hs₄
          exact ih hs₄

/-- Without a child the loop is only left by an exception. -/
theorem healthLoop_spec (hcallbacks : Respects S callbacks) (hhandler : S.Handles handler)
    (steps : ℕ) (hs : S.Open s) :
    wp fine (healthLoop callbacks handler steps)
      (S.ends (fun _ _ => False) fun e s' => S.Due (endReason e) s' ∨ S.Final s') s := by
  induction steps generalizing s with
  | zero => exact wp_pause (S.always_of_open s hs)
  | succ steps ih =>
      refine wp_bind_ends (Stages.tick_of_open hhandler hs) ?_ (fun _ _ h => Or.inr h)
      intro _ s₁ _ hs₁
      refine wp_bind_ends (hcallbacks.checkHealth handler hhandler s₁ hs₁) ?_
        (fun _ _ h => h)
      intro _ s₂ _ hs₂
      refine wp_bind_ends (Stages.tick_of_open hhandler hs₂) ?_ (fun _ _ h => Or.inr h)
      intro _ s₃ _ hs₃
      exact ih hs₃

/-- A step boundary once the child has exited. -/
theorem tick_of_exitedWith {returncode : ℤ} (hhandler : S.Handles handler)
    (hs : ExitedWith S returncode s) :
    wp fine (tick handler) (S.ends (fun _ => ExitedWith S returncode) fun _ => S.Final) s :=
  Stages.tick_open hhandler
    ((S.due_stable _).and (Stable.of_advance fun _ env schedule => exitCode_advance env schedule))
    (fun s h => S.always_of_due _ s h.1) (fun signum s h => S.due_signal _ signum s h.1) hs

theorem watch_spec (hcallbacks : Respects S callbacks) (hhandler : S.Handles handler)
    (steps : ℕ) (hs : S.Initial s) :
    wp fine (watch callbacks handler steps)
      (S.ends (fun returncode => S.Due (exitReason returncode))
        fun e s' => S.Due (endReason e) s' ∨ S.Final s') s := by
  refine wp_bind_ends (Stages.tick_of_initial hhandler hs) ?_ (fun _ _ h => Or.inr h)
  intro _ s₁ _ hs₁
  refine wp_bind_ends (hcallbacks.start handler hhandler s₁ hs₁) ?_ (fun _ _ h => h)
  intro _ s₂ _ hs₂
  refine wp_get_bind ?_
  cases s₂.child.isSome with
  | true =>
      rw [if_pos rfl]
      refine wp_bind_ends (hcallbacks.pollLoop_spec hhandler (steps + 1) hs₂) ?_
        (fun _ _ h => h)
      rintro _ s₃ _ ⟨returncode, hs₃⟩
      refine wp_bind_ends (tick_of_exitedWith hhandler hs₃) ?_ (fun _ _ h => Or.inr h)
      intro _ s₄ _ hs₄
      refine wp_bind (wp_poll ?_)
      rw [hs₄.2]
      refine wp_bind_ends (Stages.tick_of_due hhandler (S.due_poll _ s₄ hs₄.1)) ?_
        (fun _ _ h => Or.inr h)
      intro _ s₅ _ hs₅
      exact wp_pure hs₅
  | false =>
      rw [if_neg Bool.false_ne_true]
      refine wp_bind_ends (hcallbacks.healthLoop_spec hhandler (steps + 1) hs₂) ?_
        (fun _ _ h => h)
      intro _ _ _ hfalse
      exact hfalse.elim

theorem restoreHandlers_spec (hhandler : S.Handles handler) (hs : S.Final s) :
    wp fine (restoreHandlers handler) (S.ends (fun _ => S.Final) fun _ => S.Final) s := by
  refine wp_bind_ends (Stages.tick_of_final hhandler hs) ?_ (fun _ _ h => h)
  intro _ s₁ _ hs₁
  refine wp_bind_ends (A := fun _ => S.Final) (E := fun _ => S.Final) ?restored ?_ (fun _ _ h => h)
  case restored =>
    refine wp_tick S.final_stable hs₁ (S.always_of_final s₁ hs₁) (fun _ _ h => h) ?_
    intro signum s₂ behaviour hs₂ hfine
    have hsignal := S.final_signal signum s₂ hs₂ hfine
    cases signum with
    | sigint => exact wp_raise hsignal
    | sigterm =>
        exact (hhandler.idle S.Final Stages.settled_final .sigterm _ hsignal).mono
          (fun _ _ _ h => h.elim) (fun _ _ _ h => h.2)
          (fun s₃ _ h => S.always_of_final s₃ h)
  intro _ s₂ _ hs₂
  exact wp_pure hs₂

/-- `_cleanup` ends in the final stage, whether the run is due to end or has been
torn down by the handler. -/
theorem cleanup_of_due_or_final (hcallbacks : Respects S callbacks)
    (hhandler : S.Handles handler) {reason : String} (hs : S.Due reason s ∨ S.Final s) :
    wp fine (cleanup callbacks handler reason)
      (S.ends (fun _ => S.Final) fun _ => S.Final) s := by
  rcases hs with hs | hs
  · exact hcallbacks.cleanup_spec hhandler hs
  · exact wp_weaken (Stages.ends_of_keeping
      (cleanup_keeping Stages.settled_final hhandler reason hs) S.always_of_final)
      (fun _ _ h => h) (fun _ _ h => h.2)

theorem tick_of_due_or_final {reason : String} (hhandler : S.Handles handler)
    (hs : S.Due reason s ∨ S.Final s) :
    wp fine (tick handler)
      (S.ends (fun _ s' => S.Due reason s' ∨ S.Final s') fun _ => S.Final) s := by
  rcases hs with hs | hs
  · exact wp_weaken (Stages.tick_of_due hhandler hs) (fun _ _ h => Or.inl h)
      (fun _ _ h => h)
  · exact wp_weaken (Stages.tick_of_final hhandler hs) (fun _ _ h => Or.inr h)
      (fun _ _ h => h)

/-- What the loop does with the return code of the child. -/
theorem finish_spec (hcallbacks : Respects S callbacks) (hhandler : S.Handles handler)
    {returncode : Option ℤ} (hs : S.Due (exitReason returncode) s) :
    wp fine
      (do
        let _ ← tick handler
        cleanup callbacks handler (exitReason returncode)
        let _ ← tick handler
        Prog.pure returncode)
      (S.ends (fun a s' => S.Final s' ∧ a = returncode) fun _ => S.Final) s := by
  refine wp_bind_ends (Stages.tick_of_due hhandler hs) ?_ (fun _ _ h => h)
  intro _ s₃ _ hs₃
  refine wp_bind_ends (hcallbacks.cleanup_spec hhandler hs₃) ?_ (fun _ _ h => h)
  intro _ s₄ _ hs₄
  refine wp_bind_ends (Stages.tick_of_final hhandler hs₄) ?_ (fun _ _ h => h)
  intro _ s₅ _ hs₅
  exact wp_pure ⟨hs₅, rfl⟩

/-- The run has come past a world in which `returncode` gave the reason. -/
def CameFrom (S : Stages fine) (returncode : Option ℤ) (s : World χ ι) : Prop :=
  ∃ earlier, S.Due (exitReason returncode) earlier ∧ earlier ≤ s

/-- Every run of the loop that has ended is in the final stage, and has returned
what it observed. -/
theorem runLoop_spec (hcallbacks : Respects S callbacks) (hs : S.Initial s) :
    wp fine (runLoop callbacks)
      (S.ends (fun returncode s' => S.Final s' ∧ CameFrom S returncode s')
        fun _ => S.Final) s := by
  refine wp_get_bind ?_
  have hhandler := hcallbacks.handles_shutdown s.schedule.length
  generalize s.schedule.length = steps at hhandler ⊢
  refine wp_tryFinally_ends
    (A := fun returncode s' => S.Final s' ∧ CameFrom S returncode s') (E := fun _ => S.Final) ?_
    ?_ (fun _ s' _ hs' => restoreHandlers_spec hhandler hs')
  · refine wp_bind_ends (Stages.tick_of_initial hhandler hs) ?_ (fun _ _ h => h)
    intro _ s₁ _ hs₁
    refine wp_tryElse_ends (hcallbacks.watch_spec hhandler steps hs₁) ?_ ?_
    · intro returncode s₂ _ hs₂
      refine (hcallbacks.finish_spec hhandler hs₂).from_start.mono ?_ (fun _ _ _ h => h)
        (fun _ _ h => h)
      rintro _ s₃ _ ⟨⟨hfinal, rfl⟩, hle⟩
      exact ⟨hfinal, s₂, hs₂, hle⟩
    · intro e s₂ _ hs₂
      refine wp_bind_ends (tick_of_due_or_final hhandler hs₂) ?_ (fun _ _ h => h)
      intro _ s₃ _ hs₃
      split
      · rename_i heq
        rw [endReason, if_pos heq] at hs₃
        refine wp_bind_ends (hcallbacks.cleanup_of_due_or_final hhandler hs₃) ?_
          (fun _ _ h => h)
        intro _ s₄ _ hs₄
        refine wp_bind_ends (Stages.tick_of_final hhandler hs₄) ?_ (fun _ _ h => h)
        intro _ s₅ _ hs₅
        exact wp_raise hs₅
      · rename_i hne
        rw [endReason, if_neg hne] at hs₃
        refine wp_bind_ends (hcallbacks.cleanup_of_due_or_final hhandler hs₃) ?_
          (fun _ _ h => h)
        intro _ s₄ _ hs₄
        refine wp_bind_ends (Stages.tick_of_final hhandler hs₄) ?_ (fun _ _ h => h)
        intro _ s₅ _ hs₅
        exact wp_raise hs₅
  · rintro returncode s' _ ⟨hfinal, earlier, hdue, hle⟩
    refine (restoreHandlers_spec hhandler hfinal).from_start.mono ?_ (fun _ _ _ h => h)
      (fun _ _ h => h)
    rintro _ s'' _ ⟨hfinal', hle'⟩
    exact ⟨hfinal', earlier, hdue, hle.trans hle'⟩

end Respects

end

end Blocksnoop.Cli
