import Blocksnoop.Cli.Teardown

/-!
# The command

`main`, `_run_normal` and `_run_stats` of `cli.py` from the point where the
target has been launched.  The loop reaps the target; the steps before the loop
do not, and neither do the first steps of the loop, up to where it installs its
handlers.  So the target is looked after exactly when the pipeline could be built
and no signal came before the handlers, provided that a signal does not cut the
teardown short.
-/

namespace Blocksnoop.Cli

open Blocksnoop.Support

section

variable {χ ι : Type} [Environment χ ι]

namespace World

/-- The next step outside the loop, where no signal is assumed to arrive. -/
def offerQuiet (s : World χ ι) : Option (World χ ι × Option Empty × Behaviour) :=
  match s.schedule with
  | [] => none
  | entry :: rest => some (s.advance entry.env rest, none, entry.behaviour)

theorem le_offerQuiet (s : World χ ι) (step : World χ ι × Option Empty × Behaviour)
    (h : s.offerQuiet = some step) : s ≤ step.1 := by
  unfold offerQuiet at h
  split at h
  · cases h
  · rename_i entry rest _
    obtain rfl := Option.some.inj h
    change s.history <+: _
    rw [advance_history]

end World

def quietStep : Main χ ι Behaviour :=
  Prog.interruptible World.offerQuiet World.le_offerQuiet fun interrupt => nomatch interrupt

/-- Build one component. -/
def construct (step : Construction) : Main χ ι Unit :=
  call (.construct step) do
    let behaviour ← quietStep
    match behaviour.2 with
    | none => Prog.pure ()
    | some e => Prog.raise e

def constructAll : List Construction → Main χ ι Unit
  | [] => Prog.pure ()
  | step :: rest => do
      construct step
      constructAll rest

def normalConstructions : List Construction :=
  [.buildSinks, .detectorConfig, .reporter, .austinSampler, .correlator, .createDetector]

def statsConstructions : List Construction :=
  [.detectorConfig, .statsCollector, .createDetector]

/-! ## The loop from its first line -/

/-- The handlers that are there before the loop: `SIGINT` raises, and `SIGTERM` kills the
process, which ends the run without an end of `main`. -/
def previousHandler : Handler χ ι
  | .sigint => Prog.raise .keyboardInterrupt
  | .sigterm => Prog.pause

/-- The handler of the loop is there for `SIGINT` only. -/
def sigintHandler (handler : Handler χ ι) : Handler χ ι
  | .sigint => handler .sigint
  | .sigterm => previousHandler .sigterm

/-- The steps before the handlers of the loop are installed.  From the `try` on an exception
goes through the `finally`, which puts the previous handlers back. -/
def installHandlers (handler : Handler χ ι) : Main χ ι Unit := do
  let _ ← tick previousHandler
  let _ ← Prog.tryCatch (tick previousHandler) fun e => do
    ticks previousHandler 2
    Prog.raise e
  let _ ← Prog.tryCatch (tick (sigintHandler handler)) fun e => do
    let _ ← tick (sigintHandler handler)
    ticks previousHandler 1
    Prog.raise e
  Prog.pure ()

/-- `_run_loop` from its first line to its return. -/
def runLoopFromEntry (callbacks : Callbacks χ ι) : Main χ ι (Option ℤ) := do
  let steps ← Prog.get fun s => s.schedule.length
  installHandlers (shutdown callbacks steps)
  let returncode ← runLoop callbacks
  let _ ← tick previousHandler
  Prog.pure returncode

def runNormal (callbacks : Callbacks χ ι) : Main χ ι (Option ℤ) := do
  constructAll normalConstructions
  runLoopFromEntry callbacks

def runStats (callbacks : Callbacks χ ι) : Main χ ι (Option ℤ) := do
  constructAll statsConstructions
  runLoopFromEntry callbacks

/-! ## The end of the command -/

def normaliseChildReturncode (returncode : ℤ) : ℤ :=
  if returncode < 0 then 128 - returncode else returncode

/-- `except CoreDetectorError` and `except BccDetectorError` -/
def isBackendError : PyException → Bool
  | .coreDetectorError _ => true
  | .bccDetectorError _ => true
  | _ => false

/-- `main` after `subprocess.Popen` has returned. -/
def main (stats : Bool) (policyFailed : χ → Bool) (callbacks : Callbacks χ ι) :
    Main χ ι Unit := do
  let childReturncode ← Prog.tryCatch
    (if stats then runStats callbacks else runNormal callbacks)
    (fun e => if isBackendError e then Prog.raise (.systemExit 1) else Prog.raise e)
  let failed ← Prog.get fun s => policyFailed s.inner
  if childReturncode ≠ none ∧ childReturncode ≠ some 0 then
    Prog.raise (.systemExit (normaliseChildReturncode (childReturncode.getD 0)))
  else if !stats && failed then Prog.raise (.systemExit 3)
  else Prog.pure ()

/-! ## What the target is owed -/

/-- The target has exited and its exit status was collected. -/
def Waited (child : Option Child) : Prop :=
  ∃ c, child = some c ∧ c.exitCode.isSome = true ∧ c.waited = true

/-- The target was waited for, or `_stop_child` was run on it. -/
def ChildHandled (s : World χ ι) : Prop :=
  Waited s.child ∨ .returned .stopChild ∈ marks s.history

/-- A part of the teardown is under way, from which an exception leads on to
`_stop_child`; or that has been run. -/
def ReapPhase (l : List Mark) : Prop :=
  (.began .stop ∈ l ∧ ¬ Ended .stop l) ∨
    (∃ reason, .began (.onExit reason) ∈ l ∧ ¬ Ended (.onExit reason) l) ∨
    .returned .stopChild ∈ l

/-- A signal arrives before the flag is set, or when the target has been waited
for, or while an exception still leads to `_stop_child`. -/
def HarmlessToChild (before : List (Event χ)) (event : Event χ) : Prop :=
  ∀ signum, event.mark = .signal signum →
    event.cleanedUp = false ∨ Waited event.child ∨ ReapPhase (marks before)

/-! ## Exit statuses are kept -/

omit [Environment χ ι] in
theorem Waited.poll {s : World χ ι} (h : Waited s.child) :
    Waited (s.child.map Child.collect) := by
  obtain ⟨c, hchild, hexited, hwaited⟩ := h
  exact ⟨c.collect, by rw [hchild]; rfl, hexited, by simp [Child.collect, hwaited]⟩

theorem Waited.applyEnv {s : World χ ι} (h : Waited s.child) (action : EnvAction ι) :
    Waited (s.applyEnv action).child := by
  obtain ⟨c, hchild, hexited, hwaited⟩ := h
  cases action with
  | inner action => exact ⟨c, hchild, hexited, hwaited⟩
  | childExits returncode =>
      have hne : c.exitCode ≠ none := Option.isSome_iff_ne_none.mp hexited
      refine ⟨c, ?_, hexited, hwaited⟩
      simp [World.applyEnv, Child.exit, hchild, hne]

theorem Waited.advance {s : World χ ι} (h : Waited s.child) (env : List (EnvAction ι))
    (schedule : List (Entry ι)) : Waited (s.advance env schedule).child := by
  change Waited (env.foldl World.applyEnv s).child
  induction env generalizing s with
  | nil => exact h
  | cons action env ih =>
      rw [List.foldl_cons]
      exact ih (h.applyEnv action)

/-- A target that nobody has waited for. -/
def Unwaited (child : Option Child) : Prop :=
  ∃ c, child = some c ∧ c.waited = false

theorem Unwaited.advance {s : World χ ι} (h : Unwaited s.child) (env : List (EnvAction ι))
    (schedule : List (Entry ι)) : Unwaited (s.advance env schedule).child := by
  change Unwaited (env.foldl World.applyEnv s).child
  induction env generalizing s with
  | nil => exact h
  | cons action env ih =>
      rw [List.foldl_cons]
      refine ih ?_
      obtain ⟨c, hchild, hwaited⟩ := h
      cases action with
      | inner action => exact ⟨c, hchild, hwaited⟩
      | childExits returncode =>
          refine ⟨c.exit returncode, by rw [World.applyEnv, hchild]; rfl, ?_⟩
          unfold Child.exit
          split
          · exact hwaited
          · exact hwaited

theorem Unwaited.not_waited {child : Option Child} (h : Unwaited child) : ¬ Waited child := by
  obtain ⟨c, hchild, hwaited⟩ := h
  rintro ⟨c', hchild', -, hwaited'⟩
  obtain rfl : c = c' := Option.some.inj (hchild.symm.trans hchild')
  exact Bool.false_ne_true (hwaited.symm.trans hwaited')

end

end Blocksnoop.Cli
