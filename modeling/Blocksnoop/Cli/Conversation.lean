import Blocksnoop.Cli.Handshake
import Blocksnoop.CoreBackend.Reading
import Blocksnoop.Native.Loader
import Mathlib.Data.Bool.AllAny

/-!
# The collector and its parent

The standard output of the collector goes through a pipe to the reader thread of the parent.
However the two processes and the two threads take turns, the reader notes what the collector
has written in its order, and the end of the output at most once behind it; so `start` of the
parent ends the way the set-up of the collector has ended, unless it gives up waiting first.
-/

namespace Blocksnoop.Cli

open Blocksnoop.Support Blocksnoop.CoreBackend

section

variable {F : Type} [PyRuntime F]

/-! ## The lines of the collector -/

theorem flatMap_escapeChar {cs : List Char} (h : ∀ c ∈ cs, Json.escapeChar c = [c]) :
    cs.flatMap Json.escapeChar = cs := by
  induction cs with
  | nil => rfl
  | cons c cs ih =>
      obtain ⟨hc, hcs⟩ := List.forall_mem_cons.mp h
      rw [List.flatMap_cons, hc, ih hcs, List.singleton_append]

/-- A fatal message whose text needs no escape is read as the error it is. -/
theorem handleLine_emitFatal (d : CoreDetector F) {message : String}
    (h : ∀ c ∈ message.toList, Json.escapeChar c = [c]) :
    handleLine d (Native.emitFatal message) = .setError message := by
  have hplain : Json.Plain (.obj [("version", .int 2), ("type", .str "fatal"),
      ("message", .str message)]) := ⟨plain_two, trivial, trivial, trivial⟩
  have hline : Native.emitFatal message = String.ofList (Json.render (.obj
      [("version", .int 2), ("type", .str "fatal"), ("message", .str message)])) ++ "\n" := by
    apply String.toList_inj.mp
    unfold Native.emitFatal
    simp only [Json.render, Json.renderMembers, Json.renderString, flatMap_escapeChar h,
      String.toList_append, String.toList_ofList, List.append_assoc, List.cons_append,
      List.nil_append]
    rfl
  rw [handleLine_of_message hplain hline]
  rfl

theorem escapeChar_of_all {message : String}
    (h : message.toList.all (fun c => decide (Json.escapeChar c = [c])) = true) :
    ∀ c ∈ message.toList, Json.escapeChar c = [c] :=
  List.all_iff_forall_prop.mp h

theorem escapeChar_message (call : Native.LoaderCall) :
    ∀ c ∈ call.message.toList, Json.escapeChar c = [c] := by
  cases call with
  | attach probe =>
      obtain ⟨kind, variant⟩ := probe
      cases kind with
      | _ => simp only [Native.LoaderCall.message]; exact escapeChar_of_all (by decide +kernel)
  | _ => simp only [Native.LoaderCall.message]; exact escapeChar_of_all (by decide +kernel)

/-- What the action adds to the notes. -/
def noteOfAction : Action → List Note
  | .setError error => [.failed error]
  | .ready => [.accepted]
  | _ => []

/-- What the reader notes when it handles the line. -/
def noteOf (d : CoreDetector F) (line : String) : List Note :=
  noteOfAction (handleLine d line)

/-- What it notes when it handles the lines. -/
def heard (d : CoreDetector F) (lines : List String) : List Note :=
  lines.flatMap (noteOf d)

/-- What the end of the output adds to the notes. -/
def noteOfEnd (notes : List Note) : List Note :=
  if (firstError notes).isSome then []
  else if notes = [] then [.failed "sidecar exited before sending ready"]
  else [.failed "sidecar exited unexpectedly after ready"]

omit [PyRuntime F] in
theorem handleEvent_quiet (d : CoreDetector F) (message : List (String × Json)) :
    noteOfAction (handleEvent d message) = [] ∧ (handleEvent d message).crashes = false := by
  fun_cases handleEvent d message with
  | _ => exact ⟨rfl, rfl⟩

/-- A report is handled without a note. -/
theorem noteOf_report {d : CoreDetector F} {config : Native.DetectorConfig}
    {enabled : Native.EpollVariant → Bool} (hexpects : Expects d config) {line : Native.Line}
    (h : line.isReport = true) :
    noteOf d (line.text config enabled) = [] ∧
      (handleLine d (line.text config enabled)).crashes = false := by
  unfold noteOf
  cases line with
  | ready => cases h
  | fatal message => cases h
  | lost count =>
      have hline : handleLine d ((Native.Line.lost count).text config enabled) =
          .lost { count := count.toNat, source := "perf_buffer" } :=
        handleLine_emitLost count hexpects
      rw [hline]
      exact ⟨rfl, rfl⟩
  | event event =>
      have hline : handleLine d ((Native.Line.event event).text config enabled) =
          handleEvent d (eventMessage event config) :=
        handleLine_of_message (plain_eventMessage event config)
          (emitEvent_eq_render event config)
      rw [hline]
      exact handleEvent_quiet d _

/-! ## How far the reader is -/

/-- A step of the work on a line. -/
def ReaderStep.IsWork : ReaderStep F → Prop
  | .openStdout => False
  | .close => False
  | .finish => False
  | _ => True

def ReaderStep.note : ReaderStep F → Option Note
  | .setError error => some (.failed error)
  | _ => none

/-- The errors that are about to be noted. -/
def due (steps : List (ReaderStep F)) : List Note :=
  steps.filterMap ReaderStep.note

/-- Where the reader is, when the collector writes `lines` and the pipe has been given
`delivered`. -/
inductive Hearing (d : CoreDetector F) (lines : List String) (p : Pipeline F)
    (notes : List Note) : List (Option String) → Prop where
  | opening (hreader : p.reader = .running [.openStdout]) (hnotes : notes = []) :
      Hearing d lines p notes p.sidecar.stdout
  | reading (steps : List (ReaderStep F)) (consumed : List String)
      (hreader : p.reader = .running steps) (hwork : ∀ step ∈ steps, step.IsWork)
      (hnotes : notes ++ due steps = heard d consumed) :
      Hearing d lines p notes (consumed.map some ++ p.sidecar.stdout)
  | closing (hreader : p.reader = .running [.close]) (hexited : p.sidecar.exited = true)
      (hnotes : notes = heard d lines) : Hearing d lines p notes (lines.map some)
  | finishing (steps : List (ReaderStep F)) (hreader : p.reader = .running (steps ++ [.finish]))
      (hexited : p.sidecar.exited = true) (hwork : ∀ step ∈ steps, step.IsWork)
      (hnotes : notes ++ due steps = heard d lines ++ noteOfEnd (heard d lines)) :
      Hearing d lines p notes (lines.map some)
  | ended (hreader : p.reader = .ended) (hexited : p.sidecar.exited = true)
      (hnotes : notes = heard d lines ++ noteOfEnd (heard d lines)) :
      Hearing d lines p notes (lines.map some)

/-- What holds while the collector writes `lines` and the pipe has been given `delivered`. -/
structure Listens (d : CoreDetector F) (lines : List String) (delivered : List (Option String))
    (s : Threads F) : Prop where
  same : SameExpectations d s.pipeline.detector
  process : s.notes = [] → s.pipeline.process = true
  requested : s.pipeline.detector.stopRequested = true → (firstError s.notes).isSome = true
  exited : s.pipeline.sidecar.exited = true → delivered = lines.map some
  hearing : Hearing d lines s.pipeline s.notes delivered

variable {d : CoreDetector F} {lines : List String} {delivered : List (Option String)}

theorem Hearing.congr {p p' : Pipeline F} {notes : List Note}
    (h : Hearing d lines p notes delivered) (hreader : p'.reader = p.reader)
    (hsidecar : p'.sidecar = p.sidecar) : Hearing d lines p' notes delivered := by
  cases h with
  | opening hopening hnotes =>
      rw [← hsidecar]
      exact .opening (hreader.trans hopening) hnotes
  | reading steps consumed hreading hwork hnotes =>
      rw [← hsidecar]
      exact .reading steps consumed (hreader.trans hreading) hwork hnotes
  | closing hclosing hexited hnotes =>
      rw [← hsidecar] at hexited
      exact .closing (hreader.trans hclosing) hexited hnotes
  | finishing steps hfinishing hexited hwork hnotes =>
      rw [← hsidecar] at hexited
      exact .finishing steps (hreader.trans hfinishing) hexited hwork hnotes
  | ended hended hexited hnotes =>
      rw [← hsidecar] at hexited
      exact .ended (hreader.trans hended) hexited hnotes

theorem heard_append (d : CoreDetector F) (lines more : List String) :
    heard d (lines ++ more) = heard d lines ++ heard d more :=
  List.flatMap_append

omit [PyRuntime F] in
theorem due_append (steps more : List (ReaderStep F)) :
    due (steps ++ more) = due steps ++ due more :=
  List.filterMap_append

omit [PyRuntime F] in
theorem due_cons (step : ReaderStep F) (steps : List (ReaderStep F)) :
    due (step :: steps) = step.note.toList ++ due steps := by
  unfold due
  rw [List.filterMap_cons]
  cases step.note with
  | none => rfl
  | some note => rfl

omit [PyRuntime F] in
/-- The work on a line notes what its handler says. -/
theorem actionSteps_work {action : Action} (h : action.crashes = false) :
    (∀ step ∈ (actionSteps action : List (ReaderStep F)), step.IsWork) ∧
      (if action = .ready then [.accepted] else []) ++
        due (actionSteps action : List (ReaderStep F)) = noteOfAction action := by
  cases action with
  | raised e => cases h
  | _ => exact ⟨by simp [actionSteps, ReaderStep.IsWork], rfl⟩

/-- What a step of the work leads to is work, and an error is noted when it is recorded. -/
theorem readerStep_work (p : Pipeline F) {step : ReaderStep F} (h : step.IsWork) :
    (∀ next ∈ (p.readerStep step).2, next.IsWork) ∧ due (p.readerStep step).2 = [] := by
  revert h
  fun_cases Pipeline.readerStep p step with
  | case1 => exact False.elim
  | case2 => exact False.elim
  | case3 error =>
      intro _
      unfold Pipeline.setErrorStep
      split
      · exact ⟨by simp, rfl⟩
      · exact ⟨by simp [ReaderStep.IsWork], rfl⟩
  | case13 => exact False.elim
  | case14 => exact False.elim
  | _ => exact fun _ => ⟨by simp [ReaderStep.IsWork], rfl⟩

omit [PyRuntime F] in
/-- The steps at the end of the output note what is missing. -/
theorem closeSteps_work {p : Pipeline F} {notes : List Note} (htracks : p.Tracks notes)
    (hrequested : p.detector.stopRequested = true → (firstError notes).isSome = true)
    (hreader : ∀ steps, p.reader ≠ .running (.setReady :: steps)) :
    (∀ step ∈ p.closeSteps, step.IsWork) ∧ due p.closeSteps = noteOfEnd notes := by
  unfold Pipeline.closeSteps noteOfEnd
  cases notes with
  | nil =>
      have hstop : ¬ p.detector.stopRequested = true := fun h => by cases hrequested h
      have hready := htracks.ready
      simp [hstop, htracks.startupError, htracks.runtimeError, hready, firstError,
        ReaderStep.IsWork, due, ReaderStep.note]
  | cons note rest =>
      have hready : p.detector.ready = true := Pipeline.Decided.ready htracks hreader
      have hslots : (firstError (note :: rest)).isSome = true ↔
          p.detector.startupError ≠ none ∨ p.detector.runtimeError ≠ none := by
        rw [htracks.startupError, htracks.runtimeError]
        unfold firstError
        rw [List.findSome?_cons]
        cases note.startupError with
        | none => simp [Option.isSome_iff_ne_none]
        | some error => simp
      by_cases hsome : (firstError (note :: rest)).isSome = true
      · rw [if_pos (.inr (hslots.mp hsome)), if_pos hsome]
        exact ⟨by simp, rfl⟩
      · have hnone := mt hslots.mpr hsome
        have hstop := mt hrequested hsome
        rw [if_neg (not_or.mpr ⟨hstop, hnone⟩), if_pos hready, if_neg hsome,
          if_neg (List.cons_ne_nil _ _)]
        exact ⟨by simp [ReaderStep.IsWork], rfl⟩

/-! ## One turn -/

/-- The rest of the world neither asks for a stop nor changes what is expected. -/
theorem detector_act (p : Pipeline F) (move : Move F) :
    SameExpectations p.detector (p.act move).detector ∧
      (p.act move).detector.stopRequested = p.detector.stopRequested := by
  have hstep : ∀ step, SameExpectations p.detector (p.readerStep step).1.detector ∧
      (p.readerStep step).1.detector.stopRequested = p.detector.stopRequested := by
    intro step
    fun_cases Pipeline.readerStep p step with
    | case3 error =>
        unfold Pipeline.setErrorStep CoreDetector.setError
        split
        · exact ⟨⟨rfl, rfl, rfl, rfl, rfl⟩, rfl⟩
        · exact ⟨⟨rfl, rfl, rfl, rfl, rfl⟩, rfl⟩
    | _ => exact ⟨⟨rfl, rfl, rfl, rfl, rfl⟩, rfl⟩
  fun_cases Pipeline.act p move with
  | case4 =>
      fun_cases Pipeline.readerRuns p with
      | case4 step steps _ hreader p' due hdue =>
          obtain rfl : (p.readerStep step).1 = p' := congrArg Prod.fst hdue
          exact hstep step
      | _ => exact ⟨⟨rfl, rfl, rfl, rfl, rfl⟩, rfl⟩
  | _ => exact ⟨⟨rfl, rfl, rfl, rfl, rfl⟩, rfl⟩

omit [PyRuntime F] in
theorem sameExpectations_trans {d d' d'' : CoreDetector F} (h : SameExpectations d d')
    (h' : SameExpectations d' d'') : SameExpectations d d'' where
  config := h'.config.trans h.config
  pid := h'.pid.trans h.pid
  tid := h'.tid.trans h.tid
  dev := h'.dev.trans h.dev
  ino := h'.ino.trans h.ino

theorem readerRuns_work {p : Pipeline F} {step : ReaderStep F} {steps : List (ReaderStep F)}
    (hreader : p.reader = .running (step :: steps)) (hstep : step.IsWork) :
    ∃ next, (∀ step ∈ next, step.IsWork) ∧ due next = [] ∧
      p.readerRuns.reader = .running (next ++ steps) ∧ p.readerRuns.sidecar = p.sidecar ∧
      p.noted .readerRuns = step.note.toList := by
  obtain ⟨hwork, hdue⟩ := readerStep_work p hstep
  refine ⟨(p.readerStep step).2, hwork, hdue, ?_⟩
  have hruns : p.readerRuns =
      { (p.readerStep step).1 with reader := .running ((p.readerStep step).2 ++ steps) } := by
    unfold Pipeline.readerRuns
    rw [hreader]
    cases step with
    | finish => cases hstep
    | _ => rfl
  obtain ⟨_, _, _, hframe⟩ := p.readerStep_frame step
  rw [hruns]
  refine ⟨rfl, ?_, ?_⟩
  · dsimp only
    rw [hframe]
  · unfold Pipeline.noted
    rw [hreader]
    cases step with
    | _ => rfl

/-- The reader has nothing to do, and looks into the pipe. -/
theorem hearing_line {s : Threads F} {consumed : List String}
    (h : Listens d lines (consumed.map some ++ s.pipeline.sidecar.stdout) s)
    (hquiet : ∀ line ∈ lines, (handleLine d line).crashes = false)
    (hdelivered : consumed.map some ++ s.pipeline.sidecar.stdout <+: lines.map some)
    (hreader : s.pipeline.reader = .running []) (hnotes : s.notes = heard d consumed) :
    Hearing d lines s.pipeline.readerRuns (s.notes ++ s.pipeline.noted .readerRuns)
      (consumed.map some ++ s.pipeline.sidecar.stdout) := by
  cases hstdout : s.pipeline.sidecar.stdout with
  | nil =>
      rw [Pipeline.noted, hreader, hstdout, List.append_nil]
      cases hexited : s.pipeline.sidecar.exited with
      | true =>
          have hall := h.exited hexited
          rw [hstdout, List.append_nil] at hall
          have hconsumed : consumed = lines :=
            List.map_injective_iff.mpr (Option.some_injective _) hall
          have hruns : s.pipeline.readerRuns = { s.pipeline with reader := .running [.close] } := by
            unfold Pipeline.readerRuns
            rw [hreader, hstdout, hexited]
            rfl
          rw [hruns, hall, List.append_nil]
          exact .closing rfl hexited (hconsumed ▸ hnotes)
      | false =>
          have hruns : s.pipeline.readerRuns = s.pipeline := by
            unfold Pipeline.readerRuns
            rw [hreader, hstdout, hexited]
            rfl
          have hreading : Hearing d lines s.pipeline s.notes _ :=
            .reading [] consumed hreader (by simp) (by rw [hnotes]; exact List.append_nil _)
          rw [hstdout] at hreading
          rw [hruns]
          exact hreading
  | cons entry rest =>
      have hmem : entry ∈ lines.map some := by
        rw [hstdout] at hdelivered
        exact hdelivered.mem (by simp)
      obtain ⟨line, hline, rfl⟩ := List.mem_map.mp hmem
      have hhandle := h.same.handleLine line
      obtain ⟨hwork, hnoted⟩ := actionSteps_work (F := F) (hquiet line hline)
      have hruns : s.pipeline.readerRuns = { s.pipeline with
          sidecar := { s.pipeline.sidecar with stdout := rest }
          reader := .running (actionSteps (handleLine d line)) } := by
        unfold Pipeline.readerRuns
        rw [hreader, hstdout, ← hhandle]
      have hconsumed : consumed.map some ++ some line :: rest =
          (consumed ++ [line]).map some ++ rest := by
        simp
      rw [Pipeline.noted, hreader, hstdout, hruns, hconsumed]
      dsimp only
      rw [hhandle]
      refine .reading (p := { s.pipeline with
          sidecar := { s.pipeline.sidecar with stdout := rest }
          reader := .running (actionSteps (handleLine d line)) })
        (actionSteps (handleLine d line)) (consumed ++ [line]) rfl hwork ?_
      rw [List.append_assoc, hnoted, heard_append, hnotes]
      simp [heard, noteOf]

/-- A turn of the reader: what it notes is what it has heard. -/
theorem hearing_readerRuns {s : Threads F} {executable : String}
    (hsound : Threads.Sound executable s) (h : Listens d lines delivered s)
    (hquiet : ∀ line ∈ lines, (handleLine d line).crashes = false)
    (hdelivered : delivered <+: lines.map some) :
    Hearing d lines s.pipeline.readerRuns (s.notes ++ s.pipeline.noted .readerRuns)
      delivered := by
  have hexited := h.exited
  have hhearing := h.hearing
  cases hhearing with
  | opening hreader hnotes =>
      have hruns : s.pipeline.readerRuns = { s.pipeline with reader := .running [] } := by
        unfold Pipeline.readerRuns Pipeline.readerStep
        rw [hreader]
        simp [h.process hnotes]
      rw [Pipeline.noted, hreader, hruns, hnotes]
      exact .reading (p := { s.pipeline with reader := .running [] }) [] [] rfl (by simp) rfl
  | reading steps consumed hreader hwork hnotes =>
      cases steps with
      | nil =>
          refine hearing_line h hquiet hdelivered hreader ?_
          rw [← hnotes]
          exact (List.append_nil _).symm
      | cons step steps =>
          obtain ⟨hstep, hsteps⟩ := List.forall_mem_cons.mp hwork
          obtain ⟨next, hnext, hdue, hruns, hsidecar, hnoted⟩ := readerRuns_work hreader hstep
          rw [← hsidecar]
          refine .reading (next ++ steps) consumed hruns
            (List.forall_mem_append.mpr ⟨hnext, hsteps⟩) ?_
          rw [hnoted, due_append, hdue, List.nil_append, ← hnotes, due_cons, List.append_assoc]
  | closing hreader hclosed hnotes =>
      have hruns : s.pipeline.readerRuns =
          { s.pipeline with reader := .running (s.pipeline.closeSteps ++ [.finish]) } := by
        unfold Pipeline.readerRuns Pipeline.readerStep
        rw [hreader]
        simp
      obtain ⟨hwork, hdue⟩ := closeSteps_work hsound.tracks h.requested
        (fun steps hsteps => by rw [hreader] at hsteps; cases hsteps)
      rw [Pipeline.noted, hreader, hruns, List.append_nil]
      refine .finishing s.pipeline.closeSteps rfl hclosed hwork ?_
      rw [hdue, hnotes]
  | finishing steps hreader hclosed hwork hnotes =>
      cases steps with
      | nil =>
          have hruns : s.pipeline.readerRuns = { s.pipeline with reader := .ended } := by
            unfold Pipeline.readerRuns
            rw [hreader]
            rfl
          rw [Pipeline.noted, hreader, hruns]
          exact .ended rfl hclosed hnotes
      | cons step steps =>
          obtain ⟨hstep, hsteps⟩ := List.forall_mem_cons.mp hwork
          obtain ⟨next, hnext, hdue, hruns, hsidecar, hnoted⟩ := readerRuns_work hreader hstep
          refine .finishing (next ++ steps) ?_ (hsidecar ▸ hclosed)
            (List.forall_mem_append.mpr ⟨hnext, hsteps⟩) ?_
          · rw [List.append_assoc]
            exact hruns
          · rw [hnoted, due_append, hdue, List.nil_append, ← hnotes, due_cons, List.append_assoc]
  | ended hreader hclosed hnotes =>
      have hruns : s.pipeline.readerRuns = s.pipeline := by
        unfold Pipeline.readerRuns
        rw [hreader]
      rw [Pipeline.noted, hreader, hruns, List.append_nil]
      exact .ended hreader hclosed hnotes

theorem exited_readerRuns (p : Pipeline F) :
    p.readerRuns.sidecar.exited = p.sidecar.exited := by
  fun_cases Pipeline.readerRuns p with
  | case4 step steps _ hreader p' due hdue =>
      obtain rfl : (p.readerStep step).1 = p' := congrArg Prod.fst hdue
      obtain ⟨_, _, _, hframe⟩ := p.readerStep_frame step
      dsimp only
      rw [hframe]
  | _ => rfl

/-- What is written while the process runs waits in the pipe. -/
theorem Hearing.output {p : Pipeline F} {notes : List Note} (h : Hearing d lines p notes delivered)
    (hexited : p.sidecar.exited = false) (line : Option String) :
    Hearing d lines { p with sidecar := { p.sidecar with stdout := p.sidecar.stdout ++ [line] } }
      notes (delivered ++ [line]) := by
  cases h with
  | opening hreader hnotes =>
      exact .opening (p := { p with
        sidecar := { p.sidecar with stdout := p.sidecar.stdout ++ [line] } }) hreader hnotes
  | reading steps consumed hreader hwork hnotes =>
      rw [List.append_assoc]
      exact .reading (p := { p with
        sidecar := { p.sidecar with stdout := p.sidecar.stdout ++ [line] } })
        steps consumed hreader hwork hnotes
  | closing _ hclosed => cases hexited.symm.trans hclosed
  | finishing _ _ hclosed => cases hexited.symm.trans hclosed
  | ended _ hclosed => cases hexited.symm.trans hclosed

theorem Hearing.exits {p : Pipeline F} {notes : List Note}
    (h : Hearing d lines p notes delivered) :
    Hearing d lines { p with sidecar := { p.sidecar with exited := true } } notes delivered := by
  cases h with
  | opening hreader hnotes =>
      exact .opening (p := { p with sidecar := { p.sidecar with exited := true } }) hreader hnotes
  | reading steps consumed hreader hwork hnotes =>
      exact .reading (p := { p with sidecar := { p.sidecar with exited := true } })
        steps consumed hreader hwork hnotes
  | closing hreader _ hnotes => exact .closing hreader rfl hnotes
  | finishing steps hreader _ hwork hnotes => exact .finishing steps hreader rfl hwork hnotes
  | ended hreader _ hnotes => exact .ended hreader rfl hnotes

/-- What the move adds to what the pipe has been given. -/
def Move.written : Move F → List (Option String)
  | .output line => [line]
  | _ => []

theorem Pipeline.act_output (p : Pipeline F) (line : Option String) :
    p.act (.output line) = if p.sidecar.exited then p else
      { p with sidecar := { p.sidecar with stdout := p.sidecar.stdout ++ [line] } } :=
  rfl

theorem Pipeline.act_stderrOutput (p : Pipeline F) (chunk : String) :
    p.act (.stderrOutput chunk) = if p.stderrStarted then p.appendStderr chunk else p :=
  rfl

/-- A turn of the reader and of the rest of the world. -/
theorem Listens.world {s : Threads F} {executable : String}
    (hsound : Threads.Sound executable s) (h : Listens d lines delivered s)
    (hquiet : ∀ line ∈ lines, (handleLine d line).crashes = false) (move : Move F)
    (hdelivered : delivered ++ move.written <+: lines.map some)
    (hexits : move = .sidecarExits → delivered = lines.map some) :
    Listens d lines (delivered ++ move.written) (s.step (.world move)) := by
  obtain ⟨hsame, hstop⟩ := detector_act s.pipeline move
  have hprocess : (s.pipeline.act move).process = s.pipeline.process := by
    obtain ⟨_, _, _, _, _, _, _, _, hframe⟩ := s.pipeline.act_frame move
    rw [hframe]
  refine ⟨sameExpectations_trans h.same hsame, fun hnotes => ?_, fun hstopped => ?_,
    fun hexited => ?_, ?_⟩
  · exact hprocess.trans (h.process (List.append_eq_nil_iff.mp hnotes).1)
  · change (firstError (s.notes ++ _)).isSome = true
    rw [firstError_append, Option.isSome_or, h.requested (hstop.symm.trans hstopped),
      Bool.true_or]
  · change (s.pipeline.act move).sidecar.exited = true at hexited
    cases move with
    | output line =>
        have hbefore : s.pipeline.sidecar.exited = true := by
          rw [Pipeline.act_output] at hexited
          split at hexited
          next hbefore => exact hbefore
          · exact hexited
        have hlength := hdelivered.length_le
        rw [h.exited hbefore, List.length_append] at hlength
        exact absurd hlength (Nat.not_succ_le_self _)
    | sidecarExits => simp only [Move.written, List.append_nil, hexits rfl]
    | readerRuns =>
        simp only [Move.written, List.append_nil]
        exact h.exited ((exited_readerRuns s.pipeline).symm.trans hexited)
    | stderrOutput chunk =>
        simp only [Move.written, List.append_nil]
        rw [Pipeline.act_stderrOutput] at hexited
        split at hexited
        · exact h.exited hexited
        · exact h.exited hexited
    | _ =>
        simp only [Move.written, List.append_nil]
        exact h.exited hexited
  · change Hearing d lines (s.pipeline.act move) (s.notes ++ s.pipeline.noted move) _
    cases move with
    | output line =>
        have hrunning : s.pipeline.sidecar.exited = false := by
          by_contra hexited
          have hlength := hdelivered.length_le
          rw [h.exited (by simpa using hexited), List.length_append] at hlength
          exact absurd hlength (Nat.not_succ_le_self _)
        have hact : s.pipeline.act (.output line) = { s.pipeline with
            sidecar := { s.pipeline.sidecar with
              stdout := s.pipeline.sidecar.stdout ++ [line] } } := by
          rw [Pipeline.act_output, if_neg (by rw [hrunning]; exact Bool.false_ne_true)]
        rw [Pipeline.noted, List.append_nil, hact]
        · exact h.hearing.output hrunning line
        · intros; contradiction
    | sidecarExits =>
        simp only [Pipeline.noted, Move.written, List.append_nil]
        exact h.hearing.exits
    | readerRuns =>
        simp only [Move.written, List.append_nil]
        simp only [Move.written, List.append_nil] at hdelivered
        exact hearing_readerRuns hsound h hquiet hdelivered
    | stderrOutput chunk =>
        simp only [Pipeline.noted, Move.written, List.append_nil]
        refine h.hearing.congr ?_ ?_
        · rw [Pipeline.act_stderrOutput]
          split
          · rfl
          · rfl
        · rw [Pipeline.act_stderrOutput]
          split
          · rfl
          · rfl
    | sample timestampNs stack =>
        simp only [Pipeline.noted, Move.written, List.append_nil]
        exact h.hearing.congr rfl rfl
    | clock reading monotonicNs =>
        simp only [Pipeline.noted, Move.written, List.append_nil]
        exact h.hearing.congr rfl rfl

omit [PyRuntime F] in
/-- When `start` has read an error, one is among the notes. -/
theorem Threads.Sound.isSome_firstError {s : Threads F} {executable error : String}
    (hsound : Threads.Sound executable s) (hfound : s.point.found = some (some error)) :
    (firstError s.notes).isSome = true ∧ s.notes ≠ [] := by
  obtain ⟨note, rest, hnotes, hstartup, _⟩ := hsound.head_of_found hfound
  rw [hnotes, firstError, List.findSome?_cons, hstartup]
  exact ⟨rfl, List.cons_ne_nil _ _⟩

/-- A turn of the main thread. -/
theorem Listens.main {s : Threads F} {executable : String}
    (hsound : Threads.Sound executable s) (h : Listens d lines delivered s) :
    Listens d lines delivered s.mainRuns := by
  fun_cases Threads.mainRuns s with
  | case9 p error hpoint =>
      obtain ⟨hsome, _⟩ := hsound.isSome_firstError (congrArg Point.found hpoint)
      exact ⟨⟨h.same.config, h.same.pid, h.same.tid, h.same.dev, h.same.ino⟩, h.process,
        fun _ => hsome, h.exited, h.hearing.congr rfl rfl⟩
  | case10 p error hpoint =>
      obtain ⟨_, hne⟩ := hsound.isSome_firstError (congrArg Point.found hpoint)
      exact ⟨h.same, fun hnotes => absurd hnotes hne, h.requested, h.exited,
        h.hearing.congr rfl rfl⟩
  | case4 => exact h
  | case7 => exact h
  | case14 => exact h
  | _ => exact ⟨h.same, h.process, h.requested, h.exited, h.hearing.congr rfl rfl⟩

/-! ## Whole runs -/

omit [PyRuntime F] in
def Turn.written : Turn F → List (Option String)
  | .main => []
  | .world move => move.written

/-- What the turns give the pipe. -/
def written (schedule : List (Turn F)) : List (Option String) :=
  schedule.flatMap Turn.written

/-- The turns give the pipe what the collector writes, and it exits behind its last line. -/
structure Carries (lines : List String) (schedule : List (Turn F)) : Prop where
  written : written schedule <+: lines.map some
  exits : ∀ before after, schedule = before ++ .world .sidecarExits :: after →
    Cli.written before = lines.map some

theorem Listens.step {s : Threads F} {executable : String}
    (hsound : Threads.Sound executable s) (h : Listens d lines delivered s)
    (hquiet : ∀ line ∈ lines, (handleLine d line).crashes = false) (turn : Turn F)
    (hdelivered : delivered ++ turn.written <+: lines.map some)
    (hexits : turn = .world .sidecarExits → delivered = lines.map some) :
    Listens d lines (delivered ++ turn.written) (s.step turn) := by
  cases turn with
  | main =>
      rw [Turn.written, List.append_nil]
      exact h.main hsound
  | world move =>
      exact h.world hsound hquiet move hdelivered
        fun hmove => hexits (congrArg Turn.world hmove)

theorem listens_run {s : Threads F} {executable : String} {schedule : List (Turn F)}
    (hsound : Threads.Sound executable s) (h : Listens d lines delivered s)
    (hquiet : ∀ line ∈ lines, (handleLine d line).crashes = false)
    (hdelivered : delivered ++ written schedule <+: lines.map some)
    (hexits : ∀ before after, schedule = before ++ .world .sidecarExits :: after →
      delivered ++ written before = lines.map some) :
    Listens d lines (delivered ++ written schedule) (s.run schedule) := by
  unfold Threads.run
  induction schedule generalizing s delivered with
  | nil =>
      rw [written, List.flatMap_nil, List.append_nil]
      exact h
  | cons turn schedule ih =>
      have hcons : delivered ++ written (turn :: schedule) =
          delivered ++ turn.written ++ written schedule := by
        rw [written, List.flatMap_cons, List.append_assoc, written]
      rw [hcons] at hdelivered ⊢
      have hturn := h.step hsound hquiet turn ((List.prefix_append _ _).trans hdelivered)
        fun hmove => by
          have hbefore := hexits [] schedule (by rw [hmove]; rfl)
          rwa [written, List.flatMap_nil, List.append_nil] at hbefore
      refine ih (hsound.step turn) hturn hdelivered fun before after hschedule => ?_
      have hbefore := hexits (turn :: before) after (by rw [hschedule]; rfl)
      rwa [written, List.flatMap_cons, ← List.append_assoc] at hbefore

theorem listens_begin {p : Pipeline F} (hp : Launched p) (hsidecar : p.sidecar = {})
    (lines : List String) : Listens p.detector lines [] (Threads.begin p) where
  same := ⟨rfl, rfl, rfl, rfl, rfl⟩
  process _ := hp.process
  requested h := by
    have hstop : p.detector.stopRequested = true := h
    cases hp.stopRequested.symm.trans hstop
  exited h := by
    have hexited : p.sidecar.exited = true := h
    rw [hsidecar] at hexited
    cases hexited
  hearing := by
    have hopening : Hearing p.detector lines p [] p.sidecar.stdout := .opening hp.reader rfl
    rwa [hsidecar] at hopening

/-- The reader has noted a part of what is written, in its order, and the end of the output
only when the collector has exited. -/
theorem Hearing.notes_prefix {p : Pipeline F} {notes : List Note}
    (h : Hearing d lines p notes delivered) (hdelivered : delivered <+: lines.map some) :
    notes <+: heard d lines ∨
      p.sidecar.exited = true ∧ notes <+: heard d lines ++ noteOfEnd (heard d lines) := by
  cases h with
  | opening hreader hnotes =>
      rw [hnotes]
      exact .inl List.nil_prefix
  | reading steps consumed hreader hwork hnotes =>
      have hconsumed : consumed <+: lines := by
        have hmap := (List.prefix_append _ _).trans hdelivered
        exact (List.prefix_map_iff_of_injective (Option.some_injective _)).mp hmap
      obtain ⟨rest, rfl⟩ := hconsumed
      refine .inl ((List.prefix_append notes (due steps)).trans ?_)
      rw [hnotes, heard_append]
      exact List.prefix_append _ _
  | closing hreader hexited hnotes =>
      rw [hnotes]
      exact .inl (List.prefix_refl _)
  | finishing steps hreader hexited hwork hnotes =>
      rw [← hnotes]
      exact .inr ⟨hexited, List.prefix_append _ _⟩
  | ended hreader hexited hnotes =>
      rw [← hnotes]
      exact .inr ⟨hexited, List.prefix_refl _⟩

/-! ## What the checks raise -/

/-- What a check has raised is the error behind the ready message, or the exit. -/
def Check.Blames (executable : String) (s : Threads F) (check : Check) : Prop :=
  ∀ e, check.raised = some e → ∃ d : CoreDetector F, d.executable = executable ∧
    ((∃ error, errorAfterReady s.notes = some error ∧ e = stoppedError d error) ∨
      s.pipeline.sidecar.exited = true ∧ e = exitedError d)

theorem exited_act {p : Pipeline F} (h : p.sidecar.exited = true) (move : Move F) :
    (p.act move).sidecar.exited = true := by
  fun_cases Pipeline.act p move with
  | case4 => exact (exited_readerRuns p).trans h
  | case3 => rfl
  | _ => exact h

/-- What is blamed stays what it is. -/
theorem Check.Blames.world {executable : String} {s : Threads F} {check : Check}
    (h : check.Blames executable s) (move : Move F) :
    check.Blames executable (s.step (.world move)) := by
  intro e he
  obtain ⟨d, hd, ⟨error, herror, heq⟩ | ⟨hexited, heq⟩⟩ := h e he
  · exact ⟨d, hd, .inl ⟨error, errorAfterReady_append herror _, heq⟩⟩
  · exact ⟨d, hd, .inr ⟨exited_act hexited move, heq⟩⟩

omit [PyRuntime F] in
theorem mainRuns_frame (s : Threads F) :
    s.mainRuns.notes = s.notes ∧ s.mainRuns.pipeline.sidecar = s.pipeline.sidecar := by
  fun_cases Threads.mainRuns s with
  | _ => exact ⟨rfl, rfl⟩

omit [PyRuntime F] in
theorem blames_finishCheck {executable : String} {s : Threads F} {recorded : Option String}
    {raised : Option PyException} (h : ∀ check ∈ s.checks, check.Blames executable s)
    (hcheck : Check.Blames executable s { recorded, raised }) :
    ∀ check ∈ (s.finishCheck recorded raised).checks,
      check.Blames executable (s.finishCheck recorded raised) :=
  List.forall_mem_append.mpr ⟨h, List.forall_mem_singleton.mpr hcheck⟩

omit [PyRuntime F] in
theorem blames_main {executable : String} {s : Threads F} (hsound : Threads.Sound executable s)
    (h : ∀ check ∈ s.checks, check.Blames executable s) :
    ∀ check ∈ s.mainRuns.checks, check.Blames executable s.mainRuns := by
  fun_cases Threads.mainRuns s with
  | case16 p recorded hpoint error herror =>
      refine blames_finishCheck h fun e he => ?_
      obtain rfl := Option.some.inj he
      obtain ⟨note, rest, hnotes, hstartup, hruntime⟩ :=
        hsound.head_of_found (congrArg Point.found hpoint)
      refine ⟨s.pipeline.detector, hsound.detector, .inl ⟨error, ?_, rfl⟩⟩
      rw [hnotes, note.eq_accepted hstartup]
      exact hruntime.symm.trans herror
  | case18 p recorded hpoint hexited =>
      refine blames_finishCheck h fun e he => ?_
      obtain rfl := Option.some.inj he
      simp only [Bool.and_eq_true] at hexited
      exact ⟨s.pipeline.detector, hsound.detector, .inr ⟨hexited.1.2, rfl⟩⟩
  | case19 p recorded hpoint hexited =>
      exact blames_finishCheck h fun e he => by cases he
  | _ => exact h

theorem blames_run {executable : String} {s : Threads F} (hsound : Threads.Sound executable s)
    (h : ∀ check ∈ s.checks, check.Blames executable s) (schedule : List (Turn F)) :
    ∀ check ∈ (s.run schedule).checks, check.Blames executable (s.run schedule) := by
  unfold Threads.run
  induction schedule generalizing s with
  | nil => exact h
  | cons turn schedule ih =>
      refine ih (hsound.step turn) ?_
      cases turn with
      | main => exact blames_main hsound h
      | world move => exact fun check hcheck => (h check hcheck).world move

/-! ## What the collector says -/

theorem heard_reports {config : Native.DetectorConfig} {enabled : Native.EpollVariant → Bool}
    (hexpects : Expects d config) {reports : List Native.Line}
    (hreports : ∀ line ∈ reports, line.isReport = true) :
    heard d (reports.map (Native.Line.text config enabled)) = [] := by
  refine List.flatMap_eq_nil_iff.mpr fun text htext => ?_
  obtain ⟨line, hline, rfl⟩ := List.mem_map.mp htext
  exact (noteOf_report hexpects (hreports line hline)).1

theorem heard_announced {config : Native.DetectorConfig} {enabled : Native.EpollVariant → Bool}
    (hexpects : Expects d config) (henabled : ∃ v, enabled v = true) {said : List Native.Line}
    (hsaid : Native.Announced said) :
    heard d (said.map (Native.Line.text config enabled)) = [.accepted] := by
  obtain ⟨reports, hreports, rfl⟩ := hsaid
  have hready : noteOf d (Native.Line.ready.text config enabled) = [.accepted] :=
    congrArg noteOfAction (handleLine_emitReady hexpects henabled)
  rw [List.map_cons, heard, List.flatMap_cons, hready]
  exact congrArg _ (heard_reports hexpects hreports)

theorem heard_fatal (d : CoreDetector F) {message : String}
    (h : ∀ c ∈ message.toList, Json.escapeChar c = [c]) :
    heard d [Native.emitFatal message] = [.failed message] := by
  rw [heard, List.flatMap_singleton, noteOf, handleLine_emitFatal d h]
  rfl

def pollingFailed : String :=
  "perf buffer polling failed"

/-- What the exit status of the loop adds to the ready message. -/
def noteOfStatus (status : ℕ) : List Note :=
  if status = 0 then [] else [.failed pollingFailed]

theorem heard_ended {config : Native.DetectorConfig} {enabled : Native.EpollVariant → Bool}
    (hexpects : Expects d config) (henabled : ∃ v, enabled v = true) {status : ℕ}
    {said : List Native.Line} (hsaid : Native.Ended status said) :
    heard d (said.map (Native.Line.text config enabled)) = .accepted :: noteOfStatus status := by
  rcases hsaid with ⟨rfl, hsaid⟩ | ⟨rfl, before, hsaid, rfl⟩
  · exact heard_announced hexpects henabled hsaid
  · have hfatal : heard d [Native.emitFatal pollingFailed] = [.failed pollingFailed] :=
      heard_fatal d (escapeChar_of_all (by decide +kernel))
    rw [List.map_append, heard_append, heard_announced hexpects henabled hsaid]
    exact congrArg _ hfatal

theorem said_of_spoken {c : Native.Collector} (h : c.Spoken) :
    c.lines = [] ∨ ∃ status, Native.Ended status c.lines := by
  unfold Native.Collector.Spoken at h
  split at h
  · exact .inl h
  · exact .inr ⟨_, h⟩
  · exact .inr ⟨_, h⟩
  · exact .inr ⟨_, h⟩
  · exact .inr ⟨0, .inl ⟨rfl, h⟩⟩

/-- The texts that the collector writes do not end the reader. -/
theorem crashes_of_ended {config : Native.DetectorConfig}
    {enabled : Native.EpollVariant → Bool} (hexpects : Expects d config)
    (henabled : ∃ v, enabled v = true) {status : ℕ} {said : List Native.Line}
    (hsaid : Native.Ended status said) :
    ∀ line ∈ said.map (Native.Line.text config enabled), (handleLine d line).crashes = false := by
  have hready : handleLine d (Native.Line.ready.text config enabled) = .ready :=
    handleLine_emitReady hexpects henabled
  have hannounced : ∀ said, Native.Announced said → ∀ line ∈ said,
      (handleLine d (line.text config enabled)).crashes = false := by
    rintro said ⟨reports, hreports, rfl⟩ line hline
    rcases List.mem_cons.mp hline with rfl | hline
    · rw [hready]
      rfl
    · exact (noteOf_report hexpects (hreports line hline)).2
  intro text htext
  obtain ⟨line, hline, rfl⟩ := List.mem_map.mp htext
  rcases hsaid with ⟨-, hsaid⟩ | ⟨-, before, hsaid, rfl⟩
  · exact hannounced said hsaid line hline
  · rcases List.mem_append.mp hline with hline | hline
    · exact hannounced before hsaid line hline
    · obtain rfl := List.mem_singleton.mp hline
      have hfatal : handleLine d (Native.emitFatal pollingFailed) = .setError pollingFailed :=
        handleLine_emitFatal d (escapeChar_of_all (by decide +kernel))
      change (handleLine d (Native.emitFatal pollingFailed)).crashes = false
      rw [hfatal]
      rfl

/-- What `main` has written. -/
def texts (s : Native.SetUp) (map : Bpf.CallbackStart) (queue : List Native.Pending)
    (turns : List Native.PollTurn) : List String :=
  match s with
  | .complete config enabled loader =>
      ((Native.SetUp.complete config enabled loader).stdout map queue turns).map
        (Native.Line.text config enabled)
  | _ => (s.stdout map queue turns).map (Native.Line.text {} fun _ => false)

theorem escapeChar_of_setUp {host : Native.Surroundings} {arguments : List String}
    {message : String} {loader : Native.Loader}
    (h : host.setUp arguments = .failed message loader) :
    ∀ c ∈ message.toList, Json.escapeChar c = [c] := by
  unfold Native.Surroundings.setUp at h
  split at h
  · cases h
  · split at h
    · obtain ⟨rfl, -⟩ := Native.SetUp.failed.inj h
      exact escapeChar_of_all (by decide +kernel)
    · split at h
      · obtain ⟨rfl, -⟩ := Native.SetUp.failed.inj h
        exact escapeChar_of_all (by decide +kernel)
      · split at h
        next loader' call hcalls =>
          obtain ⟨rfl, -⟩ := Native.SetUp.failed.inj h
          exact escapeChar_message call
        · cases h

/-- What a set-up that is complete has been given, and found. -/
theorem enabled_of_setUp {host : Native.Surroundings} {arguments : List String}
    {config : Native.DetectorConfig} {enabled : Native.EpollVariant → Bool}
    {loader : Native.Loader} (h : host.setUp arguments = .complete config enabled loader) :
    (∃ options, Native.parseOptions arguments = .ok options ∧ options.config = config) ∧
      ∃ v, enabled v = true := by
  unfold Native.Surroundings.setUp at h
  split at h
  · cases h
  next options hoptions =>
    split at h
    · cases h
    · split at h
      · cases h
      next hsome =>
        split at h
        · cases h
        · obtain ⟨hconfig, henabled, -⟩ := Native.SetUp.complete.inj h
          refine ⟨⟨options, hoptions, hconfig⟩, ?_⟩
          obtain ⟨v, hv⟩ := List.exists_mem_of_ne_nil _ hsome
          exact ⟨v, henabled ▸ (List.mem_filter.mp hv).2⟩

/-! ## What the parent makes of it -/

theorem exited_run {s : Threads F} {schedule : List (Turn F)}
    (h : (s.run schedule).pipeline.sidecar.exited = true) :
    s.pipeline.sidecar.exited = true ∨ .world .sidecarExits ∈ schedule := by
  unfold Threads.run at h
  induction schedule generalizing s with
  | nil => exact .inl h
  | cons turn schedule ih =>
      rcases ih h with hexited | hmem
      · cases turn with
        | main =>
            refine .inl ?_
            rw [← (mainRuns_frame s).2]
            exact hexited
        | world move =>
            change (s.pipeline.act move).sidecar.exited = true at hexited
            revert hexited
            fun_cases Pipeline.act s.pipeline move with
            | case3 => exact fun _ => .inr List.mem_cons_self
            | case4 =>
                intro hexited
                exact .inl ((exited_readerRuns s.pipeline).symm.trans hexited)
            | _ => exact .inl
      · exact .inr (List.mem_cons_of_mem _ hmem)

/-- What the reader has noted after any turns that carry what the collector writes. -/
theorem notes_run {p : Pipeline F} (hp : Launched p) (hsidecar : p.sidecar = {})
    {schedule : List (Turn F)} (hcarries : Carries lines schedule)
    (hquiet : ∀ line ∈ lines, (handleLine p.detector line).crashes = false) :
    ((Threads.begin p).run schedule).notes <+: heard p.detector lines ∨
      .world .sidecarExits ∈ schedule ∧
        ((Threads.begin p).run schedule).notes <+:
          heard p.detector lines ++ noteOfEnd (heard p.detector lines) := by
  have hlistens := listens_run (Threads.sound_begin hp) (listens_begin hp hsidecar lines) hquiet
    (by rw [List.nil_append]; exact hcarries.written)
    (fun before after hschedule => by
      rw [List.nil_append]
      exact hcarries.exits before after hschedule)
  rw [List.nil_append] at hlistens
  rcases hlistens.hearing.notes_prefix hcarries.written with hnotes | ⟨hexited, hnotes⟩
  · exact .inl hnotes
  · refine .inr ⟨?_, hnotes⟩
    rcases exited_run hexited with hbefore | hmem
    · have hrunning : p.sidecar.exited = true := hbefore
      rw [hsidecar] at hrunning
      cases hrunning
    · exact hmem

/-- What the parent makes of a collector that was set up in this way: it does not reject its
arguments, a message of its set-up is what `start` raises, `start` does not raise behind a
set-up that was complete, and the checks tell a poll that failed from an exit. -/
structure Relays (executable : String) (s : Threads F) (setUp : Native.SetUp)
    (exit : Option (ℕ × Native.Loader)) : Prop where
  accepted : ∀ status, setUp ≠ .rejected status
  failed : ∀ message loader, setUp = .failed message loader → s.point.startLeft = 0 →
    ∃ d : CoreDetector F, d.executable = executable ∧
      s.point = .startRaised (handshakeError d message)
  started : ∀ config enabled loader, setUp = .complete config enabled loader →
    ∀ e, s.point ≠ .startRaised e
  checked : ∀ check ∈ s.checks, ∀ e, check.raised = some e →
    ∃ d : CoreDetector F, d.executable = executable ∧
      (e = stoppedError d pollingFailed ∨ ∃ status loader, exit = some (status, loader) ∧
        (status = 0 ∧ e = stoppedError d "sidecar exited unexpectedly after ready" ∨
          e = exitedError d))

theorem notes_failed {p : Pipeline F} (hp : Launched p) (hsidecar : p.sidecar = {})
    {host : Native.Surroundings} {arguments : List String} {message : String}
    {loader : Native.Loader} (hsetUp : host.setUp arguments = .failed message loader)
    {map : Bpf.CallbackStart} {queue : List Native.Pending} {turns : List Native.PollTurn}
    {schedule : List (Turn F)}
    (hcarries : Carries (texts (host.setUp arguments) map queue turns) schedule) :
    ((Threads.begin p).run schedule).notes <+: [.failed message] := by
  have hescape := escapeChar_of_setUp hsetUp
  have hheard := heard_fatal p.detector hescape
  have htexts : texts (host.setUp arguments) map queue turns = [Native.emitFatal message] := by
    rw [hsetUp]
    rfl
  rw [htexts] at hcarries
  have hquiet : ∀ line ∈ [Native.emitFatal message],
      (handleLine p.detector line).crashes = false := by
    refine List.forall_mem_singleton.mpr ?_
    rw [handleLine_emitFatal p.detector hescape]
    rfl
  rcases notes_run hp hsidecar hcarries hquiet with hnotes | ⟨-, hnotes⟩
  · rwa [hheard] at hnotes
  · rw [hheard] at hnotes
    exact hnotes

theorem notes_complete {p : Pipeline F} (hp : Launched p) (hsidecar : p.sidecar = {})
    {config : Native.DetectorConfig} (hexpects : Expects p.detector config)
    {enabled : Native.EpollVariant → Bool} (henabled : ∃ v, enabled v = true)
    {loader : Native.Loader} {map : Bpf.CallbackStart} {queue : List Native.Pending}
    {turns : List Native.PollTurn} {schedule : List (Turn F)}
    (hcarries : Carries (texts (.complete config enabled loader) map queue turns) schedule)
    (hexit : .world .sidecarExits ∈ schedule →
      ((Native.SetUp.complete config enabled loader).exit map queue turns).isSome = true) :
    ((Threads.begin p).run schedule).notes <+: [.accepted, .failed pollingFailed] ∨
      (∃ loader', (Native.SetUp.complete config enabled loader).exit map queue turns =
        some (0, loader')) ∧
      ((Threads.begin p).run schedule).notes <+:
        [.accepted, .failed "sidecar exited unexpectedly after ready"] := by
  have hspoken : (Native.SetUp.poll config enabled map queue turns).Spoken :=
    Native.Collector.spoken_run (s := { map := map, queue := queue }) rfl turns
  have hends : ∀ status, noteOfStatus status <+: [Note.failed pollingFailed] := by
    intro status
    unfold noteOfStatus
    split
    · exact List.nil_prefix
    · exact List.prefix_refl _
  have hquiet : ∀ line ∈ texts (.complete config enabled loader) map queue turns,
      (handleLine p.detector line).crashes = false := by
    rcases said_of_spoken hspoken with hnothing | ⟨status, hended⟩
    · intro line hline
      change line ∈ (Native.SetUp.poll config enabled map queue turns).lines.map _ at hline
      rw [hnothing] at hline
      cases hline
    · exact crashes_of_ended hexpects henabled hended
  rcases notes_run hp hsidecar hcarries hquiet with hnotes | ⟨hmem, hnotes⟩
  · refine .inl (hnotes.trans ?_)
    change heard p.detector ((Native.SetUp.poll config enabled map queue turns).lines.map _) <+: _
    rcases said_of_spoken hspoken with hnothing | ⟨status, hended⟩
    · rw [hnothing]
      exact List.nil_prefix
    · rw [heard_ended hexpects henabled hended]
      exact List.cons_prefix_cons.mpr ⟨rfl, hends status⟩
  · have hsome := hexit hmem
    unfold Native.SetUp.exit at hsome
    dsimp only at hsome
    split at hsome
    next status hpoint =>
      unfold Native.Collector.Spoken at hspoken
      rw [hpoint] at hspoken
      have hheard := heard_ended hexpects henabled hspoken
      change _ <+: heard p.detector
        ((Native.SetUp.poll config enabled map queue turns).lines.map _) ++
          noteOfEnd (heard p.detector
            ((Native.SetUp.poll config enabled map queue turns).lines.map _)) at hnotes
      rw [hheard] at hnotes
      by_cases hstatus : status = 0
      · obtain rfl := hstatus
        refine .inr ⟨⟨loader.cleanup, ?_⟩, hnotes⟩
        unfold Native.SetUp.exit
        dsimp only
        rw [hpoint]
      · refine .inl ?_
        rw [noteOfStatus, if_neg hstatus] at hnotes
        exact hnotes
    · cases hsome

omit [PyRuntime F] in
/-- An error behind the ready message is the second note. -/
theorem errorAfterReady_of_prefix {notes : List Note} {error first : String}
    (h : notes <+: [.accepted, .failed first]) (herror : errorAfterReady notes = some error) :
    error = first := by
  obtain ⟨rest, hrest⟩ := h
  have hall := errorAfterReady_append herror rest
  rw [hrest] at hall
  exact (Option.some.inj hall).symm

omit [PyRuntime F] in
theorem not_startRaised_of_accepted {executable : String} {s : Threads F}
    (hsound : Threads.Sound executable s) {rest : List Note}
    (hnotes : s.notes <+: .accepted :: rest) (e : PyException) : s.point ≠ .startRaised e := by
  intro hpoint
  obtain ⟨_, error, _, _, hhead⟩ := hsound.startRaised e hpoint
  obtain ⟨more, hmore⟩ := List.head?_eq_some_iff.mp hhead
  rw [hmore] at hnotes
  cases (List.cons_prefix_cons.mp hnotes).1

omit [PyRuntime F] in
/-- A `start` that is over has seen a note. -/
theorem notes_ne_nil {executable : String} {s : Threads F} (hsound : Threads.Sound executable s)
    (hover : s.point.startLeft = 0) : s.notes ≠ [] := by
  intro hnotes
  have hfound : ∀ startupError, s.point.found ≠ some startupError := by
    intro startupError hpoint
    have hhead := hsound.found startupError hpoint
    rw [hnotes] at hhead
    cases hhead
  cases hpoint : s.point with
  | startRaised e =>
      obtain ⟨_, error, _, _, hhead⟩ := hsound.startRaised e hpoint
      rw [hnotes] at hhead
      cases hhead
  | between => exact hfound none (congrArg Point.found hpoint)
  | checking recorded => exact hfound none (congrArg Point.found hpoint)
  | polling recorded => exact hfound none (congrArg Point.found hpoint)
  | _ =>
      rw [hpoint] at hover
      cases hover

end

/-- A `start` that has launched the collector for the nested target. -/
def nestedPipeline : Pipeline ℚ :=
  { launchedPipeline with proc := nestedProc, detector := nestedLaunched }

/-- A machine where the object file is named, and the enter probe cannot be attached. -/
def unattached : Native.Surroundings :=
  { Native.halfAttached with
    view := { Native.halfAttached.view with getenv := fun _ => some "/core_blockdetect.bpf.o" } }

def unattachedMessage : String :=
  "could not attach an epoll enter tracepoint"

/-- The fatal message comes before the reader has opened the pipe. -/
def unattachedTurns : List (Turn ℚ) :=
  .main :: .world (.output (some (Native.emitFatal unattachedMessage))) ::
    List.replicate 4 (.world .readerRuns) ++ List.replicate 10 .main

end Blocksnoop.Cli
