import Blocksnoop.Support.Python

/-!
# The target of the command line

`_resolve_target` of `cli.py` and what `main` does with its result.  The parser has split
the command into its first word and the others, and dropped the separator before it; what
the words are is to tell a process from a command.
-/

namespace Blocksnoop.Cli

open Blocksnoop.Support

/-- The positional arguments of the parser. -/
structure ParsedTarget where
  target : Option String
  command : List String
  deriving Repr, DecidableEq

/-- How the parser splits the words behind the separator. -/
def splitWords (words : List String) : ParsedTarget where
  target := words.head?
  command := words.tail

/-- What `main` goes on with. -/
inductive TargetMode where
  | usageError
  | launched (command : List String)
  | attached (pid : ℤ)
  deriving Repr, DecidableEq

section

/-- `command[1:]` if the first word is the separator. -/
def stripSeparator (command : List String) : List String :=
  if command.head? = some "--" then command.tail else command

-- `int(text)`, which is `none` where it raises `ValueError`
variable (int : String → Option ℤ)

def resolveTarget (args : ParsedTarget) : Option ℤ × List String :=
  let command := stripSeparator args.command
  match args.target with
  | none => (none, command)
  | some target =>
      match int target with
      | some targetPid => (some targetPid, command)
      | none => (none, target :: command)

/-- A command is launched even when there is a process as well. -/
def targetMode : Option ℤ × List String → TargetMode
  | (none, []) => .usageError
  | (some targetPid, []) => .attached targetPid
  | (_, command) => .launched command

/-- The words are taken for the command, and launched as they are. -/
def LaunchedVerbatim (words : List String) : Prop :=
  resolveTarget int (splitWords words) = (none, words) ∧
    targetMode (resolveTarget int (splitWords words)) = .launched words

variable {int}

theorem resolveTarget_of_number {first : String} {targetPid : ℤ} (rest : List String)
    (h : int first = some targetPid) :
    resolveTarget int (splitWords (first :: rest)) = (some targetPid, stripSeparator rest) := by
  simp [resolveTarget, splitWords, h]

theorem resolveTarget_of_word {first : String} (rest : List String) (h : int first = none) :
    resolveTarget int (splitWords (first :: rest)) = (none, first :: stripSeparator rest) := by
  simp [resolveTarget, splitWords, h]

theorem stripSeparator_eq_self_iff (command : List String) :
    stripSeparator command = command ↔ command.head? ≠ some "--" := by
  unfold stripSeparator
  constructor
  · intro h hseparator
    rw [if_pos hseparator] at h
    cases command with
    | nil => cases hseparator
    | cons word rest =>
        have hlength := congrArg List.length h
        simp at hlength
  · intro h
    rw [if_neg h]

/-- A command is launched word for word exactly if its first word is not a number and its
second word is not a separator. -/
theorem launchedVerbatim_iff (int : String → Option ℤ) (first : String) (rest : List String) :
    LaunchedVerbatim int (first :: rest) ↔ int first = none ∧ rest.head? ≠ some "--" := by
  constructor
  · rintro ⟨hresolved, -⟩
    cases hint : int first with
    | some targetPid =>
        rw [resolveTarget_of_number rest hint] at hresolved
        cases hresolved
    | none =>
        rw [resolveTarget_of_word rest hint] at hresolved
        have hcommand := (List.cons.inj (Prod.mk.inj hresolved).2).2
        exact ⟨rfl, (stripSeparator_eq_self_iff rest).mp hcommand⟩
  · rintro ⟨hint, hseparator⟩
    have hresolved : resolveTarget int (splitWords (first :: rest)) = (none, first :: rest) := by
      rw [resolveTarget_of_word rest hint, (stripSeparator_eq_self_iff rest).mpr hseparator]
    refine ⟨hresolved, ?_⟩
    rw [hresolved]
    rfl

end

/-- `env -- python app.py` is launched without its separator, and the program `7` with an
argument is taken for a process and the argument for a program. -/
theorem exists_not_launchedVerbatim :
    ¬ LaunchedVerbatim (fun text => pyInt text.toList) ["env", "--", "python", "app.py"] ∧
      targetMode (resolveTarget (fun text => pyInt text.toList)
        (splitWords ["env", "--", "python", "app.py"])) =
          .launched ["env", "python", "app.py"] ∧
      ¬ LaunchedVerbatim (fun text => pyInt text.toList) ["7", "app.py"] ∧
      targetMode (resolveTarget (fun text => pyInt text.toList)
        (splitWords ["7", "app.py"])) = .launched ["app.py"] := by
  refine ⟨?_, by decide, ?_, by decide⟩
  · rintro ⟨hresolved, -⟩
    exact absurd hresolved (by decide)
  · rintro ⟨hresolved, -⟩
    exact absurd hresolved (by decide)

end Blocksnoop.Cli
