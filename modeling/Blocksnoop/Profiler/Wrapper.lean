import Blocksnoop.Profiler.Sampler
import Blocksnoop.Support.Shell
import Mathlib.Data.Bool.AllAny

/-!
# The wrapper script

What `_create_nsenter_wrapper` writes, and what the shell does with it.  The script opens
Austin, and the linker if there is one, and makes way for `nsenter` with the arguments that
it was given itself.  Whatever characters the two paths hold, they name the files that are
opened and add nothing to the commands.
-/

namespace Blocksnoop

open Blocksnoop.Support

namespace AustinSampler

/-- `shlex.quote` -/
def shlexQuote (s : String) : String :=
  String.ofList (Shell.quote s)

/-- The text of the script. -/
def wrapperScript (austinPath : String) (muslLinker : Option String) (pid : ℤ) : String :=
  let lines := ["#!/bin/sh", "exec 3<" ++ shlexQuote austinPath]
  let (lines, austinInvocation) :=
    match muslLinker with
    | some linker =>
        (lines ++ ["exec 4<" ++ shlexQuote linker], "/proc/self/fd/4 /proc/self/fd/3")
    | none => (lines, "/proc/self/fd/3")
  let lines := lines ++
    ["exec setsid nsenter -m -p -t " ++ shlexQuote (strInt pid) ++ " -- " ++ austinInvocation ++
      " \"$@\""]
  "\n".intercalate lines ++ "\n"

/-! ## The tokens of the script -/

/-- The words of the last command before the process and behind it. -/
def enterWords : List (List Char) :=
  ["exec".toList, "setsid".toList, "nsenter".toList, "-m".toList, "-p".toList, "-t".toList]

def invocationWords (muslLinker : Option String) : List (List Char) :=
  "--".toList ::
    match muslLinker with
    | some _ => ["/proc/self/fd/4".toList, "/proc/self/fd/3".toList]
    | none => ["/proc/self/fd/3".toList]

/-- A line that opens a file. -/
def openLine (digit : Char) (path : String) : List Char :=
  "exec ".toList ++ ([digit, '<'] ++ (Shell.quote path ++ ['\n']))

def openTokens (digit : Char) (path : Shell.Word) : List Shell.Token :=
  [.word ("exec".toList.map .bare), .input (digit.toNat - '0'.toNat), .word path, .newline]

theorem plain_of_all {words : List (List Char)}
    (h : words.all (fun word => word ≠ [] && word.all Shell.isPlain) = true) :
    ∀ word ∈ words, word ≠ [] ∧ ∀ c ∈ word, Shell.isPlain c = true := by
  intro word hword
  have hplain := List.all_eq_true.mp h word hword
  rwa [Bool.and_eq_true, decide_eq_true_eq, List.all_eq_true] at hplain

theorem tokens_openLine {digit : Char} (hdigit : digit.isDigit = true) {path : String}
    {atoms : Shell.Word} (hpath : Shell.ReadsAs (Shell.quote path) atoms) :
    Shell.Tokens (openLine digit path) (openTokens digit atoms) := by
  have hexec : Shell.Tokens "exec ".toList [.word ("exec".toList.map .bare)] :=
    (show Shell.ReadsAs "exec".toList _ from
      Shell.readsAs_plain (by decide) (List.all_iff_forall_prop.mp rfl)).blank
  exact hexec.append ((Shell.tokens_input hdigit).append hpath.newline)

/-- The last line, with the words that stand for the process. -/
def enterLine (muslLinker : Option String) (pid : ℤ) : List Char :=
  enterWords.flatMap (· ++ [' ']) ++ ((Shell.quote (strInt pid) ++ [' ']) ++
    ((invocationWords muslLinker).flatMap (· ++ [' ']) ++ ['"', '$', '@', '"', '\n']))

def enterTokens (muslLinker : Option String) (pid : Shell.Word) : List Shell.Token :=
  enterWords.map (fun word => .word (word.map .bare)) ++ ([.word pid] ++
    ((invocationWords muslLinker).map (fun word => .word (word.map .bare)) ++
      [.word [.arguments], .newline]))

theorem tokens_enterLine (muslLinker : Option String) {pid : ℤ} {atoms : Shell.Word}
    (hpid : Shell.ReadsAs (Shell.quote (strInt pid)) atoms) :
    Shell.Tokens (enterLine muslLinker pid) (enterTokens muslLinker atoms) := by
  have henter : Shell.Tokens (enterWords.flatMap (· ++ [' ']))
      (enterWords.map fun word => .word (word.map .bare)) :=
    Shell.tokens_words (plain_of_all rfl)
  have hinvocation : Shell.Tokens ((invocationWords muslLinker).flatMap (· ++ [' ']))
      ((invocationWords muslLinker).map fun word => .word (word.map .bare)) := by
    apply Shell.tokens_words
    cases muslLinker <;> exact plain_of_all rfl
  exact henter.append (hpid.blank.append (hinvocation.append Shell.tokens_arguments))

theorem toList_wrapperScript (austinPath : String) (muslLinker : Option String) (pid : ℤ) :
    (wrapperScript austinPath muslLinker pid).toList =
      "#!/bin/sh\n".toList ++ (openLine '3' austinPath ++
        ((muslLinker.map (openLine '4')).getD [] ++ enterLine muslLinker pid)) := by
  cases muslLinker with
  | none =>
      simp [wrapperScript, shlexQuote, openLine, enterLine, enterWords, invocationWords]
  | some linker =>
      simp [wrapperScript, shlexQuote, openLine, enterLine, enterWords, invocationWords]

/-! ## The outcome of the script -/

def openCommand (digit : Char) (path : Shell.Word) : Shell.Command where
  words := ["exec".toList.map .bare]
  inputs := [(digit.toNat - '0'.toNat, path)]

def enterCommand (muslLinker : Option String) (pid : Shell.Word) : Shell.Command where
  words := enterWords.map (fun word => word.map .bare) ++ ([pid] ++
    ((invocationWords muslLinker).map (fun word => word.map .bare) ++ [[.arguments]]))

/-- The command by which `nsenter` runs Austin in the namespaces of a process. -/
def nsenterCommand (muslLinker : Option String) (pid : ℤ) : List String :=
  ["setsid", "nsenter", "-m", "-p", "-t", strInt pid, "--"] ++
    (if muslLinker.isSome then ["/proc/self/fd/4"] else []) ++ ["/proc/self/fd/3"]

theorem expandAll_enter (host : Shell.Host) (muslLinker : Option String) {pid : ℤ}
    {atoms : Shell.Word} (htext : Shell.text atoms = some (strInt pid))
    (hne : atoms ≠ [.arguments]) :
    host.expandAll ((enterCommand muslLinker atoms).words.tail) =
      some (nsenterCommand muslLinker pid ++ host.arguments) := by
  have hpid : host.expandAll [atoms] = some [strInt pid] := by
    simp [Shell.Host.expandAll, Shell.Host.expand_of_text htext hne]
  have henter : host.expandAll (enterWords.tail.map fun word => word.map .bare) =
      some (enterWords.tail.map String.ofList) := Shell.Host.expandAll_bare _
  have hwords := Shell.Host.expandAll_append henter
    (Shell.Host.expandAll_append hpid (Shell.Host.expandAll_append
      (Shell.Host.expandAll_bare (invocationWords muslLinker)) Shell.Host.expandAll_arguments))
  refine hwords.trans ?_
  cases muslLinker <;> simp [nsenterCommand, enterWords, invocationWords]

theorem runCommands_open (host : Shell.Host) (digit : Char) {path : String} {atoms : Shell.Word}
    (htext : Shell.text atoms = some path) (files : List (ℕ × String))
    (rest : List Shell.Command) :
    host.runCommands files (openCommand digit atoms :: rest) =
      if host.openable path then
        host.runCommands
          (files.filter (·.1 ≠ digit.toNat - '0'.toNat) ++ [(digit.toNat - '0'.toNat, path)]) rest
      else some (.stopped path) := by
  have hexec : Shell.text ("exec".toList.map .bare) = some "exec" := by decide
  simp only [Shell.Host.runCommands, openCommand]
  rw [if_pos hexec]
  by_cases hopen : host.openable path = true
  · simp [Shell.Host.openInputs, htext, hopen]
  · simp [Shell.Host.openInputs, htext, hopen]

theorem runCommands_enter (host : Shell.Host) (muslLinker : Option String) {pid : ℤ}
    {atoms : Shell.Word} (htext : Shell.text atoms = some (strInt pid))
    (hne : atoms ≠ [.arguments]) (files : List (ℕ × String)) (rest : List Shell.Command) :
    host.runCommands files (enterCommand muslLinker atoms :: rest) =
      some (.replaced (nsenterCommand muslLinker pid ++ host.arguments) files) := by
  have hexpand := expandAll_enter host muslLinker htext hne
  have hexec : Shell.text ("exec".toList.map .bare) = some "exec" := by decide
  have hwords : (enterCommand muslLinker atoms).words =
      "exec".toList.map .bare :: (enterCommand muslLinker atoms).words.tail := rfl
  have hmore : (enterCommand muslLinker atoms).words.tail ≠ [] := by
    simp [enterCommand, enterWords]
  have hinputs : (enterCommand muslLinker atoms).inputs = [] := rfl
  rw [Shell.Host.runCommands, hwords]
  simp only [hexec, if_true, hinputs, Shell.Host.openInputs, if_neg hmore, hexpand]
  rfl

/-- What the script comes to. -/
def wrapperOutcome (host : Shell.Host) (austinPath : String) (muslLinker : Option String)
    (pid : ℤ) : Shell.Outcome :=
  if host.openable austinPath then
    match muslLinker with
    | none => .replaced (nsenterCommand none pid ++ host.arguments) [(3, austinPath)]
    | some linker =>
        if host.openable linker then
          .replaced (nsenterCommand (some linker) pid ++ host.arguments)
            [(3, austinPath), (4, linker)]
        else .stopped linker
  else .stopped austinPath

/-- The shell makes way for `nsenter`, with the arguments of the wrapper behind its own and
with the two files open under the descriptors that the arguments name, or it stops at the
file that cannot be opened; whatever the paths are. -/
theorem wrapperScript_run (host : Shell.Host) (austinPath : String) (muslLinker : Option String)
    (pid : ℤ) :
    host.run (wrapperScript austinPath muslLinker pid) =
      some (wrapperOutcome host austinPath muslLinker pid) := by
  have hshebang : Shell.Tokens "#!/bin/sh\n".toList [.newline] :=
    show Shell.Tokens ('#' :: ("!/bin/sh".toList ++ ['\n'])) _ from
      Shell.tokens_comment (by decide)
  obtain ⟨austin, haustin, haustinText, -⟩ := Shell.reads_quote austinPath
  obtain ⟨process, hprocess, hprocessText, hprocessNe⟩ := Shell.reads_quote (strInt pid)
  have hopen : Shell.Tokens (openLine '3' austinPath) (openTokens '3' austin) :=
    tokens_openLine (by decide) haustin
  have henter := tokens_enterLine muslLinker hprocess
  have hempty (files : List (ℕ × String)) (rest : List Shell.Command) :
      host.runCommands files ({} :: rest) = host.runCommands files rest := by
    simp [Shell.Host.runCommands]
  unfold wrapperOutcome
  cases muslLinker with
  | none =>
      have htokens := (hshebang.append (hopen.append henter)).lex_eq
      have hscript := toList_wrapperScript austinPath none pid
      rw [Option.map_none, Option.getD_none, List.nil_append] at hscript
      rw [← hscript] at htokens
      have hparse : Shell.parse {} ([.newline] ++ (openTokens '3' austin ++
          enterTokens none process)) =
            some [{}, openCommand '3' austin, enterCommand none process, {}] := rfl
      rw [Shell.Host.run_eq htokens hparse, hempty, runCommands_open host '3' haustinText,
        runCommands_enter host none hprocessText hprocessNe]
      split <;> rfl
  | some linker =>
      obtain ⟨musl, hmusl, hmuslText, -⟩ := Shell.reads_quote linker
      have hopenMusl : Shell.Tokens (openLine '4' linker) (openTokens '4' musl) :=
        tokens_openLine (by decide) hmusl
      have htokens := (hshebang.append (hopen.append (hopenMusl.append henter))).lex_eq
      have hscript := toList_wrapperScript austinPath (some linker) pid
      rw [Option.map_some, Option.getD_some] at hscript
      rw [← hscript] at htokens
      have hparse : Shell.parse {} ([.newline] ++ (openTokens '3' austin ++
          (openTokens '4' musl ++ enterTokens (some linker) process))) =
            some [{}, openCommand '3' austin, openCommand '4' musl,
              enterCommand (some linker) process, {}] := rfl
      rw [Shell.Host.run_eq htokens hparse, hempty, runCommands_open host '3' haustinText,
        runCommands_open host '4' hmuslText,
        runCommands_enter host (some linker) hprocessText hprocessNe]
      split
      · by_cases hlinker : host.openable linker = true
        · simp [hlinker]
        · simp [hlinker]
      · rfl

end AustinSampler

end Blocksnoop
