import Mathlib.Data.List.Basic
import Mathlib.Tactic

/-!
# Simple commands of the shell

The part of the POSIX shell language that consists of words, quotes, `"$@"`, comments and
input redirections, with the one command `exec`.  Whatever else a script may hold is outside
this part: it has no tokens, or no outcome, here.

`quote` is `shlex.quote` of Python.  `reads_quote` says that the shell reads a quoted text
as one word, which is the text.
-/

namespace Blocksnoop.Support

namespace Shell

/-! ## Words -/

/-- A piece of a word: a character by itself or inside quotes, or `"$@"`. -/
inductive Atom where
  | bare (c : Char)
  | quoted (c : Char)
  | arguments
  deriving Repr, DecidableEq

abbrev Word := List Atom

inductive Token where
  | word (atoms : Word)
  /-- `n<` -/
  | input (descriptor : ℕ)
  | newline
  deriving Repr, DecidableEq

/-- Where the reader of a script stands, with the word that it has begun. -/
inductive Mode where
  | between
  | comment
  | bare (begun : Word)
  | single (begun : Word)
  | double (begun : Word)
  deriving Repr, DecidableEq

/-- A character that means itself wherever it stands in a word. -/
def isPlain (c : Char) : Bool :=
  c.isAlphanum || c == '_' || c == '@' || c == '%' || c == '+' || c == '=' || c == ':' ||
    c == ',' || c == '.' || c == '/' || c == '-'

/-- The characters by which a word ends. -/
def isDelimiter (c : Char) : Bool :=
  c == ' ' || c == '\t' || c == '\n'

/-- The number of a descriptor before `<`, if a word is one. -/
def descriptorOf (begun : Word) : Option ℕ :=
  if begun = [] then none
  else
    begun.foldl (fun n atom =>
      match n, atom with
      | some n, .bare c => if c.isDigit then some (10 * n + (c.toNat - '0'.toNat)) else none
      | _, _ => none) (some 0)

/-- The tokens of a script; `none` where it has anything else. -/
def lex : Mode → List Char → Option (List Token)
  | .between, [] => some []
  | .comment, [] => some []
  | .bare begun, [] => some [.word begun]
  | .single _, [] => none
  | .double _, [] => none
  | .between, c :: cs =>
      if c = '\n' then (lex .between cs).map (.newline :: ·)
      else if isDelimiter c then lex .between cs
      else if c = '#' then lex .comment cs
      else if c = '\'' then lex (.single []) cs
      else if c = '"' then lex (.double []) cs
      else if c = '<' then (lex .between cs).map (.input 0 :: ·)
      else if isPlain c then lex (.bare [.bare c]) cs
      else none
  | .comment, c :: cs =>
      if c = '\n' then (lex .between cs).map (.newline :: ·) else lex .comment cs
  | .bare begun, c :: cs =>
      if c = '\n' then (lex .between cs).map fun tokens => .word begun :: .newline :: tokens
      else if isDelimiter c then (lex .between cs).map (.word begun :: ·)
      else if c = '\'' then lex (.single begun) cs
      else if c = '"' then lex (.double begun) cs
      else if c = '<' then
        match descriptorOf begun with
        | some n => (lex .between cs).map (.input n :: ·)
        | none => (lex .between cs).map fun tokens => .word begun :: .input 0 :: tokens
      else if isPlain c then lex (.bare (begun ++ [.bare c])) cs
      else none
  | .single begun, c :: cs =>
      if c = '\'' then lex (.bare begun) cs else lex (.single (begun ++ [.quoted c])) cs
  | .double begun, '$' :: '@' :: cs => lex (.double (begun ++ [.arguments])) cs
  | .double begun, c :: cs =>
      if c = '"' then lex (.bare begun) cs
      else if c = '$' ∨ c = '\\' ∨ c = Char.ofNat 0x60 then none
      else lex (.double (begun ++ [.quoted c])) cs

section

variable (c : Char) (cs : List Char) (begun : Word)

@[simp] theorem lex_between_nil : lex .between [] = some [] := rfl

@[simp] theorem lex_between_cons : lex .between (c :: cs) =
    if c = '\n' then (lex .between cs).map (.newline :: ·)
    else if isDelimiter c then lex .between cs
    else if c = '#' then lex .comment cs
    else if c = '\'' then lex (.single []) cs
    else if c = '"' then lex (.double []) cs
    else if c = '<' then (lex .between cs).map (.input 0 :: ·)
    else if isPlain c then lex (.bare [.bare c]) cs
    else none :=
  rfl

@[simp] theorem lex_comment_cons : lex .comment (c :: cs) =
    if c = '\n' then (lex .between cs).map (.newline :: ·) else lex .comment cs :=
  rfl

@[simp] theorem lex_bare_cons : lex (.bare begun) (c :: cs) =
    if c = '\n' then (lex .between cs).map fun tokens => .word begun :: .newline :: tokens
    else if isDelimiter c then (lex .between cs).map (.word begun :: ·)
    else if c = '\'' then lex (.single begun) cs
    else if c = '"' then lex (.double begun) cs
    else if c = '<' then
      match descriptorOf begun with
      | some n => (lex .between cs).map (.input n :: ·)
      | none => (lex .between cs).map fun tokens => .word begun :: .input 0 :: tokens
    else if isPlain c then lex (.bare (begun ++ [.bare c])) cs
    else none :=
  rfl

@[simp] theorem lex_single_cons : lex (.single begun) (c :: cs) =
    if c = '\'' then lex (.bare begun) cs else lex (.single (begun ++ [.quoted c])) cs :=
  rfl

@[simp] theorem lex_double_arguments :
    lex (.double begun) ('$' :: '@' :: cs) = lex (.double (begun ++ [.arguments])) cs :=
  rfl

@[simp] theorem lex_double_end : lex (.double begun) ('"' :: cs) = lex (.bare begun) cs :=
  rfl

@[simp] theorem lex_double_single :
    lex (.double begun) ('\'' :: cs) = lex (.double (begun ++ [.quoted '\''])) cs :=
  rfl

end

/-! ## Commands -/

structure Command where
  words : List Word := []
  inputs : List (ℕ × Word) := []
  deriving Repr, DecidableEq

def parse : Command → List Token → Option (List Command)
  | command, [] => some [command]
  | command, .newline :: tokens => (parse {} tokens).map (command :: ·)
  | command, .word atoms :: tokens =>
      parse { command with words := command.words ++ [atoms] } tokens
  | command, .input n :: .word atoms :: tokens =>
      parse { command with inputs := command.inputs ++ [(n, atoms)] } tokens
  | _, .input _ :: _ => none

def Atom.char : Atom → Option Char
  | .bare c => some c
  | .quoted c => some c
  | .arguments => none

/-- The text of a word without `"$@"`. -/
def text (atoms : Word) : Option String :=
  (atoms.mapM Atom.char).map String.ofList

/-! ## Running a script -/

/-- The positional parameters of a script, and the files that can be opened. -/
structure Host where
  arguments : List String
  openable : String → Bool

/-- How a script ends: it has made way for a program with these arguments and open files, it
has stopped because a file cannot be opened, or it has come to its end. -/
inductive Outcome where
  | replaced (argv : List String) (files : List (ℕ × String))
  | stopped (path : String)
  | finished (files : List (ℕ × String))
  deriving Repr, DecidableEq

namespace Host

variable (host : Host)

/-- The arguments that a word stands for. -/
def expand (atoms : Word) : Option (List String) :=
  if atoms = [.arguments] then some host.arguments
  else (text atoms).map fun s => [s]

def expandAll : List Word → Option (List String)
  | [] => some []
  | atoms :: rest => do
      let first ← host.expand atoms
      let others ← expandAll rest
      return first ++ others

/-- The redirections of a command: the open files afterwards, or the file that cannot be
opened. -/
def openInputs (files : List (ℕ × String)) :
    List (ℕ × Word) → Option (Except String (List (ℕ × String)))
  | [] => some (.ok files)
  | (n, atoms) :: rest => do
      let path ← text atoms
      if host.openable path then openInputs (files.filter (·.1 ≠ n) ++ [(n, path)]) rest
      else return .error path

/-- The commands of a script: empty ones, and `exec`, by itself or with a program. -/
def runCommands (files : List (ℕ × String)) : List Command → Option Outcome
  | [] => some (.finished files)
  | command :: rest =>
      match command.words with
      | [] => if command.inputs = [] then runCommands files rest else none
      | name :: words =>
          if text name = some "exec" then do
            match ← host.openInputs files command.inputs with
            | .error path => return .stopped path
            | .ok files =>
                if words = [] then runCommands files rest
                else return .replaced (← host.expandAll words) files
          else none

/-- The outcome of a script; `none` if it goes beyond the language here. -/
def run (script : String) : Option Outcome := do
  let tokens ← lex .between script.toList
  let commands ← parse {} tokens
  host.runCommands [] commands

end Host

/-! ## Quoting -/

def quoteChar (c : Char) : List Char :=
  if c = '\'' then ['\'', '"', '\'', '"', '\''] else [c]

/-- `shlex.quote` -/
def quote (s : String) : List Char :=
  if s = "" then ['\'', '\'']
  else if s.toList.all isPlain then s.toList
  else '\'' :: (s.toList.flatMap quoteChar ++ ['\''])

/-- Before a delimiter, a chunk of a script is read as this word. -/
def ReadsAs (chunk : List Char) (atoms : Word) : Prop :=
  ∀ d rest, isDelimiter d = true →
    lex .between (chunk ++ d :: rest) = (lex .between (d :: rest)).map (.word atoms :: ·)

theorem not_special_of_isPlain {c : Char} (hc : isPlain c = true) :
    c ≠ '\n' ∧ isDelimiter c = false ∧ c ≠ '#' ∧ c ≠ '\'' ∧ c ≠ '"' ∧ c ≠ '<' := by
  refine ⟨?_, ?_, ?_, ?_, ?_, ?_⟩
  · rintro rfl; exact absurd hc (by decide)
  · by_contra hd
    simp only [isDelimiter, Bool.not_eq_false, Bool.or_eq_true, beq_iff_eq] at hd
    rcases hd with (rfl | rfl) | rfl <;> exact absurd hc (by decide)
  · rintro rfl; exact absurd hc (by decide)
  · rintro rfl; exact absurd hc (by decide)
  · rintro rfl; exact absurd hc (by decide)
  · rintro rfl; exact absurd hc (by decide)

theorem lex_bare_delimiter {d : Char} (hd : isDelimiter d = true) (begun : Word)
    (rest : List Char) :
    lex (.bare begun) (d :: rest) = (lex .between (d :: rest)).map (.word begun :: ·) := by
  by_cases hnewline : d = '\n'
  · subst hnewline
    cases h : lex .between rest <;> simp [h]
  · simp [hnewline, hd]

theorem lex_bare_plain {cs : List Char} (hcs : ∀ c ∈ cs, isPlain c = true) (begun : Word)
    (rest : List Char) :
    lex (.bare begun) (cs ++ rest) = lex (.bare (begun ++ cs.map .bare)) rest := by
  induction cs generalizing begun with
  | nil => simp
  | cons c cs ih =>
      have hplain := hcs c List.mem_cons_self
      obtain ⟨hnewline, hdelimiter, -, hsingle, hdouble, hless⟩ := not_special_of_isPlain hplain
      rw [List.cons_append, lex_bare_cons, if_neg hnewline, if_neg (by simp [hdelimiter]),
        if_neg hsingle, if_neg hdouble, if_neg hless, if_pos hplain,
        ih (fun d hd => hcs d (List.mem_cons_of_mem _ hd))]
      simp

/-- A run of plain characters is a word. -/
theorem readsAs_plain {cs : List Char} (hne : cs ≠ []) (hcs : ∀ c ∈ cs, isPlain c = true) :
    ReadsAs cs (cs.map .bare) := by
  intro d rest hd
  cases cs with
  | nil => exact absurd rfl hne
  | cons c cs =>
      have hplain := hcs c List.mem_cons_self
      obtain ⟨hnewline, hdelimiter, hcomment, hsingle, hdouble, hless⟩ :=
        not_special_of_isPlain hplain
      rw [List.cons_append, lex_between_cons, if_neg hnewline, if_neg (by simp [hdelimiter]),
        if_neg hcomment, if_neg hsingle, if_neg hdouble, if_neg hless, if_pos hplain,
        lex_bare_plain (fun d hd => hcs d (List.mem_cons_of_mem _ hd)), lex_bare_delimiter hd]
      rfl

/-- Inside single quotes every character means itself; a single quote leaves them for a
moment. -/
theorem lex_single_quoteChar (cs : List Char) (begun : Word) (rest : List Char) :
    lex (.single begun) (cs.flatMap quoteChar ++ rest) =
      lex (.single (begun ++ cs.map .quoted)) rest := by
  induction cs generalizing begun with
  | nil => simp
  | cons c cs ih =>
      rw [List.flatMap_cons, List.append_assoc, quoteChar]
      by_cases hc : c = '\''
      · subst hc
        have hstep : lex (.single begun)
            (['\'', '"', '\'', '"', '\''] ++ (cs.flatMap quoteChar ++ rest)) =
              lex (.single (begun ++ [.quoted '\''])) (cs.flatMap quoteChar ++ rest) := by
          simp [isDelimiter]
        rw [if_pos rfl, hstep, ih]
        simp
      · rw [if_neg hc, List.singleton_append, lex_single_cons, if_neg hc, ih]
        simp

theorem text_map {f : Char → Atom} (hf : ∀ c, (f c).char = some c) (cs : List Char) :
    text (cs.map f) = some (String.ofList cs) := by
  have hmapM : (cs.map f).mapM Atom.char = some cs := by
    induction cs with
    | nil => rfl
    | cons c cs ih => rw [List.map_cons, List.mapM_cons, hf, ih]; rfl
  rw [text, hmapM]
  rfl

/-- The shell reads a quoted text as one word, which is the text. -/
theorem reads_quote (s : String) :
    ∃ atoms, ReadsAs (quote s) atoms ∧ text atoms = some s ∧ atoms ≠ [.arguments] := by
  unfold quote
  split
  next hempty =>
    refine ⟨[], ?_, by rw [hempty]; rfl, by simp⟩
    intro d rest hd
    have hstep : lex .between (['\'', '\''] ++ d :: rest) = lex (.bare []) (d :: rest) := by
      simp [isDelimiter]
    rw [hstep, lex_bare_delimiter hd]
  next hne =>
    split
    next hplain =>
      refine ⟨s.toList.map .bare, readsAs_plain ?_ (List.all_eq_true.mp hplain), ?_, ?_⟩
      · exact fun hnil => hne (String.toList_eq_nil_iff.mp hnil)
      · rw [text_map fun _ => rfl, String.ofList_toList]
      · cases s.toList <;> simp
    next hspecial =>
      refine ⟨s.toList.map .quoted, ?_, ?_, ?_⟩
      · intro d rest hd
        have hopen : lex .between
            ('\'' :: (s.toList.flatMap quoteChar ++ ['\'']) ++ d :: rest) =
              lex (.single []) (s.toList.flatMap quoteChar ++ ('\'' :: d :: rest)) := by
          simp [isDelimiter]
        have hclose (begun : Word) :
            lex (.single begun) ('\'' :: d :: rest) = lex (.bare begun) (d :: rest) := by
          simp
        rw [hopen, lex_single_quoteChar, List.nil_append, hclose, lex_bare_delimiter hd]
      · rw [text_map fun _ => rfl, String.ofList_toList]
      · cases s.toList <;> simp

/-! ## Scripts in pieces -/

/-- A chunk of a script that ends between two words has these tokens. -/
def Tokens (chunk : List Char) (tokens : List Token) : Prop :=
  ∀ rest, lex .between (chunk ++ rest) = (lex .between rest).map (tokens ++ ·)

theorem Tokens.append {first second : List Char} {tokens others : List Token}
    (hfirst : Tokens first tokens) (hsecond : Tokens second others) :
    Tokens (first ++ second) (tokens ++ others) := by
  intro rest
  rw [List.append_assoc, hfirst, hsecond, Option.map_map]
  simp [Function.comp_def]

theorem Tokens.lex_eq {script : List Char} {tokens : List Token} (h : Tokens script tokens) :
    lex .between script = some tokens := by
  simpa using h []

/-- A comment line. -/
theorem tokens_comment {cs : List Char} (hcs : '\n' ∉ cs) :
    Tokens ('#' :: (cs ++ ['\n'])) [.newline] := by
  intro rest
  have hcomment : lex .comment (cs ++ '\n' :: rest) = (lex .between rest).map (.newline :: ·) := by
    induction cs with
    | nil => simp
    | cons c cs ih =>
        simp only [List.mem_cons, not_or] at hcs
        rw [List.cons_append, lex_comment_cons, if_neg (Ne.symm hcs.1), ih hcs.2]
  have hopen : lex .between ('#' :: (cs ++ ['\n']) ++ rest) =
      lex .comment (cs ++ '\n' :: rest) := by
    simp [isDelimiter]
  rw [hopen, hcomment]
  rfl

theorem ReadsAs.blank {chunk : List Char} {atoms : Word} (h : ReadsAs chunk atoms) :
    Tokens (chunk ++ [' ']) [.word atoms] := by
  intro rest
  have hblank : lex .between (' ' :: rest) = lex .between rest := by simp [isDelimiter]
  rw [List.append_assoc, List.singleton_append, h ' ' rest (by decide), hblank]
  rfl

theorem ReadsAs.newline {chunk : List Char} {atoms : Word} (h : ReadsAs chunk atoms) :
    Tokens (chunk ++ ['\n']) [.word atoms, .newline] := by
  intro rest
  have hline : lex .between ('\n' :: rest) = (lex .between rest).map (.newline :: ·) := by
    simp
  rw [List.append_assoc, List.singleton_append, h '\n' rest (by decide), hline, Option.map_map]
  rfl

/-- The beginning of a redirection, with a descriptor of one digit. -/
theorem tokens_input {c : Char} (hc : c.isDigit = true) :
    Tokens [c, '<'] [.input (c.toNat - '0'.toNat)] := by
  intro rest
  have hplain : isPlain c = true := by simp [isPlain, Char.isAlphanum, hc]
  obtain ⟨hnewline, hdelimiter, hcomment, hsingle, hdouble, hless⟩ := not_special_of_isPlain hplain
  have hbegun : lex .between ([c, '<'] ++ rest) = lex (.bare [.bare c]) ('<' :: rest) := by
    simp [hnewline, hdelimiter, hcomment, hsingle, hdouble, hless, hplain]
  have hdescriptor : descriptorOf [.bare c] = some (c.toNat - '0'.toNat) := by
    simp [descriptorOf, hc]
  rw [hbegun, lex_bare_cons]
  simp [isDelimiter, hdescriptor]

theorem tokens_arguments : Tokens ['"', '$', '@', '"', '\n'] [.word [.arguments], .newline] := by
  intro rest
  cases h : lex .between rest <;> simp [isDelimiter, h]

/-- Plain words, each with a blank behind it. -/
theorem tokens_words {words : List (List Char)}
    (hwords : ∀ word ∈ words, word ≠ [] ∧ ∀ c ∈ word, isPlain c = true) :
    Tokens (words.flatMap (· ++ [' '])) (words.map fun word => .word (word.map .bare)) := by
  induction words with
  | nil => intro rest; simp
  | cons word words ih =>
      obtain ⟨hne, hplain⟩ := hwords word List.mem_cons_self
      exact (readsAs_plain hne hplain).blank.append
        (ih fun other hother => hwords other (List.mem_cons_of_mem _ hother))

/-! ## Outcomes -/

namespace Host

variable {host : Host}

theorem run_eq {script : String} {tokens : List Token} {commands : List Command}
    (hlex : lex .between script.toList = some tokens) (hparse : parse {} tokens = some commands) :
    host.run script = host.runCommands [] commands := by
  rw [run, hlex, Option.bind_eq_bind, Option.bind_some, hparse]
  rfl

theorem expand_of_text {atoms : Word} {s : String} (htext : text atoms = some s)
    (hne : atoms ≠ [.arguments]) : host.expand atoms = some [s] := by
  rw [expand, if_neg hne, htext]
  rfl

theorem expandAll_append {words others : List Word} {values rest : List String}
    (hwords : host.expandAll words = some values) (hothers : host.expandAll others = some rest) :
    host.expandAll (words ++ others) = some (values ++ rest) := by
  induction words generalizing values with
  | nil =>
      obtain rfl := Option.some.inj hwords
      exact hothers
  | cons atoms words ih =>
      rw [expandAll] at hwords
      cases hfirst : host.expand atoms with
      | none => simp [hfirst] at hwords
      | some first =>
          cases hmore : host.expandAll words with
          | none => simp [hfirst, hmore] at hwords
          | some more =>
              have hvalues : first ++ more = values := by simpa [hfirst, hmore] using hwords
              rw [List.cons_append, expandAll, hfirst, ih hmore, ← hvalues]
              simp

/-- Plain words stand for themselves. -/
theorem expandAll_bare (words : List (List Char)) :
    host.expandAll (words.map fun word => word.map .bare) = some (words.map String.ofList) := by
  induction words with
  | nil => rfl
  | cons word words ih =>
      have hword : host.expand (word.map .bare) = some [String.ofList word] :=
        expand_of_text (text_map (fun _ => rfl) word) (by cases word <;> simp)
      rw [List.map_cons, expandAll, hword, ih]
      rfl

theorem expandAll_arguments : host.expandAll [[.arguments]] = some host.arguments := by
  simp [expandAll, expand]

end Host

end Shell

end Blocksnoop.Support
