import Mathlib.Data.List.Basic

/-!
How a POSIX shell reads a text: the tokens, one character at a time, and the command lists they
form. An expansion is not followed: the reading ends where one begins.
-/

namespace ShellCommands

/-- The characters of a word after quote removal, and whether each was quoted. -/
abbrev Word := List (Char × Bool)

def plainWord (text : String) : Word := text.toList.map fun char => (char, false)

def quotedWord (text : String) : Word := text.toList.map fun char => (char, true)

/-- The word after quote removal. -/
def Word.text (word : Word) : String := String.ofList (word.map Prod.fst)

@[simp] theorem plainWord_text (text : String) : (plainWord text).text = text := by
  simp [Word.text, plainWord, Function.comp_def]

inductive Token where
  | word (word : Word)
  | ioNumber (digits : Word)
  | operator (text : List Char)
deriving DecidableEq

def operators : List (List Char) :=
  ["&&", "||", ";;", "<<", ">>", "<&", ">&", "<>", "<<-", ">|", "&", ";", "|", "<", ">", "(", ")",
    "\n"].map String.toList

/-! ## Tokens -/

/-- What is under way; between two tokens no word is. -/
inductive Mode where
  | plain (word : Option Word)
  | operator (text : List Char)
  | escape (word : Option Word)
  | single (word : Word)
  | double (word : Word)
  | doubleEscape (word : Word)
  | comment
deriving DecidableEq

inductive Fault where
  | expansion
  | unclosed
deriving DecidableEq

structure Lexer where
  mode : Mode
  tokens : List Token
deriving DecidableEq

namespace Lexer

def start : Lexer := ⟨.plain none, []⟩

/-- Digits right before `<` or `>` are the number of a file descriptor. -/
def numbers (word : Word) (next : Option Char) : Bool :=
  (next = some '<' || next = some '>') &&
    word.all fun (char, quoted) => char.isDigit && !quoted

/-- The tokens when the word under way ends. -/
def delimit (tokens : List Token) (word : Option Word) (next : Option Char) : List Token :=
  match word with
  | none => tokens
  | some word => tokens ++ [if numbers word next then .ioNumber word else .word word]

def plainStep (tokens : List Token) (word : Option Word) (char : Char) : Except Fault Lexer :=
  if char = '\\' then .ok ⟨.escape word, tokens⟩
  else if char = '\'' then .ok ⟨.single (word.getD []), tokens⟩
  else if char = '"' then .ok ⟨.double (word.getD []), tokens⟩
  else if char = '$' ∨ char = '`' then .error .expansion
  else if char = ' ' ∨ char = '\t' then .ok ⟨.plain none, delimit tokens word (some char)⟩
  else if [char] ∈ operators then .ok ⟨.operator [char], delimit tokens word (some char)⟩
  else if char = '#' ∧ word = none then .ok ⟨.comment, tokens⟩
  else .ok ⟨.plain (some (word.getD [] ++ [(char, false)])), tokens⟩

def doubleStep (tokens : List Token) (word : Word) (char : Char) : Except Fault Lexer :=
  if char = '"' then .ok ⟨.plain (some word), tokens⟩
  else if char = '\\' then .ok ⟨.doubleEscape word, tokens⟩
  else if char = '$' ∨ char = '`' then .error .expansion
  else .ok ⟨.double (word ++ [(char, true)]), tokens⟩

/-- In double quotes a backslash is kept unless what follows would otherwise be special. -/
def doubleEscapeStep (word : Word) (char : Char) : Word :=
  if char = '\n' then word
  else if char ∈ ['$', '`', '"', '\\'] then word ++ [(char, true)]
  else word ++ [('\\', true), (char, true)]

def step (l : Lexer) (char : Char) : Except Fault Lexer :=
  match l.mode with
  | .plain word => plainStep l.tokens word char
  | .operator text =>
      if text ++ [char] ∈ operators then .ok ⟨.operator (text ++ [char]), l.tokens⟩
      else plainStep (l.tokens ++ [.operator text]) none char
  | .escape word =>
      -- a quoted line feed continues the line
      if char = '\n' then .ok ⟨.plain word, l.tokens⟩
      else .ok ⟨.plain (some (word.getD [] ++ [(char, true)])), l.tokens⟩
  | .single word =>
      if char = '\'' then .ok ⟨.plain (some word), l.tokens⟩
      else .ok ⟨.single (word ++ [(char, true)]), l.tokens⟩
  | .double word => doubleStep l.tokens word char
  | .doubleEscape word => .ok ⟨.double (doubleEscapeStep word char), l.tokens⟩
  | .comment => if char = '\n' then .ok ⟨.operator ['\n'], l.tokens⟩ else .ok l

def run (l : Lexer) : List Char → Except Fault Lexer
  | [] => .ok l
  | char :: rest =>
      match l.step char with
      | .error fault => .error fault
      | .ok next => next.run rest

def finish (l : Lexer) : Except Fault (List Token) :=
  match l.mode with
  | .plain word => .ok (delimit l.tokens word none)
  | .operator text => .ok (l.tokens ++ [.operator text])
  | .comment => .ok l.tokens
  | .escape _ | .single _ | .double _ | .doubleEscape _ => .error .unclosed

/-- Outside quotes and comments. -/
def isOpen (l : Lexer) : Bool :=
  match l.mode with
  | .plain _ | .operator _ => true
  | _ => false

end Lexer

def tokenize (text : List Char) : Except Fault (List Token) := do
  let l ← Lexer.start.run text
  l.finish

namespace Lexer

theorem run_append (l : Lexer) (text more : List Char) :
    l.run (text ++ more) = (l.run text).bind fun l => l.run more := by
  induction text generalizing l with
  | nil => rfl
  | cons char text ih =>
      simp only [List.cons_append, run]
      cases l.step char with
      | error fault => rfl
      | ok next => exact ih next

theorem run_append_of_ok {l middle : Lexer} {text : List Char} (ran : l.run text = .ok middle)
    (more : List Char) : l.run (text ++ more) = middle.run more := by
  rw [run_append, ran]
  rfl

theorem run_cons {l next : Lexer} {char : Char} (stepped : l.step char = .ok next)
    (rest : List Char) : l.run (char :: rest) = next.run rest := by
  rw [run, stepped]

theorem tokenize_of_run {l : Lexer} {text : List Char} (ran : start.run text = .ok l) :
    tokenize text = l.finish := by
  rw [tokenize, ran]
  rfl

theorem single_step {tokens : List Token} {word : Word} {char : Char} (other : char ≠ '\'') :
    step ⟨.single word, tokens⟩ char = .ok ⟨.single (word ++ [(char, true)]), tokens⟩ :=
  if_neg other

/-- Tokens that were read before. -/
def after (before : List Token) (l : Lexer) : Lexer := ⟨l.mode, before ++ l.tokens⟩

theorem delimit_after (before tokens : List Token) (word : Option Word) (next : Option Char) :
    delimit (before ++ tokens) word next = before ++ delimit tokens word next := by
  cases word with
  | none => rfl
  | some word => exact List.append_assoc ..

theorem plainStep_after (before tokens : List Token) (word : Option Word) (char : Char) :
    plainStep (before ++ tokens) word char = (plainStep tokens word char).map (after before) := by
  unfold plainStep
  simp only [delimit_after]
  repeat' split
  all_goals rfl

theorem step_after (before : List Token) (l : Lexer) (char : Char) :
    (l.after before).step char = (l.step char).map (after before) := by
  obtain ⟨mode, tokens⟩ := l
  cases mode with
  | plain word => exact plainStep_after ..
  | operator text =>
      simp only [after, step, List.append_assoc, plainStep_after]
      split <;> rfl
  | escape word | single word | comment =>
      simp only [after, step]
      split <;> rfl
  | double word =>
      simp only [after, step, doubleStep]
      repeat' split
      all_goals rfl
  | doubleEscape word => rfl

theorem run_after {l last : Lexer} {text : List Char} (ran : l.run text = .ok last)
    (before : List Token) : (l.after before).run text = .ok (last.after before) := by
  induction text generalizing l with
  | nil =>
      cases ran
      rfl
  | cons char text ih =>
      rw [run] at ran ⊢
      rw [step_after]
      cases stepped : l.step char with
      | error fault => simp [stepped] at ran
      | ok next =>
          rw [stepped] at ran
          exact ih ran

theorem plainStep_blank (tokens : List Token) (word : Option Word) :
    plainStep tokens word ' ' = .ok ⟨.plain none, delimit tokens word none⟩ := by
  cases word <;> rfl

theorem operator_blank (text : List Char) : text ++ [' '] ∉ operators := by
  intro member
  have blanks : ∀ operator ∈ operators, ' ' ∉ operator := by decide
  exact blanks _ member (by simp)

theorem blank_step {l : Lexer} {tokens : List Token} (outside : l.isOpen = true)
    (ends : l.finish = .ok tokens) : l.step ' ' = .ok ⟨.plain none, tokens⟩ := by
  obtain ⟨mode, before⟩ := l
  cases mode with
  | plain word =>
      cases ends
      exact plainStep_blank before word
  | operator text =>
      cases ends
      simp only [step, operator_blank, if_false]
      exact plainStep_blank _ none
  | _ => cases outside

/-! ### Words of characters that stand for themselves -/

def inert (char : Char) : Bool :=
  char ∉ ['\\', '\'', '"', '$', '`', ' ', '\t', '#'] && [char] ∉ operators

def inertWord (word : String) : Bool := word ≠ "" && word.toList.all inert

theorem inert_step {char : Char} (plain : inert char = true) (tokens : List Token)
    (word : Option Word) :
    step ⟨.plain word, tokens⟩ char =
      .ok ⟨.plain (some (word.getD [] ++ [(char, false)])), tokens⟩ := by
  simp only [inert, Bool.and_eq_true, decide_eq_true_eq, List.mem_cons, List.not_mem_nil, or_false,
    not_or] at plain
  obtain ⟨⟨backslash, single, double, dollar, backtick, blank, tab, hash⟩, operator⟩ := plain
  simp [step, plainStep, backslash, single, double, dollar, backtick, blank, tab, hash, operator]

theorem run_inert {text : List Char} (plain : text.all inert = true) (tokens : List Token)
    (word : Word) :
    run ⟨.plain (some word), tokens⟩ text =
      .ok ⟨.plain (some (word ++ text.map fun char => (char, false))), tokens⟩ := by
  induction text generalizing word with
  | nil => simp [run]
  | cons char text ih =>
      rw [List.all_cons, Bool.and_eq_true] at plain
      rw [run_cons (inert_step plain.1 ..), ih plain.2]
      simp

theorem run_inertWord {word : String} (plain : inertWord word = true) (tokens : List Token) :
    run ⟨.plain none, tokens⟩ word.toList = .ok ⟨.plain (some (plainWord word)), tokens⟩ := by
  simp only [inertWord, Bool.and_eq_true, decide_eq_true_eq, ← String.toList_eq_nil_iff.not,
    plainWord] at plain ⊢
  obtain ⟨some, chars⟩ := plain
  cases same : word.toList with
  | nil => exact absurd same some
  | cons char text =>
      rw [same, List.all_cons, Bool.and_eq_true] at chars
      rw [run_cons (inert_step chars.1 ..), run_inert chars.2]
      rfl

theorem run_inertWords {words : List String} (plain : words.all inertWord = true)
    (tokens : List Token) :
    run ⟨.plain none, tokens⟩ ([' '].intercalate (words.map String.toList) ++ [' ']) =
      .ok ⟨.plain none, tokens ++ words.map fun word => .word (plainWord word)⟩ := by
  induction words generalizing tokens with
  | nil => simp [run, step, plainStep_blank, delimit]
  | cons word words ih =>
      rw [List.all_cons, Bool.and_eq_true] at plain
      have ended : step ⟨.plain (some (plainWord word)), tokens⟩ ' ' =
          .ok ⟨.plain none, tokens ++ [.word (plainWord word)]⟩ := blank_step rfl rfl
      cases words with
      | nil =>
          rw [List.map_singleton, List.intercalate_singleton,
            run_append_of_ok (run_inertWord plain.1 tokens), run_cons ended]
          rfl
      | cons next rest =>
          rw [List.map_cons, List.map_cons, List.intercalate_cons_cons, List.append_assoc,
            List.append_assoc, run_append_of_ok (run_inertWord plain.1 tokens), List.singleton_append,
            run_cons ended, ← List.map_cons, ih plain.2]
          simp

end Lexer

/-! ## Command lists -/

structure Redirection where
  number : Option Word
  operator : List Char
  target : Word
deriving DecidableEq

structure SimpleCommand where
  words : List Word
  redirections : List Redirection
deriving DecidableEq

inductive Connective where
  | and
  | or
deriving DecidableEq

inductive Separator where
  | sequential
  | background
deriving DecidableEq

abbrev Pipeline := List SimpleCommand

/-- Pipelines, each with what connects it to the next one. -/
abbrev AndOr := List (Pipeline × Option Connective)

/-- And-or lists, each with what ends it. -/
abbrev CommandList := List (AndOr × Option Separator)

def redirects : List (List Char) :=
  ["<", ">", ">>", "<&", ">&", "<>", ">|"].map String.toList

def reserved : List Word :=
  ["if", "then", "else", "elif", "fi", "do", "done", "case", "esac", "while", "until", "for",
    "\x7b", "\x7d", "!", "in"].map plainWord

def isName (chars : Word) : Bool :=
  match chars with
  | (first, quoted) :: rest =>
      (first.isAlpha || first = '_') && !quoted &&
        rest.all fun (char, quoted) => (char.isAlphanum || char = '_') && !quoted
  | [] => false

/-- A name followed by `=`. -/
def isAssignment (word : Word) : Bool :=
  match word.span (· ≠ ('=', false)) with
  | (name, _ :: _) => isName name
  | (_, []) => false

def separator : Token → Option Separator
  | .operator [';'] | .operator ['\n'] => some .sequential
  | .operator ['&'] => some .background
  | _ => none

def connective : Token → Option Connective
  | .operator ['&', '&'] => some .and
  | .operator ['|', '|'] => some .or
  | _ => none

def bar : Token → Option Unit
  | .operator ['|'] => some ()
  | _ => none

/-- The parts of a token list, each with the token that ends it. -/
def parts {α : Type} (ends : Token → Option α) : List Token → List (List Token × Option α)
  | [] => []
  | token :: rest =>
      match ends token, parts ends rest with
      | some mark, later => ([], some mark) :: later
      | none, [] => [([token], none)]
      | none, (part, mark) :: later => (token :: part, mark) :: later

/-- Whether nothing follows the last part. -/
def complete {α β : Type} (items : List (β × Option α)) : Bool :=
  match items.getLast? with
  | some (_, none) => true
  | _ => false

def readWords : List Token → Option SimpleCommand
  | [] => some ⟨[], []⟩
  | .word word :: rest =>
      (readWords rest).map fun command => { command with words := word :: command.words }
  | .operator operator :: .word target :: rest =>
      if operator ∈ redirects then
        (readWords rest).map fun command =>
          { command with redirections := ⟨none, operator, target⟩ :: command.redirections }
      else none
  | .ioNumber number :: .operator operator :: .word target :: rest =>
      if operator ∈ redirects then
        (readWords rest).map fun command =>
          { command with redirections := ⟨some number, operator, target⟩ :: command.redirections }
      else none
  | _ => none

/-- A simple command that sets no variables; none for another kind of command. -/
def readSimple (tokens : List Token) : Option SimpleCommand := do
  let command ← readWords tokens
  match command.words with
  | [] => if command.redirections = [] then none else return command
  | name :: _ => if name ∈ reserved ∨ isAssignment name then none else return command

def readPipeline (tokens : List Token) : Option Pipeline :=
  let commands := parts bar tokens
  if complete commands then commands.mapM fun (part, _) => readSimple part else none

def readAndOr (tokens : List Token) : Option AndOr :=
  let pipelines := parts connective tokens
  if complete pipelines then
    pipelines.mapM fun (part, mark) => (readPipeline part).map fun pipeline => (pipeline, mark)
  else none

def readList (tokens : List Token) : Option CommandList :=
  (parts separator tokens).mapM fun (part, mark) => (readAndOr part).map fun andOr => (andOr, mark)

/-- The commands of a text without expansions. -/
def readCommands (text : List Char) : Option CommandList :=
  match tokenize text with
  | .ok tokens => readList tokens
  | .error _ => none

/-! ### One simple command -/

theorem parts_whole {α : Type} {ends : Token → Option α} {tokens : List Token} (some : tokens ≠ [])
    (none : ∀ token ∈ tokens, ends token = none) : parts ends tokens = [(tokens, .none)] := by
  induction tokens with
  | nil => exact absurd rfl some
  | cons token rest ih =>
      have own := none token List.mem_cons_self
      cases rest with
      | nil => simp [parts, own]
      | cons next rest =>
          have later := ih (by simp) fun other member => none other (List.mem_cons_of_mem _ member)
          rw [parts, later, own]

theorem readList_simple {tokens : List Token} {command : SimpleCommand} (nonempty : tokens ≠ [])
    (plain : ∀ token ∈ tokens,
      separator token = none ∧ connective token = none ∧ bar token = none)
    (read : readSimple tokens = some command) :
    readList tokens = some [([([command], none)], none)] := by
  have pipeline : readPipeline tokens = some [command] := by
    rw [readPipeline, parts_whole nonempty fun token member => (plain token member).2.2]
    simp [complete, read]
  have andOr : readAndOr tokens = some [([command], none)] := by
    rw [readAndOr, parts_whole nonempty fun token member => (plain token member).2.1]
    simp [complete, pipeline]
  rw [readList, parts_whole nonempty fun token member => (plain token member).1]
  simp [andOr]

/-! ## Runs -/

/-- What a command leaves, what it has written for the next one, and its exit status. -/
structure Ran (σ : Type) where
  state : σ
  output : List Char
  status : Nat

section

variable {σ : Type} (exec : SimpleCommand → List Char → σ → Ran σ)

/-- The status is the last command's. -/
def runPipeline (state : σ) (pipeline : Pipeline) : Ran σ :=
  pipeline.foldl (fun ran command => exec command ran.output ran.state) ⟨state, [], 0⟩

/-- Whether the next pipeline is left out. -/
def skips (status : Nat) : Option Connective → Bool
  | some .and => status ≠ 0
  | some .or => status = 0
  | none => false

def runAndOr (ran : Ran σ) (before : Option Connective) : AndOr → Ran σ
  | [] => ran
  | (pipeline, next) :: rest =>
      runAndOr (if skips ran.status before then ran else runPipeline exec ran.state pipeline) next rest

/-- A list without background commands. -/
def runList (state : σ) (commands : CommandList) : Ran σ :=
  commands.foldl (fun ran list => runAndOr exec ran none list.1) ⟨state, [], 0⟩

end

end ShellCommands
