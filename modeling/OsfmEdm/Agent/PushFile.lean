import OsfmEdm.Agent.Commands
import OsfmEdm.Library.ShellCommands

/-!
What the shell reads of a quoted value, and of the command that `execute_job` builds for `PushFile`
on Unix.
-/

namespace OsfmEdm

open ShellCommands Lexer

/-! ## Quoted values -/

theorem run_escaped (tokens : List Token) (word : Word) (value : List Char) :
    run ⟨.single word, tokens⟩ (value.flatMap fun char =>
      if char = '\'' then ['\'', '"', '\'', '"', '\''] else [char]) =
        .ok ⟨.single (word ++ value.map fun char => (char, true)), tokens⟩ := by
  induction value generalizing word with
  | nil => simp [run]
  | cons char value ih =>
      rw [List.flatMap_cons]
      split
      · rename_i quote
        subst quote
        have reopened : run ⟨.single word, tokens⟩ ['\'', '"', '\'', '"', '\''] =
            .ok ⟨.single (word ++ [('\'', true)]), tokens⟩ := rfl
        rw [run_append_of_ok reopened, ih]
        simp
      · rename_i other
        rw [List.singleton_append, run_cons (single_step other), ih]
        simp

/-- The quoted value joins the word under way, or is a word of its own. -/
theorem run_shellQuote (tokens : List Token) (word : Option Word) (value : String) :
    run ⟨.plain word, tokens⟩ (shellQuote value).toList =
      .ok ⟨.plain (some (word.getD [] ++ quotedWord value)), tokens⟩ := by
  have opened : step ⟨.plain word, tokens⟩ '\'' = .ok ⟨.single (word.getD []), tokens⟩ := rfl
  rw [shellQuote, String.toList_ofList, List.cons_append, run_cons opened,
    run_append_of_ok (run_escaped ..)]
  rfl

example : shellQuote "/tmp/x'; rm -rf /; echo '" = "'/tmp/x'\"'\"'; rm -rf /; echo '\"'\"''" := by
  decide

@[simp] theorem quotedWord_text (text : String) : (quotedWord text).text = text := by
  simp [Word.text, quotedWord, Function.comp_def]

theorem quoted_of_mem {text : String} {char : Char} {quoted : Bool}
    (member : (char, quoted) ∈ quotedWord text) : quoted = true := by
  simp only [quotedWord, List.mem_map, Prod.mk.injEq] at member
  obtain ⟨_, -, -, same⟩ := member
  exact same.symm

/-- The value between two blanks is one word, whatever stands before and after. -/
theorem run_betweenBlanks {before : List Char} {l : Lexer} {tokens : List Token}
    (ran : run .start before = .ok l) (outside : l.isOpen = true) (ends : l.finish = .ok tokens)
    (value : String) (after : List Char) :
    run .start (before ++ ' ' :: (shellQuote value).toList ++ ' ' :: after) =
      run ⟨.plain none, tokens ++ [.word (quotedWord value)]⟩ after := by
  have ended : step ⟨.plain (some (quotedWord value)), tokens⟩ ' ' =
      .ok ⟨.plain none, tokens ++ [.word (quotedWord value)]⟩ := blank_step rfl rfl
  rw [List.append_assoc, run_append_of_ok ran, List.cons_append,
    run_cons (blank_step outside ends), run_append_of_ok (run_shellQuote ..)]
  exact run_cons ended after

/-! ## The command -/

theorem run_between {word : Word} {text : List Char} {tokens : List Token} (before : List Token)
    (ran : run ⟨.plain none, []⟩ text = .ok ⟨.plain none, tokens⟩) :
    run ⟨.plain (some word), before⟩ (' ' :: text) =
      .ok ⟨.plain none, before ++ .word word :: tokens⟩ := by
  have ended : step ⟨.plain (some word), before⟩ ' ' =
      .ok ⟨.plain none, before ++ [.word word]⟩ := blank_step rfl rfl
  rw [run_cons ended]
  have later := run_after ran (before ++ [.word word])
  simpa [after] using later

theorem run_echo : run .start "echo ".toList = .ok ⟨.plain none, [.word (plainWord "echo")]⟩ := by
  decide

theorem run_decode : run ⟨.plain none, []⟩ "| base64 -d > ".toList =
    .ok ⟨.plain none, [.operator ['|'], .word (plainWord "base64"), .word (plainWord "-d"),
      .operator ['>']]⟩ := by
  decide

theorem run_chmod : run ⟨.plain none, []⟩ "&& chmod ".toList =
    .ok ⟨.plain none, [.operator ['&', '&'], .word (plainWord "chmod")]⟩ := by
  decide

/-- `echo W1 | base64 -d > W2`, and `&& chmod W3 W2` when there are permissions. -/
def pushFileCommands (destination contentB64 : String) (permissions : Option String) : CommandList :=
  let write : Pipeline :=
    [⟨[plainWord "echo", quotedWord contentB64], []⟩,
      ⟨[plainWord "base64", plainWord "-d"], [⟨none, ['>'], quotedWord destination⟩]⟩]
  match permissions with
  | none => [([(write, none)], none)]
  | some perms =>
      let change : Pipeline :=
        [⟨[plainWord "chmod", quotedWord perms, quotedWord destination], []⟩]
      [([(write, some .and), (change, none)], none)]

def writeTokens (destination contentB64 : String) : List Token :=
  [.word (plainWord "echo"), .word (quotedWord contentB64), .operator ['|'],
    .word (plainWord "base64"), .word (plainWord "-d"), .operator ['>'],
    .word (quotedWord destination)]

theorem run_write (destination contentB64 : String) :
    run .start ("echo " ++ shellQuote contentB64 ++ " | base64 -d > " ++
      shellQuote destination).toList =
        .ok ⟨.plain (some (quotedWord destination)),
          (writeTokens destination contentB64).dropLast⟩ := by
  have blank : " | base64 -d > ".toList = ' ' :: "| base64 -d > ".toList := by decide
  simp only [String.toList_append, List.append_assoc]
  rw [run_append_of_ok run_echo, run_append_of_ok (run_shellQuote ..), blank,
    run_append_of_ok (run_between _ run_decode), run_shellQuote]
  rfl

/-- The tokens that follow when there are permissions. -/
def chmodTokens (destination perms : String) : List Token :=
  [.operator ['&', '&'], .word (plainWord "chmod"), .word (quotedWord perms),
    .word (quotedWord destination)]

theorem tokenize_write (destination contentB64 : String) :
    tokenize (pushFileCmd destination contentB64 none).toList =
      .ok (writeTokens destination contentB64) :=
  tokenize_of_run (run_write destination contentB64)

theorem tokenize_chmod (destination contentB64 perms : String) :
    tokenize (pushFileCmd destination contentB64 (some perms)).toList =
      .ok (writeTokens destination contentB64 ++ chmodTokens destination perms) := by
  have parts : (pushFileCmd destination contentB64 (some perms)).toList =
      ("echo " ++ shellQuote contentB64 ++ " | base64 -d > " ++ shellQuote destination).toList ++
        ((' ' :: "&& chmod ".toList) ++
          ((shellQuote perms).toList ++ ([' '] ++ (shellQuote destination).toList))) := by
    have blank : " && chmod ".toList = ' ' :: "&& chmod ".toList := by decide
    have single : " ".toList = [' '] := by decide
    simp only [pushFileCmd, String.toList_append, List.append_assoc, blank, single]
  have ran : run .start (pushFileCmd destination contentB64 (some perms)).toList =
      .ok ⟨.plain (some (quotedWord destination)),
        (writeTokens destination contentB64 ++ chmodTokens destination perms).dropLast⟩ := by
    rw [parts, run_append_of_ok (run_write ..), run_append_of_ok (run_between _ run_chmod),
      run_append_of_ok (run_shellQuote ..), run_append_of_ok (run_between _ rfl), run_shellQuote]
    rfl
  exact tokenize_of_run ran

theorem readCommands_pushFileCmd (destination contentB64 : String) (permissions : Option String) :
    readCommands (pushFileCmd destination contentB64 permissions).toList =
      some (pushFileCommands destination contentB64 permissions) := by
  cases permissions with
  | none =>
      rw [readCommands, tokenize_write]
      rfl
  | some perms =>
      rw [readCommands, tokenize_chmod]
      rfl

/-- On Unix the command is the list above, whose words are the values themselves with every
character quoted; and a quoted value between blanks is one word wherever the shell is not within
quotes or a comment. -/
theorem push_file_words (destination contentB64 : String) (permissions : Option String) :
    (∀ platform, platform ≠ .windows → ∃ text,
      (JobPayload.pushFile destination contentB64 permissions).script platform =
          some ⟨.bash, text, DEFAULT_TIMEOUT_SECS⟩ ∧
        readCommands text.toList = some (pushFileCommands destination contentB64 permissions)) ∧
      ∀ value, (quotedWord value).text = value ∧ (∀ unit ∈ quotedWord value, unit.2 = true) ∧
        ∀ before after l tokens, run .start before = .ok l → l.isOpen = true →
          l.finish = .ok tokens →
            run .start (before ++ ' ' :: (shellQuote value).toList ++ ' ' :: after) =
              run ⟨.plain none, tokens ++ [.word (quotedWord value)]⟩ after := by
  constructor
  · intro platform unix
    refine ⟨pushFileCmd destination contentB64 permissions, ?_, readCommands_pushFileCmd ..⟩
    cases platform with
    | linux | macos => rfl
    | windows => exact absurd rfl unix
  · intro value
    refine ⟨quotedWord_text value, fun unit member => quoted_of_mem member, ?_⟩
    intro before after l tokens ran outside ends
    exact run_betweenBlanks ran outside ends value after

theorem push_file_words_quotes : ∃ text,
    (JobPayload.pushFile "/tmp/x'; rm -rf /; echo '" "aGk=" (some "644")).script .linux =
        some ⟨.bash, text, DEFAULT_TIMEOUT_SECS⟩ ∧
      readCommands text.toList =
        some (pushFileCommands "/tmp/x'; rm -rf /; echo '" "aGk=" (some "644")) :=
  (push_file_words "/tmp/x'; rm -rf /; echo '" "aGk=" (some "644")).1 .linux (by decide)

end OsfmEdm
