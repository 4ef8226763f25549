import OsfmEdm.Agent.Commands
import OsfmEdm.Library.ShellCommands

/-!
The words a package manager gets from `package_cmd` and `patch_cmd`, and what `sanitize_package`
makes of a package.
-/

namespace OsfmEdm

open ShellCommands Lexer

/-! ## Words of a command -/

/-- The words of a command line of `cmd`. -/
def blankWords (text : List Char) : List String :=
  ((text.splitOnP fun char => char = ' ' || char = '\t').filter (!·.isEmpty)).map String.ofList

/-- `2>&1`. -/
def errorsToOutput : Redirection := ⟨some (plainWord "2"), ['>', '&'], plainWord "1"⟩

/-- The words of one simple command, as its interpreter reads it; for a POSIX shell nothing else
than its errors is redirected. -/
def commandWords : ShellType × String → Option (List String)
  | (.bash, text) =>
      match readCommands text.toList with
      | some [([([⟨words, [redirection]⟩], none)], none)] =>
          if redirection = errorsToOutput then some (words.map Word.text) else none
      | _ => none
  | (.cmd, text) => some (blankWords text.toList)
  | _ => none

/-- `W1 … Wn 2>&1`. -/
def mergedTokens (words : List String) : List Token :=
  words.map (fun word => .word (plainWord word)) ++
    [.ioNumber (plainWord "2"), .operator ['>', '&'], .word (plainWord "1")]

theorem readWords_merged (words : List String) :
    readWords (mergedTokens words) = some ⟨words.map plainWord, [errorsToOutput]⟩ := by
  induction words with
  | nil => decide
  | cons word words ih =>
      rw [mergedTokens] at ih ⊢
      simp [readWords, ih]

/-- A program's name, which is neither a reserved word nor an assignment. -/
def programName (word : String) : Bool :=
  reserved.all (· ≠ plainWord word) && !isAssignment (plainWord word)

theorem readList_merged {program : String} (named : programName program = true)
    (words : List String) :
    readList (mergedTokens (program :: words)) =
      some [([([⟨(program :: words).map plainWord, [errorsToOutput]⟩], none)], none)] := by
  simp only [programName, Bool.and_eq_true, Bool.not_eq_true', List.all_eq_true,
    decide_eq_true_eq] at named
  have free : plainWord program ∉ reserved := fun member => named.1 _ member rfl
  refine readList_simple (by simp [mergedTokens]) ?_ ?_
  · intro token member
    simp only [mergedTokens, List.mem_append, List.mem_map, List.mem_cons, List.not_mem_nil,
      or_false] at member
    rcases member with ⟨word, -, rfl⟩ | rfl | rfl | rfl
    all_goals exact ⟨rfl, rfl, rfl⟩
  · rw [readSimple, readWords_merged]
    simp [free, named.2]

theorem tokenize_merged {fixed added : List String} (plain : fixed.all inertWord = true)
    (addedPlain : added.all inertWord = true) :
    tokenize (" ".intercalate fixed ++ " " ++ " ".intercalate added ++ " 2>&1").toList =
      .ok (mergedTokens (fixed ++ added)) := by
  have blank : " ".toList = [' '] := by decide
  have redirection : " 2>&1".toList = ' ' :: "2>&1".toList := by decide
  have last : run ⟨.plain none, []⟩ "2>&1".toList =
      .ok ⟨.plain (some (plainWord "1")), [.ioNumber (plainWord "2"), .operator ['>', '&']]⟩ := by
    decide
  have text : (" ".intercalate fixed ++ " " ++ " ".intercalate added ++ " 2>&1").toList =
      ([' '].intercalate (fixed.map String.toList) ++ [' ']) ++
        (([' '].intercalate (added.map String.toList) ++ [' ']) ++ "2>&1".toList) := by
    simp only [String.toList_append, String.toList_intercalate, blank, redirection,
      List.append_assoc, List.nil_append, List.cons_append]
  have ran : run .start (" ".intercalate fixed ++ " " ++ " ".intercalate added ++ " 2>&1").toList =
      .ok ⟨.plain (some (plainWord "1")), (mergedTokens (fixed ++ added)).dropLast⟩ := by
    have later := run_after last ((fixed ++ added).map fun word => .word (plainWord word))
    rw [text, Lexer.start, run_append_of_ok (run_inertWords plain []),
      run_append_of_ok (run_inertWords addedPlain _)]
    simpa [after, mergedTokens] using later
  rw [tokenize_of_run ran]
  simp [mergedTokens, finish, delimit, numbers]

theorem commandWords_bash {program : String} {fixed added : List String}
    (named : programName program = true) (plain : (program :: fixed).all inertWord = true)
    (addedPlain : added.all inertWord = true) :
    commandWords (.bash, " ".intercalate (program :: fixed) ++ " " ++ " ".intercalate added ++
      " 2>&1") = some (program :: fixed ++ added) := by
  have read := readList_merged named (fixed ++ added)
  rw [commandWords, readCommands, tokenize_merged plain addedPlain]
  simp only [List.cons_append, read, List.map_map, if_true, Option.some.injEq]
  exact List.map_id'' (fun word => plainWord_text word) _

theorem blankWords_append (before after : List Char) :
    blankWords (before ++ ' ' :: after) = blankWords before ++ blankWords after := by
  simp [blankWords, List.splitOnP_append_cons]

theorem inert_blank {char : Char} (plain : inert char = true) :
    (char = ' ' || char = '\t') = false := by
  simp only [inert, Bool.and_eq_true, decide_eq_true_eq, List.mem_cons, not_or] at plain
  simp [plain.1]

theorem blankWords_word {word : String} (plain : inertWord word = true) :
    blankWords word.toList = [word] := by
  simp only [inertWord, Bool.and_eq_true, decide_eq_true_eq, List.all_eq_true] at plain
  have whole : word.toList.splitOnP (fun char => char = ' ' || char = '\t') = [word.toList] :=
    List.splitOnP_eq_singleton fun char member => inert_blank (plain.2 char member)
  simp [blankWords, whole, plain.1]

theorem blankWords_words {words : List String} (plain : words.all inertWord = true) :
    blankWords ([' '].intercalate (words.map String.toList)) = words := by
  induction words with
  | nil => rfl
  | cons word words ih =>
      rw [List.all_cons, Bool.and_eq_true] at plain
      cases words with
      | nil => rw [List.map_singleton, List.intercalate_singleton, blankWords_word plain.1]
      | cons next rest =>
          rw [List.map_cons, List.map_cons, List.intercalate_cons_cons, List.append_assoc,
            List.singleton_append, blankWords_append, blankWords_word plain.1, ← List.map_cons,
            ih plain.2]
          rfl

theorem commandWords_cmd {fixed : List String} (plain : fixed.all inertWord = true)
    (rest : String) :
    commandWords (.cmd, " ".intercalate fixed ++ " " ++ rest) =
      some (fixed ++ blankWords rest.toList) := by
  have blank : " ".toList = [' '] := by decide
  simp only [commandWords, String.toList_append, String.toList_intercalate, blank,
    List.append_assoc, List.singleton_append]
  rw [blankWords_append, blankWords_words plain]

/-! ## Packages -/

/-- A character `sanitize_package` keeps. -/
def packageChar (char : Char) : Bool := char.isAlphanum || char ∈ ['.', '_', '-']

/-- A word of kept characters that no package manager reads as an option. -/
def isOperand (word : String) : Prop :=
  word ≠ "" ∧ (∀ char ∈ word.toList, packageChar char = true) ∧ word.toList.head? ≠ some '-'

inductive PackageAction where
  | install
  | remove

def PackageAction.text : PackageAction → String
  | .install => "install"
  | .remove => "remove"

def PackageManager.fixedWords (manager : PackageManager) (action : PackageAction) : List String :=
  match manager with
  | .apt => ["apt-get", action.text, "-y"]
  | .dnf => ["dnf", action.text, "-y"]
  | .pacman =>
      match action with
      | .install => ["pacman", "-S", "--noconfirm"]
      | .remove => ["pacman", "-R", "--noconfirm"]
  | .homebrew => ["brew", action.text]
  | .winget => ["winget", action.text, "--accept-source-agreements"]
  | .chocolatey => ["choco", action.text, "-y"]

/-- The words of `patch_cmd` before the patches. -/
def Platform.patchWords : Platform → List String
  | .windows => ["winget", "upgrade", "--accept-source-agreements"]
  | .macos => ["brew", "upgrade"]
  | .linux => ["apt-get", "install", "-y"]

/-- What stands behind the patches; `cmd` gives it to the program as it is. -/
def Platform.afterPatches : Platform → List String
  | .windows => ["2>&1"]
  | _ => []

theorem sanitizePackage_eq (package : String) :
    sanitizePackage package =
      if package.toList.filter packageChar = [] then "invalid"
      else String.ofList (package.toList.filter packageChar) := rfl

theorem sanitized_chars (package : String) :
    ∀ char ∈ (sanitizePackage package).toList, packageChar char = true := by
  rw [sanitizePackage_eq]
  split
  · exact List.all_eq_true.mp (by decide)
  · intro char member
    rw [String.toList_ofList] at member
    exact List.of_mem_filter member

theorem sanitized_ne_empty (package : String) : sanitizePackage package ≠ "" := by
  rw [sanitizePackage_eq]
  split
  · decide
  · rename_i kept
    rwa [ne_eq, ← String.toList_eq_nil_iff, String.toList_ofList]

theorem sanitized_head (package : String) :
    (sanitizePackage package).toList.head? = some '-' ↔
      package.toList.find? packageChar = some '-' := by
  rw [sanitizePackage_eq, ← List.head?_filter]
  split
  · rename_i none
    simp only [none, List.head?_nil, reduceCtorEq, iff_false]
    decide
  · rw [String.toList_ofList]

theorem isOperand_sanitizePackage (package : String) :
    isOperand (sanitizePackage package) ↔ package.toList.find? packageChar ≠ some '-' := by
  rw [isOperand, ne_eq, ne_eq, sanitized_head, ← ne_eq]
  exact ⟨fun operand => operand.2.2,
    fun first => ⟨sanitized_ne_empty package, sanitized_chars package, first⟩⟩

theorem inert_of_packageChar {char : Char} (kept : packageChar char = true) :
    inert char = true := by
  have operator : [char] ∉ operators := by
    intro member
    have others : operators.all (fun operator =>
        operator.length ≠ 1 || operator.all (!packageChar ·)) = true := by decide
    have other := List.all_eq_true.mp others _ member
    simp [kept] at other
  rw [inert, decide_eq_true operator, Bool.and_true, decide_eq_true_eq]
  intro member
  have others : ['\\', '\'', '"', '$', '`', ' ', '\t', '#'].all (!packageChar ·) = true := by decide
  have other := List.all_eq_true.mp others char member
  simp [kept] at other

theorem sanitized_inert (package : String) : inertWord (sanitizePackage package) = true := by
  rw [inertWord, Bool.and_eq_true, decide_eq_true_eq, List.all_eq_true]
  exact ⟨sanitized_ne_empty package,
    fun char member => inert_of_packageChar (sanitized_chars package char member)⟩

/-! ## The two commands -/

theorem packageCmd_eq (manager : PackageManager) (action : PackageAction) (package : String) :
    packageCmd manager action.text package =
      match manager with
      | .winget | .chocolatey =>
          (.cmd, " ".intercalate (manager.fixedWords action) ++ " " ++ sanitizePackage package)
      | _ =>
          (.bash, " ".intercalate (manager.fixedWords action) ++ " " ++ sanitizePackage package ++
            " 2>&1") := by
  cases manager <;> cases action <;>
    simp [packageCmd, PackageManager.fixedWords, PackageAction.text]

theorem fixedWords_plain (manager : PackageManager) (action : PackageAction) :
    (manager.fixedWords action).all inertWord = true := by
  cases manager <;> cases action <;> decide +kernel

theorem patchWords_plain (platform : Platform) : platform.patchWords.all inertWord = true := by
  cases platform <;> decide +kernel

theorem packageCmd_words (manager : PackageManager) (action : PackageAction) (package : String) :
    commandWords (packageCmd manager action.text package) =
      some (manager.fixedWords action ++ [sanitizePackage package]) := by
  have operand : [sanitizePackage package].all inertWord = true := by simp [sanitized_inert]
  have single : " ".intercalate [sanitizePackage package] = sanitizePackage package :=
    String.intercalate_singleton
  have plain := fixedWords_plain manager action
  rw [packageCmd_eq]
  cases manager with
  | winget | chocolatey =>
      exact (commandWords_cmd plain _).trans (by rw [blankWords_word (sanitized_inert package)])
  | apt | dnf | pacman | homebrew =>
      rw [← single]
      cases action <;> exact commandWords_bash (by decide) plain operand

theorem patchCmd_eq (platform : Platform) (patchIds : List String) :
    patchCmd platform patchIds =
      (if platform = .windows then .cmd else .bash,
        " ".intercalate platform.patchWords ++ " " ++ " ".intercalate (patchIds.map sanitizePackage) ++
          " 2>&1") := by
  cases platform <;> simp [patchCmd, Platform.patchWords]

theorem patchCmd_words (platform : Platform) (patchIds : List String) :
    commandWords (patchCmd platform patchIds) =
      some (platform.patchWords ++ patchIds.map sanitizePackage ++ platform.afterPatches) := by
  have operands : (patchIds.map sanitizePackage).all inertWord = true := by simp [sanitized_inert]
  have plain := patchWords_plain platform
  rw [patchCmd_eq]
  cases platform with
  | linux | macos =>
      simp only [Platform.afterPatches, List.append_nil]
      exact commandWords_bash (by decide) plain operands
  | windows =>
      have blank : " 2>&1".toList = ' ' :: "2>&1".toList := by decide
      have redirection : blankWords "2>&1".toList = ["2>&1"] := by decide
      have words : blankWords (" ".intercalate (patchIds.map sanitizePackage) ++ " 2>&1").toList =
          patchIds.map sanitizePackage ++ ["2>&1"] := by
        have single : " ".toList = [' '] := by decide
        rw [String.toList_append, blank, blankWords_append, redirection, String.toList_intercalate,
          single, blankWords_words operands]
      rw [if_pos rfl, String.append_assoc, commandWords_cmd plain, words, List.append_assoc]
      rfl

/-! ## Operands -/

/-- The command is the fixed words with that many operands. -/
def addsOperands (command : ShellType × String) (before after : List String) (count : Nat) : Prop :=
  ∃ operands, operands.length = count ∧ (∀ word ∈ operands, isOperand word) ∧
    commandWords command = some (before ++ operands ++ after)

theorem package_operand_iff (manager : PackageManager) (action : PackageAction) (package : String) :
    addsOperands (packageCmd manager action.text package) (manager.fixedWords action) [] 1 ↔
      package.toList.find? packageChar ≠ some '-' := by
  rw [addsOperands, packageCmd_words, ← isOperand_sanitizePackage]
  constructor
  · rintro ⟨operands, -, each, words⟩
    simp only [List.append_nil, Option.some.injEq, List.append_cancel_left_eq] at words
    exact each _ (words ▸ List.mem_singleton_self _)
  · intro operand
    exact ⟨[sanitizePackage package], rfl, by simpa using operand, by rw [List.append_nil]⟩

theorem patch_operands_iff (platform : Platform) (patchIds : List String) :
    addsOperands (patchCmd platform patchIds) platform.patchWords platform.afterPatches
        patchIds.length ↔
      ∀ id ∈ patchIds, id.toList.find? packageChar ≠ some '-' := by
  simp only [addsOperands, patchCmd_words, ← isOperand_sanitizePackage]
  constructor
  · rintro ⟨operands, -, each, words⟩ id member
    simp only [Option.some.injEq, List.append_cancel_right_eq, List.append_cancel_left_eq] at words
    exact each _ (words ▸ List.mem_map_of_mem member)
  · intro operands
    exact ⟨patchIds.map sanitizePackage, List.length_map _, by simpa using operands, rfl⟩

/-- A package is an operand unless its first kept character is a hyphen. -/
theorem packages_operands (manager : PackageManager) (action : PackageAction) (package : String)
    (platform : Platform) (patchIds : List String) :
    (addsOperands (packageCmd manager action.text package) (manager.fixedWords action) [] 1 ↔
      package.toList.find? packageChar ≠ some '-') ∧
      (addsOperands (patchCmd platform patchIds) platform.patchWords platform.afterPatches
          patchIds.length ↔
        ∀ id ∈ patchIds, id.toList.find? packageChar ≠ some '-') :=
  ⟨package_operand_iff manager action package, patch_operands_iff platform patchIds⟩

/-- `apt-get` reads the package as an option. -/
theorem package_option :
    commandWords (packageCmd .apt PackageAction.install.text "--download-only") =
        some ["apt-get", "install", "-y", "--download-only"] ∧
      ¬ addsOperands (packageCmd .apt PackageAction.install.text "--download-only")
        ["apt-get", "install", "-y"] [] 1 := by
  constructor
  · rw [packageCmd_words]
    decide
  · exact fun adds => (package_operand_iff .apt .install "--download-only").mp adds (by decide)

/-! ## Package jobs -/

structure PackageRequest where
  manager : PackageManager
  action : PackageAction
  package : String
  /-- Only an installation has one. -/
  version : Option String

namespace PackageRequest

def payload (r : PackageRequest) : JobPayload :=
  match r.action with
  | .install => .installPackage r.manager r.package r.version
  | .remove => .uninstallPackage r.manager r.package

/-- The package manager, if it runs at all, gets the package itself. -/
def namesPackage (platform : Platform) (r : PackageRequest) : Prop :=
  ∀ script, r.payload.script platform = some script →
    commandWords (script.shell, script.text) = some (r.manager.fixedWords r.action ++ [r.package])

/-- What runs for a version does not run for another one, or for none. -/
def keepsVersion (platform : Platform) (r : PackageRequest) : Prop :=
  r.action = .install → ∀ version, r.version = some version → ∀ other, other ≠ some version →
    r.payload.script platform ≠ { r with version := other }.payload.script platform

/-- The package is not changed by `sanitize_package`, and any version will do. -/
def plain (r : PackageRequest) : Prop :=
  r.package ≠ "" ∧ (∀ char ∈ r.package.toList, packageChar char = true) ∧
    (r.action = .install → r.version = none)

theorem script_eq (platform : Platform) (r : PackageRequest) :
    r.payload.script platform =
      some ⟨(packageCmd r.manager r.action.text r.package).1,
        (packageCmd r.manager r.action.text r.package).2, 600⟩ := by
  obtain ⟨manager, action, package, version⟩ := r
  cases action <;> rfl

end PackageRequest

theorem sanitizePackage_eq_self (package : String) :
    sanitizePackage package = package ↔
      package ≠ "" ∧ ∀ char ∈ package.toList, packageChar char = true := by
  constructor
  · intro same
    exact same ▸ ⟨sanitized_ne_empty package, sanitized_chars package⟩
  · rintro ⟨some, chars⟩
    have kept : package.toList.filter packageChar = package.toList := List.filter_eq_self.mpr chars
    rw [sanitizePackage_eq, kept, if_neg (String.toList_eq_nil_iff.not.mpr some),
      String.ofList_toList]

theorem namesPackage_iff (platform : Platform) (r : PackageRequest) :
    r.namesPackage platform ↔
      r.package ≠ "" ∧ ∀ char ∈ r.package.toList, packageChar char = true := by
  rw [← sanitizePackage_eq_self, PackageRequest.namesPackage]
  simp only [r.script_eq, Option.some.injEq, forall_eq', Prod.mk.eta, packageCmd_words,
    List.append_cancel_left_eq, List.cons.injEq, and_true]

theorem keepsVersion_iff (platform : Platform) (r : PackageRequest) :
    r.keepsVersion platform ↔ (r.action = .install → r.version = none) := by
  constructor
  · intro kept installs
    cases version : r.version with
    | none => rfl
    | some text =>
        refine absurd ?_ (kept installs text version none (by simp))
        rw [PackageRequest.script_eq, PackageRequest.script_eq]
  · intro none installs version some
    rw [none installs] at some
    cases some

/-- Two package jobs run what they ask for, and different things for different packages, just when
neither package loses a character and neither job asks for a version. -/
theorem package_jobs_exact (platform : Platform) (r other : PackageRequest) :
    (r.namesPackage platform ∧ r.keepsVersion platform ∧
      other.namesPackage platform ∧ other.keepsVersion platform ∧
        (r.package ≠ other.package → r.payload.script platform ≠ other.payload.script platform)) ↔
      r.plain ∧ other.plain := by
  simp only [PackageRequest.plain, ← and_assoc (a := r.package ≠ ""),
    ← and_assoc (a := other.package ≠ ""), ← namesPackage_iff platform, ← keepsVersion_iff platform]
  constructor
  · rintro ⟨names, keeps, otherNames, otherKeeps, -⟩
    exact ⟨⟨names, keeps⟩, otherNames, otherKeeps⟩
  · rintro ⟨⟨names, keeps⟩, otherNames, otherKeeps⟩
    refine ⟨names, keeps, otherNames, otherKeeps, fun different same => different ?_⟩
    have words := names _ (r.script_eq platform)
    have otherWords := otherNames _ (same ▸ r.script_eq platform)
    rw [words, Option.some.injEq] at otherWords
    exact List.singleton_inj.mp (List.append_inj' otherWords rfl).2

theorem package_jobs_same_command :
    (PackageRequest.mk .apt .install "libstdc++6" (some "13.2.0")).payload.script .linux =
        (PackageRequest.mk .apt .install "libstdc6" none).payload.script .linux ∧
      ¬ (PackageRequest.mk .apt .install "libstdc++6" (some "13.2.0")).namesPackage .linux ∧
      ¬ (PackageRequest.mk .apt .install "libstdc++6" (some "13.2.0")).keepsVersion .linux := by
  refine ⟨by decide, ?_, ?_⟩
  · rw [namesPackage_iff]
    exact fun kept => absurd (kept.2 '+' (by decide)) (by decide)
  · rw [keepsVersion_iff]
    exact fun none => by cases none rfl

end OsfmEdm
