import Mathlib.Data.List.TakeWhile
import OsfmEdm.Agent.Executor
import OsfmEdm.Agent.PushFile

/-!
What a `PushFile` job leaves at its destination, on Unix and on Windows.
-/

namespace OsfmEdm

open ShellCommands

/-! ## Unix -/

/-- `base64 -d`: what it writes of an input, and whether it takes all of it. Line feeds may stand
anywhere; anything else that is no digit and no padding is invalid. -/
structure Base64Command where
  run : List Char → List UInt8 × Bool
  decodes : ∀ text bytes, Base64.decode (text.filter (· ≠ '\n')) = some bytes →
    run text = (bytes, true)
  rejects : ∀ text, (run text).2 = true →
    ∀ char ∈ text, char ∈ Base64.alphabet ∨ char = '=' ∨ char = '\n'

/-- A host on which `bash` runs; `room` is what can be written, if that is limited. -/
structure UnixHost where
  base64 : Base64Command
  spawns : Bool
  opens : Bool
  room : Option Nat
  chmods : Bool

/-- `-n`, `-e`, `-E` and what is composed of them. -/
def isEchoOption (word : String) : Bool :=
  match word.toList with
  | '-' :: flag :: flags => (flag :: flags).all (· ∈ ['n', 'e', 'E'])
  | _ => false

/-- What the `echo` of `bash` writes for one word. -/
def echoText (word : String) : List Char :=
  if isEchoOption word then (if 'n' ∈ word.toList then [] else ['\n']) else word.toList ++ ['\n']

namespace UnixHost

/-- A content of the destination, if it exists. -/
abbrev File := Option (List UInt8)

/-- What can be written of some bytes, and whether that is all. -/
def write (host : UnixHost) (bytes : List UInt8) : List UInt8 × Bool :=
  match host.room with
  | none => (bytes, true)
  | some room => (bytes.take room, bytes.length ≤ room)

/-- The commands of a `PushFile`, with the destination as their state. The target of `>` is opened,
and emptied, before the command starts. -/
def exec (host : UnixHost) (command : SimpleCommand) (input : List Char) (file : File) : Ran File :=
  match command.words.map Word.text, command.redirections with
  | ["echo", word], [] => ⟨file, echoText word, 0⟩
  | ["base64", "-d"], [_] =>
      if host.opens then
        let (bytes, decoded) := host.base64.run input
        let (written, all) := host.write bytes
        ⟨some written, [], if decoded && all then 0 else 1⟩
      else ⟨file, [], 1⟩
  | "chmod" :: _, [] => ⟨file, [], if host.chmods then 0 else 1⟩
  | _, _ => ⟨file, [], 127⟩

/-- The exit code that is reported, and the destination then. An argument with a NUL cannot be
passed to `bash`. -/
def push (host : UnixHost) (destination contentB64 : String) (permissions : Option String)
    (file : File) : Int32 × File :=
  let text := (pushFileCmd destination contentB64 permissions).toList
  if '\x00' ∈ text ∨ host.spawns = false then (-1, file)
  else
    match readCommands text with
    | some commands =>
        let ran := runList host.exec file commands
        (Int32.ofNat ran.status, ran.state)
    | none => (2, file)

end UnixHost

/-! ## Windows -/

/-- The code of the `JobCompleted` among the messages. -/
def reportedCode (messages : List AgentMessage) : Option Int32 :=
  messages.findSome? fun message =>
    match message with
    | .jobCompleted _ exitCode => some exitCode
    | _ => none

/-- The destination after `push_file_windows`; `left` is what a failed write leaves. -/
def windowsFile (contentB64 : String) (outcome : FileOutcome) (left file : Option (List UInt8)) :
    Option (List UInt8) :=
  match Base64.decode (trim contentB64), outcome.created, outcome.wrote with
  | some bytes, .ok (), .ok () => some bytes
  | some _, .ok (), .error _ => left
  | _, _, _ => file

/-! ## A run of the command -/

theorem nul_shellQuote (value : String) :
    '\x00' ∈ (shellQuote value).toList ↔ '\x00' ∈ value.toList := by
  simp only [shellQuote, String.toList_ofList, List.mem_append, List.mem_cons, List.not_mem_nil,
    or_false, List.mem_flatMap]
  constructor
  · rintro ((quote | ⟨char, member, escaped⟩) | quote)
    · exact absurd quote (by decide)
    · split at escaped
      · exact absurd escaped (by decide)
      · rwa [List.mem_singleton.mp escaped]
    · exact absurd quote (by decide)
  · exact fun member => .inl (.inr ⟨'\x00', member, by decide⟩)

theorem nul_pushFileCmd {destination contentB64 : String} {permissions : Option String}
    (nul : '\x00' ∈ contentB64.toList) :
    '\x00' ∈ (pushFileCmd destination contentB64 permissions).toList := by
  have quoted := (nul_shellQuote contentB64).mpr nul
  cases permissions <;> simp [pushFileCmd, quoted]

/-- What a command without a NUL does: the file is gone before its new content is checked. -/
theorem push_eq (host : UnixHost) {destination contentB64 : String} {permissions : Option String}
    (sendable : '\x00' ∉ (pushFileCmd destination contentB64 permissions).toList)
    (spawns : host.spawns = true) (file : UnixHost.File) :
    host.push destination contentB64 permissions file =
      if host.opens then
        let ran := host.base64.run (echoText contentB64)
        (if ran.2 ∧ (host.write ran.1).2 ∧ (permissions = none ∨ host.chmods) then 0 else 1,
          some (host.write ran.1).1)
      else (1, file) := by
  have commands := readCommands_pushFileCmd destination contentB64 permissions
  rw [UnixHost.push, if_neg (by simp [sendable, spawns]), commands]
  have echoed (input : List Char) (file : UnixHost.File) :
      host.exec ⟨[plainWord "echo", quotedWord contentB64], []⟩ input file =
        ⟨file, echoText contentB64, 0⟩ := by
    simp [UnixHost.exec]
  have decoded (input : List Char) (file : UnixHost.File) :
      host.exec ⟨[plainWord "base64", plainWord "-d"],
          [⟨none, ['>'], quotedWord destination⟩]⟩ input file =
        if host.opens then ⟨some (host.write (host.base64.run input).1).1, [],
          if (host.base64.run input).2 && (host.write (host.base64.run input).1).2 then 0 else 1⟩
        else ⟨file, [], 1⟩ := by
    simp [UnixHost.exec]
  have changed (perms : String) (input : List Char) (file : UnixHost.File) :
      host.exec ⟨[plainWord "chmod", quotedWord perms, quotedWord destination], []⟩ input file =
        ⟨file, [], if host.chmods then 0 else 1⟩ := by
    simp [UnixHost.exec]
  -- one failure is enough, whichever command it is of
  cases opens : host.opens with
  | false =>
      cases permissions <;>
        simp [pushFileCommands, runList, runAndOr, runPipeline, skips, echoed, decoded, opens]
  | true =>
      cases valid : (host.base64.run (echoText contentB64)).2 <;>
        cases all : (host.write (host.base64.run (echoText contentB64)).1).2 <;>
          cases chmods : host.chmods <;> cases permissions <;>
            simp [pushFileCommands, runList, runAndOr, runPipeline, skips, echoed, decoded, changed,
              opens, valid, all, chmods]

/-! ## Contents -/

def trimWith (p : Char → Bool) (text : List Char) : List Char :=
  ((text.dropWhile p).reverse.dropWhile p).reverse

theorem trim_eq (text : String) : trim text = trimWith isWhiteSpace text.toList := rfl

theorem trimWith_parts (p : Char → Bool) (text : List Char) :
    ∃ lead trail, text = lead ++ (trimWith p text ++ trail) ∧
      (∀ char ∈ lead, p char = true) ∧ ∀ char ∈ trail, p char = true := by
  refine ⟨text.takeWhile p, ((text.dropWhile p).reverse.takeWhile p).reverse, ?_, ?_, ?_⟩
  · rw [trimWith, ← List.reverse_append, List.takeWhile_append_dropWhile, List.reverse_reverse,
      List.takeWhile_append_dropWhile]
  · exact fun char member => List.all_eq_true.mp List.all_takeWhile char member
  · exact fun char member =>
      List.all_eq_true.mp List.all_takeWhile char (List.mem_reverse.mp member)

theorem trimWith_append {p : Char → Bool} {lead core trail : List Char}
    (before : ∀ char ∈ lead, p char = true) (after : ∀ char ∈ trail, p char = true)
    (none : ∀ char ∈ core, p char = false) : trimWith p (lead ++ (core ++ trail)) = core := by
  rw [trimWith, List.dropWhile_append_of_pos before]
  cases core with
  | nil =>
      rw [List.nil_append, List.dropWhile_eq_nil_iff.mpr after]
      rfl
  | cons char rest =>
      have kept : ((char :: rest) ++ trail).dropWhile p = char :: rest ++ trail := by
        simp [none char List.mem_cons_self]
      have last : (char :: rest).reverse.dropWhile p = (char :: rest).reverse := by
        rw [List.dropWhile_eq_self_iff]
        intro bound
        rw [none _ (List.mem_reverse.mp (List.getElem_mem bound))]
        decide
      rw [kept, List.reverse_append,
        List.dropWhile_append_of_pos (fun char member => after char (List.mem_reverse.mp member)),
        last, List.reverse_reverse]

theorem not_base64_of_space {char : Char} (space : isWhiteSpace char = true) :
    char ∉ Base64.alphabet ∧ char ≠ '=' := by
  constructor
  · intro member
    have others : Base64.alphabet.all (!isWhiteSpace ·) = true := by decide
    simpa [space] using List.all_eq_true.mp others char member
  · rintro rfl
    exact absurd space (by decide)

theorem noSpace_of_decode {text : List Char} {bytes : List UInt8}
    (decoded : Base64.decode text = some bytes) : ∀ char ∈ text, isWhiteSpace char = false := by
  intro char member
  cases space : isWhiteSpace char with
  | false => rfl
  | true =>
      obtain ⟨noDigit, noPadding⟩ := not_base64_of_space space
      exact ((Base64.decode_chars decoded char member).elim noDigit noPadding).elim

def isFeed (char : Char) : Bool := char = '\n'

/-- A content that decodes when nothing but line feeds is trimmed. -/
def decodable (contentB64 : String) : Prop :=
  (Base64.decode (trimWith isFeed contentB64.toList)).isSome = true

theorem hyphen_of_option {word : String} (option : isEchoOption word = true) :
    '-' ∈ word.toList := by
  unfold isEchoOption at option
  split at option
  · simp [*]
  · cases option

theorem echoText_eq {word : String} (noHyphen : '-' ∉ word.toList) :
    echoText word = word.toList ++ ['\n'] :=
  if_neg fun option => noHyphen (hyphen_of_option option)

theorem chars_of_decode {contentB64 : String} {bytes : List UInt8}
    (decoded : Base64.decode (trim contentB64) = some bytes) :
    ∀ char ∈ contentB64.toList,
      char ∈ Base64.alphabet ∨ char = '=' ∨ isWhiteSpace char = true := by
  obtain ⟨lead, trail, whole, before, after⟩ := trimWith_parts isWhiteSpace contentB64.toList
  intro char member
  rw [whole, List.mem_append, List.mem_append] at member
  rcases member with first | own | last
  · exact .inr (.inr (before char first))
  · exact (Base64.decode_chars decoded char own).imp_right .inl
  · exact .inr (.inr (after char last))

theorem noHyphen_of_decode {contentB64 : String} {bytes : List UInt8}
    (decoded : Base64.decode (trim contentB64) = some bytes) : '-' ∉ contentB64.toList := by
  intro member
  rcases chars_of_decode decoded '-' member with digit | padding | space
  · exact absurd digit (by decide)
  · exact absurd padding (by decide)
  · exact absurd space (by decide)

theorem decode_of_decodable {contentB64 : String} {bytes : List UInt8}
    (decoded : Base64.decode (trimWith isFeed contentB64.toList) = some bytes) :
    Base64.decode (trim contentB64) = some bytes ∧
      Base64.decode ((echoText contentB64).filter (· ≠ '\n')) = some bytes := by
  obtain ⟨lead, trail, whole, before, after⟩ := trimWith_parts isFeed contentB64.toList
  have spaces {part : List Char} (feeds : ∀ char ∈ part, isFeed char = true) :
      ∀ char ∈ part, isWhiteSpace char = true := by
    intro char member
    rw [show char = '\n' by simpa [isFeed] using feeds char member]
    decide
  have gone {part : List Char} (feeds : ∀ char ∈ part, isFeed char = true) :
      part.filter (· ≠ '\n') = [] := by
    rw [List.filter_eq_nil_iff]
    intro char member
    simpa [isFeed] using feeds char member
  have kept : (trimWith isFeed contentB64.toList).filter (· ≠ '\n') =
      trimWith isFeed contentB64.toList := by
    rw [List.filter_eq_self]
    intro char member
    have space := noSpace_of_decode decoded char member
    refine decide_eq_true fun feed => ?_
    rw [feed] at space
    exact absurd space (by decide)
  have trimmed : trim contentB64 = trimWith isFeed contentB64.toList := by
    conv_lhs => rw [trim_eq, whole]
    exact trimWith_append (spaces before) (spaces after) (noSpace_of_decode decoded)
  have known : Base64.decode (trim contentB64) = some bytes := trimmed ▸ decoded
  refine ⟨known, ?_⟩
  rw [echoText_eq (noHyphen_of_decode known)]
  conv_lhs => rw [whole]
  simp only [List.filter_append, gone before, gone after, kept, List.nil_append]
  simpa using decoded

/-! ## All or nothing -/

/-- A run of the job on Unix that reports zero and leaves the bytes. -/
def unixAccepts (tool : Base64Command) (contentB64 : String) (bytes : List UInt8) : Prop :=
  ∃ host : UnixHost, host.base64 = tool ∧ ∃ destination permissions file,
    host.push destination contentB64 permissions file = (0, some bytes)

def windowsAccepts (contentB64 : String) (bytes : List UInt8) : Prop :=
  ∃ job destination outcome left file,
    reportedCode (pushFileWindows job destination contentB64 outcome) = some 0 ∧
      windowsFile contentB64 outcome left file = some bytes

structure AllOrNothing (tool : Base64Command) (contentB64 : String) : Prop where
  unixWrote : ∀ host : UnixHost, host.base64 = tool → ∀ destination permissions file,
    (host.push destination contentB64 permissions file).1 = 0 →
      ∃ bytes, Base64.decode (trim contentB64) = some bytes ∧
        (host.push destination contentB64 permissions file).2 = some bytes
  unixKept : ∀ host : UnixHost, host.base64 = tool → ∀ destination permissions file,
    (host.push destination contentB64 permissions file).1 ≠ 0 →
      Base64.decode (trim contentB64) = none →
        (host.push destination contentB64 permissions file).2 = file
  windowsWrote : ∀ job destination outcome left file,
    reportedCode (pushFileWindows job destination contentB64 outcome) = some 0 →
      ∃ bytes, Base64.decode (trim contentB64) = some bytes ∧
        windowsFile contentB64 outcome left file = some bytes
  windowsKept : ∀ job destination outcome left file,
    reportedCode (pushFileWindows job destination contentB64 outcome) ≠ some 0 →
      Base64.decode (trim contentB64) = none → windowsFile contentB64 outcome left file = file
  same : ∀ bytes, unixAccepts tool contentB64 bytes ↔ windowsAccepts contentB64 bytes

/-- On Windows the bytes are decoded before the destination is touched. -/
theorem windows_wrote {job : Uuid} {destination contentB64 : String} {outcome : FileOutcome}
    (zero : reportedCode (pushFileWindows job destination contentB64 outcome) = some 0)
    (left file : Option (List UInt8)) :
    ∃ bytes, Base64.decode (trim contentB64) = some bytes ∧
      windowsFile contentB64 outcome left file = some bytes := by
  obtain ⟨decodeError, created, wrote⟩ := outcome
  cases decoded : Base64.decode (trim contentB64) with
  | none => simp [pushFileWindows, decoded, reportedCode] at zero
  | some bytes =>
      cases created with
      | error => simp [pushFileWindows, decoded, reportedCode] at zero
      | ok =>
          cases wrote with
          | error => simp [pushFileWindows, decoded, reportedCode] at zero
          | ok => exact ⟨bytes, rfl, by simp [windowsFile, decoded]⟩

theorem windowsAccepts_iff (contentB64 : String) (bytes : List UInt8) :
    windowsAccepts contentB64 bytes ↔ Base64.decode (trim contentB64) = some bytes := by
  constructor
  · rintro ⟨job, destination, outcome, left, file, zero, written⟩
    obtain ⟨own, decoded, whole⟩ := windows_wrote zero left file
    rw [written] at whole
    rwa [Option.some.inj whole]
  · intro decoded
    refine ⟨.small 0, "", ⟨"", .ok (), .ok ()⟩, none, none, ?_, ?_⟩
    · simp [pushFileWindows, decoded, reportedCode]
    · simp [windowsFile, decoded]

/-- A host on which nothing but the decoding can fail. -/
def UnixHost.working (tool : Base64Command) : UnixHost where
  base64 := tool
  spawns := true
  opens := true
  room := none
  chmods := true

theorem push_working (tool : Base64Command) {contentB64 : String}
    (noNul : '\x00' ∉ contentB64.toList) (file : UnixHost.File) :
    (UnixHost.working tool).push "f" contentB64 none file =
      (if (tool.run (echoText contentB64)).2 then 0 else 1,
        some (tool.run (echoText contentB64)).1) := by
  have sendable : '\x00' ∉ (pushFileCmd "f" contentB64 none).toList := by
    have quoted := (nul_shellQuote contentB64).not.mpr noNul
    have others : '\x00' ∉ "echo ".toList ∧ '\x00' ∉ " | base64 -d > ".toList ∧
      '\x00' ∉ (shellQuote "f").toList := by decide
    simp [pushFileCmd, quoted, others]
  rw [push_eq _ sendable rfl]
  simp [UnixHost.working, UnixHost.write]

theorem write_all {host : UnixHost} {bytes : List UInt8} (all : (host.write bytes).2 = true) :
    (host.write bytes).1 = bytes := by
  unfold UnixHost.write at all ⊢
  split at all
  · rfl
  · exact List.take_of_length_le (of_decide_eq_true all)

/-- Where the command reports zero, `base64` has taken all that `echo` gave it. -/
theorem push_zero {host : UnixHost} {destination contentB64 : String}
    {permissions : Option String} {file : UnixHost.File}
    (zero : (host.push destination contentB64 permissions file).1 = 0) :
    '\x00' ∉ contentB64.toList ∧ (host.base64.run (echoText contentB64)).2 = true ∧
      (host.push destination contentB64 permissions file).2 =
        some (host.base64.run (echoText contentB64)).1 := by
  by_cases refused : '\x00' ∈ (pushFileCmd destination contentB64 permissions).toList ∨
      host.spawns = false
  · rw [UnixHost.push, if_pos refused] at zero
    exact absurd (show (-1 : Int32) = 0 from zero) (by decide)
  · rw [not_or, Bool.not_eq_false] at refused
    obtain ⟨sendable, spawns⟩ := refused
    rw [push_eq host sendable spawns] at zero ⊢
    cases opens : host.opens with
    | false =>
        rw [opens] at zero
        exact absurd (show (1 : Int32) = 0 from zero) (by decide)
    | true =>
        simp only [opens, if_true] at zero ⊢
        split at zero
        · rename_i done
          exact ⟨fun nul => sendable (nul_pushFileCmd nul), done.1, by rw [write_all done.2.1]⟩
        · exact absurd zero (by decide)

theorem push_nul (host : UnixHost) {contentB64 : String} (nul : '\x00' ∈ contentB64.toList)
    (destination : String) (permissions : Option String) (file : UnixHost.File) :
    host.push destination contentB64 permissions file = (-1, file) :=
  if_pos (.inl (nul_pushFileCmd nul))

theorem noNul_of_decode {contentB64 : String} {bytes : List UInt8}
    (decoded : Base64.decode (trim contentB64) = some bytes) : '\x00' ∉ contentB64.toList := by
  intro member
  rcases chars_of_decode decoded '\x00' member with digit | padding | space
  · exact absurd digit (by decide)
  · exact absurd padding (by decide)
  · exact absurd space (by decide)

/-- What `base64` takes has nothing but line feeds around it. -/
theorem decodable_of_taken {tool : Base64Command} {contentB64 : String} {bytes : List UInt8}
    (decoded : Base64.decode (trim contentB64) = some bytes)
    (taken : (tool.run (echoText contentB64)).2 = true) : decodable contentB64 := by
  rw [echoText_eq (noHyphen_of_decode decoded)] at taken
  obtain ⟨lead, trail, whole, before, after⟩ := trimWith_parts isWhiteSpace contentB64.toList
  have feeds {part : List Char} (within : ∀ char ∈ part, char ∈ contentB64.toList)
      (spaces : ∀ char ∈ part, isWhiteSpace char = true) : ∀ char ∈ part, isFeed char = true := by
    intro char member
    obtain ⟨noDigit, noPadding⟩ := not_base64_of_space (spaces char member)
    rcases tool.rejects _ taken char (List.mem_append_left _ (within char member)) with
      digit | padding | feed
    · exact absurd digit noDigit
    · exact absurd padding noPadding
    · exact decide_eq_true feed
  have core : ∀ char ∈ trimWith isWhiteSpace contentB64.toList, isFeed char = false := by
    intro char member
    have space := noSpace_of_decode decoded char member
    refine decide_eq_false fun feed => ?_
    rw [feed] at space
    exact absurd space (by decide)
  have trimmed : trimWith isFeed contentB64.toList = trim contentB64 := by
    conv_lhs => rw [whole]
    refine trimWith_append (feeds ?_ before) (feeds ?_ after) core
    · exact fun char member => whole ▸ List.mem_append_left _ member
    · exact fun char member => whole ▸ List.mem_append_right _ (List.mem_append_right _ member)
  rw [decodable, trimmed, decoded]
  rfl

theorem windows_kept {contentB64 : String} (undecoded : Base64.decode (trim contentB64) = none)
    (outcome : FileOutcome) (left file : Option (List UInt8)) :
    windowsFile contentB64 outcome left file = file := by
  simp [windowsFile, undecoded]

theorem allOrNothing_nul (tool : Base64Command) {contentB64 : String}
    (nul : '\x00' ∈ contentB64.toList) : AllOrNothing tool contentB64 where
  unixWrote := fun _ _ _ _ _ zero => absurd nul (push_zero zero).1
  unixKept := fun host _ destination permissions file _ _ => by rw [push_nul host nul]
  windowsWrote := fun _ _ _ left file zero => windows_wrote zero left file
  windowsKept := fun _ _ outcome left file _ undecoded => windows_kept undecoded outcome left file
  same := by
    intro bytes
    rw [windowsAccepts_iff]
    constructor
    · rintro ⟨host, -, destination, permissions, file, pushed⟩
      exact absurd nul (push_zero (congrArg Prod.fst pushed)).1
    · exact fun decoded => absurd nul (noNul_of_decode decoded)

theorem allOrNothing_decodable (tool : Base64Command) {contentB64 : String} {bytes : List UInt8}
    (decoded : Base64.decode (trimWith isFeed contentB64.toList) = some bytes) :
    AllOrNothing tool contentB64 := by
  obtain ⟨known, echoed⟩ := decode_of_decodable decoded
  have ran : tool.run (echoText contentB64) = (bytes, true) := tool.decodes _ bytes echoed
  refine ⟨?_, ?_, fun _ _ _ left file zero => windows_wrote zero left file,
    fun _ _ outcome left file _ undecoded => windows_kept undecoded outcome left file, ?_⟩
  · intro host own destination permissions file zero
    refine ⟨bytes, known, ?_⟩
    rw [(push_zero zero).2.2, own, ran]
  · intro host own destination permissions file failed undecoded
    rw [known] at undecoded
    cases undecoded
  · intro other
    rw [windowsAccepts_iff, known]
    constructor
    · rintro ⟨host, own, destination, permissions, file, pushed⟩
      have wrote := (push_zero (congrArg Prod.fst pushed)).2.2
      rw [pushed, own, ran] at wrote
      exact wrote.symm
    · intro same
      cases same
      refine ⟨.working tool, rfl, "f", none, none, ?_⟩
      rw [push_working tool (noNul_of_decode known), ran]
      rfl

/-- A decoder that writes group by group. -/
def groupwise : Base64Command where
  run text := Base64.decodeGroups (text.filter (· ≠ '\n'))
  decodes _ _ decoded := Base64.decodeGroups_of_decode decoded
  rejects text valid char member := by
    by_cases feed : char = '\n'
    · exact .inr (.inr feed)
    · have kept : char ∈ text.filter (· ≠ '\n') := List.mem_filter.mpr ⟨member, decide_eq_true feed⟩
      exact (Base64.decodeGroups_chars valid char kept).imp_right .inl

end OsfmEdm
