import OsfmEdm.Agent.Executor
import OsfmEdm.Agent.PolicyEngine
import OsfmEdm.Library.JsonRoundTrip
import OsfmEdm.Library.Lines
import OsfmEdm.Library.Utf8Reader

/-!
The probes of the policy engine (`policy/engine.rs`): the checks of each platform, as functions of
what the commands they run have given.
-/

namespace OsfmEdm

open JsonText Lines Utf8Lossy

/-! ## Commands and their texts -/

/-- `std::process::Output`. -/
structure Output where
  success : Bool
  stdout : List UInt8
deriving DecidableEq

/-- `Command::output()`; none where the command is not found. -/
abbrev CommandResult := Option Output

def Output.text (output : Output) : List Char := lossyText output.stdout

/-- The result of a command that prints a text and exits with zero. -/
def printed (text : List Char) : Output := { success := true, stdout := utf8 text }

@[simp] theorem text_printed (text : List Char) : (printed text).text = text := lossyText_utf8 text

/-- `str::contains`. -/
def containsText (text : List Char) (part : String) : Bool := decide (part.toList <:+: text)

/-- Whether the command has been run and its output has the part; `otherwise` where it has not. -/
def CommandResult.mentions (result : CommandResult) (part : String) (otherwise : Bool) : Bool :=
  match result with
  | some output => containsText output.text part
  | none => otherwise

/-- `str::lines`: the lines without their line ends, and what stands after the last of these. -/
def textLines (text : List Char) : List (List Char) :=
  (text.splitOn '\n').dropLast.map (chop '\r') ++
    (text.splitOn '\n').getLast?.toList.filter (!·.isEmpty)

theorem textLines_append_cons {line : List Char} (one : '\n' ∉ line) (rest : List Char) :
    textLines (line ++ '\n' :: rest) = chop '\r' line :: textLines rest := by
  have parts := List.splitOn_ne_nil '\n' rest
  rw [textLines, List.splitOn_append_cons_self_of_not_mem one, List.getLast?_cons_of_ne_nil parts,
    List.dropLast_cons_of_ne_nil parts]
  rfl

/-- `str::split_whitespace`. -/
def splitWhitespace (text : List Char) : List (List Char) :=
  (text.splitOnP isWhiteSpace).filter (!·.isEmpty)

def dropPlus : List Char → List Char
  | '+' :: rest => rest
  | token => token

/-- `u32::from_str_radix`. -/
def parseRadix (base : Nat) (digit? : Char → Option Nat) (token : List Char) : Option UInt32 :=
  if (dropPlus token).isEmpty then none
  else
    ((dropPlus token).foldlM (fun value char => (digit? char).map (base * value + ·)) 0).bind fun value =>
      if value < 2 ^ 32 then some (UInt32.ofNat value) else none

def parseU32 (token : List Char) : Option UInt32 :=
  parseRadix 10 (fun char => (digitValue? char).map Fin.val) token

/-- `trim_start_matches("0x")`. -/
def trimHex : List Char → List Char
  | '0' :: 'x' :: rest => trimHex rest
  | token => token

/-- The tokens `check_screen_lock_windows` takes for a number. -/
def parseRegistry (token : List Char) : Option UInt32 :=
  match parseU32 (trimHex token) with
  | some value => some value
  | none =>
      if "0x".toList.isPrefixOf token then parseRadix 16 hexValue? (trimHex token) else none

/-- The last token that is a number. -/
def lastNumber (parse : List Char → Option UInt32) (text : List Char) : Option UInt32 :=
  (splitWhitespace text).reverse.findSome? parse

/-- `timeout_minutes.saturating_mul(60)`. -/
def maxSecs (timeoutMinutes : UInt32) : UInt32 :=
  if timeoutMinutes.toNat * 60 < 2 ^ 32 then timeoutMinutes * 60 else 0xFFFFFFFF

theorem maxSecs_lt_iff (timeoutMinutes secs : UInt32) :
    secs > maxSecs timeoutMinutes ↔ 60 * timeoutMinutes.toNat < secs.toNat := by
  have bound := secs.toNat_lt
  rw [gt_iff_lt, UInt32.lt_iff_toNat_lt, maxSecs]
  split
  · rename_i small
    rw [UInt32.toNat_mul, Nat.mod_eq_of_lt (by simpa using small)]
    simp only [UInt32.reduceToNat]
    omega
  · rename_i large
    simp only [UInt32.reduceToNat]
    omega

theorem within_iff {limit secs : UInt32} :
    ¬(limit > 0 ∧ secs > maxSecs limit) ↔ limit = 0 ∨ secs ≤ maxSecs limit := by
  rw [not_and_or, UInt32.not_lt, UInt32.not_lt, UInt32.le_zero_iff]

/-! ## Linux -/

def checkScreenLockLinux (idleDelay lockEnabled : CommandResult) (timeoutMinutes : UInt32)
    (requirePassword : Bool) : Except String Unit :=
  match idleDelay with
  | none => .error "could not read screen-lock settings (gsettings missing)"
  | some out =>
      let lock : Except String Unit :=
        if requirePassword && !lockEnabled.mentions "true" false then
          .error "screensaver lock-enabled is not true"
        else .ok ()
      match lastNumber parseU32 out.text with
      | some secs =>
          if timeoutMinutes > 0 ∧ secs > maxSecs timeoutMinutes then
            .error ("idle-delay is " ++ toString secs.toNat ++ "s, policy max " ++
              toString (maxSecs timeoutMinutes).toNat ++ "s")
          else lock
      | none => lock

/-- What the checks find on Linux: `ufw status`, `lsmod`, `gsettings get` of `idle-delay` and of
`lock-enabled`, the file `/etc/apt/apt.conf.d/20auto-upgrades` and the running processes. -/
structure LinuxMachine where
  ufw : CommandResult
  lsmod : CommandResult
  idleDelay : CommandResult
  lockEnabled : CommandResult
  autoUpgrades : Option (List UInt8)
  processes : List String

def LinuxMachine.host (machine : LinuxMachine) : Host where
  firewallEnabled := machine.ufw.mentions "active" false
  usbStorageLoaded := machine.lsmod.mentions "usb_storage" false
  screenLock := checkScreenLockLinux machine.idleDelay machine.lockEnabled
  autoUpdates := machine.autoUpgrades.isSome
  processes := machine.processes
  now := 0

/-! ## Windows -/

def checkScreenLockWindows (timeOut isSecure : CommandResult) (timeoutMinutes : UInt32)
    (requirePassword : Bool) : Except String Unit :=
  match timeOut with
  | none => .error "could not query ScreenSaveTimeOut"
  | some out =>
      let secure : Except String Unit :=
        if requirePassword then
          match isSecure with
          | none => .error "could not query ScreenSaverIsSecure"
          | some out =>
              if !containsText out.text "1" then .error "ScreenSaverIsSecure is not 1" else .ok ()
        else .ok ()
      match lastNumber parseRegistry out.text with
      | some secs =>
          if timeoutMinutes > 0 ∧ secs > maxSecs timeoutMinutes then
            .error ("ScreenSaveTimeOut is " ++ toString secs.toNat ++ "s, policy max " ++
              toString (maxSecs timeoutMinutes).toNat ++ "s")
          else secure
      | none => secure

/-- What the checks find on Windows: `netsh advfirewall show allprofiles state`, and `reg query` of
`Start` of USBSTOR, `ScreenSaveTimeOut`, `ScreenSaverIsSecure` and `AUOptions`. -/
structure WindowsMachine where
  netsh : CommandResult
  usbstor : CommandResult
  screenSaveTimeOut : CommandResult
  screenSaverIsSecure : CommandResult
  auOptions : CommandResult
  processes : List String

def WindowsMachine.host (machine : WindowsMachine) : Host where
  firewallEnabled := machine.netsh.mentions "ON" false
  usbStorageLoaded := !machine.usbstor.mentions "0x4" false
  screenLock := checkScreenLockWindows machine.screenSaveTimeOut machine.screenSaverIsSecure
  autoUpdates := machine.auOptions.mentions "0x3" false || machine.auOptions.mentions "0x4" false
  processes := machine.processes
  now := 0

/-! ## macOS -/

/-- The source leaves out a `&` before `out.stdout` where the delay is read. -/
def checkScreenLockMacos (ask delay : CommandResult) (timeoutMinutes : UInt32)
    (requirePassword : Bool) : Except String Unit :=
  match ask with
  | none => .error "could not read askForPassword"
  | some out =>
      if requirePassword && !containsText out.text "1" then .error "askForPassword is not 1"
      else
        match delay with
        | none => .error "could not read askForPasswordDelay"
        | some out =>
            let secs := ((splitWhitespace out.text).findSome? parseU32).getD 0xFFFFFFFF
            if timeoutMinutes > 0 ∧ secs > maxSecs timeoutMinutes then
              .error ("askForPasswordDelay is " ++ toString secs.toNat ++ "s, policy max " ++
                toString (maxSecs timeoutMinutes).toNat ++ "s")
            else .ok ()

/-- What the checks find on macOS: `socketfilterfw --getglobalstate`, and `defaults read` of
`askForPassword`, `askForPasswordDelay` and `AutomaticCheckEnabled`. -/
structure MacosMachine where
  socketfilterfw : CommandResult
  askForPassword : CommandResult
  askForPasswordDelay : CommandResult
  automaticCheckEnabled : CommandResult
  processes : List String

def MacosMachine.host (machine : MacosMachine) : Host where
  firewallEnabled := machine.socketfilterfw.mentions "enabled" false
  usbStorageLoaded := false
  screenLock := checkScreenLockMacos machine.askForPassword machine.askForPasswordDelay
  autoUpdates := machine.automaticCheckEnabled.mentions "1" false
  processes := machine.processes
  now := 0

/-! ## Numbers -/

theorem writeNat_noSpace (value : Nat) : ∀ char ∈ writeNat value, isWhiteSpace char = false :=
  forall_mem_writeNat (by decide +kernel) value

theorem dropPlus_of_plain {token : List Char} (plain : ∀ char ∈ token, char ≠ '+') :
    dropPlus token = token := by
  unfold dropPlus
  split
  · exact absurd rfl (plain '+' List.mem_cons_self)
  · rfl

theorem dropPlus_writeNat (value : Nat) : dropPlus (writeNat value) = writeNat value :=
  dropPlus_of_plain (forall_mem_writeNat (fun digit => (digitChar_ne_sign digit).2) value)

theorem foldlM_digits (digits : List (Fin 10)) (value : Nat) :
    (digits.map digitChar).foldlM
        (fun value char => ((digitValue? char).map Fin.val).map (10 * value + ·)) value =
      some (digits.foldl (fun value digit => 10 * value + digit.val) value) := by
  induction digits generalizing value with
  | nil => rfl
  | cons digit digits ih =>
      rw [List.map_cons, List.foldlM_cons, digitValue_digitChar]
      exact ih _

theorem foldlM_writeNat (value : Nat) :
    (writeNat value).foldlM
        (fun value char => ((digitValue? char).map Fin.val).map (10 * value + ·)) 0 =
      some value := by
  have whole := natDigits_value value
  unfold digitsValue at whole
  rw [writeNat, foldlM_digits, whole]

theorem parseU32_writeNat (value : UInt32) : parseU32 (writeNat value.toNat) = some value := by
  have filled : (writeNat value.toNat).isEmpty = false :=
    List.isEmpty_eq_false_iff.mpr (writeNat_ne_nil _)
  rw [parseU32, parseRadix, dropPlus_writeNat, filled, if_neg (by decide), foldlM_writeNat,
    Option.bind_some, if_pos value.toNat_lt, UInt32.ofNat_toNat]

theorem trimHex_writeNat (value : Nat) : trimHex (writeNat value) = writeNat value := by
  unfold trimHex
  split
  · rename_i rest same
    have digit : 'x' ∈ writeNat value := by simp [same]
    have plain : ∀ char ∈ writeNat value, char ≠ 'x' := forall_mem_writeNat (by decide) value
    exact absurd rfl (plain 'x' digit)
  · rfl

theorem parseRegistry_writeNat (value : UInt32) :
    parseRegistry (writeNat value.toNat) = some value := by
  rw [parseRegistry, trimHex_writeNat, parseU32_writeNat]

theorem lastNumber_append {parse : List Char → Option UInt32} {before token after : List Char}
    {value : UInt32} (space last : Char) (spaced : isWhiteSpace space = true)
    (ended : isWhiteSpace last = true) (one : ∀ char ∈ token, isWhiteSpace char = false)
    (blank : splitWhitespace after = []) (filled : token ≠ []) (parsed : parse token = some value) :
    lastNumber parse (before ++ space :: (token ++ last :: after)) = some value := by
  have own : splitWhitespace (token ++ last :: after) = [token] := by
    rw [splitWhitespace] at blank
    rw [splitWhitespace, List.splitOnP_append_cons_of_forall_mem one _ ended, List.filter_cons, blank]
    simp [filled]
  have tokens : splitWhitespace (before ++ space :: (token ++ last :: after)) =
      splitWhitespace before ++ [token] := by
    rw [← own]
    simp only [splitWhitespace, List.splitOnP_append_cons before _ spaced, List.filter_append]
  simp [lastNumber, tokens, parsed]

end OsfmEdm
