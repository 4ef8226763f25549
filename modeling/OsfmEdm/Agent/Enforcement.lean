import OsfmEdm.Agent.Commands
import OsfmEdm.Agent.Probes
import OsfmEdm.Library.LastWrite

/-!
What the enforcers change of what the probes find (`policy/enforcers`), where the commands they run
succeed, and when a policy that was met is met no more at the end of `evaluate_policies`.
-/

namespace OsfmEdm

open JsonText LastWrite

/-- `kill_blacklisted_processes`. -/
def killBlacklisted (processes deny : List String) : List String :=
  processes.filter fun name => !deny.any fun denied => decide (denied.toList <:+: name.toList)

/-- A value is set by the command that reads it: without the command nothing changes. -/
def CommandResult.set (result : CommandResult) (text : List Char) : CommandResult :=
  result.map fun _ => printed text

/-! ## Linux -/

def autoUpgradesOff : String :=
  "APT::Periodic::Update-Package-Lists \"0\";\nAPT::Periodic::Unattended-Upgrade \"0\";\n"

def autoUpgradesOn : String :=
  "APT::Periodic::Update-Package-Lists \"1\";\nAPT::Periodic::Unattended-Upgrade \"1\";\n"

/-- `gsettings get` of a number of seconds. -/
def idleText (secs : UInt32) : List Char := "uint32".toList ++ ' ' :: (writeNat secs.toNat ++ ['\n'])

/-- No probe reads the modprobe blacklist and the `authorized` files, or what `xfconf-query` and
`xset` set where there is no `gsettings`. -/
def LinuxMachine.enforce (machine : LinuxMachine) : Enforcement → LinuxMachine
  | .firewall => { machine with ufw := CommandResult.set machine.ufw "Status: active\n".toList }
  | .usbStorage _ => machine
  | .screenLock timeoutMinutes _ =>
      { machine with
        idleDelay := CommandResult.set machine.idleDelay (idleText (timeoutMinutes * 60))
        lockEnabled :=
          if machine.idleDelay.isSome then some (printed "true\n".toList) else machine.lockEnabled }
  | .autoUpdates policy =>
      { machine with
        autoUpgrades := match policy with
          | .disabled => machine.autoUpgrades.map fun _ => utf8 autoUpgradesOff.toList
          | .securityOnly | .all => some (utf8 autoUpgradesOn.toList) }
  | .killBlacklisted deny => { machine with processes := killBlacklisted machine.processes deny }

/-! ## Windows -/

/-- `reg query` of one value. -/
def regText (key name kind : String) (data : List Char) : List Char :=
  ("\r\n" ++ key ++ "\r\n    " ++ name ++ "    " ++ kind ++ "   ").toList ++ ' ' :: (data ++
    "\r\n\r\n".toList)

def USBSTOR : String := "HKEY_LOCAL_MACHINE\\SYSTEM\\CurrentControlSet\\Services\\USBSTOR"

def DESKTOP : String := "HKEY_CURRENT_USER\\Control Panel\\Desktop"

def WINDOWS_UPDATE : String :=
  "HKEY_LOCAL_MACHINE\\SOFTWARE\\Policies\\Microsoft\\Windows\\WindowsUpdate\\AU"

/-- `timeout_minutes.max(1) * 60`. -/
def screenSaverSecs (timeoutMinutes : UInt32) : UInt32 :=
  (if timeoutMinutes = 0 then 1 else timeoutMinutes) * 60

def auOption : UpdatePolicy → String
  | .disabled => "0x1"
  | .securityOnly => "0x3"
  | .all => "0x4"

/-- No probe reads what `powercfg` sets. -/
def WindowsMachine.enforce (machine : WindowsMachine) : Enforcement → WindowsMachine
  | .firewall =>
      { machine with netsh := CommandResult.set machine.netsh "State                 ON".toList }
  | .usbStorage allow =>
      { machine with
        usbstor := CommandResult.set machine.usbstor
          (regText USBSTOR "Start" "REG_DWORD" (if allow then "0x3" else "0x4").toList) }
  | .screenLock timeoutMinutes requirePassword =>
      { machine with
        screenSaveTimeOut := CommandResult.set machine.screenSaveTimeOut
          (regText DESKTOP "ScreenSaveTimeOut" "REG_SZ"
            (writeNat (screenSaverSecs timeoutMinutes).toNat))
        screenSaverIsSecure := CommandResult.set machine.screenSaverIsSecure
          (regText DESKTOP "ScreenSaverIsSecure" "REG_SZ"
            (if requirePassword then "1" else "0").toList) }
  | .autoUpdates policy =>
      { machine with
        auOptions := CommandResult.set machine.auOptions
          (regText WINDOWS_UPDATE "AUOptions" "REG_DWORD" (auOption policy).toList) }
  | .killBlacklisted deny => { machine with processes := killBlacklisted machine.processes deny }

/-! ## macOS -/

/-- No probe reads what `pmset` sets, the stealth mode, the property list for USB storage, or the
other update settings. -/
def MacosMachine.enforce (machine : MacosMachine) : Enforcement → MacosMachine
  | .firewall =>
      { machine with
        socketfilterfw := CommandResult.set machine.socketfilterfw
          "Firewall is enabled. (State = 1)\n".toList }
  | .usbStorage _ => machine
  | .screenLock _ requirePassword =>
      if requirePassword then
        { machine with
          askForPassword := CommandResult.set machine.askForPassword "1\n".toList
          askForPasswordDelay := CommandResult.set machine.askForPasswordDelay "5\n".toList }
      else machine
  | .autoUpdates policy =>
      { machine with
        automaticCheckEnabled := CommandResult.set machine.automaticCheckEnabled
          (if policy = .disabled then "0\n" else "1\n").toList }
  | .killBlacklisted deny => { machine with processes := killBlacklisted machine.processes deny }

/-! ## Rules that are met -/

section

variable {host : Host}

theorem met_firewall {enabled : Bool} : checkRule host (.firewall enabled) = none ↔
    (enabled = true → host.firewallEnabled = true) := by
  cases enabled <;> cases reads : host.firewallEnabled <;> simp [checkRule, reads]

theorem met_usbStorage {allow : Bool} : checkRule host (.usbStorage allow) = none ↔
    (allow = true ∨ host.usbStorageLoaded = false) := by
  cases allow <;> cases reads : host.usbStorageLoaded <;> simp [checkRule, reads]

theorem met_screenLock {timeoutMinutes : UInt32} {requirePassword : Bool} :
    checkRule host (.screenLock timeoutMinutes requirePassword) = none ↔
      (timeoutMinutes = 0 ∧ requirePassword = false) ∨
        host.screenLock timeoutMinutes requirePassword = .ok () := by
  rw [checkRule]
  split
  · rename_i free
    exact iff_of_true rfl (.inl (by simpa using free))
  · rename_i asked
    cases reads : host.screenLock timeoutMinutes requirePassword with
    | ok => simp
    | error => simpa using asked

theorem met_osUpdate {autoInstall : UpdatePolicy} {rebootWindow : Option String} :
    checkRule host (.osUpdate autoInstall rebootWindow) = none ↔
      (autoInstall = .disabled ∨ host.autoUpdates = true) := by
  cases autoInstall <;> cases reads : host.autoUpdates <;> simp [checkRule, reads]

theorem met_processBlacklist {deny : List String} :
    checkRule host (.processBlacklist deny) = none ↔ host.blacklisted deny = [] := by
  cases deny with
  | nil => simp [checkRule, Host.blacklisted]
  | cons denied deny =>
      rw [checkRule]
      cases host.blacklisted (denied :: deny) <;> simp

end

theorem blacklisted_killed {host after : Host} {deny denied : List String}
    (processes : after.processes = killBlacklisted host.processes denied)
    (none : host.blacklisted deny = []) : after.blacklisted deny = [] := by
  rw [Host.blacklisted, List.filter_eq_nil_iff] at none ⊢
  intro name member
  rw [processes] at member
  exact none name (List.mem_of_mem_filter member)

/-! ## Commands that print what was set -/

@[simp] theorem isSome_set (result : CommandResult) (text : List Char) :
    (CommandResult.set result text).isSome = result.isSome := by
  cases result <;> rfl

theorem mentions_set (result : CommandResult) (text : List Char) (part : String) :
    (CommandResult.set result text).mentions part false =
      (result.isSome && containsText text part) := by
  cases result with
  | none => rfl
  | some output => simp [CommandResult.set, CommandResult.mentions]

theorem isSome_of_mentions {result : CommandResult} {part : String}
    (mentions : result.mentions part false = true) : result.isSome = true := by
  cases result with
  | none => cases mentions
  | some => rfl

theorem set_of_isSome {result : CommandResult} {text : List Char} (there : result.isSome = true) :
    CommandResult.set result text = some (printed text) := by
  obtain ⟨output, rfl⟩ := Option.isSome_iff_exists.mp there
  rfl

theorem lastNumber_idleText (secs : UInt32) : lastNumber parseU32 (idleText secs) = some secs :=
  lastNumber_append ' ' '\n' (by decide +kernel) (by decide +kernel) (writeNat_noSpace _) rfl
    (writeNat_ne_nil _) (parseU32_writeNat secs)

theorem lastNumber_regText (key name kind : String) (secs : UInt32) :
    lastNumber parseRegistry (regText key name kind (writeNat secs.toNat)) = some secs :=
  lastNumber_append ' ' '\r' (by decide +kernel) (by decide +kernel) (writeNat_noSpace _)
    (by decide +kernel) (writeNat_ne_nil _) (parseRegistry_writeNat secs)

end OsfmEdm
