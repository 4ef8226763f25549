import OsfmEdm.Agent.Enforcement
import OsfmEdm.Library.Lines

/-!
What the Linux probes prove of the machine.
-/

namespace OsfmEdm

open JsonText Lines

/-! ## Firewall, USB storage and updates -/

/-- `lsmod` has a line for the module. -/
def listsModule (text : List Char) (name : String) : Prop :=
  ∃ line ∈ text.splitOn '\n', (splitWhitespace line).head? = some name.toList

theorem infix_of_mem_splitWhitespace {text word : List Char} (member : word ∈ splitWhitespace text) :
    word <:+: text :=
  infix_of_mem_splitOnP (List.mem_of_mem_filter member)

theorem contains_of_listsModule {text : List Char} {name : String} (lists : listsModule text name) :
    containsText text name = true := by
  obtain ⟨line, member, first⟩ := lists
  rw [List.splitOn_eq_splitOnP] at member
  refine decide_eq_true ((infix_of_mem_splitWhitespace ?_).trans (infix_of_mem_splitOnP member))
  exact List.mem_of_mem_head? first

/-- `ufw status` says that the firewall is active. -/
def UfwActive (ufw : CommandResult) : Prop :=
  ∃ out, ufw = some out ∧ containsText out.text "Status: active" = true

/-- `lsmod` has run and lists no module for USB storage. -/
def UsbUnloaded (lsmod : CommandResult) : Prop :=
  ∃ out, lsmod = some out ∧ out.success = true ∧ ¬ listsModule out.text "usb_storage"

theorem firewall_probe_iff (machine : LinuxMachine) :
    (checkRule machine.host (.firewall true) = none → UfwActive machine.ufw) ↔
      ∀ out, machine.ufw = some out → containsText out.text "active" = true →
        containsText out.text "Status: active" = true := by
  rw [met_firewall]
  simp only [forall_const, LinuxMachine.host, UfwActive]
  cases machine.ufw with
  | none => simp [CommandResult.mentions]
  | some out => simp [CommandResult.mentions]

theorem usb_probe_iff (machine : LinuxMachine) :
    (checkRule machine.host (.usbStorage false) = none → UsbUnloaded machine.lsmod) ↔
      ∃ out, machine.lsmod = some out ∧
        (out.success = true ∨ containsText out.text "usb_storage" = true) := by
  rw [met_usbStorage]
  simp only [Bool.false_eq_true, false_or, LinuxMachine.host, UsbUnloaded]
  cases machine.lsmod with
  | none => simp [CommandResult.mentions]
  | some out =>
      simp only [CommandResult.mentions, Option.some.injEq, exists_eq_left']
      cases mentioned : containsText out.text "usb_storage" with
      | true => simp
      | false =>
          have unlisted : ¬ listsModule out.text "usb_storage" := fun lists => by
            simp [contains_of_listsModule lists] at mentioned
          simp [unlisted]

theorem updates_probe_iff (machine : LinuxMachine) (apt : List UInt8 → Bool)
    {policy : UpdatePolicy} (rebootWindow : Option String) (asked : policy ≠ .disabled) :
    (checkRule machine.host (.osUpdate policy rebootWindow) = none →
        ∃ content, machine.autoUpgrades = some content ∧ apt content = true) ↔
      ∀ content, machine.autoUpgrades = some content → apt content = true := by
  rw [met_osUpdate]
  simp only [asked, false_or, LinuxMachine.host]
  cases machine.autoUpgrades <;> simp

/-- The enforcer's own file that switches the upgrades off is enough for the check. -/
theorem disabled_updates_pass (machine : LinuxMachine) (policy : UpdatePolicy)
    (rebootWindow : Option String) (file : machine.autoUpgrades.isSome = true) :
    (machine.enforce (.autoUpdates .disabled)).autoUpgrades = some (utf8 autoUpgradesOff.toList) ∧
      checkRule (machine.enforce (.autoUpdates .disabled)).host (.osUpdate policy rebootWindow) =
        none := by
  obtain ⟨content, there⟩ := Option.isSome_iff_exists.mp file
  refine ⟨by simp [LinuxMachine.enforce, there], met_osUpdate.mpr (.inr ?_)⟩
  simp [LinuxMachine.host, LinuxMachine.enforce, there]

/-- A host that nothing is known of but `gsettings`. -/
def idleUpdates : LinuxMachine where
  ufw := none
  lsmod := none
  idleDelay := some (printed "uint32 300\n".toList)
  lockEnabled := some (printed "true\n".toList)
  autoUpgrades := none
  processes := []

def openMachine : LinuxMachine where
  ufw := some (printed "Status: inactive\n".toList)
  lsmod := none
  idleDelay := none
  lockEnabled := none
  autoUpgrades := some (utf8 autoUpgradesOff.toList)
  processes := []

/-- Each probe proves what its rule asks for just when the output, status or file is not one of those
it mistakes: an `active` that is not `Status: active`, an `lsmod` that is missing or has failed, a
file that apt reads as off. -/
theorem linux_probes_iff (machine : LinuxMachine) (apt : List UInt8 → Bool) :
    ((checkRule machine.host (.firewall true) = none → UfwActive machine.ufw) ↔
      ∀ out, machine.ufw = some out → containsText out.text "active" = true →
        containsText out.text "Status: active" = true) ∧
    ((checkRule machine.host (.usbStorage false) = none → UsbUnloaded machine.lsmod) ↔
      ∃ out, machine.lsmod = some out ∧
        (out.success = true ∨ containsText out.text "usb_storage" = true)) ∧
    ∀ policy rebootWindow, policy ≠ .disabled →
      ((checkRule machine.host (.osUpdate policy rebootWindow) = none →
          ∃ content, machine.autoUpgrades = some content ∧ apt content = true) ↔
        ∀ content, machine.autoUpgrades = some content → apt content = true) :=
  ⟨firewall_probe_iff machine, usb_probe_iff machine,
    fun _ rebootWindow asked => updates_probe_iff machine apt rebootWindow asked⟩

/-- What apt makes of a file with one assignment a line. -/
def unattendedUpgrade (content : List UInt8) : Bool :=
  match ((Utf8Lossy.lossyText content).splitOn '\n').reverse.findSome? fun line =>
      line.dropPrefix? "APT::Periodic::Unattended-Upgrade \"".toList with
  | some value => value != "0\";".toList
  | none => false

/-- A host on which the updates are switched on as the enforcer does it. -/
theorem linux_probes_enforced :
    ∃ content, (idleUpdates.enforce (.autoUpdates .all)).autoUpgrades = some content ∧
      unattendedUpgrade content = true := by
  refine ((linux_probes_iff (idleUpdates.enforce (.autoUpdates .all)) unattendedUpgrade).2.2 .all none
    (by decide)).mpr ?_ (by decide +kernel)
  intro content file
  obtain rfl : utf8 autoUpgradesOn.toList = content := Option.some.inj file
  decide +kernel

/-- An inactive firewall, no `lsmod`, and the file of `enforce_auto_updates(Disabled)`: every rule is
met and nothing of it is so. -/
theorem linux_probes_mistaken :
    (checkRule openMachine.host (.firewall true) = none ∧ ¬ UfwActive openMachine.ufw) ∧
      (checkRule openMachine.host (.usbStorage false) = none ∧ ¬ UsbUnloaded openMachine.lsmod) ∧
      checkRule openMachine.host (.osUpdate .all none) = none ∧
        ¬ ∃ content, openMachine.autoUpgrades = some content ∧ unattendedUpgrade content = true := by
  refine ⟨⟨by decide +kernel, ?_⟩, ⟨by decide +kernel, ?_⟩, by decide +kernel, ?_⟩
  · rintro ⟨out, ran, active⟩
    cases ran
    exact absurd active (by decide +kernel)
  · rintro ⟨out, ran, _⟩
    cases ran
  · rintro ⟨content, file, on⟩
    cases file
    exact absurd on (by decide +kernel)

/-! ## Screen lock -/

/-- `gsettings` gave the idle delay as a number of seconds. -/
def ReadsIdle (idleDelay : CommandResult) (secs : UInt32) : Prop :=
  ∃ out, idleDelay = some out ∧ out.success = true ∧ lastNumber parseU32 out.text = some secs

/-- `gsettings` gave `lock-enabled` as true. -/
def ReadsTrue (lockEnabled : CommandResult) : Prop :=
  ∃ out, lockEnabled = some out ∧ out.success = true ∧ splitWhitespace out.text = ["true".toList]

/-- The screen goes idle in time and is then locked. -/
structure LockProven (idleDelay lockEnabled : CommandResult) (timeoutMinutes : UInt32)
    (requirePassword : Bool) : Prop where
  idle : timeoutMinutes > 0 → ∃ secs, ReadsIdle idleDelay secs ∧ 0 < secs ∧
    secs.toNat ≤ 60 * timeoutMinutes.toNat
  locked : requirePassword = true → ReadsTrue lockEnabled

theorem checkScreenLockLinux_ok {idleDelay lockEnabled : CommandResult} {timeoutMinutes : UInt32}
    {requirePassword : Bool} :
    checkScreenLockLinux idleDelay lockEnabled timeoutMinutes requirePassword = .ok () ↔
      ∃ out, idleDelay = some out ∧
        (∀ secs, lastNumber parseU32 out.text = some secs → timeoutMinutes > 0 →
          secs.toNat ≤ 60 * timeoutMinutes.toNat) ∧
        (requirePassword = true → lockEnabled.mentions "true" false = true) := by
  have lock : (if requirePassword && !lockEnabled.mentions "true" false then
        .error "screensaver lock-enabled is not true"
      else (.ok () : Except String Unit)) = .ok () ↔
        (requirePassword = true → lockEnabled.mentions "true" false = true) := by
    cases requirePassword <;> cases lockEnabled.mentions "true" false <;> simp
  unfold checkScreenLockLinux
  cases idleDelay with
  | none => simp
  | some out =>
      simp only [Option.some.injEq, exists_eq_left']
      cases number : lastNumber parseU32 out.text with
      | none => simp
      | some secs =>
          simp only [Option.some.injEq, forall_eq', maxSecs_lt_iff]
          split
          · rename_i above
            refine ⟨nofun, fun ⟨within, _⟩ => ?_⟩
            exact absurd (within above.1) (Nat.not_le.mpr above.2)
          · rename_i within
            rw [lock]
            exact (and_iff_right fun pos => Nat.not_lt.mp fun above => within ⟨pos, above⟩).symm

/-- The outcomes that fall through to `Ok`: `gsettings` is there, the last number of its output, if
there is one, is not above the limit, and the output for the lock mentions `true`; but the first
call failed, or gave no number or zero, or the second one failed or gave something else than
`true`. -/
def FallsThrough (idleDelay lockEnabled : CommandResult) (timeoutMinutes : UInt32)
    (requirePassword : Bool) : Prop :=
  ∃ out, idleDelay = some out ∧
    (∀ secs, lastNumber parseU32 out.text = some secs → timeoutMinutes > 0 →
      secs.toNat ≤ 60 * timeoutMinutes.toNat) ∧
    (requirePassword = true → lockEnabled.mentions "true" false = true) ∧
    (timeoutMinutes > 0 ∧ (out.success = false ∨ lastNumber parseU32 out.text = none ∨
        lastNumber parseU32 out.text = some 0) ∨
      requirePassword = true ∧ ∀ lock, lockEnabled = some lock →
        lock.success = false ∨ splitWhitespace lock.text ≠ ["true".toList])

theorem screen_lock_fails_closed_iff (idleDelay lockEnabled : CommandResult)
    (timeoutMinutes : UInt32) (requirePassword : Bool) :
    (checkScreenLockLinux idleDelay lockEnabled timeoutMinutes requirePassword = .ok () →
        LockProven idleDelay lockEnabled timeoutMinutes requirePassword) ↔
      ¬ FallsThrough idleDelay lockEnabled timeoutMinutes requirePassword := by
  rw [checkScreenLockLinux_ok]
  constructor
  · rintro proves ⟨out, there, within, mentions, idle | lock⟩
    · obtain ⟨pos, unread⟩ := idle
      obtain ⟨secs, ⟨other, same, ran, number⟩, some, _⟩ :=
        (proves ⟨out, there, within, mentions⟩).idle pos
      obtain rfl : out = other := Option.some.inj (there.symm.trans same)
      rcases unread with failed | none | zero
      · simp [ran] at failed
      · simp [number] at none
      · obtain rfl : secs = 0 := Option.some.inj (number.symm.trans zero)
        exact absurd some (by decide)
    · obtain ⟨asked, unread⟩ := lock
      obtain ⟨lock, same, ran, word⟩ := (proves ⟨out, there, within, mentions⟩).locked asked
      rcases unread lock same with failed | other
      · simp [ran] at failed
      · exact other word
  · rintro closed ⟨out, there, within, mentions⟩
    refine ⟨fun pos => ?_, fun asked => ?_⟩
    · by_contra unproven
      refine closed ⟨out, there, within, mentions, .inl ⟨pos, ?_⟩⟩
      cases ran : out.success with
      | false => exact .inl rfl
      | true =>
          cases number : lastNumber parseU32 out.text with
          | none => exact .inr (.inl rfl)
          | some secs =>
              refine .inr (.inr (congrArg some ?_))
              by_contra other
              exact unproven ⟨secs, ⟨out, there, ran, number⟩, UInt32.pos_iff_ne_zero.mpr other,
                within secs number pos⟩
    · by_contra unproven
      refine closed ⟨out, there, within, mentions, .inr ⟨asked, fun lock same => ?_⟩⟩
      cases ran : lock.success with
      | false => exact .inl rfl
      | true => exact .inr fun word => unproven ⟨lock, same, ran, word⟩

/-- A delay of zero, which means that the screen never goes idle. -/
theorem screen_lock_never_idle : ¬ ∀ (idleDelay lockEnabled : CommandResult)
    (timeoutMinutes : UInt32) (requirePassword : Bool),
      checkScreenLockLinux idleDelay lockEnabled timeoutMinutes requirePassword = .ok () →
        LockProven idleDelay lockEnabled timeoutMinutes requirePassword := by
  intro proves
  have proven := proves (some (printed "uint32 0\n".toList)) (some (printed "true\n".toList)) 5 true
    (by decide +kernel)
  obtain ⟨secs, ⟨out, same, _, number⟩, pos, _⟩ := proven.idle (by decide)
  cases same
  have zero : lastNumber parseU32 (printed "uint32 0\n".toList).text = some 0 := by decide +kernel
  obtain rfl : 0 = secs := Option.some.inj (zero.symm.trans number)
  exact absurd pos (by decide)

end OsfmEdm
