import OsfmEdm.Agent.ComplianceBatch

/-!
The seconds that `enforce_screen_lock` computes on Linux and on Windows, beside what the rule and
the check of the same platform ask of them.
-/

namespace OsfmEdm

open JsonText

/-- `timeout_minutes.max(1)`. -/
def screenSaverMinutes (timeoutMinutes : UInt32) : UInt32 :=
  if timeoutMinutes = 0 then 1 else timeoutMinutes

theorem screenSaverSecs_eq (timeoutMinutes : UInt32) :
    screenSaverSecs timeoutMinutes = screenSaverMinutes timeoutMinutes * 60 :=
  rfl

/-- What is asked of `minutes * 60` seconds: no overflow, a delay at all, one that is written and
accepted, and a lock in time. -/
structure LockDelay (minutes timeoutMinutes : UInt32) (accepted : UInt32 → Prop) : Prop where
  exact : minutes.toNat * 60 < 2 ^ 32
  positive : minutes * 60 > 0
  accepted : accepted (minutes * 60)
  inTime : timeoutMinutes > 0 → (minutes * 60).toNat ≤ timeoutMinutes.toNat * 60

/-- The idle delay that is read after the enforcement is `secs`, and the check accepts it. -/
def LinuxMachine.Accepts (timeoutMinutes : UInt32) (requirePassword : Bool) (secs : UInt32) : Prop :=
  ∀ machine : LinuxMachine, machine.idleDelay.isSome = true →
    let after := machine.enforce (.screenLock timeoutMinutes requirePassword)
    (after.idleDelay.bind fun out => lastNumber parseU32 out.text) = some secs ∧
      after.host.screenLock timeoutMinutes requirePassword = .ok ()

/-- The same of `ScreenSaveTimeOut`. -/
def WindowsMachine.Accepts (timeoutMinutes : UInt32) (requirePassword : Bool) (secs : UInt32) :
    Prop :=
  ∀ machine : WindowsMachine, machine.screenSaveTimeOut.isSome = true →
    machine.screenSaverIsSecure.isSome = true →
    let after := machine.enforce (.screenLock timeoutMinutes requirePassword)
    (after.screenSaveTimeOut.bind fun out => lastNumber parseRegistry out.text) = some secs ∧
      after.host.screenLock timeoutMinutes requirePassword = .ok ()

def LinuxMachine.LockDelay (timeoutMinutes : UInt32) (requirePassword : Bool) : Prop :=
  OsfmEdm.LockDelay timeoutMinutes timeoutMinutes (Accepts timeoutMinutes requirePassword)

def WindowsMachine.LockDelay (timeoutMinutes : UInt32) (requirePassword : Bool) : Prop :=
  OsfmEdm.LockDelay (screenSaverMinutes timeoutMinutes) timeoutMinutes
    (Accepts timeoutMinutes requirePassword)

/-! ## Seconds -/

variable {minutes timeoutMinutes : UInt32} {requirePassword : Bool}

theorem toNat_secs (minutes : UInt32) : (minutes * 60).toNat = minutes.toNat * 60 % 2 ^ 32 :=
  UInt32.toNat_mul minutes 60

/-- The product that overflows comes out smaller. -/
theorem secs_le (minutes : UInt32) : (minutes * 60).toNat ≤ minutes.toNat * 60 := by
  rw [toNat_secs]
  exact Nat.mod_le _ _

theorem secs_le_maxSecs (minutes : UInt32) : minutes * 60 ≤ maxSecs minutes := by
  have below := secs_le minutes
  rw [← UInt32.not_lt]
  intro above
  have more := (maxSecs_lt_iff minutes (minutes * 60)).mp above
  omega

theorem secs_pos_iff (exact : minutes.toNat * 60 < 2 ^ 32) : minutes * 60 > 0 ↔ minutes > 0 := by
  rw [gt_iff_lt, gt_iff_lt, UInt32.lt_iff_toNat_lt, UInt32.lt_iff_toNat_lt, toNat_secs,
    Nat.mod_eq_of_lt exact]
  simp only [UInt32.reduceToNat]
  omega

theorem exact_iff : minutes.toNat * 60 < 2 ^ 32 ↔ minutes ≤ 71582788 := by
  rw [UInt32.le_iff_toNat_le]
  simp only [UInt32.reduceToNat]
  omega

theorem screenSaverMinutes_pos (timeoutMinutes : UInt32) : screenSaverMinutes timeoutMinutes > 0 := by
  rw [screenSaverMinutes]
  split
  · decide
  · rename_i some
    exact UInt32.pos_iff_ne_zero.mpr some

theorem screenSaverMinutes_of_pos (some : timeoutMinutes > 0) :
    screenSaverMinutes timeoutMinutes = timeoutMinutes :=
  if_neg (UInt32.pos_iff_ne_zero.mp some)

theorem screenSaverMinutes_le_iff : screenSaverMinutes timeoutMinutes ≤ 71582788 ↔
    timeoutMinutes ≤ 71582788 := by
  rw [screenSaverMinutes]
  split
  · rename_i none
    subst none
    decide
  · rfl

/-! ## Both platforms -/

/-- The check accepts what is written for every number of minutes, also after an overflow. -/
theorem LinuxMachine.accepts (timeoutMinutes : UInt32) (requirePassword : Bool) :
    Accepts timeoutMinutes requirePassword (timeoutMinutes * 60) := by
  intro machine there
  refine ⟨?_, (screenLock_set there).mpr (.inr (secs_le_maxSecs timeoutMinutes))⟩
  simp only [enforce, set_of_isSome there, Option.bind_some, text_printed, lastNumber_idleText]

theorem WindowsMachine.accepts (timeoutMinutes : UInt32) (requirePassword : Bool) :
    Accepts timeoutMinutes requirePassword (screenSaverMinutes timeoutMinutes * 60) := by
  intro machine there secure
  refine ⟨?_, (screenLock_set there fun _ => secure).mpr ⟨?_, by simp⟩⟩
  · simp only [enforce, set_of_isSome there, Option.bind_some, text_printed, lastNumber_regText,
      screenSaverSecs_eq]
  · rw [screenSaverSecs_eq]
    by_cases none : timeoutMinutes = 0
    · exact .inl none
    · rw [screenSaverMinutes, if_neg none]
      exact .inr (secs_le_maxSecs timeoutMinutes)

theorem linux_lockDelay_iff :
    LinuxMachine.LockDelay timeoutMinutes requirePassword ↔
      timeoutMinutes > 0 ∧ timeoutMinutes ≤ 71582788 := by
  constructor
  · rintro ⟨exact, positive, -, -⟩
    exact ⟨(secs_pos_iff exact).mp positive, exact_iff.mp exact⟩
  · rintro ⟨some, small⟩
    have exact := exact_iff.mpr small
    exact ⟨exact, (secs_pos_iff exact).mpr some, LinuxMachine.accepts _ _, fun _ => secs_le _⟩

theorem windows_lockDelay_iff :
    WindowsMachine.LockDelay timeoutMinutes requirePassword ↔ timeoutMinutes ≤ 71582788 := by
  constructor
  · rintro ⟨exact, -, -, -⟩
    exact screenSaverMinutes_le_iff.mp (exact_iff.mp exact)
  · intro small
    have exact := exact_iff.mpr (screenSaverMinutes_le_iff.mpr small)
    refine ⟨exact, (secs_pos_iff exact).mpr (screenSaverMinutes_pos _),
      WindowsMachine.accepts _ _, fun some => ?_⟩
    rw [screenSaverMinutes_of_pos some]
    exact secs_le timeoutMinutes

def Demands (timeoutMinutes : UInt32) (requirePassword : Bool) : Prop :=
  enforceRule (.screenLock timeoutMinutes requirePassword) =
    some (.screenLock timeoutMinutes requirePassword)

theorem demands_iff :
    Demands timeoutMinutes requirePassword ↔ timeoutMinutes > 0 ∨ requirePassword = true := by
  rw [Demands, enforceRule]
  split
  · rename_i asked
    exact iff_of_true rfl asked
  · rename_i free
    exact iff_of_false (by simp) free

theorem screen_lock_delays_iff (timeoutMinutes : UInt32) (requirePassword : Bool) :
    ((Demands timeoutMinutes requirePassword →
        LinuxMachine.LockDelay timeoutMinutes requirePassword) ↔
      (timeoutMinutes = 0 → requirePassword = false) ∧ timeoutMinutes ≤ 71582788) ∧
    ((Demands timeoutMinutes requirePassword →
        WindowsMachine.LockDelay timeoutMinutes requirePassword) ↔
      timeoutMinutes ≤ 71582788) := by
  rw [demands_iff, linux_lockDelay_iff, windows_lockDelay_iff]
  by_cases none : timeoutMinutes = 0
  · subst none
    cases requirePassword <;> decide
  · have some : timeoutMinutes > 0 := UInt32.pos_iff_ne_zero.mpr none
    simp [none, some]

/-- A rule for a password alone gives zero seconds on Linux, which turns the idle delay off, and
2^30 minutes give zero seconds on both platforms. -/
theorem no_lock_delay :
    (Demands 0 true ∧ ¬ LinuxMachine.LockDelay 0 true) ∧
      Demands 1073741824 false ∧ ¬ LinuxMachine.LockDelay 1073741824 false ∧
        ¬ WindowsMachine.LockDelay 1073741824 false := by
  refine ⟨⟨rfl, fun delay => ?_⟩, rfl, fun delay => ?_, fun delay => ?_⟩
  · exact absurd delay.positive (by decide)
  · exact absurd delay.positive (by decide)
  · exact absurd delay.positive (by decide)

end OsfmEdm
