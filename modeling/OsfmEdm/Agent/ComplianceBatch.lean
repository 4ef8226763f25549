import OsfmEdm.Agent.Enforcement

/-!
The reports of `evaluate_policies` against the machine as it is when the batch is sent: enforcing a
later policy may undo what an earlier one was found to meet.
-/

namespace OsfmEdm

open LastWrite

/-- What a platform's checks find and its enforcers change. `verdict` has the rules that an
enforcement settles, one way or the other, and `ready` the machines on which it can. -/
structure PolicyPlatform where
  Machine : Type
  host : Machine → Host
  enforce : Machine → Enforcement → Machine
  verdict : PolicyRule → Enforcement → Option Bool
  ready : PolicyRule → Machine → Prop
  ready_of_met : ∀ rule machine, checkRule (host machine) rule = none → ready rule machine
  decides : ∀ rule, Decides enforce (ready rule)
    (fun machine => checkRule (host machine) rule = none) (verdict rule)

/-! ## Linux -/

/-- Only the delay of a screen lock is ever widened. -/
def LinuxMachine.verdict : PolicyRule → Enforcement → Option Bool
  | .screenLock limit _, .screenLock timeoutMinutes _ =>
      some (limit = 0 || timeoutMinutes * 60 ≤ maxSecs limit)
  | _, _ => none

def LinuxMachine.ready : PolicyRule → LinuxMachine → Prop
  | .screenLock limit requirePassword, machine =>
      (limit = 0 ∧ requirePassword = false) ∨ machine.idleDelay.isSome = true
  | rule, machine => checkRule machine.host rule = none

namespace LinuxMachine

variable {machine : LinuxMachine}

theorem isSome_idleDelay (enforcement : Enforcement) :
    (machine.enforce enforcement).idleDelay.isSome = machine.idleDelay.isSome := by
  cases enforcement with
  | screenLock => exact isSome_set _ _
  | _ => rfl

theorem screenLock_set {timeoutMinutes limit : UInt32} {own requirePassword : Bool}
    (there : machine.idleDelay.isSome = true) :
    (machine.enforce (.screenLock timeoutMinutes own)).host.screenLock limit requirePassword =
        .ok () ↔ limit = 0 ∨ timeoutMinutes * 60 ≤ maxSecs limit := by
  have locked : CommandResult.mentions (some (printed "true\n".toList)) "true" false = true := by
    decide
  simp only [host, enforce, set_of_isSome there, there, if_true, checkScreenLockLinux, text_printed,
    lastNumber_idleText, locked, Bool.not_true, Bool.and_false, Bool.false_eq_true, if_false]
  split
  · rename_i above
    exact iff_of_false nofun (mt within_iff.mpr (not_not.mpr above))
  · rename_i within
    exact iff_of_true rfl (within_iff.mp within)

theorem met_enforce {rule : PolicyRule} (other : ∀ limit requirePassword,
    rule ≠ .screenLock limit requirePassword) (enforcement : Enforcement)
    (met : checkRule machine.host rule = none) :
    checkRule (machine.enforce enforcement).host rule = none := by
  cases rule with
  | screenLock limit requirePassword => exact absurd rfl (other _ _)
  | firewall enabled =>
      rw [met_firewall] at met ⊢
      intro on
      have active := met on
      cases enforcement with
      | firewall =>
          have text : containsText "Status: active\n".toList "active" = true := by decide
          simp only [host, enforce, mentions_set, isSome_of_mentions active, text, Bool.and_self]
      | _ => exact active
  | usbStorage allow =>
      rw [met_usbStorage] at met ⊢
      cases enforcement <;> exact met
  | osUpdate autoInstall rebootWindow =>
      rw [met_osUpdate] at met ⊢
      cases enforcement with
      | autoUpdates policy =>
          refine met.imp_right fun file => ?_
          cases policy with
          | disabled => simpa [host, enforce] using file
          | securityOnly | all => rfl
      | _ => exact met
  | processBlacklist deny =>
      rw [met_processBlacklist] at met ⊢
      cases enforcement with
      | killBlacklisted denied => exact blacklisted_killed rfl met
      | _ => exact met
  | systemEvents => rfl

theorem ready_of_met (rule : PolicyRule) (machine : LinuxMachine)
    (met : checkRule machine.host rule = none) : ready rule machine := by
  cases rule with
  | screenLock limit requirePassword =>
      refine (met_screenLock.mp met).imp_right fun proven => ?_
      cases idle : machine.idleDelay with
      | some => rfl
      | none => simp [host, checkScreenLockLinux, idle] at proven
  | _ => exact met

theorem decides (rule : PolicyRule) : Decides enforce (ready rule)
    (fun machine => checkRule machine.host rule = none) (verdict rule) := by
  cases rule with
  | screenLock limit requirePassword =>
      refine .of_free (fun _ => Iff.rfl) (fun _ => met_screenLock)
        (fun _ enforcement there => (isSome_idleDelay enforcement).trans there) ?_ ?_ ?_
      · intro machine enforcement undecided
        cases enforcement with
        | screenLock => cases undecided
        | _ => exact Iff.rfl
      · intro machine enforcement answer there settles
        cases enforcement with
        | screenLock =>
            cases settles
            rw [screenLock_set there, Bool.or_eq_true, decide_eq_true_eq, decide_eq_true_eq]
            exact or_iff_right_of_imp fun free => .inl free.1
        | _ => cases settles
      · intro enforcement answer free settles
        cases enforcement with
        | screenLock =>
            cases settles
            simp [free.1]
        | _ => cases settles
  | _ => exact .of_kept (fun _ => rfl) fun machine enforcement => met_enforce (by simp) enforcement

end LinuxMachine

/-! ## Windows -/

def WindowsMachine.verdict : PolicyRule → Enforcement → Option Bool
  | .usbStorage allow, .usbStorage allowed => some (allow || !allowed)
  | .screenLock limit requirePassword, .screenLock timeoutMinutes asked =>
      some ((limit = 0 || screenSaverSecs timeoutMinutes ≤ maxSecs limit) &&
        (!requirePassword || asked))
  | .osUpdate autoInstall _, .autoUpdates policy =>
      some (autoInstall = .disabled || policy ≠ .disabled)
  | _, _ => none

def WindowsMachine.ready : PolicyRule → WindowsMachine → Prop
  | .usbStorage allow, machine => allow = true ∨ machine.usbstor.isSome = true
  | .screenLock limit requirePassword, machine =>
      (limit = 0 ∧ requirePassword = false) ∨ machine.screenSaveTimeOut.isSome = true ∧
        (requirePassword = true → machine.screenSaverIsSecure.isSome = true)
  | .osUpdate autoInstall _, machine =>
      autoInstall = .disabled ∨ machine.auOptions.isSome = true
  | rule, machine => checkRule machine.host rule = none

namespace WindowsMachine

variable {machine : WindowsMachine}

theorem usbStorage_set {allowed : Bool} (there : machine.usbstor.isSome = true) :
    (machine.enforce (.usbStorage allowed)).host.usbStorageLoaded = allowed := by
  have texts : ∀ allowed : Bool, containsText
      (regText USBSTOR "Start" "REG_DWORD" (if allowed then "0x3" else "0x4").toList) "0x4" =
        !allowed := by decide +kernel
  simp [host, enforce, mentions_set, there, texts]

theorem autoUpdates_set {policy : UpdatePolicy} (there : machine.auOptions.isSome = true) :
    (machine.enforce (.autoUpdates policy)).host.autoUpdates = decide (policy ≠ .disabled) := by
  simp only [host, enforce, mentions_set, there, Bool.true_and]
  cases policy <;> decide +kernel

theorem screenLock_set {timeoutMinutes limit : UInt32} {asked requirePassword : Bool}
    (there : machine.screenSaveTimeOut.isSome = true)
    (secure : requirePassword = true → machine.screenSaverIsSecure.isSome = true) :
    (machine.enforce (.screenLock timeoutMinutes asked)).host.screenLock limit requirePassword =
        .ok () ↔ (limit = 0 ∨ screenSaverSecs timeoutMinutes ≤ maxSecs limit) ∧
          (requirePassword = false ∨ asked = true) := by
  have texts : ∀ asked : Bool, containsText
      (regText DESKTOP "ScreenSaverIsSecure" "REG_SZ" (if asked then "1" else "0").toList) "1" =
        asked := by decide +kernel
  simp only [host, enforce, checkScreenLockWindows, set_of_isSome there, text_printed,
    lastNumber_regText]
  split
  · rename_i above
    exact iff_of_false nofun fun both => within_iff.mpr both.1 above
  · rename_i within
    rw [and_iff_right (within_iff.mp within)]
    cases requirePassword with
    | false => simp
    | true =>
        simp only [set_of_isSome (secure rfl), text_printed, texts, if_true]
        cases asked <;> simp

theorem ready_of_met (rule : PolicyRule) (machine : WindowsMachine)
    (met : checkRule machine.host rule = none) : ready rule machine := by
  cases rule with
  | usbStorage allow =>
      refine (met_usbStorage.mp met).imp_right fun unloaded => ?_
      exact isSome_of_mentions (by simpa [host] using unloaded)
  | screenLock limit requirePassword =>
      refine (met_screenLock.mp met).imp_right fun proven => ?_
      simp only [host, checkScreenLockWindows] at proven
      cases timeOut : machine.screenSaveTimeOut with
      | none => simp [timeOut] at proven
      | some out =>
          refine ⟨rfl, fun asked => ?_⟩
          cases secure : machine.screenSaverIsSecure with
          | some => rfl
          | none =>
              simp only [timeOut, secure, asked, if_true] at proven
              split at proven
              · split at proven <;> cases proven
              · cases proven
  | osUpdate autoInstall rebootWindow =>
      refine (met_osUpdate.mp met).imp_right fun on => ?_
      rcases Bool.or_eq_true_iff.mp on with mentioned | mentioned <;>
        exact isSome_of_mentions mentioned
  | _ => exact met

theorem met_enforce {rule : PolicyRule} (undecided : ∀ enforcement, verdict rule enforcement = none)
    (enforcement : Enforcement) (met : checkRule machine.host rule = none) :
    checkRule (machine.enforce enforcement).host rule = none := by
  cases rule with
  | usbStorage => cases undecided (.usbStorage true)
  | screenLock => cases undecided (.screenLock 0 true)
  | osUpdate => cases undecided (.autoUpdates .all)
  | firewall enabled =>
      rw [met_firewall] at met ⊢
      intro on
      have state := met on
      cases enforcement with
      | firewall =>
          have text : containsText "State                 ON".toList "ON" = true := by decide
          simp only [host, enforce, mentions_set, isSome_of_mentions state, text, Bool.and_self]
      | _ => exact state
  | processBlacklist deny =>
      rw [met_processBlacklist] at met ⊢
      cases enforcement with
      | killBlacklisted denied => exact blacklisted_killed rfl met
      | _ => exact met
  | systemEvents => rfl

theorem decides (rule : PolicyRule) : Decides enforce (ready rule)
    (fun machine => checkRule machine.host rule = none) (verdict rule) := by
  cases rule with
  | usbStorage allow =>
      refine .of_free (fun _ => Iff.rfl) (fun _ => met_usbStorage) ?_ ?_ ?_ ?_
      · intro machine enforcement there
        cases enforcement with
        | usbStorage => exact (isSome_set _ _).trans there
        | _ => exact there
      · intro machine enforcement undecided
        cases enforcement with
        | usbStorage => cases undecided
        | _ => exact Iff.rfl
      · intro machine enforcement answer there settles
        cases enforcement with
        | usbStorage =>
            cases settles
            rw [usbStorage_set there, Bool.or_eq_true, Bool.not_eq_true']
        | _ => cases settles
      · intro enforcement answer free settles
        cases enforcement with
        | usbStorage =>
            cases settles
            simp [free]
        | _ => cases settles
  | screenLock limit requirePassword =>
      refine .of_free (fun _ => Iff.rfl) (fun _ => met_screenLock) ?_ ?_ ?_ ?_
      · rintro machine enforcement ⟨timeOut, secure⟩
        cases enforcement with
        | screenLock =>
            refine ⟨(isSome_set _ _).trans timeOut, fun asked => ?_⟩
            exact (isSome_set _ _).trans (secure asked)
        | _ => exact ⟨timeOut, secure⟩
      · intro machine enforcement undecided
        cases enforcement with
        | screenLock => cases undecided
        | _ => exact Iff.rfl
      · rintro machine enforcement answer ⟨timeOut, secure⟩ settles
        cases enforcement with
        | screenLock =>
            cases settles
            rw [screenLock_set timeOut secure]
            simp only [Bool.and_eq_true, Bool.or_eq_true, decide_eq_true_eq, Bool.not_eq_true']
            exact or_iff_right_of_imp fun free => ⟨.inl free.1, .inl free.2⟩
        | _ => cases settles
      · intro enforcement answer free settles
        cases enforcement with
        | screenLock =>
            cases settles
            simp [free.1, free.2]
        | _ => cases settles
  | osUpdate autoInstall rebootWindow =>
      refine .of_free (fun _ => Iff.rfl) (fun _ => met_osUpdate) ?_ ?_ ?_ ?_
      · intro machine enforcement there
        cases enforcement with
        | autoUpdates => exact (isSome_set _ _).trans there
        | _ => exact there
      · intro machine enforcement undecided
        cases enforcement with
        | autoUpdates => cases undecided
        | _ => exact Iff.rfl
      · intro machine enforcement answer there settles
        cases enforcement with
        | autoUpdates =>
            cases settles
            rw [autoUpdates_set there, Bool.or_eq_true, decide_eq_true_eq, decide_eq_true_eq]
        | _ => cases settles
      · intro enforcement answer free settles
        cases enforcement with
        | autoUpdates =>
            cases settles
            simp [free]
        | _ => cases settles
  | _ => exact .of_kept (fun _ => rfl) fun machine => met_enforce fun _ => rfl

end WindowsMachine

/-! ## macOS -/

/-- The delay that is set is 5 seconds, whatever the policy allows. -/
def MacosMachine.verdict : PolicyRule → Enforcement → Option Bool
  | .osUpdate autoInstall _, .autoUpdates policy =>
      some (autoInstall = .disabled || policy ≠ .disabled)
  | _, _ => none

def MacosMachine.ready : PolicyRule → MacosMachine → Prop
  | .osUpdate autoInstall _, machine =>
      autoInstall = .disabled ∨ machine.automaticCheckEnabled.isSome = true
  | rule, machine => checkRule machine.host rule = none

namespace MacosMachine

variable {machine : MacosMachine}

theorem autoUpdates_set {policy : UpdatePolicy}
    (there : machine.automaticCheckEnabled.isSome = true) :
    (machine.enforce (.autoUpdates policy)).host.autoUpdates = decide (policy ≠ .disabled) := by
  simp only [host, enforce, mentions_set, there, Bool.true_and]
  cases policy <;> decide

theorem screenLock_set {asked requirePassword : Bool} {timeoutMinutes limit : UInt32}
    (met : machine.host.screenLock limit requirePassword = .ok ()) :
    (machine.enforce (.screenLock timeoutMinutes asked)).host.screenLock limit requirePassword =
      .ok () := by
  cases asked with
  | false => exact met
  | true =>
      have password : containsText "1\n".toList "1" = true := by decide
      have delay : (splitWhitespace "5\n".toList).findSome? parseU32 = some 5 := by decide
      simp only [host, checkScreenLockMacos] at met
      cases ask : machine.askForPassword with
      | none => simp [ask] at met
      | some out =>
          cases set : machine.askForPasswordDelay with
          | none =>
              simp only [ask, set] at met
              split at met <;> cases met
          | some other =>
              simp only [host, enforce, if_true, ask, set, CommandResult.set, Option.map_some,
                checkScreenLockMacos, text_printed, password, Bool.not_true, Bool.and_false,
                Bool.false_eq_true, if_false, delay, Option.getD_some]
              refine if_neg fun above => ?_
              have long := (maxSecs_lt_iff _ _).mp above.2
              have some := UInt32.lt_iff_toNat_lt.mp above.1
              simp only [UInt32.reduceToNat] at long some
              omega

theorem ready_of_met (rule : PolicyRule) (machine : MacosMachine)
    (met : checkRule machine.host rule = none) : ready rule machine := by
  cases rule with
  | osUpdate autoInstall rebootWindow =>
      exact (met_osUpdate.mp met).imp_right fun on => isSome_of_mentions on
  | _ => exact met

theorem met_enforce {rule : PolicyRule} (undecided : ∀ enforcement, verdict rule enforcement = none)
    (enforcement : Enforcement) (met : checkRule machine.host rule = none) :
    checkRule (machine.enforce enforcement).host rule = none := by
  cases rule with
  | osUpdate => cases undecided (.autoUpdates .all)
  | firewall enabled =>
      rw [met_firewall] at met ⊢
      intro on
      have state := met on
      cases enforcement with
      | firewall =>
          have text : containsText "Firewall is enabled. (State = 1)\n".toList "enabled" = true := by
            decide
          simp only [host, enforce, mentions_set, isSome_of_mentions state, text, Bool.and_self]
      | screenLock _ asked => cases asked <;> exact state
      | _ => exact state
  | usbStorage allow =>
      rw [met_usbStorage] at met ⊢
      exact .inr rfl
  | screenLock limit requirePassword =>
      rw [met_screenLock] at met ⊢
      refine met.imp_right fun proven => ?_
      cases enforcement with
      | screenLock => exact screenLock_set proven
      | _ => exact proven
  | processBlacklist deny =>
      rw [met_processBlacklist] at met ⊢
      cases enforcement with
      | killBlacklisted denied => exact blacklisted_killed rfl met
      | screenLock _ asked => cases asked <;> exact met
      | _ => exact met
  | systemEvents => rfl

theorem decides (rule : PolicyRule) : Decides enforce (ready rule)
    (fun machine => checkRule machine.host rule = none) (verdict rule) := by
  cases rule with
  | osUpdate autoInstall rebootWindow =>
      refine .of_free (fun _ => Iff.rfl) (fun _ => met_osUpdate) ?_ ?_ ?_ ?_
      · intro machine enforcement there
        cases enforcement with
        | autoUpdates => exact (isSome_set _ _).trans there
        | screenLock _ asked => cases asked <;> exact there
        | _ => exact there
      · intro machine enforcement undecided
        cases enforcement with
        | autoUpdates => cases undecided
        | screenLock _ asked => cases asked <;> exact Iff.rfl
        | _ => exact Iff.rfl
      · intro machine enforcement answer there settles
        cases enforcement with
        | autoUpdates =>
            cases settles
            rw [autoUpdates_set there, Bool.or_eq_true, decide_eq_true_eq, decide_eq_true_eq]
        | _ => cases settles
      · intro enforcement answer free settles
        cases enforcement with
        | autoUpdates =>
            cases settles
            simp [free]
        | _ => cases settles
  | _ => exact .of_kept (fun _ => rfl) fun machine => met_enforce fun _ => rfl

end MacosMachine

/-! ## A batch -/

def policyPlatform : Platform → PolicyPlatform
  | .linux =>
      { Machine := LinuxMachine
        host := LinuxMachine.host
        enforce := LinuxMachine.enforce
        verdict := LinuxMachine.verdict
        ready := LinuxMachine.ready
        ready_of_met := LinuxMachine.ready_of_met
        decides := LinuxMachine.decides }
  | .windows =>
      { Machine := WindowsMachine
        host := WindowsMachine.host
        enforce := WindowsMachine.enforce
        verdict := WindowsMachine.verdict
        ready := WindowsMachine.ready
        ready_of_met := WindowsMachine.ready_of_met
        decides := WindowsMachine.decides }
  | .macos =>
      { Machine := MacosMachine
        host := MacosMachine.host
        enforce := MacosMachine.enforce
        verdict := MacosMachine.verdict
        ready := MacosMachine.ready
        ready_of_met := MacosMachine.ready_of_met
        decides := MacosMachine.decides }

namespace PolicyPlatform

variable (platform : PolicyPlatform)

def Met (machine : platform.Machine) (policy : PolicyDefinition) : Prop :=
  ∀ rule ∈ policy.rules, checkRule (platform.host machine) rule = none

instance (machine : platform.Machine) (policy : PolicyDefinition) :
    Decidable (platform.Met machine policy) :=
  inferInstanceAs (Decidable (∀ rule ∈ policy.rules, checkRule (platform.host machine) rule = none))

/-- What the policies make the agent enforce, from a machine on. -/
def enforced (machine : platform.Machine) : List PolicyDefinition → List Enforcement
  | [] => []
  | policy :: later =>
      let now := if platform.Met machine policy then [] else policy.rules.filterMap enforceRule
      now ++ enforced (now.foldl platform.enforce machine) later

/-- The machine after the policies. -/
def after (machine : platform.Machine) (policies : List PolicyDefinition) : platform.Machine :=
  (platform.enforced machine policies).foldl platform.enforce machine

/-- What is found when a rule of the policy at an index is checked. -/
def found (machine : platform.Machine) (policies : List PolicyDefinition) (clock : Nat → Nat → Int64)
    (index check : Nat) : Host :=
  { platform.host (platform.after machine (policies.take index)) with now := clock index check }

/-- The policies reported compliant are met when the batch is sent. -/
def StaysTrue (deviceId : Uuid) (machine : platform.Machine) (policies : List PolicyDefinition)
    (clock : Nat → Nat → Int64) : Prop :=
  ∀ reports, evaluatePolicies deviceId (platform.found machine policies clock) policies =
      some (.complianceReport reports) →
    ∀ (index : Nat) (policy : PolicyDefinition) (report : ComplianceReport),
      policies[index]? = some policy → reports[index]? = some report → report.compliant = true →
        platform.Met (platform.after machine policies) policy

/-- For every policy that is met at its turn, the last later enforcement that settles one of its rules
leaves the rule met. -/
def NoneUndone (machine : platform.Machine) (policies : List PolicyDefinition) : Prop :=
  ∀ (index : Nat) (policy : PolicyDefinition), policies[index]? = some policy →
    platform.Met (platform.after machine (policies.take index)) policy →
      ∀ rule ∈ policy.rules,
        ((platform.enforced (platform.after machine (policies.take index))
          (policies.drop (index + 1))).filterMap (platform.verdict rule)).getLast? ≠ some false

variable {platform} {machine : platform.Machine} {policies : List PolicyDefinition}

theorem enforced_append (machine : platform.Machine) (policies later : List PolicyDefinition) :
    platform.enforced machine (policies ++ later) = platform.enforced machine policies ++
      platform.enforced (platform.after machine policies) later := by
  induction policies generalizing machine with
  | nil => rfl
  | cons policy policies ih =>
      simp only [List.cons_append, enforced, ih, List.append_assoc, after, List.foldl_append]

theorem after_append (machine : platform.Machine) (policies later : List PolicyDefinition) :
    platform.after machine (policies ++ later) =
      platform.after (platform.after machine policies) later := by
  simp only [after, enforced_append, List.foldl_append]

theorem after_met {index : Nat} {policy : PolicyDefinition}
    (here : policies[index]? = some policy)
    (met : platform.Met (platform.after machine (policies.take index)) policy) :
    platform.after machine policies =
      platform.after (platform.after machine (policies.take index)) (policies.drop (index + 1)) := by
  obtain ⟨bound, same⟩ := List.getElem?_eq_some_iff.mp here
  have split : policies = policies.take index ++ policy :: policies.drop (index + 1) := by
    rw [← same, ← List.drop_eq_getElem_cons bound, List.take_append_drop]
  conv_lhs => rw [split, after_append]
  rw [after, enforced, if_pos met]
  rfl

theorem checkRule_now (host : Host) (now : Int64) (rule : PolicyRule) :
    checkRule { host with now } rule = checkRule host rule := by
  cases rule <;> rfl

theorem compliant_found {deviceId : Uuid} {clock : Nat → Nat → Int64} {index : Nat}
    {policy : PolicyDefinition} :
    (evaluatePolicy deviceId (platform.found machine policies clock index) policy).1.compliant =
        true ↔ platform.Met (platform.after machine (policies.take index)) policy := by
  rw [evaluatePolicy_compliant]
  constructor
  · intro none rule member
    obtain ⟨check, here⟩ := List.mem_iff_getElem?.mp member
    simpa only [found, checkRule_now] using none check rule here
  · intro met check rule here
    simpa only [found, checkRule_now] using met rule (List.mem_of_getElem? here)

theorem report_eq {deviceId : Uuid} {moments : Nat → Nat → Host} {reports : List ComplianceReport}
    {index : Nat} {policy : PolicyDefinition} {report : ComplianceReport}
    (sent : evaluatePolicies deviceId moments policies = some (.complianceReport reports))
    (here : policies[index]? = some policy) (own : reports[index]? = some report) :
    report = (evaluatePolicy deviceId (moments index) policy).1 := by
  unfold evaluatePolicies at sent
  split at sent
  · cases sent
  · cases sent
    simpa [here] using own.symm

theorem staysTrue_iff {deviceId : Uuid} {clock : Nat → Nat → Int64} :
    platform.StaysTrue deviceId machine policies clock ↔ platform.NoneUndone machine policies := by
  have kept {index : Nat} {policy : PolicyDefinition} (here : policies[index]? = some policy)
      (met : platform.Met (platform.after machine (policies.take index)) policy)
      {rule : PolicyRule} (member : rule ∈ policy.rules) :
      checkRule (platform.host (platform.after machine policies)) rule = none ↔
        ((platform.enforced (platform.after machine (policies.take index))
          (policies.drop (index + 1))).filterMap (platform.verdict rule)).getLast? ≠ some false := by
    rw [after_met here met]
    exact (platform.decides rule).kept_iff _ (platform.ready_of_met rule _ (met rule member))
      (met rule member)
  constructor
  · intro stays index policy here met rule member
    have sent : ∃ reports, evaluatePolicies deviceId (platform.found machine policies clock) policies =
        some (.complianceReport reports) ∧ ∃ report, reports[index]? = some report := by
      unfold evaluatePolicies
      split
      · rename_i none
        have empty : policies = [] := by simpa using none
        simp [empty] at here
      · exact ⟨_, rfl, (evaluatePolicy deviceId (platform.found machine policies clock index)
          policy).1, by simp [here]⟩
    obtain ⟨reports, sent, report, own⟩ := sent
    have compliant := report_eq sent here own ▸ compliant_found.mpr met
    exact (kept here met member).mp (stays reports sent index policy report here own compliant rule
      member)
  · intro none reports sent index policy report here own compliant rule member
    rw [report_eq sent here own, compliant_found] at compliant
    exact (kept here compliant member).mpr (none index policy here compliant rule member)

end PolicyPlatform

/-- On each platform the compliant reports of a batch are true when it is sent just when no later
enforcement undoes what an earlier policy was found to meet. -/
theorem compliant_reports_true_iff (platform : Platform) (deviceId : Uuid)
    (machine : (policyPlatform platform).Machine) (policies : List PolicyDefinition)
    (clock : Nat → Nat → Int64) :
    (policyPlatform platform).StaysTrue deviceId machine policies clock ↔
      (policyPlatform platform).NoneUndone machine policies :=
  PolicyPlatform.staysTrue_iff

/-- A screen that goes idle after five minutes, and a process that is not allowed. -/
def idleMachine : LinuxMachine where
  ufw := none
  lsmod := some (printed "Module                  Size  Used by\n".toList)
  idleDelay := some (printed "uint32 300\n".toList)
  lockEnabled := some (printed "true\n".toList)
  autoUpgrades := none
  processes := ["nc"]

def strictLock : PolicyDefinition := ⟨Uuid.small 1, "strict", [.screenLock 5 true]⟩

def laxLock : PolicyDefinition :=
  ⟨Uuid.small 2, "lax", [.screenLock 60 true, .processBlacklist ["nc"]]⟩

/-- Enforcing the second policy widens the idle delay to an hour, and the first is still reported
compliant. -/
theorem compliant_report_undone : ¬ ∀ (platform : Platform) (deviceId : Uuid)
    (machine : (policyPlatform platform).Machine) (policies : List PolicyDefinition)
    (clock : Nat → Nat → Int64),
      (policyPlatform platform).StaysTrue deviceId machine policies clock := by
  intro stays
  have sent := stays .linux (Uuid.small 0) idleMachine [strictLock, laxLock] (fun _ _ => 0) _ rfl 0
    strictLock _ rfl rfl (by decide +kernel)
  exact absurd (sent (.screenLock 5 true) List.mem_cons_self) (by decide +kernel)

end OsfmEdm
