import Mathlib.Data.List.Infix
import OsfmEdm.Common.Protocol

/-!
The agent's policy engine (`osfm-edm-agent/src/policy/engine.rs`). What a platform's probes
answer may change from one check to the next; what is enforced is recorded.
-/

namespace OsfmEdm

/-- What the probes answer at one moment, and the clock. -/
structure Host where
  firewallEnabled : Bool
  usbStorageLoaded : Bool
  screenLock : UInt32 → Bool → Except String Unit
  autoUpdates : Bool
  processes : List String
  now : Int64

/-- `check_blacklisted_processes`. -/
def Host.blacklisted (host : Host) (deny : List String) : List String :=
  host.processes.filter fun name => deny.any fun denied => decide (denied.toList <:+: name.toList)

/-- `check_rule`: none when the rule is met. -/
def checkRule (host : Host) : PolicyRule → Option ComplianceViolation
  | .firewall enabled =>
      if !enabled then none
      else if !host.firewallEnabled then
        some { ruleType := "firewall", message := "Firewall is not active" }
      else none
  | .usbStorage allow =>
      if allow then none
      else if host.usbStorageLoaded then
        some { ruleType := "usb_storage", message := "USB storage is not blocked" }
      else none
  | .screenLock timeoutMinutes requirePassword =>
      if timeoutMinutes = 0 ∧ !requirePassword then none
      else
        match host.screenLock timeoutMinutes requirePassword with
        | .ok () => none
        | .error message => some { ruleType := "screen_lock", message }
  | .osUpdate .disabled _ => none
  | .osUpdate _ _ =>
      if !host.autoUpdates then
        some { ruleType := "os_update", message := "Automatic updates not configured" }
      else none
  | .processBlacklist deny =>
      if deny.isEmpty then none
      else
        match host.blacklisted deny with
        | [] => none
        | running =>
            some
              { ruleType := "process_blacklist"
                message := "Blacklisted processes running: " ++ ", ".intercalate running }
  | .systemEvents .. => none

/-- What is asked of the platform's enforcers. -/
inductive Enforcement where
  | firewall
  | usbStorage (allow : Bool)
  | screenLock (timeoutMinutes : UInt32) (requirePassword : Bool)
  | autoUpdates (autoInstall : UpdatePolicy)
  | killBlacklisted (deny : List String)
deriving DecidableEq

def enforceRule : PolicyRule → Option Enforcement
  | .firewall enabled => if enabled then some .firewall else none
  | .usbStorage allow => some (.usbStorage allow)
  | .screenLock timeoutMinutes requirePassword =>
      if timeoutMinutes > 0 ∨ requirePassword then some (.screenLock timeoutMinutes requirePassword)
      else none
  | .osUpdate autoInstall _ => some (.autoUpdates autoInstall)
  | .processBlacklist deny => if deny.isEmpty then none else some (.killBlacklisted deny)
  | .systemEvents .. => none

/-- The violations, each rule checked at its own moment. -/
def evaluateSinglePolicy (moments : Nat → Host) (policy : PolicyDefinition) :
    List ComplianceViolation :=
  policy.rules.zipIdx.filterMap fun (rule, index) => checkRule (moments index) rule

/-- A policy's report and what it makes the agent enforce. -/
def evaluatePolicy (deviceId : Uuid) (moments : Nat → Host) (policy : PolicyDefinition) :
    ComplianceReport × List Enforcement :=
  let violations := evaluateSinglePolicy moments policy
  let compliant := violations.isEmpty
  ({ deviceId
     policyId := policy.id
     compliant
     violations
     checkedAt := (moments policy.rules.length).now },
    if compliant then [] else policy.rules.filterMap enforceRule)

/-- `evaluate_policies` up to the message it sends; `moments` are those of each policy. -/
def evaluatePolicies (deviceId : Uuid) (moments : Nat → Nat → Host)
    (policies : List PolicyDefinition) : Option AgentMessage :=
  match policies.zipIdx.map fun (policy, index) =>
      (evaluatePolicy deviceId (moments index) policy).1 with
  | [] => none
  | reports => some (.complianceReport reports)

theorem evaluatePolicy_compliant {deviceId : Uuid} {moments : Nat → Host} {policy : PolicyDefinition} :
    (evaluatePolicy deviceId moments policy).1.compliant = true ↔
      ∀ index rule, policy.rules[index]? = some rule → checkRule (moments index) rule = none := by
  simp only [evaluatePolicy, evaluateSinglePolicy, List.isEmpty_iff, List.filterMap_eq_nil_iff,
    Prod.forall, List.mem_zipIdx_iff_getElem?]
  constructor
  · intro none index rule found
    exact none rule index found
  · intro none rule index found
    exact none index rule found

end OsfmEdm
