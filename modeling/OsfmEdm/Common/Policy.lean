import OsfmEdm.Common.Uuid

/-!
Policies and compliance reports (`crates/osfm-edm-common/src/policy.rs`).
-/

namespace OsfmEdm

open JsonText

inductive UpdatePolicy where
  | disabled
  | securityOnly
  | all
deriving DecidableEq

inductive PolicyRule where
  | screenLock (timeoutMinutes : UInt32) (requirePassword : Bool)
  | firewall (enabled : Bool)
  | osUpdate (autoInstall : UpdatePolicy) (rebootWindow : Option String)
  | processBlacklist (deny : List String)
  | usbStorage (allow : Bool)
  | systemEvents (collect : List String) (monitorPaths : Option (List String))
      (batchIntervalSecs : Option UInt64)
deriving DecidableEq

structure PolicyDefinition where
  id : Uuid
  name : String
  rules : List PolicyRule
deriving DecidableEq

structure ComplianceViolation where
  ruleType : String
  message : String
deriving DecidableEq

structure ComplianceReport where
  deviceId : Uuid
  policyId : Uuid
  compliant : Bool
  violations : List ComplianceViolation
  checkedAt : Int64
deriving DecidableEq

namespace UpdatePolicy

def name : UpdatePolicy → String
  | .disabled => "disabled"
  | .securityOnly => "security_only"
  | .all => "all"

def ofName : String → Option UpdatePolicy
  | "disabled" => some .disabled
  | "security_only" => some .securityOnly
  | "all" => some .all
  | _ => none

def codec : Codec UpdatePolicy := Codec.variants name ofName fun policy => by cases policy <;> rfl

end UpdatePolicy

namespace PolicyRule

def tag : PolicyRule → String
  | .screenLock .. => "screen_lock"
  | .firewall .. => "firewall"
  | .osUpdate .. => "os_update"
  | .processBlacklist .. => "process_blacklist"
  | .usbStorage .. => "usb_storage"
  | .systemEvents .. => "system_events"

/-- The fields of a variant, in order. -/
def fields : String → List String
  | "screen_lock" => ["timeout_minutes", "require_password"]
  | "firewall" => ["enabled"]
  | "os_update" => ["auto_install", "reboot_window"]
  | "process_blacklist" => ["deny"]
  | "usb_storage" => ["allow"]
  | "system_events" => ["collect", "monitor_paths", "batch_interval_secs"]
  | _ => []

def members : PolicyRule → List (String × Json)
  | .screenLock timeoutMinutes requirePassword =>
      [("timeout_minutes", Codec.uint32.encode timeoutMinutes),
        ("require_password", .bool requirePassword)]
  | .firewall enabled => [("enabled", .bool enabled)]
  | .osUpdate autoInstall rebootWindow =>
      [("auto_install", UpdatePolicy.codec.encode autoInstall),
        ("reboot_window", encodeOptional .string rebootWindow)]
  | .processBlacklist deny => [("deny", Codec.text.list.encode deny)]
  | .usbStorage allow => [("allow", .bool allow)]
  | .systemEvents collect monitorPaths batchIntervalSecs =>
      [("collect", Codec.text.list.encode collect),
        ("monitor_paths", encodeOptional Codec.text.list.encode monitorPaths),
        ("batch_interval_secs", encodeOptional Codec.uint64.encode batchIntervalSecs)]

def ofMembers (members : List (String × Json)) : String → Option PolicyRule
  | "screen_lock" => do
      let timeoutMinutes ← requiredMember members "timeout_minutes" Codec.uint32.decode
      let requirePassword ← requiredMember members "require_password" Codec.flag.decode
      return .screenLock timeoutMinutes requirePassword
  | "firewall" => do
      let enabled ← requiredMember members "enabled" Codec.flag.decode
      return .firewall enabled
  | "os_update" => do
      let autoInstall ← requiredMember members "auto_install" UpdatePolicy.codec.decode
      let rebootWindow ← optionalMember members "reboot_window" Codec.text.decode
      return .osUpdate autoInstall rebootWindow
  | "process_blacklist" => do
      let deny ← requiredMember members "deny" Codec.text.list.decode
      return .processBlacklist deny
  | "usb_storage" => do
      let allow ← requiredMember members "allow" Codec.flag.decode
      return .usbStorage allow
  | "system_events" => do
      let collect ← requiredMember members "collect" Codec.text.list.decode
      let monitorPaths ← optionalMember members "monitor_paths" Codec.text.list.decode
      let batchIntervalSecs ← optionalMember members "batch_interval_secs" Codec.uint64.decode
      return .systemEvents collect monitorPaths batchIntervalSecs
  | _ => none

theorem ofMembers_members (rule : PolicyRule) : ofMembers rule.members rule.tag = some rule := by
  cases rule with
  | screenLock timeoutMinutes requirePassword =>
      simp [ofMembers, members, tag, requiredMember, once, Codec.flag]
  | firewall enabled => rfl
  | osUpdate autoInstall rebootWindow => cases autoInstall <;> cases rebootWindow <;> rfl
  | processBlacklist deny => simp [ofMembers, members, tag, requiredMember, once]
  | usbStorage allow => rfl
  | systemEvents collect monitorPaths batchIntervalSecs =>
      have paths := optionalMember_encodeOptional Codec.text.list "monitor_paths" monitorPaths
        (members (.systemEvents collect monitorPaths batchIntervalSecs)) rfl
        (by rintro _ ⟨⟩)
      have interval := optionalMember_encodeOptional Codec.uint64 "batch_interval_secs"
        batchIntervalSecs (members (.systemEvents collect monitorPaths batchIntervalSecs)) rfl
        (by rintro _ ⟨⟩)
      have events : requiredMember (members (.systemEvents collect monitorPaths batchIntervalSecs))
          "collect" Codec.text.list.decode = some collect :=
        Codec.text.list.decode_encode collect
      simp only [ofMembers, tag, events, paths, interval]
      rfl

/-- Internally tagged with `type`. -/
def codec : Codec PolicyRule :=
  Codec.tagged "type" fields tag members ofMembers (fun rule => by cases rule <;> rfl) ofMembers_members

end PolicyRule

def PolicyDefinition.codec : Codec PolicyDefinition where
  encode policy :=
    .object [("id", Uuid.codec.encode policy.id), ("name", .string policy.name),
      ("rules", PolicyRule.codec.list.encode policy.rules)]
  decode json := do
    let members ← json.fields? ["id", "name", "rules"]
    let id ← requiredMember members "id" Uuid.codec.decode
    let name ← requiredMember members "name" Codec.text.decode
    let rules ← requiredMember members "rules" PolicyRule.codec.list.decode
    return { id, name, rules }
  decode_encode policy := by simp [requiredMember, once]

def ComplianceViolation.codec : Codec ComplianceViolation where
  encode violation :=
    .object [("rule_type", .string violation.ruleType), ("message", .string violation.message)]
  decode json := do
    let members ← json.fields? ["rule_type", "message"]
    let ruleType ← requiredMember members "rule_type" Codec.text.decode
    let message ← requiredMember members "message" Codec.text.decode
    return { ruleType, message }
  decode_encode violation := by simp [requiredMember, once]

def ComplianceReport.codec : Codec ComplianceReport where
  encode report :=
    .object [("device_id", Uuid.codec.encode report.deviceId),
      ("policy_id", Uuid.codec.encode report.policyId), ("compliant", .bool report.compliant),
      ("violations", ComplianceViolation.codec.list.encode report.violations),
      ("checked_at", Codec.int64.encode report.checkedAt)]
  decode json := do
    let members ← json.fields? ["device_id", "policy_id", "compliant", "violations", "checked_at"]
    let deviceId ← requiredMember members "device_id" Uuid.codec.decode
    let policyId ← requiredMember members "policy_id" Uuid.codec.decode
    let compliant ← requiredMember members "compliant" Codec.flag.decode
    let violations ← requiredMember members "violations" ComplianceViolation.codec.list.decode
    let checkedAt ← requiredMember members "checked_at" Codec.int64.decode
    return { deviceId, policyId, compliant, violations, checkedAt }
  decode_encode report := by simp [requiredMember, once]

end OsfmEdm
