import Mathlib.Algebra.Order.Ring.Rat
import OsfmEdm.Common.Events
import OsfmEdm.Common.Jobs
import OsfmEdm.Common.Policy

/-!
WebSocket messages between agent and server (`crates/osfm-edm-common/src/protocol.rs`).
Doubles are rationals: JSON carries only finite ones. How they are spelled is a parameter.
-/

namespace OsfmEdm

open JsonText

inductive ServerMessage where
  | heartbeat
  | pushPolicy (policies : List PolicyDefinition)
  | dispatchJob (jobId : Uuid) (payload : JobPayload) (signature : String)
  | revokeJob (jobId : Uuid)
  | requestTelemetry
  | requestInventory
  | openShell (sessionId : Uuid)
  | shellInput (sessionId : Uuid) (data : String)
  | closeShell (sessionId : Uuid)
deriving DecidableEq

structure TelemetrySnapshot where
  cpuPct : ℚ
  ramUsedMb : UInt64
  ramTotalMb : UInt64
  diskUsedGb : ℚ
  diskTotalGb : ℚ
  uptimeSecs : UInt64
  timestamp : Int64
deriving DecidableEq

structure SoftwareItem where
  name : String
  version : Option String
  publisher : Option String
  installDate : Option String
deriving DecidableEq

structure PatchItem where
  patchId : String
  title : Option String
  severity : Option String
  status : String
deriving DecidableEq

inductive AgentMessage where
  | heartbeat (agentVersion : String)
  | telemetryReport (snapshot : TelemetrySnapshot)
  | systemEventBatch (events : List SystemEvent)
  | jobLog (jobId : Uuid) (line stream : String)
  | jobCompleted (jobId : Uuid) (exitCode : Int32)
  | complianceReport (reports : List ComplianceReport)
  | inventoryReport (software : List SoftwareItem) (patches : List PatchItem)
  | shellOutput (sessionId : Uuid) (data : String)
  | shellClosed (sessionId : Uuid) (exitCode : Option Int32)
deriving DecidableEq

namespace ServerMessage

def tag : ServerMessage → String
  | .heartbeat => "heartbeat"
  | .pushPolicy .. => "push_policy"
  | .dispatchJob .. => "dispatch_job"
  | .revokeJob .. => "revoke_job"
  | .requestTelemetry => "request_telemetry"
  | .requestInventory => "request_inventory"
  | .openShell .. => "open_shell"
  | .shellInput .. => "shell_input"
  | .closeShell .. => "close_shell"

/-- The fields of a variant, in order. -/
def fields : String → List String
  | "push_policy" => ["policies"]
  | "dispatch_job" => ["job_id", "payload", "signature"]
  | "revoke_job" => ["job_id"]
  | "open_shell" | "close_shell" => ["session_id"]
  | "shell_input" => ["session_id", "data"]
  | _ => []

def members : ServerMessage → List (String × Json)
  | .heartbeat | .requestTelemetry | .requestInventory => []
  | .pushPolicy policies => [("policies", PolicyDefinition.codec.list.encode policies)]
  | .dispatchJob jobId payload signature =>
      [("job_id", Uuid.codec.encode jobId), ("payload", JobPayload.codec.encode payload),
        ("signature", .string signature)]
  | .revokeJob jobId => [("job_id", Uuid.codec.encode jobId)]
  | .openShell sessionId => [("session_id", Uuid.codec.encode sessionId)]
  | .shellInput sessionId data =>
      [("session_id", Uuid.codec.encode sessionId), ("data", .string data)]
  | .closeShell sessionId => [("session_id", Uuid.codec.encode sessionId)]

def ofMembers (members : List (String × Json)) : String → Option ServerMessage
  | "heartbeat" => some .heartbeat
  | "push_policy" => do
      let policies ← requiredMember members "policies" PolicyDefinition.codec.list.decode
      return .pushPolicy policies
  | "dispatch_job" => do
      let jobId ← requiredMember members "job_id" Uuid.codec.decode
      let payload ← requiredMember members "payload" JobPayload.codec.decode
      let signature ← requiredMember members "signature" Codec.text.decode
      return .dispatchJob jobId payload signature
  | "revoke_job" => do
      let jobId ← requiredMember members "job_id" Uuid.codec.decode
      return .revokeJob jobId
  | "request_telemetry" => some .requestTelemetry
  | "request_inventory" => some .requestInventory
  | "open_shell" => do
      let sessionId ← requiredMember members "session_id" Uuid.codec.decode
      return .openShell sessionId
  | "shell_input" => do
      let sessionId ← requiredMember members "session_id" Uuid.codec.decode
      let data ← requiredMember members "data" Codec.text.decode
      return .shellInput sessionId data
  | "close_shell" => do
      let sessionId ← requiredMember members "session_id" Uuid.codec.decode
      return .closeShell sessionId
  | _ => none

theorem ofMembers_members (message : ServerMessage) :
    ofMembers message.members message.tag = some message := by
  cases message with
  | heartbeat | requestTelemetry | requestInventory => rfl
  | pushPolicy policies => simp [ofMembers, members, tag, requiredMember, once]
  | dispatchJob jobId payload signature =>
      simp [ofMembers, members, tag, requiredMember, once]
  | revokeJob jobId => simp [ofMembers, members, tag, requiredMember, once]
  | openShell sessionId => simp [ofMembers, members, tag, requiredMember, once]
  | shellInput sessionId data => simp [ofMembers, members, tag, requiredMember, once]
  | closeShell sessionId => simp [ofMembers, members, tag, requiredMember, once]

/-- Internally tagged with `msg_type`. -/
def codec : Codec ServerMessage :=
  Codec.tagged "msg_type" fields tag members ofMembers (fun message => by cases message <;> rfl)
    ofMembers_members

end ServerMessage

/-! ## Agent messages -/

theorem optionalText {members : List (String × Json)} {key : String} {value : Option String}
    (found : once members key = some (some (encodeOptional .string value))) :
    optionalMember members key Codec.text.decode = some value :=
  optionalMember_encodeOptional Codec.text key value members found fun _ => nofun

namespace SoftwareItem

def members (item : SoftwareItem) : List (String × Json) :=
  [("name", .string item.name), ("version", encodeOptional .string item.version),
    ("publisher", encodeOptional .string item.publisher),
    ("install_date", encodeOptional .string item.installDate)]

def codec : Codec SoftwareItem where
  encode item := .object item.members
  decode json := do
    let members ← json.fields? ["name", "version", "publisher", "install_date"]
    let name ← requiredMember members "name" Codec.text.decode
    let version ← optionalMember members "version" Codec.text.decode
    let publisher ← optionalMember members "publisher" Codec.text.decode
    let installDate ← optionalMember members "install_date" Codec.text.decode
    return { name, version, publisher, installDate }
  decode_encode item := by
    have version : optionalMember item.members "version" Codec.text.decode = some item.version :=
      optionalText rfl
    have publisher : optionalMember item.members "publisher" Codec.text.decode =
        some item.publisher := optionalText rfl
    have installDate : optionalMember item.members "install_date" Codec.text.decode =
        some item.installDate := optionalText rfl
    have name : requiredMember item.members "name" Codec.text.decode = some item.name := rfl
    simp [name, version, publisher, installDate]

end SoftwareItem

namespace PatchItem

def members (item : PatchItem) : List (String × Json) :=
  [("patch_id", .string item.patchId), ("title", encodeOptional .string item.title),
    ("severity", encodeOptional .string item.severity), ("status", .string item.status)]

def codec : Codec PatchItem where
  encode item := .object item.members
  decode json := do
    let members ← json.fields? ["patch_id", "title", "severity", "status"]
    let patchId ← requiredMember members "patch_id" Codec.text.decode
    let title ← optionalMember members "title" Codec.text.decode
    let severity ← optionalMember members "severity" Codec.text.decode
    let status ← requiredMember members "status" Codec.text.decode
    return { patchId, title, severity, status }
  decode_encode item := by
    have title : optionalMember item.members "title" Codec.text.decode = some item.title :=
      optionalText rfl
    have severity : optionalMember item.members "severity" Codec.text.decode =
        some item.severity := optionalText rfl
    have patchId : requiredMember item.members "patch_id" Codec.text.decode = some item.patchId :=
      rfl
    have status : requiredMember item.members "status" Codec.text.decode = some item.status := rfl
    simp [patchId, title, severity, status]

end PatchItem

namespace TelemetrySnapshot

def floats (snapshot : TelemetrySnapshot) : List ℚ :=
  [snapshot.cpuPct, snapshot.diskUsedGb, snapshot.diskTotalGb]

variable (format : FloatFormat)

def encode (snapshot : TelemetrySnapshot) : Json :=
  .object [("cpu_pct", format.encode snapshot.cpuPct),
    ("ram_used_mb", Codec.uint64.encode snapshot.ramUsedMb),
    ("ram_total_mb", Codec.uint64.encode snapshot.ramTotalMb),
    ("disk_used_gb", format.encode snapshot.diskUsedGb),
    ("disk_total_gb", format.encode snapshot.diskTotalGb),
    ("uptime_secs", Codec.uint64.encode snapshot.uptimeSecs),
    ("timestamp", Codec.int64.encode snapshot.timestamp)]

def decode (json : Json) : Option TelemetrySnapshot := do
  let members ← json.fields? ["cpu_pct", "ram_used_mb", "ram_total_mb", "disk_used_gb",
    "disk_total_gb", "uptime_secs", "timestamp"]
  let cpuPct ← requiredMember members "cpu_pct" format.decode
  let ramUsedMb ← requiredMember members "ram_used_mb" Codec.uint64.decode
  let ramTotalMb ← requiredMember members "ram_total_mb" Codec.uint64.decode
  let diskUsedGb ← requiredMember members "disk_used_gb" format.decode
  let diskTotalGb ← requiredMember members "disk_total_gb" format.decode
  let uptimeSecs ← requiredMember members "uptime_secs" Codec.uint64.decode
  let timestamp ← requiredMember members "timestamp" Codec.int64.decode
  return { cpuPct, ramUsedMb, ramTotalMb, diskUsedGb, diskTotalGb, uptimeSecs, timestamp }

variable {format}

theorem decode_encode {snapshot : TelemetrySnapshot}
    (exact : ∀ value ∈ snapshot.floats, format.Exact value) :
    decode format (snapshot.encode format) = some snapshot := by
  have cpu := (exact snapshot.cpuPct (by simp [floats])).decode_encode
  have used := (exact snapshot.diskUsedGb (by simp [floats])).decode_encode
  have size := (exact snapshot.diskTotalGb (by simp [floats])).decode_encode
  simp [decode, encode, requiredMember, once, cpu, used, size]

end TelemetrySnapshot

namespace AgentMessage

def tag : AgentMessage → String
  | .heartbeat .. => "heartbeat"
  | .telemetryReport .. => "telemetry_report"
  | .systemEventBatch .. => "system_event_batch"
  | .jobLog .. => "job_log"
  | .jobCompleted .. => "job_completed"
  | .complianceReport .. => "compliance_report"
  | .inventoryReport .. => "inventory_report"
  | .shellOutput .. => "shell_output"
  | .shellClosed .. => "shell_closed"

/-- The fields of a variant, in order. -/
def fields : String → List String
  | "heartbeat" => ["agent_version"]
  | "telemetry_report" => ["snapshot"]
  | "system_event_batch" => ["events"]
  | "job_log" => ["job_id", "line", "stream"]
  | "job_completed" => ["job_id", "exit_code"]
  | "compliance_report" => ["reports"]
  | "inventory_report" => ["software", "patches"]
  | "shell_output" => ["session_id", "data"]
  | "shell_closed" => ["session_id", "exit_code"]
  | _ => []

/-- The doubles of a message. -/
def floats : AgentMessage → List ℚ
  | .telemetryReport snapshot => snapshot.floats
  | _ => []

variable (format : FloatFormat)

def members : AgentMessage → List (String × Json)
  | .heartbeat agentVersion => [("agent_version", .string agentVersion)]
  | .telemetryReport snapshot => [("snapshot", snapshot.encode format)]
  | .systemEventBatch events => [("events", SystemEvent.codec.list.encode events)]
  | .jobLog jobId line stream =>
      [("job_id", Uuid.codec.encode jobId), ("line", .string line), ("stream", .string stream)]
  | .jobCompleted jobId exitCode =>
      [("job_id", Uuid.codec.encode jobId), ("exit_code", Codec.int32.encode exitCode)]
  | .complianceReport reports => [("reports", ComplianceReport.codec.list.encode reports)]
  | .inventoryReport software patches =>
      [("software", SoftwareItem.codec.list.encode software),
        ("patches", PatchItem.codec.list.encode patches)]
  | .shellOutput sessionId data =>
      [("session_id", Uuid.codec.encode sessionId), ("data", .string data)]
  | .shellClosed sessionId exitCode =>
      [("session_id", Uuid.codec.encode sessionId),
        ("exit_code", encodeOptional Codec.int32.encode exitCode)]

def ofMembers (members : List (String × Json)) : String → Option AgentMessage
  | "heartbeat" => do
      let agentVersion ← requiredMember members "agent_version" Codec.text.decode
      return .heartbeat agentVersion
  | "telemetry_report" => do
      let snapshot ← requiredMember members "snapshot" (TelemetrySnapshot.decode format)
      return .telemetryReport snapshot
  | "system_event_batch" => do
      let events ← requiredMember members "events" SystemEvent.codec.list.decode
      return .systemEventBatch events
  | "job_log" => do
      let jobId ← requiredMember members "job_id" Uuid.codec.decode
      let line ← requiredMember members "line" Codec.text.decode
      let stream ← requiredMember members "stream" Codec.text.decode
      return .jobLog jobId line stream
  | "job_completed" => do
      let jobId ← requiredMember members "job_id" Uuid.codec.decode
      let exitCode ← requiredMember members "exit_code" Codec.int32.decode
      return .jobCompleted jobId exitCode
  | "compliance_report" => do
      let reports ← requiredMember members "reports" ComplianceReport.codec.list.decode
      return .complianceReport reports
  | "inventory_report" => do
      let software ← requiredMember members "software" SoftwareItem.codec.list.decode
      let patches ← requiredMember members "patches" PatchItem.codec.list.decode
      return .inventoryReport software patches
  | "shell_output" => do
      let sessionId ← requiredMember members "session_id" Uuid.codec.decode
      let data ← requiredMember members "data" Codec.text.decode
      return .shellOutput sessionId data
  | "shell_closed" => do
      let sessionId ← requiredMember members "session_id" Uuid.codec.decode
      let exitCode ← optionalMember members "exit_code" Codec.int32.decode
      return .shellClosed sessionId exitCode
  | _ => none

/-- Internally tagged with `msg_type`. -/
def encode (message : AgentMessage) : Json :=
  tagged "msg_type" message.tag (message.members format)

def decode (json : Json) : Option AgentMessage :=
  (untag "msg_type" fields json).bind fun parts => ofMembers format parts.2 parts.1

variable {format}

theorem ofMembers_members {message : AgentMessage}
    (exact : ∀ value ∈ message.floats, format.Exact value) :
    ofMembers format (message.members format) message.tag = some message := by
  cases message with
  | telemetryReport snapshot =>
      have decoded := TelemetrySnapshot.decode_encode exact
      simp [ofMembers, members, tag, requiredMember, once, decoded]
  | shellClosed sessionId exitCode =>
      have code := optionalMember_encodeOptional Codec.int32 "exit_code" exitCode
        (members format (.shellClosed sessionId exitCode)) rfl (fun inner => nofun)
      have session : requiredMember (members format (.shellClosed sessionId exitCode)) "session_id"
          Uuid.codec.decode = some sessionId := Uuid.codec.decode_encode sessionId
      simp only [ofMembers, tag, session, code]
      rfl
  | _ => simp [ofMembers, members, tag, requiredMember, once]

theorem decode_encode {message : AgentMessage}
    (exact : ∀ value ∈ message.floats, format.Exact value) :
    decode format (message.encode format) = some message := by
  have distinct : (message.members format).all (fun member => member.1 != "msg_type") = true := by
    cases message <;> rfl
  simp [decode, encode, distinct, ofMembers_members exact]

end AgentMessage

end OsfmEdm
