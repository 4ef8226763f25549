import OsfmEdm.Common.Protocol
import OsfmEdm.Library.JsonKeys

/-!
The JSON texts on the WebSocket (`transport/protocol.rs`, `ws/agent_hub.rs`): what one side
writes the other reads back, and a tag never has the name of another member.
-/

namespace OsfmEdm

open JsonText

/-- `serde_json::to_string` in the write task of a connection. -/
def encodeServerMessage (message : ServerMessage) : String :=
  String.ofList (ServerMessage.codec.toText message)

def decodeServerMessage (text : String) : Option ServerMessage :=
  ServerMessage.codec.fromText text.toList

def encodeAgentMessage (format : FloatFormat) (message : AgentMessage) : String :=
  String.ofList (write (message.encode format))

/-- `serde_json::from_str` in the read loop of a connection. -/
def decodeAgentMessage (format : FloatFormat) (text : String) : Option AgentMessage :=
  (read text.toList).bind (AgentMessage.decode format)

theorem decodeServerMessage_encode (message : ServerMessage) :
    decodeServerMessage (encodeServerMessage message) = some message := by
  rw [decodeServerMessage, encodeServerMessage, String.toList_ofList, Codec.fromText_toText]

theorem decodeAgentMessage_encode {format : FloatFormat} {message : AgentMessage}
    (exact : ∀ value ∈ message.floats, format.Exact value) :
    decodeAgentMessage format (encodeAgentMessage format message) = some message := by
  rw [decodeAgentMessage, encodeAgentMessage, String.toList_ofList, read_write, Option.bind_some,
    AgentMessage.decode_encode exact]

/-! ## Tags -/

theorem Uuid.codec_distinct : Uuid.codec.Distinct := fun _ => .string _

namespace JobPayload

theorem members_fields (payload : JobPayload) :
    payload.members.map Prod.fst = fields payload.tag := by
  cases payload <;> rfl

theorem fields_distinct (tag : String) : ("type" :: fields tag).Nodup := by
  unfold fields
  split <;> decide

theorem codec_distinct : codec.Distinct := by
  intro payload
  refine .tagged (by rw [members_fields]; exact fields_distinct _) ?_
  cases payload with
  | runPatchUpdate patchIds =>
      simp [members, Codec.list_distinct Codec.text_distinct patchIds]
  | _ =>
      simp [members, ShellType.codec, PackageManager.codec, Codec.variants,
        Codec.uint32_distinct _]

end JobPayload

namespace PolicyRule

theorem members_fields (rule : PolicyRule) : rule.members.map Prod.fst = fields rule.tag := by
  cases rule <;> rfl

theorem fields_distinct (tag : String) : ("type" :: fields tag).Nodup := by
  unfold fields
  split <;> decide

theorem codec_distinct : codec.Distinct := by
  intro rule
  refine .tagged (by rw [members_fields]; exact fields_distinct _) ?_
  cases rule with
  | processBlacklist deny => simp [members, Codec.list_distinct Codec.text_distinct deny]
  | systemEvents collect monitorPaths batchIntervalSecs =>
      simp [members, Codec.list_distinct Codec.text_distinct collect,
        Codec.optional_distinct (Codec.list_distinct Codec.text_distinct) monitorPaths,
        Codec.optional_distinct Codec.uint64_distinct batchIntervalSecs]
  | _ => simp [members, UpdatePolicy.codec, Codec.variants, Codec.uint32_distinct _]

end PolicyRule

namespace SystemEvent

theorem members_fields (event : SystemEvent) : event.members.map Prod.fst = fields event.tag := by
  cases event <;> rfl

theorem fields_distinct (tag : String) : ("type" :: fields tag).Nodup := by
  unfold fields
  split <;> decide

theorem codec_distinct : codec.Distinct := by
  intro event
  refine .tagged (by rw [members_fields]; exact fields_distinct _) ?_
  cases event <;>
    simp [members, FileOperation.codec, NetworkProtocol.codec, RegistryOperation.codec,
      Codec.variants, Codec.uint32_distinct _, Codec.int32_distinct _, Codec.int64_distinct _]

end SystemEvent

theorem PolicyDefinition.codec_distinct : PolicyDefinition.codec.Distinct := by
  intro policy
  refine .members (by simp) ?_
  simp [Uuid.codec_distinct _, Codec.list_distinct PolicyRule.codec_distinct policy.rules]

theorem ComplianceViolation.codec_distinct : ComplianceViolation.codec.Distinct := by
  intro violation
  exact .members (by simp) (by simp)

theorem ComplianceReport.codec_distinct : ComplianceReport.codec.Distinct := by
  intro report
  refine .members (by simp) ?_
  simp [Uuid.codec_distinct _, Codec.int64_distinct _,
    Codec.list_distinct ComplianceViolation.codec_distinct report.violations]

theorem SoftwareItem.codec_distinct : SoftwareItem.codec.Distinct := by
  intro item
  exact .members (by simp [members]) (by simp [members])

theorem PatchItem.codec_distinct : PatchItem.codec.Distinct := by
  intro item
  exact .members (by simp [members]) (by simp [members])

theorem TelemetrySnapshot.encode_distinct (format : FloatFormat) (snapshot : TelemetrySnapshot) :
    (snapshot.encode format).Distinct := by
  refine .members (by simp) ?_
  simp [FloatFormat.encode, Codec.uint64_distinct _, Codec.int64_distinct _]

namespace ServerMessage

theorem members_fields (message : ServerMessage) :
    message.members.map Prod.fst = fields message.tag := by
  cases message <;> rfl

theorem fields_distinct (tag : String) : ("msg_type" :: fields tag).Nodup := by
  unfold fields
  split <;> decide

theorem codec_distinct : codec.Distinct := by
  intro message
  refine .tagged (by rw [members_fields]; exact fields_distinct _) ?_
  cases message with
  | pushPolicy policies =>
      simp [members, Codec.list_distinct PolicyDefinition.codec_distinct policies]
  | dispatchJob jobId payload signature =>
      simp [members, Uuid.codec_distinct _, JobPayload.codec_distinct payload]
  | _ => simp [members, Uuid.codec_distinct _]

end ServerMessage

namespace AgentMessage

theorem members_fields (format : FloatFormat) (message : AgentMessage) :
    (message.members format).map Prod.fst = fields message.tag := by
  cases message <;> rfl

theorem fields_distinct (tag : String) : ("msg_type" :: fields tag).Nodup := by
  unfold fields
  split <;> decide

theorem encode_distinct (format : FloatFormat) (message : AgentMessage) :
    (message.encode format).Distinct := by
  refine .tagged (by rw [members_fields]; exact fields_distinct _) ?_
  cases message with
  | telemetryReport snapshot => simp [members, TelemetrySnapshot.encode_distinct]
  | systemEventBatch events =>
      simp [members, Codec.list_distinct SystemEvent.codec_distinct events]
  | complianceReport reports =>
      simp [members, Codec.list_distinct ComplianceReport.codec_distinct reports]
  | inventoryReport software patches =>
      simp [members, Codec.list_distinct SoftwareItem.codec_distinct software,
        Codec.list_distinct PatchItem.codec_distinct patches]
  | shellClosed sessionId exitCode =>
      simp [members, Uuid.codec_distinct _,
        Codec.optional_distinct Codec.int32_distinct exitCode]
  | _ => simp [members, Uuid.codec_distinct _, Codec.int32_distinct _]

end AgentMessage

/-! ## Messages -/

/-- Both directions read back what was written, and each object on the way, at any level, names
each of its members once, the tag included. -/
theorem websocket_round_trips (format : FloatFormat) :
    (∀ message : ServerMessage,
      decodeServerMessage (encodeServerMessage message) = some message ∧
        (ServerMessage.codec.encode message).Distinct) ∧
    ∀ message : AgentMessage, (∀ value ∈ message.floats, format.Exact value) →
      decodeAgentMessage format (encodeAgentMessage format message) = some message ∧
        (message.encode format).Distinct :=
  ⟨fun message => ⟨decodeServerMessage_encode message, ServerMessage.codec_distinct message⟩,
    fun message exact => ⟨decodeAgentMessage_encode exact, message.encode_distinct format⟩⟩

/-- The number a spelling without an exponent denotes. -/
def decimalValue (number : Number) : ℚ :=
  let digits := number.fraction.foldl (fun value digit => 10 * value + digit.val) number.whole
  (if number.negative then -1 else 1) * digits / 10 ^ number.fraction.length

/-- Doubles with one digit after the point. -/
def oneDecimal : FloatFormat where
  print value :=
    { negative := value < 0
      whole := value.num.natAbs / value.den
      fraction := natDigits (10 * value.num.natAbs / value.den % 10)
      exponent := none }
  parse number := some (decimalValue number)

def idleSnapshot : TelemetrySnapshot where
  cpuPct := 25 / 2
  ramUsedMb := 2048
  ramTotalMb := 18446744073709551615
  diskUsedGb := 3
  diskTotalGb := 256
  uptimeSecs := 60
  timestamp := -1

theorem websocket_round_trips_telemetry :
    decodeAgentMessage oneDecimal
        (encodeAgentMessage oneDecimal (.telemetryReport idleSnapshot)) =
      some (.telemetryReport idleSnapshot) ∧
      (AgentMessage.encode oneDecimal (.telemetryReport idleSnapshot)).Distinct :=
  (websocket_round_trips oneDecimal).2 (.telemetryReport idleSnapshot) (by decide +kernel)

end OsfmEdm
