import OsfmEdm.Agent.PolicyEngine
import OsfmEdm.Server.PolicyEngine
import OsfmEdm.Transport.Protocol

/-!
A compliant report of a pushed policy covers every stored rule exactly when the stored rules
decode as a whole: the server pushes rules that do not decode as no rules at all.
-/

namespace OsfmEdm

open JsonText

/-- The definitions the server pushes, on connect or when a policy has changed. -/
inductive PolicyPush (db : Database) : List PolicyDefinition → Prop where
  | toDevice (device : Uuid) : PolicyPush db (db.policiesFor device)
  | toAgents {policy : Uuid} {definition : PolicyDefinition}
      (selected : db.enabledPolicy policy = some definition) : PolicyPush db [definition]

/-- The reports an agent sends on a text from the server. -/
def policyReports (deviceId : Uuid) (moments : Nat → Nat → Host) (text : String) :
    List ComplianceReport :=
  match decodeServerMessage text with
  | some (.pushPolicy policies) =>
      match evaluatePolicies deviceId moments policies with
      | some (.complianceReport reports) => reports
      | _ => []
  | _ => []

/-- The rules in the column `rules`, whatever they are. -/
def storedRules : Json → List Json
  | .array items => items
  | _ => []

/-- Every stored rule decodes, and its check finds no violation. -/
def Covered (moments : Nat → Host) (rules : Json) : Prop :=
  ∀ index stored, (storedRules rules)[index]? = some stored →
    ∃ rule, PolicyRule.codec.decode stored = some rule ∧ checkRule (moments index) rule = none

/-- The compliant reports of a policy cover its stored rules. -/
def ReportsCover (db : Database) (policy : Uuid) (rules : Json) : Prop :=
  ∀ policies, PolicyPush db policies → ∀ deviceId moments place report,
    (policyReports deviceId moments
      (encodeServerMessage (.pushPolicy policies)))[place]? = some report →
    report.policyId = policy → report.compliant = true → Covered (moments place) rules

/-- The stored rules decode as a list of rules, or there are none. -/
def rulesDecode (rules : Json) : Bool :=
  (storedRules rules).isEmpty || (PolicyRule.codec.list.decode rules).isSome

theorem policyReports_push (deviceId : Uuid) (moments : Nat → Nat → Host)
    (policies : List PolicyDefinition) :
    policyReports deviceId moments (encodeServerMessage (.pushPolicy policies)) =
      policies.zipIdx.map fun (policy, place) =>
        (evaluatePolicy deviceId (moments place) policy).1 := by
  simp only [policyReports, decodeServerMessage_encode, evaluatePolicies]
  split
  · rename_i sent
    split at sent
    · cases sent
    · cases sent
      rfl
  · rename_i silent
    split at silent
    · rename_i none
      exact none.symm
    · exact absurd rfl (silent _)

theorem push_selected {db : Database} {policies : List PolicyDefinition}
    (pushed : PolicyPush db policies) {definition : PolicyDefinition}
    (member : definition ∈ policies) : db.enabledPolicy definition.id = some definition := by
  cases pushed with
  | toDevice device => exact (Database.mem_policiesFor.mp member).1
  | toAgents selected =>
      obtain rfl := List.mem_singleton.mp member
      rename_i policy
      have same : definition.id = policy := by
        unfold Database.enabledPolicy at selected
        split at selected
        · split at selected
          · cases selected
            rfl
          · cases selected
        · cases selected
      rw [same, selected]

theorem enabledPolicy_of_find {db : Database} {policy : Uuid} {row : PolicyRow}
    (found : db.policies.find? policy = some row) :
    db.enabledPolicy policy =
      if row.enabled then
        some
          { id := policy
            name := row.name
            rules := (PolicyRule.codec.list.decode row.rules).getD [] }
      else none := by
  simp only [Database.enabledPolicy, found]

theorem decode_list_getElem {α : Type} {codec : Codec α} {items : List Json} {values : List α}
    (decoded : items.mapM codec.decode = some values) {index : Nat} {item : Json}
    (found : items[index]? = some item) :
    ∃ value, codec.decode item = some value ∧ values[index]? = some value := by
  induction items generalizing values index with
  | nil => cases found
  | cons first rest ih =>
      simp only [List.mapM_cons, Option.bind_eq_bind, Option.bind_eq_some_iff] at decoded
      obtain ⟨value, own, others, later, same⟩ := decoded
      cases same
      cases index with
      | zero =>
          cases found
          exact ⟨value, own, rfl⟩
      | succ index => exact ih later found

theorem decode_list_isSome {α : Type} {codec : Codec α} {items : List Json}
    (each : ∀ item ∈ items, (codec.decode item).isSome) : (items.mapM codec.decode).isSome := by
  induction items with
  | nil => rfl
  | cons first rest ih =>
      obtain ⟨value, own⟩ := Option.isSome_iff_exists.mp (each first List.mem_cons_self)
      obtain ⟨values, others⟩ := Option.isSome_iff_exists.mp
        (ih fun item member => each item (List.mem_cons_of_mem _ member))
      simp [List.mapM_cons, own, others]

/-- One enabled policy with these rules. -/
def policyOf (rules : Json) : Database :=
  { Database.ofDevices .empty with
    policies := ⟨[(Uuid.small 3, { name := "baseline", rules, enabled := true })], by simp⟩ }

/-- A rule and its positional form. -/
def firewallRules : Json :=
  .array [PolicyRule.codec.encode (.firewall true), .array [.string "firewall", .bool true]]

/-- A rule beside one that no variant has. -/
def misspelledRules : Json :=
  .array [PolicyRule.codec.encode (.firewall true), .object [("type", .string "firewal")]]

/-- A host without a firewall reports the policy with a misspelled rule compliant. -/
def unprotected : Host where
  firewallEnabled := false
  usbStorageLoaded := false
  screenLock _ _ := .ok ()
  autoUpdates := false
  processes := []
  now := 0

end OsfmEdm
