import Mathlib.Data.List.Dedup
import OsfmEdm.Server.Database

/-!
The policies a device gets on connect (`services/policy_engine.rs`), a policy with the
devices it goes to when it changes (`push_policy_to_agents` in `api/policies.rs`), and the
statements of the policy and group routes.
-/

namespace OsfmEdm

open JsonText

namespace Database

/-- The join's `WHERE` on an assignment: the device itself or a group it is in. -/
def addresses (db : Database) (assignment : PolicyAssignmentRow) (device : Uuid) : Bool :=
  assignment.deviceId = some device ∨
    db.groupMembers.any fun row =>
      row.deviceId = device ∧ assignment.groupId = some row.groupId

/-- One row for every enabled policy and every assignment of it that addresses the device. Rules
that do not decode count as none. -/
def policiesFor (db : Database) (device : Uuid) : List PolicyDefinition :=
  (db.policies.rows.filter fun row => row.2.enabled).flatMap fun row =>
    (db.policyAssignments.filter fun assignment =>
      assignment.policyId = row.1 ∧ db.addresses assignment device).map fun _ =>
        { id := row.1
          name := row.2.name
          rules := (PolicyRule.codec.list.decode row.2.rules).getD [] }

/-- The definition `push_policy_to_agents` selects. -/
def enabledPolicy (db : Database) (policy : Uuid) : Option PolicyDefinition :=
  match db.policies.find? policy with
  | some row =>
      if row.enabled then
        some
          { id := policy
            name := row.name
            rules := (PolicyRule.codec.list.decode row.rules).getD [] }
      else none
  | none => none

/-- The devices `push_policy_to_agents` selects: a `UNION` without duplicates. -/
def devicesOf (db : Database) (policy : Uuid) : List Uuid :=
  ((db.policyAssignments.filter fun assignment => assignment.policyId = policy).flatMap
    fun assignment =>
      assignment.deviceId.toList ++
        (db.groupMembers.filter fun row => assignment.groupId = some row.groupId).map
          (·.deviceId)).dedup

/-- `INSERT INTO policies (name, description, rules)`; the column `enabled` defaults to true. -/
def insertPolicy (db : Database) (policy : Uuid) (name : String) (rules : Json) : Option Database :=
  (db.policies.insert policy { name, rules, enabled := true }).map fun policies =>
    { db with policies }

def updatePolicy (db : Database) (policy : Uuid) (change : PolicyRow → PolicyRow) : Database :=
  { db with policies := db.policies.update policy change }

/-- `DELETE FROM policies WHERE id = $1`, with the assignments and the reports of the policy. -/
def deletePolicy (db : Database) (policy : Uuid) : Database :=
  { db with
    policies := db.policies.keep fun key _ => key ≠ policy
    policyAssignments := db.policyAssignments.filter fun row => row.policyId ≠ policy
    complianceReports := db.complianceReports.keep fun key _ => key.2 ≠ policy }

/-! ## Assignments and groups -/

/-- Whether a row has the policy and one of the targets; a target that is null equals nothing. -/
def isAssignment (policy : Uuid) (deviceId groupId : Option Uuid) (row : PolicyAssignmentRow) :
    Bool :=
  row.policyId = policy ∧
    ((deviceId.isSome ∧ row.deviceId = deviceId) ∨ (groupId.isSome ∧ row.groupId = groupId))

/-- `INSERT INTO policy_assignments … ON CONFLICT DO NOTHING` with its foreign keys. -/
def assignPolicy (db : Database) (policy : Uuid) (deviceId groupId : Option Uuid) :
    Option Database :=
  if db.policyAssignments.any (isAssignment policy deviceId groupId) then some db
  else if db.policies.contains policy ∧ deviceId.all db.deviceExists ∧
      groupId.all db.deviceGroups.contains then
    some { db with
      policyAssignments := db.policyAssignments ++ [{ policyId := policy, deviceId, groupId }] }
  else none

/-- `DELETE FROM policy_assignments WHERE policy_id = $1 AND (device_id = $2 OR group_id = $3)`. -/
def unassignPolicy (db : Database) (policy : Uuid) (deviceId groupId : Option Uuid) : Database :=
  { db with
    policyAssignments :=
      db.policyAssignments.filter fun row => !isAssignment policy deviceId groupId row }

/-- `INSERT INTO device_groups (name, description)`: names are unique. -/
def insertGroup (db : Database) (group : Uuid) (name : String) (description : Option String) :
    Option Database :=
  if db.deviceGroups.rows.any fun row => row.2.name = name then none
  else
    (db.deviceGroups.insert group { name, description }).map fun deviceGroups =>
      { db with deviceGroups }

/-- `DELETE FROM device_groups WHERE id = $1`, with the members and the assignments of the group. -/
def deleteGroup (db : Database) (group : Uuid) : Database :=
  { db with
    deviceGroups := db.deviceGroups.keep fun key _ => key ≠ group
    groupMembers := db.groupMembers.filter fun row => row.groupId ≠ group
    policyAssignments := db.policyAssignments.filter fun row => row.groupId ≠ some group }

/-- `INSERT INTO group_members … ON CONFLICT DO NOTHING` with its foreign keys. -/
def addMember (db : Database) (group device : Uuid) : Option Database :=
  if { groupId := group, deviceId := device } ∈ db.groupMembers then some db
  else if db.deviceGroups.contains group ∧ db.deviceExists device then
    some { db with
      groupMembers := db.groupMembers ++ [{ groupId := group, deviceId := device }] }
  else none

def removeMember (db : Database) (group device : Uuid) : Database :=
  { db with
    groupMembers := db.groupMembers.filter fun row =>
      ¬(row.groupId = group ∧ row.deviceId = device) }

theorem mem_policiesFor {db : Database} {device : Uuid} {definition : PolicyDefinition} :
    definition ∈ db.policiesFor device ↔
      db.enabledPolicy definition.id = some definition ∧
        ∃ assignment ∈ db.policyAssignments,
          assignment.policyId = definition.id ∧ db.addresses assignment device := by
  simp only [policiesFor, List.mem_flatMap, List.mem_filter, List.mem_map, decide_eq_true_eq,
    enabledPolicy]
  constructor
  · rintro ⟨⟨policy, row⟩, ⟨member, enabled⟩, assignment, ⟨assigned, same, addressed⟩, rfl⟩
    have found := (db.policies.find?_eq_some policy row).mpr member
    exact ⟨by simpa [found] using enabled, assignment, assigned, same, addressed⟩
  · rintro ⟨selected, assignment, assigned, same, addressed⟩
    split at selected
    · rename_i row found
      split at selected
      · rename_i enabled
        obtain ⟨id, name, rules⟩ := definition
        cases selected
        exact ⟨(id, row), ⟨(db.policies.find?_eq_some id row).mp found, enabled⟩, assignment,
          ⟨assigned, same, addressed⟩, rfl⟩
      · cases selected
    · cases selected

theorem mem_devicesOf {db : Database} {policy device : Uuid} :
    device ∈ db.devicesOf policy ↔
      ∃ assignment ∈ db.policyAssignments,
        assignment.policyId = policy ∧ db.addresses assignment device := by
  simp only [devicesOf, List.mem_dedup, List.mem_flatMap, List.mem_filter, decide_eq_true_eq,
    List.mem_append, Option.mem_toList, List.mem_map, addresses,
    List.any_eq_true]
  constructor
  · rintro ⟨assignment, ⟨assigned, same⟩, own | ⟨row, ⟨member, group⟩, owned⟩⟩
    · exact ⟨assignment, assigned, same, .inl own⟩
    · exact ⟨assignment, assigned, same, .inr ⟨row, member, owned, group⟩⟩
  · rintro ⟨assignment, assigned, same, own | ⟨row, member, owned, group⟩⟩
    · exact ⟨assignment, ⟨assigned, same⟩, .inl own⟩
    · exact ⟨assignment, ⟨assigned, same⟩, .inr ⟨row, ⟨member, group⟩, owned⟩⟩

/-- A device gets no other policies from fewer assignments and members. -/
theorem policiesFor_subset {db fewer : Database} {device : Uuid} {definition : PolicyDefinition}
    (member : definition ∈ fewer.policiesFor device)
    (selected : fewer.enabledPolicy definition.id = some definition →
      db.enabledPolicy definition.id = some definition)
    (assigned : ∀ row ∈ fewer.policyAssignments, row ∈ db.policyAssignments)
    (members : ∀ row ∈ fewer.groupMembers, row ∈ db.groupMembers) :
    definition ∈ db.policiesFor device := by
  obtain ⟨found, assignment, own, same, addressed⟩ := mem_policiesFor.mp member
  refine mem_policiesFor.mpr ⟨selected found, assignment, assigned _ own, same, ?_⟩
  simp only [addresses, List.any_eq_true, decide_eq_true_eq] at addressed ⊢
  rcases addressed with direct | ⟨row, joined, grouped⟩
  · exact .inl direct
  · exact .inr ⟨row, members row joined, grouped⟩

end Database

end OsfmEdm
