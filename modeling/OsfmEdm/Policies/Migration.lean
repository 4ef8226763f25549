import OsfmEdm.Server.Database

/-!
The table `policy_assignments` through `migrations/015_reconcile_schema_and_security.sql`. A statement
that violates a constraint fails, and the migration with it.
-/

namespace OsfmEdm

inductive TargetType where
  | device
  | group
deriving DecidableEq

/-- A row as `migrations/003_policies.sql` has it. -/
structure TargetAssignment where
  policyId : Uuid
  targetType : TargetType
  targetId : Uuid
deriving DecidableEq

/-- The tables before the migration, with the constraints of the table of assignments. -/
structure TargetSchema where
  policies : List Uuid
  devices : List Uuid
  groups : List Uuid
  assignments : List TargetAssignment
  references : ∀ row ∈ assignments, row.policyId ∈ policies
  unique : assignments.Nodup

/-- A row between the statements: with the old columns and the new ones. -/
structure WideAssignment extends TargetAssignment where
  deviceId : Option Uuid
  groupId : Option Uuid
deriving DecidableEq

/-- `ADD COLUMN device_id`, `ADD COLUMN group_id`. -/
def addColumns (rows : List TargetAssignment) : List WideAssignment :=
  rows.map fun row => { row with deviceId := none, groupId := none }

/-- An `UPDATE` of a column that references a table. -/
def updateReferences (rows : List WideAssignment) (selects : WideAssignment → Bool)
    (referenced : List Uuid) (set : WideAssignment → WideAssignment) : Option (List WideAssignment) :=
  if (rows.filter selects).all fun row => referenced.any (· = row.targetId) then
    some (rows.map fun row => if selects row then set row else row)
  else none

/-- `UPDATE policy_assignments SET device_id = target_id WHERE target_type = 'device'`. -/
def setDeviceIds (devices : List Uuid) (rows : List WideAssignment) : Option (List WideAssignment) :=
  updateReferences rows (fun row => row.targetType = .device) devices
    fun row => { row with deviceId := some row.targetId }

/-- `UPDATE policy_assignments SET group_id = target_id WHERE target_type = 'group'`. -/
def setGroupIds (groups : List Uuid) (rows : List WideAssignment) : Option (List WideAssignment) :=
  updateReferences rows (fun row => row.targetType = .group) groups
    fun row => { row with groupId := some row.targetId }

/-- `DROP CONSTRAINT`, `DROP COLUMN target_type`, `DROP COLUMN target_id`. -/
def dropColumns (rows : List WideAssignment) : List PolicyAssignmentRow :=
  rows.map fun row => { policyId := row.policyId, deviceId := row.deviceId, groupId := row.groupId }

/-- `CREATE UNIQUE INDEX … (policy_id, column) WHERE column IS NOT NULL`. -/
def uniqueIndex (column : PolicyAssignmentRow → Option Uuid) (rows : List PolicyAssignmentRow) :
    Option (List PolicyAssignmentRow) :=
  if ((rows.filter fun row => (column row).isSome).map fun row => (row.policyId, column row)).Nodup
  then some rows
  else none

/-- The reshape, statement by statement. -/
def TargetSchema.migrate (schema : TargetSchema) : Option (List PolicyAssignmentRow) := do
  let rows := addColumns schema.assignments
  let rows ← setDeviceIds schema.devices rows
  let rows ← setGroupIds schema.groups rows
  let rows := dropColumns rows
  let rows ← uniqueIndex (·.deviceId) rows
  uniqueIndex (·.groupId) rows

/-! ## Assignments -/

/-- Each row has one target, and the policies are assigned to what they were assigned to, as far as that
exists. -/
structure TargetSchema.Preserved (schema : TargetSchema) (rows : List PolicyAssignmentRow) :
    Prop where
  one : ∀ row ∈ rows, row.deviceId.isSome = !row.groupId.isSome
  devices : ∀ policy device, (∃ row ∈ rows, row.policyId = policy ∧ row.deviceId = some device) ↔
    device ∈ schema.devices ∧ ⟨policy, .device, device⟩ ∈ schema.assignments
  groups : ∀ policy group, (∃ row ∈ rows, row.policyId = policy ∧ row.groupId = some group) ↔
    group ∈ schema.groups ∧ ⟨policy, .group, group⟩ ∈ schema.assignments

def TargetSchema.TargetExists (schema : TargetSchema) (row : TargetAssignment) : Prop :=
  match row.targetType with
  | .device => row.targetId ∈ schema.devices
  | .group => row.targetId ∈ schema.groups

def TargetAssignment.reshape (row : TargetAssignment) : PolicyAssignmentRow :=
  match row.targetType with
  | .device => { policyId := row.policyId, deviceId := some row.targetId, groupId := none }
  | .group => { policyId := row.policyId, deviceId := none, groupId := some row.targetId }

theorem updateReferences_eq_some {rows after : List WideAssignment}
    {selects : WideAssignment → Bool} {referenced : List Uuid}
    {set : WideAssignment → WideAssignment} :
    updateReferences rows selects referenced set = some after ↔
      (∀ row ∈ rows, selects row = true → row.targetId ∈ referenced) ∧
        after = rows.map fun row => if selects row = true then set row else row := by
  have condition : ((rows.filter selects).all fun row => referenced.any (· = row.targetId)) = true ↔
      ∀ row ∈ rows, selects row = true → row.targetId ∈ referenced := by
    simp only [List.all_eq_true, List.mem_filter, and_imp, List.any_eq_true, decide_eq_true_eq,
      exists_eq_right]
  rw [updateReferences, ← condition]
  split
  · rename_i holds
    exact ⟨fun same => ⟨holds, (Option.some.inj same).symm⟩, fun both => congrArg some both.2.symm⟩
  · rename_i fails
    exact ⟨fun none => (nomatch none), fun both => absurd both.1 fails⟩

theorem reshape_injective : Function.Injective TargetAssignment.reshape := by
  rintro ⟨policy, type, target⟩ ⟨policy', type', target'⟩ same
  cases type <;> cases type' <;> simp_all [TargetAssignment.reshape]

theorem uniqueIndex_reshape {rows : List TargetAssignment} (unique : rows.Nodup)
    (column : PolicyAssignmentRow → Option Uuid)
    (tells : ∀ first second : TargetAssignment, (column first.reshape).isSome = true →
      first.policyId = second.policyId → column first.reshape = column second.reshape →
      first = second) :
    uniqueIndex column (rows.map TargetAssignment.reshape) =
      some (rows.map TargetAssignment.reshape) := by
  refine if_pos (List.Nodup.map_on ?_ ((unique.map reshape_injective).filter _))
  intro first firstMember second secondMember same
  obtain ⟨firstMember, given⟩ := List.mem_filter.mp firstMember
  obtain ⟨row, -, rfl⟩ := List.mem_map.mp firstMember
  obtain ⟨other, -, rfl⟩ := List.mem_map.mp (List.mem_filter.mp secondMember).1
  obtain ⟨policy, target⟩ := Prod.mk.inj same
  have policies (row : TargetAssignment) : row.reshape.policyId = row.policyId := by
    rw [TargetAssignment.reshape]
    split <;> rfl
  rw [policies, policies] at policy
  exact congrArg _ (tells row other given policy target)

theorem dropColumns_updated (rows : List TargetAssignment) :
    dropColumns (((addColumns rows).map fun row =>
        if decide (row.targetType = .device) = true then { row with deviceId := some row.targetId }
        else row).map fun row =>
        if decide (row.targetType = .group) = true then { row with groupId := some row.targetId }
        else row) =
      rows.map TargetAssignment.reshape := by
  rw [dropColumns, addColumns, List.map_map, List.map_map, List.map_map]
  refine List.map_congr_left fun row _ => ?_
  obtain ⟨policy, type, target⟩ := row
  cases type <;> rfl

theorem targetExists_iff {schema : TargetSchema} :
    (∀ row ∈ schema.assignments, schema.TargetExists row) ↔
      (∀ row ∈ schema.assignments, row.targetType = .device → row.targetId ∈ schema.devices) ∧
        ∀ row ∈ schema.assignments, row.targetType = .group → row.targetId ∈ schema.groups := by
  rw [← forall₂_and]
  refine forall₂_congr fun row _ => ?_
  rw [TargetSchema.TargetExists]
  cases row.targetType <;> simp

/-- The migration completes just when every target is there, and then every row is reshaped. -/
theorem migrate_eq_some {schema : TargetSchema} {rows : List PolicyAssignmentRow} :
    schema.migrate = some rows ↔ (∀ row ∈ schema.assignments, schema.TargetExists row) ∧
      rows = schema.assignments.map TargetAssignment.reshape := by
  have devices := uniqueIndex_reshape schema.unique (·.deviceId) (by
    rintro ⟨policy, type, target⟩ ⟨policy', type', target'⟩
    cases type <;> cases type' <;> simp_all [TargetAssignment.reshape])
  have groups := uniqueIndex_reshape schema.unique (·.groupId) (by
    rintro ⟨policy, type, target⟩ ⟨policy', type', target'⟩
    cases type <;> cases type' <;> simp_all [TargetAssignment.reshape])
  rw [targetExists_iff]
  simp only [TargetSchema.migrate, bind, Option.bind_eq_some_iff, setDeviceIds, setGroupIds,
    updateReferences_eq_some]
  constructor
  · rintro ⟨_, ⟨device, rfl⟩, _, ⟨group, rfl⟩, indexed, first, second⟩
    rw [dropColumns_updated, devices] at first
    cases first
    rw [groups] at second
    cases second
    refine ⟨⟨fun row member type => ?_, fun row member type => ?_⟩, rfl⟩
    · exact device ⟨row, none, none⟩ (List.mem_map.mpr ⟨row, member, rfl⟩) (by simpa using type)
    · have wide : (⟨row, none, none⟩ : WideAssignment) ∈ (addColumns schema.assignments).map fun row =>
          if decide (row.targetType = .device) = true then
            { row with deviceId := some row.targetId }
          else row :=
        List.mem_map.mpr ⟨⟨row, none, none⟩, List.mem_map.mpr ⟨row, member, rfl⟩, by simp [type]⟩
      exact group _ wide (by simpa using type)
  · rintro ⟨⟨device, group⟩, rfl⟩
    refine ⟨_, ⟨?_, rfl⟩, _, ⟨?_, rfl⟩, _, ?_, groups⟩
    · intro wide member type
      obtain ⟨row, listed, rfl⟩ := List.mem_map.mp member
      exact device row listed (by simpa using type)
    · intro wide member type
      obtain ⟨added, listed, rfl⟩ := List.mem_map.mp member
      obtain ⟨row, assigned, rfl⟩ := List.mem_map.mp listed
      cases kind : row.targetType with
      | device => simp [kind] at type
      | group => simpa [kind] using group row assigned kind
    · rw [dropColumns_updated, devices]

theorem preserved_reshape {schema : TargetSchema}
    (targets : ∀ row ∈ schema.assignments, schema.TargetExists row) :
    schema.Preserved (schema.assignments.map TargetAssignment.reshape) where
  one row member := by
    obtain ⟨⟨policy, type, target⟩, -, rfl⟩ := List.mem_map.mp member
    cases type <;> rfl
  devices policy device := by
    constructor
    · rintro ⟨row, member, rfl, found⟩
      obtain ⟨⟨policy, type, target⟩, listed, rfl⟩ := List.mem_map.mp member
      cases type with
      | device =>
          cases found
          exact ⟨targets _ listed, listed⟩
      | group => cases found
    · rintro ⟨-, listed⟩
      exact ⟨_, List.mem_map.mpr ⟨_, listed, rfl⟩, rfl, rfl⟩
  groups policy group := by
    constructor
    · rintro ⟨row, member, rfl, found⟩
      obtain ⟨⟨policy, type, target⟩, listed, rfl⟩ := List.mem_map.mp member
      cases type with
      | device => cases found
      | group =>
          cases found
          exact ⟨targets _ listed, listed⟩
    · rintro ⟨-, listed⟩
      exact ⟨_, List.mem_map.mpr ⟨_, listed, rfl⟩, rfl, rfl⟩

/-- An assignment to a device or a group that is gone stops the migration; without one nothing is lost
or gained. -/
theorem migration_preserves_iff (schema : TargetSchema) :
    (∃ rows, schema.migrate = some rows ∧ schema.Preserved rows) ↔
      ∀ row ∈ schema.assignments, schema.TargetExists row := by
  constructor
  · rintro ⟨rows, completes, -⟩
    exact (migrate_eq_some.mp completes).1
  · intro targets
    exact ⟨_, migrate_eq_some.mpr ⟨targets, rfl⟩, preserved_reshape targets⟩

/-- A policy whose device was deleted. -/
def staleAssignment : TargetSchema where
  policies := [Uuid.small 1]
  devices := []
  groups := []
  assignments := [⟨Uuid.small 1, .device, Uuid.small 2⟩]
  references := by simp
  unique := List.nodup_singleton _

theorem migration_fails : ¬ ∃ rows, staleAssignment.migrate = some rows ∧
    staleAssignment.Preserved rows := by
  rintro ⟨rows, completes, -⟩
  have stops : staleAssignment.migrate = none := rfl
  rw [stops] at completes
  cases completes

end OsfmEdm
