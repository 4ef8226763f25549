import Mathlib.Data.List.Nodup
import OsfmEdm.Policies.Step

/-!
The two ways from a policy to a device: the list a device gets when it connects, and the devices a
changed policy goes to. Both are read from the same tables.
-/

namespace OsfmEdm

open JsonText

namespace Database

/-- `push_policies_to_device`: nothing is sent for an empty list. -/
def pushPoliciesToDevice (db : Database) (device : Uuid) : Option ServerMessage :=
  match db.policiesFor device with
  | [] => none
  | policies => some (.pushPolicy policies)

/-- The rows of a policy that the join of `push_policies_to_device` keeps. -/
def assignmentsFor (db : Database) (policy device : Uuid) : List PolicyAssignmentRow :=
  db.policyAssignments.filter fun row => row.policyId = policy ∧ db.addresses row device

/-- The ids in the list a device gets when it connects. -/
def sentOnConnect (db : Database) (device : Uuid) : List Uuid :=
  match db.pushPoliciesToDevice device with
  | some (.pushPolicy policies) => policies.map (·.id)
  | _ => []

def isEnabled (db : Database) (policy : Uuid) : Prop :=
  ∃ row, db.policies.find? policy = some row ∧ row.enabled = true

/-- The partial unique indexes of `policy_assignments`. -/
structure UniqueAssignments (db : Database) : Prop where
  devices : db.policyAssignments.Pairwise fun row other =>
    row.policyId = other.policyId → row.deviceId = other.deviceId → row.deviceId = none
  groups : db.policyAssignments.Pairwise fun row other =>
    row.policyId = other.policyId → row.groupId = other.groupId → row.groupId = none

end Database

/-- For one device, the list it gets when it connects has the enabled policies whose changes go to
it, each once. -/
structure ResolvesOnce (db : Database) (device : Uuid) : Prop where
  agrees : ∀ policy, policy ∈ db.sentOnConnect device ↔
    db.isEnabled policy ∧ device ∈ db.devicesOf policy
  once : ∀ policy ∈ db.sentOnConnect device, (db.sentOnConnect device).count policy = 1

/-! ## The two paths -/

variable {db : Database} {policy device : Uuid}

theorem sentOnConnect_eq : db.sentOnConnect device = (db.policiesFor device).map (·.id) := by
  unfold Database.sentOnConnect Database.pushPoliciesToDevice
  cases selected : db.policiesFor device with
  | nil => rfl
  | cons first rest => rfl

/-- The turns of a connection send the list of `push_policies_to_device`. -/
theorem greeting_sends (s : PolicyServer) (device : Uuid) (policies : List PolicyDefinition) :
    s.greeting device .proceeds .selectPolicies = some (s, [.greeting device (.send policies)]) ↔
      s.app.db.pushPoliciesToDevice device = some (.pushPolicy policies) := by
  unfold PolicyServer.greeting Database.pushPoliciesToDevice
  cases s.app.db.policiesFor device with
  | nil => simp
  | cons first rest => simp

theorem enabledPolicy_isSome : (db.enabledPolicy policy).isSome ↔ db.isEnabled policy := by
  unfold Database.enabledPolicy Database.isEnabled
  cases db.policies.find? policy with
  | none => simp
  | some row => by_cases enabled : row.enabled <;> simp [enabled]

theorem enabledPolicy_id {definition : PolicyDefinition}
    (selected : db.enabledPolicy policy = some definition) : definition.id = policy := by
  unfold Database.enabledPolicy at selected
  split at selected
  · split at selected
    · cases selected
      rfl
    · cases selected
  · cases selected

/-- Both paths select the same pairs. -/
theorem mem_sentOnConnect :
    policy ∈ db.sentOnConnect device ↔ db.isEnabled policy ∧ device ∈ db.devicesOf policy := by
  rw [sentOnConnect_eq, List.mem_map, ← enabledPolicy_isSome, Database.mem_devicesOf]
  constructor
  · rintro ⟨definition, member, rfl⟩
    obtain ⟨selected, assigned⟩ := Database.mem_policiesFor.mp member
    exact ⟨by rw [selected]; rfl, assigned⟩
  · rintro ⟨enabled, assigned⟩
    obtain ⟨definition, selected⟩ := Option.isSome_iff_exists.mp enabled
    have own := enabledPolicy_id selected
    refine ⟨definition, Database.mem_policiesFor.mpr ⟨?_, ?_⟩, own⟩
    · rw [own, selected]
    · rw [own]
      exact assigned

/-! ## Repetitions -/

theorem sentOnConnect_replicate :
    db.sentOnConnect device = (db.policies.rows.filter fun row => row.2.enabled).flatMap fun row =>
      List.replicate (db.assignmentsFor row.1 device).length row.1 := by
  rw [sentOnConnect_eq]
  unfold Database.policiesFor
  rw [List.map_flatMap]
  congr 1
  funext row
  rw [List.map_map]
  exact List.map_const'

theorem count_flatMap_replicate {κ ρ : Type} [DecidableEq κ] (length : κ → Nat) (key : κ) {row : ρ}
    {rows : List (κ × ρ)} (unique : (rows.map Prod.fst).Nodup) (member : (key, row) ∈ rows) :
    (rows.flatMap fun row => List.replicate (length row.1) row.1).count key = length key := by
  induction rows with
  | nil => cases member
  | cons first rest ih =>
      simp only [List.map_cons, List.nodup_cons] at unique
      simp only [List.flatMap_cons, List.count_append, List.count_replicate]
      rcases List.mem_cons.mp member with same | later
      · have absent : (rest.flatMap fun row => List.replicate (length row.1) row.1).count key = 0 := by
          refine List.count_eq_zero.mpr fun again => ?_
          obtain ⟨other, otherMember, repeated⟩ := List.mem_flatMap.mp again
          have sameKey := (List.mem_replicate.mp repeated).2
          exact unique.1 (List.mem_map.mpr ⟨other, otherMember, by rw [← sameKey, ← same]⟩)
        simp [absent, ← same]
      · have different : first.1 ≠ key := by
          intro same
          exact unique.1 (List.mem_map.mpr ⟨(key, row), later, same.symm⟩)
        simp [ih unique.2 later, different]

theorem count_sentOnConnect (enabled : db.isEnabled policy) :
    (db.sentOnConnect device).count policy = (db.assignmentsFor policy device).length := by
  obtain ⟨row, found, on⟩ := enabled
  rw [sentOnConnect_replicate]
  exact count_flatMap_replicate (fun policy => (db.assignmentsFor policy device).length) policy
    (db.policies.unique.sublist (List.filter_sublist.map Prod.fst))
    (List.mem_filter.mpr ⟨(db.policies.find?_eq_some policy row).mp found, on⟩)

/-- Under the unique indexes, two rows that address a device do not both name it. -/
theorem addressed_through_group (unique : db.UniqueAssignments)
    (repeated : 1 < (db.assignmentsFor policy device).length) :
    ∃ row ∈ db.assignmentsFor policy device, row.deviceId ≠ some device := by
  by_contra direct
  have named : ∀ row ∈ db.assignmentsFor policy device, row.deviceId = some device := by
    intro row member
    by_contra other
    exact direct ⟨row, member, other⟩
  have apart : (db.assignmentsFor policy device).Pairwise fun row other =>
      row.policyId = other.policyId → row.deviceId = other.deviceId → row.deviceId = none :=
    unique.devices.sublist List.filter_sublist
  rcases same : db.assignmentsFor policy device with _ | ⟨first, _ | ⟨second, rest⟩⟩
  · simp [same] at repeated
  · simp [same] at repeated
  · have firstMember : first ∈ db.assignmentsFor policy device := by simp [same]
    have secondMember : second ∈ db.assignmentsFor policy device := by simp [same]
    rw [same] at apart
    have pair := (List.pairwise_cons.mp apart).1 second (by simp)
    have firstOf := (List.mem_filter.mp firstMember).2
    have secondOf := (List.mem_filter.mp secondMember).2
    simp only [decide_eq_true_eq] at firstOf secondOf
    have absent := pair (firstOf.1.trans secondOf.1.symm)
      ((named first firstMember).trans (named second secondMember).symm)
    rw [named first firstMember] at absent
    cases absent

/-- The paths always select the same pairs; a policy comes once as long as one assignment row of it
at most addresses the device. -/
theorem resolves_once_iff (db : Database) (device : Uuid) :
    ResolvesOnce db device ↔
      ∀ policy, db.isEnabled policy → (db.assignmentsFor policy device).length ≤ 1 := by
  constructor
  · intro resolves policy enabled
    by_cases sent : policy ∈ db.sentOnConnect device
    · rw [← count_sentOnConnect enabled, resolves.once policy sent]
    · have none := List.count_eq_zero.mpr sent
      rw [count_sentOnConnect enabled] at none
      omega
  · intro single
    refine ⟨fun policy => mem_sentOnConnect, ?_⟩
    intro policy sent
    have enabled := (mem_sentOnConnect.mp sent).1
    have positive := List.count_pos_iff.mpr sent
    have bound := single policy enabled
    rw [count_sentOnConnect enabled] at positive ⊢
    omega

/-- Policy 3 is assigned to device 1 and to group 2, which has the device. -/
def assignedBothWays : Database :=
  { Database.ofDevices
      ⟨[(Uuid.small 1,
        { status := .offline, lastSeen := none, agentVersion := none, authTokenHash := none })],
        by simp⟩ with
    policies := ⟨[(Uuid.small 3, { name := "firewall", rules := .array [], enabled := true })],
      by simp⟩
    deviceGroups := ⟨[(Uuid.small 2, { name := "office", description := none })], by simp⟩
    groupMembers := [{ groupId := Uuid.small 2, deviceId := Uuid.small 1 }]
    policyAssignments :=
      [{ policyId := Uuid.small 3, deviceId := some (Uuid.small 1), groupId := none },
        { policyId := Uuid.small 3, deviceId := none, groupId := some (Uuid.small 2) }] }

theorem policy_sent_twice : ¬ ∀ db : Database, db.UniqueAssignments → ∀ device,
    ResolvesOnce db device := by
  intro resolve
  have unique : assignedBothWays.UniqueAssignments := by
    refine ⟨?_, ?_⟩ <;> simp [assignedBothWays]
  have sent : assignedBothWays.sentOnConnect (Uuid.small 1) = [Uuid.small 3, Uuid.small 3] := by
    decide +kernel
  have once := (resolve assignedBothWays unique (Uuid.small 1)).once (Uuid.small 3)
    (by rw [sent]; exact List.mem_cons_self)
  rw [sent] at once
  exact absurd once (by decide)

end OsfmEdm
