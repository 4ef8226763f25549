import OsfmEdm.Policies.Step

/-!
A connected device ends up with the policies that are stored for it as long as no step leaves one
behind: a push that fails, one that overtakes a later one, a member without a push, or rules that
do not decode.
-/

namespace OsfmEdm

open Interleaving
open JsonText

/-- The last message with the policy that went into the connection of the device. -/
def PolicyServer.lastPush (s : PolicyServer) (device : Uuid) (connection : Nat) (policy : Uuid) :
    Option PolicyMessage :=
  s.enqueued.reverse.find? fun message =>
    message.device = device ∧ message.connection = connection ∧
      message.policies.any (·.id = policy)

/-- Of the definitions of its policy, a list has this one only. -/
def definesOnly (definition : PolicyDefinition) (policies : List PolicyDefinition) : Bool :=
  policies.all fun other => other.id = definition.id → other = definition

def PolicyServer.isCurrent (s : PolicyServer) (device : Uuid) (connection : Nat)
    (definition : PolicyDefinition) : Bool :=
  (s.lastPush device connection definition.id).any fun message =>
    definesOnly definition message.policies

/-- A task on its way to send the definition of a policy to the device, as it is stored. -/
def PolicyTask.serves (device : Uuid) (definition : PolicyDefinition) : PolicyTask → Bool
  | .updatePolicy _ policy (.setColumns _) | .updatePolicy _ policy .selectPolicy
  | .pushing policy .selectPolicy => policy = definition.id
  | .pushing policy (.selectDevices found) => policy = definition.id ∧ found = definition
  | .pushing _ (.send found devices) => found = definition ∧ device ∈ devices
  | .greeting own .selectPolicies => own = device
  | .greeting own (.send found) => own = device ∧ definition ∈ found ∧ definesOnly definition found
  | _ => false

/-- What was sent to a connected device is current, or a task will send it. -/
def PolicyServer.reaches (s : PolicyServer) (tasks : List PolicyTask) (device : Uuid)
    (definition : PolicyDefinition) : Bool :=
  (s.connectionOf device).all (s.isCurrent device · definition) ||
    tasks.any (·.serves device definition)

def decodesAll (rules : Json) : Bool := (PolicyRule.codec.list.decode rules).isSome

/-- The policy reaches its devices without the task that moves. -/
def PolicyServer.reachesAll (s : PolicyServer) (others : List PolicyTask) (policy : Uuid) : Prop :=
  ∀ device ∈ s.app.db.devicesOf policy, ∀ definition ∈ s.app.db.policiesFor device,
    definition.id = policy → s.reaches others device definition = true

/-- A message with an older definition goes out only while another task will send the stored one. -/
def PolicyServer.sendsInTurn (s : PolicyServer) (others : List PolicyTask) (device : Uuid)
    (policies : List PolicyDefinition) : Prop :=
  ∀ definition ∈ s.app.db.policiesFor device, ¬ definesOnly definition policies = true →
    (s.connectionOf device).isSome = true → others.any (·.serves device definition) = true

/-- Stored rules decode; a device that joins a group has, or gets, the policies of the group; an
update or a push that fails leaves no device behind; and no message overtakes a later one. -/
def leavesNoneBehind : Guard PolicyServer PolicyTask PolicyChoice := fun s others task choice =>
  match task, choice with
  | .createPolicy auth body, .generates _ => auth.isAdmin = true → decodesAll body.rules = true
  | .updatePolicy _ _ (.setColumns (.rules rules :: _)), .proceeds => decodesAll rules = true
  | .addMember auth group device, .proceeds =>
      auth.isAdmin = true → ∀ db ∈ (s.app.db.addMember group device).toList,
        ∀ definition ∈ db.policiesFor device, s.reaches others device definition = true
  | .updatePolicy _ policy (.setColumns (_ :: _)), .fails => s.reachesAll others policy
  | .updatePolicy _ policy .selectPolicy, .fails => s.reachesAll others policy
  | .pushing policy .selectPolicy, .fails => s.reachesAll others policy
  | .pushing policy (.selectDevices _), .fails => s.reachesAll others policy
  | .greeting device .selectPolicies, .fails =>
      ∀ definition ∈ s.app.db.policiesFor device, s.reaches others device definition = true
  | .pushing _ (.send definition (device :: _)), _ => s.sendsInTurn others device [definition]
  | .greeting device (.send policies), _ => s.sendsInTurn others device policies
  | _, _ => True

instance : ∀ s others task choice, Decidable (leavesNoneBehind s others task choice) := by
  intro s others task choice
  unfold leavesNoneBehind PolicyServer.reachesAll PolicyServer.sendsInTurn
  split <;> infer_instance

/-- Rules decode, and an assignment has its policy. -/
structure PoliciesStored (db : Database) : Prop where
  rules : ∀ policy row, db.policies.find? policy = some row → decodesAll row.rules = true
  assigned : ∀ row ∈ db.policyAssignments, db.policies.contains row.policyId = true

/-- A server that starts on its database. -/
structure PolicyStart (config : Config PolicyServer PolicyTask) : Prop where
  tasks : config.tasks = []
  stored : PoliciesStored config.shared.app.db
  connections : ∀ device, config.shared.app.channelOf device = none

/-- Every connected device was last sent each of its policies with the name and the rules that are
stored. -/
def PoliciesConverged (s : PolicyServer) : Prop :=
  ∀ device connection policy row, s.connectionOf device = some connection →
    s.app.db.policies.find? policy = some row → row.enabled = true →
    (∃ assignment ∈ s.app.db.policyAssignments,
      assignment.policyId = policy ∧ s.app.db.addresses assignment device = true) →
    ∃ message, s.lastPush device connection policy = some message ∧
      (∃ definition ∈ message.policies, definition.id = policy) ∧
      ∀ definition ∈ message.policies, definition.id = policy →
        definition.name = row.name ∧
          PolicyRule.codec.list.decode row.rules = some definition.rules

/-! ## Sends -/

section

variable {s : PolicyServer} {tasks : List PolicyTask} {device : Uuid} {definition : PolicyDefinition}
  {connection : Nat}

theorem reaches_iff (connected : s.connectionOf device = some connection) :
    s.reaches tasks device definition = true ↔
      s.isCurrent device connection definition = true ∨
        ∃ task ∈ tasks, task.serves device definition = true := by
  simp [PolicyServer.reaches, connected]

@[simp] theorem connectionOf_send (own : Uuid) (policies : List PolicyDefinition) :
    (s.send own policies).connectionOf device = s.connectionOf device := by
  unfold PolicyServer.send
  split <;> rfl

@[simp] theorem app_send (own : Uuid) (policies : List PolicyDefinition) :
    (s.send own policies).app = s.app := by
  unfold PolicyServer.send
  split <;> rfl

theorem isCurrent_send (connected : s.connectionOf device = some connection)
    (policies : List PolicyDefinition) :
    (s.send device policies).isCurrent device connection definition =
      if policies.any (·.id = definition.id) then definesOnly definition policies
      else s.isCurrent device connection definition := by
  simp only [PolicyServer.isCurrent, PolicyServer.lastPush, PolicyServer.send, connected,
    List.reverse_append, List.reverse_singleton, List.singleton_append, List.find?_cons]
  split
  · rename_i own
    rw [if_pos (by simpa using own)]
    rfl
  · rename_i foreign
    rw [if_neg (by simpa using foreign)]

theorem isCurrent_send_other {own : Uuid} (other : own ≠ device)
    (policies : List PolicyDefinition) :
    (s.send own policies).isCurrent device connection definition =
      s.isCurrent device connection definition := by
  simp only [PolicyServer.isCurrent, PolicyServer.lastPush, PolicyServer.send]
  split
  · simp [other]
  · rfl

end

/-! ## Steps -/

/-- What one step does to the policies of the devices. -/
inductive PolicyTurn (s s' : PolicyServer) (others new : List PolicyTask) (task : PolicyTask) :
    Prop where
  | kept (enqueued : s'.enqueued = s.enqueued)
      (moves : ∀ device definition connection, definition ∈ s'.app.db.policiesFor device →
        s'.connectionOf device = some connection →
        (∃ next ∈ new, next.serves device definition = true) ∨
          s.connectionOf device = some connection ∧
            (s.reaches others device definition = true ∨
              definition ∈ s.app.db.policiesFor device ∧ ¬ task.serves device definition = true))
  | sent (own : Uuid) (policies : List PolicyDefinition) (same : s' = s.send own policies)
      (inTurn : s.sendsInTurn others own policies)
      (moves : ∀ device definition, task.serves device definition = true →
        (∃ next ∈ new, next.serves device definition = true) ∨
          device = own ∧ policies.any (·.id = definition.id) = true)

section

variable {s s' : PolicyServer} {others new : List PolicyTask} {task : PolicyTask}

/-- A step that changes nothing hands on what its task serves. -/
theorem PolicyTurn.quiet
    (moves : ∀ device definition, definition ∈ s.app.db.policiesFor device →
      task.serves device definition = true →
      (∃ next ∈ new, next.serves device definition = true) ∨
        s.reaches others device definition = true) : PolicyTurn s s others new task := by
  refine .kept rfl fun device definition connection member connected => ?_
  by_cases serves : task.serves device definition = true
  · rcases moves device definition member serves with handed | reached
    · exact .inl handed
    · exact .inr ⟨connected, .inl reached⟩
  · exact .inr ⟨connected, .inr ⟨member, serves⟩⟩

theorem PolicyTurn.shrinks (idle : ∀ device definition, task.serves device definition = false)
    (enqueued : s'.enqueued = s.enqueued)
    (policies : ∀ device, ∀ definition ∈ s'.app.db.policiesFor device,
      definition ∈ s.app.db.policiesFor device)
    (connections : ∀ device connection, s'.connectionOf device = some connection →
      s.connectionOf device = some connection) : PolicyTurn s s' others new task := by
  refine .kept enqueued fun device definition connection member connected => ?_
  exact .inr ⟨connections device connection connected,
    .inr ⟨policies device definition member, by simp [idle]⟩⟩

/-- A statement has changed the database for an admin, or nothing has changed and the request is
answered. -/
theorem policyStatement_cases {auth : AuthUser} {choice : PolicyChoice}
    {change : Database → Except ApiError Database} {next : PolicyTask}
    (moved : s.statement auth choice change next = some (s', new)) :
    (s' = s ∧ ∃ answer, new = [.answered answer]) ∨
      auth.isAdmin = true ∧ choice = .proceeds ∧
        ∃ db, change s.app.db = .ok db ∧ s' = s.withDb db ∧ new = [next] := by
  simp only [PolicyServer.statement, AuthUser.requireAdmin] at moved
  by_cases admin : auth.role = "admin"
  · simp only [admin, if_true] at moved
    cases choice with
    | proceeds =>
        simp only at moved
        split at moved
        · rename_i db done
          cases moved
          exact .inr ⟨by simp [AuthUser.isAdmin, admin], rfl, db, done, rfl, rfl⟩
        · cases moved
          exact .inl ⟨rfl, _, rfl⟩
    | fails =>
        cases moved
        exact .inl ⟨rfl, _, rfl⟩
    | generates id => cases moved
  · simp only [admin, if_false] at moved
    cases moved
    exact .inl ⟨rfl, _, rfl⟩

theorem policyInsertion_cases {auth : AuthUser} {choice : PolicyChoice}
    {change : Uuid → Database → Option Database}
    (moved : s.insertion auth choice change = some (s', new)) :
    (s' = s ∧ ∃ answer, new = [.answered answer]) ∨
      auth.isAdmin = true ∧ ∃ id db, choice = .generates id ∧ change id s.app.db = some db ∧
        s' = s.withDb db ∧ new = [.answered (.ok ())] := by
  simp only [PolicyServer.insertion, AuthUser.requireAdmin] at moved
  by_cases admin : auth.role = "admin"
  · simp only [admin, if_true] at moved
    cases choice with
    | proceeds => cases moved
    | fails =>
        cases moved
        exact .inl ⟨rfl, _, rfl⟩
    | generates id =>
        simp only at moved
        split at moved
        · rename_i db done
          cases moved
          exact .inr ⟨by simp [AuthUser.isAdmin, admin], id, db, rfl, done, rfl, rfl⟩
        · cases moved
          exact .inl ⟨rfl, _, rfl⟩
  · simp only [admin, if_false] at moved
    cases moved
    exact .inl ⟨rfl, _, rfl⟩

/-- An answered request served nobody, or those it served are reached without it. -/
theorem PolicyTurn.idle (idle : ∀ device definition, task.serves device definition = false) :
    PolicyTurn s s others new task :=
  .quiet fun device definition _ serves => by simp [idle] at serves

end

/-! ## Statements -/

section

variable {db db' : Database} {device : Uuid} {definition : PolicyDefinition}

theorem enabledPolicy_congr {policy : Uuid}
    (same : db'.policies.find? policy = db.policies.find? policy) :
    db'.enabledPolicy policy = db.enabledPolicy policy := by
  simp only [Database.enabledPolicy, same]

theorem stored_of_enabledPolicy {policy : Uuid} (selected : db.enabledPolicy policy = some definition) :
    ∃ row, db.policies.find? policy = some row ∧ row.enabled = true := by
  unfold Database.enabledPolicy at selected
  split at selected
  · rename_i row found
    split at selected
    · rename_i enabled
      exact ⟨row, found, enabled⟩
    · cases selected
  · cases selected

theorem policiesFor_insertPolicy {policy : Uuid} {name : String} {rules : Json}
    (stored : PoliciesStored db) (done : db.insertPolicy policy name rules = some db')
    (member : definition ∈ db'.policiesFor device) : definition ∈ db.policiesFor device := by
  obtain ⟨policies, inserted, rfl⟩ := Option.map_eq_some_iff.mp done
  by_cases own : definition.id = policy
  · obtain ⟨_, assignment, assigned, same, _⟩ := Database.mem_policiesFor.mp member
    have present := stored.assigned assignment assigned
    rw [same, own, Table.contains, Table.insert_absent inserted] at present
    cases present
  · refine Database.policiesFor_subset member ?_ (fun _ old => old) (fun _ old => old)
    intro selected
    rwa [enabledPolicy_congr (by rw [Table.find?_insert inserted, if_neg own])] at selected

theorem policiesFor_updatePolicy {policy : Uuid} {change : PolicyRow → PolicyRow}
    (other : definition.id ≠ policy)
    (member : definition ∈ (db.updatePolicy policy change).policiesFor device) :
    definition ∈ db.policiesFor device := by
  refine Database.policiesFor_subset member ?_ (fun _ old => old) (fun _ old => old)
  have same : (db.updatePolicy policy change).enabledPolicy definition.id =
      db.enabledPolicy definition.id :=
    enabledPolicy_congr (by simp [Database.updatePolicy, other])
  exact fun selected => same ▸ selected

theorem policiesFor_deletePolicy {policy : Uuid}
    (member : definition ∈ (db.deletePolicy policy).policiesFor device) :
    definition ∈ db.policiesFor device := by
  refine Database.policiesFor_subset member ?_ (fun _ old => List.mem_of_mem_filter old)
    (fun _ old => old)
  intro selected
  simp only [Database.enabledPolicy, Database.deletePolicy, Table.find?_keep] at selected ⊢
  split at selected
  · rename_i row found
    rw [(Option.filter_eq_some_iff.mp found).1]
    exact selected
  · cases selected

theorem policiesFor_assignPolicy {policy : Uuid} {deviceId groupId : Option Uuid}
    (done : db.assignPolicy policy deviceId groupId = some db') (other : definition.id ≠ policy)
    (member : definition ∈ db'.policiesFor device) : definition ∈ db.policiesFor device := by
  unfold Database.assignPolicy at done
  split at done
  · cases done
    exact member
  · split at done
    · cases done
      obtain ⟨selected, assignment, assigned, same, addressed⟩ := Database.mem_policiesFor.mp member
      rcases List.mem_append.mp assigned with old | new
      · exact Database.mem_policiesFor.mpr ⟨selected, assignment, old, same, addressed⟩
      · rw [List.mem_singleton.mp new] at same
        exact absurd same.symm other
    · cases done

theorem policiesFor_addMember {group own : Uuid} (done : db.addMember group own = some db')
    (other : device ≠ own) (member : definition ∈ db'.policiesFor device) :
    definition ∈ db.policiesFor device := by
  unfold Database.addMember at done
  split at done
  · cases done
    exact member
  · split at done
    · cases done
      obtain ⟨selected, assignment, assigned, same, addressed⟩ := Database.mem_policiesFor.mp member
      refine Database.mem_policiesFor.mpr ⟨selected, assignment, assigned, same, ?_⟩
      simpa [Database.addresses, Ne.symm other] using addressed
    · cases done

theorem PoliciesStored.insertPolicy {policy : Uuid} {name : String} {rules : Json}
    (stored : PoliciesStored db) (decodes : decodesAll rules = true)
    (done : db.insertPolicy policy name rules = some db') : PoliciesStored db' := by
  obtain ⟨policies, inserted, rfl⟩ := Option.map_eq_some_iff.mp done
  constructor
  · intro other row found
    rw [Table.find?_insert inserted] at found
    split at found
    · cases found
      exact decodes
    · exact stored.rules other row found
  · intro row assigned
    have present := stored.assigned row assigned
    simp only [Table.contains, Table.find?_insert inserted]
    split
    · rfl
    · exact present

theorem PoliciesStored.updatePolicy {policy : Uuid} {column : PolicyColumn}
    (stored : PoliciesStored db)
    (decodes : ∀ rules, column = .rules rules → decodesAll rules = true) :
    PoliciesStored (db.updatePolicy policy column.set) := by
  constructor
  · intro other row found
    simp only [Database.updatePolicy, Table.find?_update] at found
    split at found
    · obtain ⟨old, present, rfl⟩ := Option.map_eq_some_iff.mp found
      have before := stored.rules _ old present
      cases column with
      | rules rules => exact decodes rules rfl
      | _ => exact before
    · exact stored.rules other row found
  · intro row assigned
    have present := stored.assigned row assigned
    simp only [Database.updatePolicy, Table.contains, Table.find?_update] at present ⊢
    split
    · simpa using present
    · exact present

theorem PoliciesStored.deletePolicy (stored : PoliciesStored db) (policy : Uuid) :
    PoliciesStored (db.deletePolicy policy) := by
  constructor
  · intro other row found
    simp only [Database.deletePolicy, Table.find?_keep] at found
    exact stored.rules other row (Option.filter_eq_some_iff.mp found).1
  · intro row assigned
    obtain ⟨old, other⟩ := List.mem_filter.mp assigned
    obtain ⟨found, present⟩ := Option.isSome_iff_exists.mp (stored.assigned row old)
    simp only [Database.deletePolicy, Table.contains, Table.find?_keep, present]
    simpa using other

theorem PoliciesStored.assignPolicy {policy : Uuid} {deviceId groupId : Option Uuid}
    (stored : PoliciesStored db) (done : db.assignPolicy policy deviceId groupId = some db') :
    PoliciesStored db' := by
  unfold Database.assignPolicy at done
  split at done
  · cases done
    exact stored
  · split at done
    · rename_i known
      cases done
      refine ⟨stored.rules, fun row assigned => ?_⟩
      rcases List.mem_append.mp assigned with old | new
      · exact stored.assigned row old
      · rw [List.mem_singleton.mp new]
        exact known.1
    · cases done

theorem PoliciesStored.subset (stored : PoliciesStored db) (policies : db'.policies = db.policies)
    (assigned : ∀ row ∈ db'.policyAssignments, row ∈ db.policyAssignments) :
    PoliciesStored db' := by
  constructor
  · rw [policies]
    exact stored.rules
  · intro row member
    rw [policies]
    exact stored.assigned row (assigned row member)

theorem insertGroup_frame {group : Uuid} {name : String} {description : Option String}
    (done : db.insertGroup group name description = some db') :
    ∃ deviceGroups, db' = { db with deviceGroups } := by
  unfold Database.insertGroup at done
  split at done
  · cases done
  · obtain ⟨deviceGroups, _, rfl⟩ := Option.map_eq_some_iff.mp done
    exact ⟨deviceGroups, rfl⟩

theorem addMember_frame {group own : Uuid} (done : db.addMember group own = some db') :
    ∃ groupMembers, db' = { db with groupMembers } := by
  unfold Database.addMember at done
  split at done
  · cases done
    exact ⟨_, rfl⟩
  · split at done
    · cases done
      exact ⟨_, rfl⟩
    · cases done

end

/-! ## Handlers -/

section

variable {s s' : PolicyServer} {others new : List PolicyTask} {choice : PolicyChoice}

theorem reachesAll_reaches {policy device : Uuid} {definition : PolicyDefinition}
    (reached : s.reachesAll others policy) (member : definition ∈ s.app.db.policiesFor device)
    (own : definition.id = policy) : s.reaches others device definition = true := by
  obtain ⟨_, assignment, assigned, same, addressed⟩ := Database.mem_policiesFor.mp member
  exact reached device
    (Database.mem_devicesOf.mpr ⟨assignment, assigned, same.trans own, addressed⟩) definition
    member own

theorem updatePolicy_turn {auth : AuthUser} {policy : Uuid} {phase : PolicyUpdate}
    (stored : PoliciesStored s.app.db)
    (meets : leavesNoneBehind s others (.updatePolicy auth policy phase) choice)
    (moved : s.updatePolicy auth policy choice phase = some (s', new)) :
    PoliciesStored s'.app.db ∧ PolicyTurn s s' others new (.updatePolicy auth policy phase) := by
  have failed (reached : s.reachesAll others policy)
      (serves : ∀ device definition, (PolicyTask.updatePolicy auth policy phase).serves device
        definition = true → policy = definition.id) :
      PolicyTurn s s others new (.updatePolicy auth policy phase) :=
    .quiet fun device definition member own =>
      .inr (reachesAll_reaches reached member (serves device definition own).symm)
  cases phase with
  | verifyPolicy body =>
      simp only [PolicyServer.updatePolicy] at moved
      rcases policyStatement_cases moved with ⟨rfl, _⟩ | ⟨_, _, db, done, rfl, rfl⟩
      · exact ⟨stored, .idle fun _ _ => rfl⟩
      · split at done <;> cases done
        exact ⟨stored, .idle fun _ _ => rfl⟩
  | setColumns columns =>
      cases columns with
      | nil =>
          cases moved
          exact ⟨stored, .quiet fun device definition _ serves =>
            .inl ⟨_, List.mem_singleton_self _, serves⟩⟩
      | cons column rest =>
          cases choice with
          | proceeds =>
              cases moved
              refine ⟨stored.updatePolicy ?_, .kept rfl ?_⟩
              · intro rules same
                subst same
                exact meets
              · intro device definition connection member connected
                by_cases own : policy = definition.id
                · exact .inl ⟨_, List.mem_singleton_self _, by simpa [PolicyTask.serves] using own⟩
                · exact .inr ⟨connected, .inr ⟨policiesFor_updatePolicy (Ne.symm own) member,
                    by simpa [PolicyTask.serves] using own⟩⟩
          | fails =>
              cases moved
              exact ⟨stored, failed (by cases column <;> exact meets)
                fun device definition serves => by simpa [PolicyTask.serves] using serves⟩
          | generates id => cases moved
  | selectPolicy =>
      cases choice with
      | proceeds =>
          simp only [PolicyServer.updatePolicy] at moved
          split at moved
          · cases moved
            exact ⟨stored, .quiet fun device definition _ serves =>
              .inl ⟨_, List.mem_singleton_self _, serves⟩⟩
          · rename_i absent
            cases moved
            refine ⟨stored, .quiet fun device definition member serves => ?_⟩
            obtain ⟨_, assignment, assigned, same, _⟩ := Database.mem_policiesFor.mp member
            have present := stored.assigned assignment assigned
            simp only [PolicyTask.serves, decide_eq_true_eq] at serves
            rw [same, ← serves] at present
            exact absurd present absent
      | fails =>
          cases moved
          exact ⟨stored, failed meets
            fun device definition serves => by simpa [PolicyTask.serves] using serves⟩
      | generates id => cases moved

theorem pushing_turn {policy : Uuid} {phase : PolicyPushing} (stored : PoliciesStored s.app.db)
    (meets : leavesNoneBehind s others (.pushing policy phase) choice)
    (moved : s.pushing policy choice phase = some (s', new)) :
    PoliciesStored s'.app.db ∧ PolicyTurn s s' others new (.pushing policy phase) := by
  cases phase with
  | selectPolicy =>
      cases choice with
      | proceeds =>
          simp only [PolicyServer.pushing] at moved
          split at moved
          · rename_i found selected
            cases moved
            refine ⟨stored, .quiet fun device definition member serves => .inl ?_⟩
            simp only [PolicyTask.serves, decide_eq_true_eq] at serves
            have stands := (Database.mem_policiesFor.mp member).1
            rw [← serves, selected] at stands
            exact ⟨_, List.mem_singleton_self _,
              by simpa [PolicyTask.serves] using ⟨serves, Option.some.inj stands⟩⟩
          · rename_i disabled
            cases moved
            refine ⟨stored, .quiet fun device definition member serves => ?_⟩
            simp only [PolicyTask.serves, decide_eq_true_eq] at serves
            have stands := (Database.mem_policiesFor.mp member).1
            rw [← serves, disabled] at stands
            cases stands
      | fails =>
          cases moved
          refine ⟨stored, .quiet fun device definition member serves => .inr ?_⟩
          simp only [PolicyTask.serves, decide_eq_true_eq] at serves
          exact reachesAll_reaches meets member serves.symm
      | generates id => cases moved
  | selectDevices found =>
      cases choice with
      | proceeds =>
          cases moved
          refine ⟨stored, .quiet fun device definition member serves => .inl ?_⟩
          simp only [PolicyTask.serves, decide_eq_true_eq] at serves
          obtain ⟨own, rfl⟩ := serves
          obtain ⟨_, assignment, assigned, same, addressed⟩ := Database.mem_policiesFor.mp member
          have selected : device ∈ s.app.db.devicesOf policy :=
            Database.mem_devicesOf.mpr ⟨assignment, assigned, same.trans own.symm, addressed⟩
          exact ⟨_, List.mem_singleton_self _, by simpa [PolicyTask.serves] using selected⟩
      | fails =>
          cases moved
          refine ⟨stored, .quiet fun device definition member serves => .inr ?_⟩
          simp only [PolicyTask.serves, decide_eq_true_eq] at serves
          exact reachesAll_reaches meets member serves.1.symm
      | generates id => cases moved
  | send definition devices =>
      cases devices with
      | nil =>
          cases moved
          exact ⟨stored, .idle fun _ _ => by simp [PolicyTask.serves]⟩
      | cons own rest =>
          cases moved
          refine ⟨by simpa using stored, .sent own [definition] rfl meets ?_⟩
          intro device other serves
          simp only [PolicyTask.serves, decide_eq_true_eq, List.mem_cons] at serves
          rcases serves with ⟨rfl, rfl | later⟩
          · exact .inr ⟨rfl, by simp⟩
          · exact .inl ⟨_, List.mem_singleton_self _, by simpa [PolicyTask.serves] using later⟩

theorem greeting_turn {device : Uuid} {phase : PolicyGreeting} (stored : PoliciesStored s.app.db)
    (meets : leavesNoneBehind s others (.greeting device phase) choice)
    (moved : s.greeting device choice phase = some (s', new)) :
    PoliciesStored s'.app.db ∧ PolicyTurn s s' others new (.greeting device phase) := by
  cases phase with
  | selectPolicies =>
      cases choice with
      | proceeds =>
          simp only [PolicyServer.greeting] at moved
          split at moved
          · rename_i none
            cases moved
            refine ⟨stored, .quiet fun own definition member serves => ?_⟩
            simp only [PolicyTask.serves, decide_eq_true_eq] at serves
            rw [← serves, none] at member
            cases member
          · cases moved
            refine ⟨stored, .quiet fun own definition member serves => .inl ?_⟩
            simp only [PolicyTask.serves, decide_eq_true_eq] at serves
            subst serves
            have one : definesOnly definition (s.app.db.policiesFor device) = true := by
              simp only [definesOnly, List.all_eq_true, decide_eq_true_eq]
              intro other found same
              have first := (Database.mem_policiesFor.mp member).1
              have second := (Database.mem_policiesFor.mp found).1
              rw [same, first] at second
              exact (Option.some.inj second).symm
            exact ⟨_, List.mem_singleton_self _, by simp [PolicyTask.serves, member, one]⟩
      | fails =>
          cases moved
          refine ⟨stored, .quiet fun own definition member serves => .inr ?_⟩
          simp only [PolicyTask.serves, decide_eq_true_eq] at serves
          subst serves
          exact meets definition member
      | generates id => cases moved
  | send policies =>
      cases moved
      refine ⟨by simpa using stored, .sent device policies rfl meets ?_⟩
      intro own definition serves
      simp only [PolicyTask.serves, decide_eq_true_eq] at serves
      exact .inr ⟨serves.1.symm, List.any_eq_true.mpr ⟨definition, serves.2.1, by simp⟩⟩

theorem turn_stored {task : PolicyTask} (stored : PoliciesStored s.app.db)
    (meets : leavesNoneBehind s others task choice) (moved : s.turn choice task = some (s', new)) :
    PoliciesStored s'.app.db ∧ PolicyTurn s s' others new task := by
  cases task with
  | createPolicy auth body =>
      simp only [PolicyServer.turn, PolicyServer.createPolicy] at moved
      rcases policyInsertion_cases moved with ⟨rfl, _⟩ | ⟨admin, policy, db, rfl, done, rfl, rfl⟩
      · exact ⟨stored, .idle fun _ _ => rfl⟩
      · exact ⟨stored.insertPolicy (meets admin) done,
          .shrinks (fun _ _ => rfl) rfl
            (fun _ _ member => policiesFor_insertPolicy stored done member) fun _ _ same => same⟩
  | updatePolicy auth policy phase => exact updatePolicy_turn stored meets moved
  | deletePolicy auth policy =>
      simp only [PolicyServer.turn, PolicyServer.deletePolicy] at moved
      rcases policyStatement_cases moved with ⟨rfl, _⟩ | ⟨_, _, db, done, rfl, rfl⟩
      · exact ⟨stored, .idle fun _ _ => rfl⟩
      · split at done <;> cases done
        exact ⟨stored.deletePolicy policy, .shrinks (fun _ _ => rfl) rfl
          (fun _ _ member => policiesFor_deletePolicy member) fun _ _ same => same⟩
  | assignPolicy auth policy body =>
      simp only [PolicyServer.turn, PolicyServer.assignPolicy] at moved
      rcases policyStatement_cases moved with ⟨rfl, _⟩ | ⟨_, _, db, done, rfl, rfl⟩
      · exact ⟨stored, .idle fun _ _ => rfl⟩
      · have assigned : s.app.db.assignPolicy policy body.deviceId body.groupId = some db := by
          simp only [PolicyServer.orDatabaseError, bind, Except.bind] at done
          split at done
          · cases done
          · split at done
            · cases done
              assumption
            · cases done
        refine ⟨stored.assignPolicy assigned, .kept rfl ?_⟩
        intro device definition connection member connected
        by_cases own : policy = definition.id
        · exact .inl ⟨_, List.mem_singleton_self _, by simpa [PolicyTask.serves] using own⟩
        · exact .inr ⟨connected, .inr ⟨policiesFor_assignPolicy assigned (Ne.symm own) member,
            by simp [PolicyTask.serves]⟩⟩
  | unassignPolicy auth policy body =>
      simp only [PolicyServer.turn, PolicyServer.unassignPolicy] at moved
      rcases policyStatement_cases moved with ⟨rfl, _⟩ | ⟨_, _, db, done, rfl, rfl⟩
      · exact ⟨stored, .idle fun _ _ => rfl⟩
      · cases done
        have fewer : ∀ row ∈ (s.app.db.unassignPolicy policy body.deviceId
            body.groupId).policyAssignments, row ∈ s.app.db.policyAssignments :=
          fun _ member => List.mem_of_mem_filter member
        exact ⟨stored.subset rfl fewer, .shrinks (fun _ _ => rfl) rfl
          (fun _ _ member => Database.policiesFor_subset member id fewer fun _ old => old)
          fun _ _ same => same⟩
  | createGroup auth body =>
      simp only [PolicyServer.turn, PolicyServer.createGroup] at moved
      rcases policyInsertion_cases moved with ⟨rfl, _⟩ | ⟨_, group, db, rfl, done, rfl, rfl⟩
      · exact ⟨stored, .idle fun _ _ => rfl⟩
      · obtain ⟨deviceGroups, rfl⟩ := insertGroup_frame done
        exact ⟨stored.subset rfl fun _ old => old, .shrinks (fun _ _ => rfl) rfl
          (fun _ _ member => member) fun _ _ same => same⟩
  | deleteGroup auth group =>
      simp only [PolicyServer.turn, PolicyServer.deleteGroup] at moved
      rcases policyStatement_cases moved with ⟨rfl, _⟩ | ⟨_, _, db, done, rfl, rfl⟩
      · exact ⟨stored, .idle fun _ _ => rfl⟩
      · split at done <;> cases done
        have fewer : ∀ row ∈ (s.app.db.deleteGroup group).policyAssignments,
            row ∈ s.app.db.policyAssignments := fun _ member => List.mem_of_mem_filter member
        exact ⟨stored.subset rfl fewer, .shrinks (fun _ _ => rfl) rfl
          (fun _ _ member => Database.policiesFor_subset member id fewer
            fun _ old => List.mem_of_mem_filter old)
          fun _ _ same => same⟩
  | addMember auth group device =>
      simp only [PolicyServer.turn, PolicyServer.addMember] at moved
      rcases policyStatement_cases moved with ⟨rfl, _⟩ | ⟨admin, rfl, db, done, rfl, rfl⟩
      · exact ⟨stored, .idle fun _ _ => rfl⟩
      · have joined : s.app.db.addMember group device = some db := by
          simp only [PolicyServer.orDatabaseError] at done
          split at done
          · cases done
            assumption
          · cases done
        obtain ⟨groupMembers, frame⟩ := addMember_frame joined
        refine ⟨stored.subset (by rw [PolicyServer.withDb, frame]) ?_, .kept rfl ?_⟩
        · rw [PolicyServer.withDb, frame]
          exact fun _ old => old
        intro other definition connection member connected
        by_cases own : other = device
        · subst own
          exact .inr ⟨connected, .inl (meets admin db (by simp [joined]) definition member)⟩
        · exact .inr ⟨connected, .inr ⟨policiesFor_addMember joined own member,
            by simp [PolicyTask.serves]⟩⟩
  | removeMember auth group device =>
      simp only [PolicyServer.turn, PolicyServer.removeMember] at moved
      rcases policyStatement_cases moved with ⟨rfl, _⟩ | ⟨_, _, db, done, rfl, rfl⟩
      · exact ⟨stored, .idle fun _ _ => rfl⟩
      · cases done
        exact ⟨stored.subset rfl fun _ old => old, .shrinks (fun _ _ => rfl) rfl
          (fun _ _ member => Database.policiesFor_subset member id (fun _ old => old)
            fun _ old => List.mem_of_mem_filter old)
          fun _ _ same => same⟩
  | pushing policy phase => exact pushing_turn stored meets moved
  | greeting device phase => exact greeting_turn stored meets moved
  | connects device =>
      simp only [PolicyServer.turn] at moved
      cases choice with
      | proceeds =>
          simp only at moved
          split at moved
          · cases moved
            refine ⟨stored, .kept rfl ?_⟩
            intro other definition connection member connected
            by_cases own : device = other
            · exact .inl ⟨_, List.mem_singleton_self _, by simpa [PolicyTask.serves] using own⟩
            · refine .inr ⟨?_, .inr ⟨member, by simp [PolicyTask.serves]⟩⟩
              simp only [PolicyServer.connectionOf, PolicyServer.register,
                AppState.channelOf_register, if_neg (Ne.symm own)] at connected
              exact connected
          · cases moved
            exact ⟨stored, .idle fun _ _ => rfl⟩
      | fails =>
          cases moved
          exact ⟨stored, .idle fun _ _ => rfl⟩
      | generates id => cases moved
  | disconnects device =>
      cases moved
      refine ⟨stored, .shrinks (fun _ _ => rfl) rfl (fun _ _ member => member) ?_⟩
      intro other connection connected
      simp only [PolicyServer.connectionOf, PolicyServer.disconnect,
        AppState.channelOf_disconnectAgent] at connected ⊢
      split at connected
      · cases connected
      · exact connected
  | closes closed =>
      cases moved
      refine ⟨stored, .shrinks (fun _ _ => rfl) rfl (fun _ _ member => member) ?_⟩
      intro other connection connected
      simp only [PolicyServer.connectionOf, PolicyServer.close, Option.filter_eq_some_iff,
        List.mem_cons, not_or, decide_eq_true_eq] at connected ⊢
      exact ⟨connected.1, connected.2.2⟩
  | answered answer => cases moved

end

/-! ## Runs -/

/-- Every policy of a connected device is current there, or a task will send it. -/
structure PoliciesReach (config : Config PolicyServer PolicyTask) : Prop where
  stored : PoliciesStored config.shared.app.db
  reached : ∀ device, ∀ definition ∈ config.shared.app.db.policiesFor device,
    config.shared.reaches config.tasks device definition = true

theorem reaches_mono {s : PolicyServer} {tasks more : List PolicyTask} {device : Uuid}
    {definition : PolicyDefinition} (all : ∀ task ∈ tasks, task ∈ more)
    (reached : s.reaches tasks device definition = true) :
    s.reaches more device definition = true := by
  simp only [PolicyServer.reaches, Bool.or_eq_true, List.any_eq_true] at reached ⊢
  rcases reached with current | ⟨task, member, serves⟩
  · exact .inl current
  · exact .inr ⟨task, all task member, serves⟩

theorem PolicyTurn.reaches {s s' : PolicyServer} {before after new : List PolicyTask}
    {task : PolicyTask} (turn : PolicyTurn s s' (before ++ after) new task)
    (reached : ∀ device, ∀ definition ∈ s.app.db.policiesFor device,
      s.reaches (before ++ task :: after) device definition = true)
    (device : Uuid) (definition : PolicyDefinition)
    (member : definition ∈ s'.app.db.policiesFor device) :
    s'.reaches (before ++ new ++ after) device definition = true := by
  have others : ∀ other ∈ before ++ after, other ∈ before ++ new ++ after :=
    fun other => mem_beside new
  have handed : (∃ next ∈ new, next.serves device definition = true) →
      ∃ next ∈ before ++ new ++ after, next.serves device definition = true :=
    fun ⟨next, own, serves⟩ => ⟨next, by simp [own], serves⟩
  cases connected : s'.connectionOf device with
  | none => simp [PolicyServer.reaches, connected]
  | some connection =>
      rw [reaches_iff connected]
      have waiting (opened : s.connectionOf device = some connection)
          (old : definition ∈ s.app.db.policiesFor device) :
          s.reaches (before ++ after) device definition = true ∨
            task.serves device definition = true := by
        have whole := reached device definition old
        rw [reaches_iff opened] at whole ⊢
        rcases whole with current | ⟨other, own, serves⟩
        · exact .inl (.inl current)
        · by_cases same : other = task
          · exact .inr (same ▸ serves)
          · exact .inl (.inr ⟨other, mem_others own same, serves⟩)
      cases turn with
      | kept enqueued moves =>
          rcases moves device definition connection member connected with next | ⟨opened, still⟩
          · exact .inr (handed next)
          · have kept : s.reaches (before ++ after) device definition = true := by
              rcases still with reached | ⟨old, idle⟩
              · exact reached
              · exact (waiting opened old).resolve_right idle
            rw [reaches_iff opened] at kept
            rcases kept with current | ⟨other, own, serves⟩
            · left
              simpa only [PolicyServer.isCurrent, PolicyServer.lastPush, enqueued] using current
            · exact .inr ⟨other, others other own, serves⟩
      | sent own policies same inTurn moves =>
          subst same
          simp only [app_send, connectionOf_send] at member connected
          by_cases mentioned : device = own ∧ policies.any (·.id = definition.id) = true
          · obtain ⟨rfl, named⟩ := mentioned
            rw [isCurrent_send connected, if_pos named]
            by_cases only : definesOnly definition policies = true
            · exact .inl only
            · obtain ⟨other, member, serves⟩ :=
                List.any_eq_true.mp (inTurn definition member only (by simp [connected]))
              exact .inr ⟨other, others other member, serves⟩
          · have unchanged : (s.send own policies).isCurrent device connection definition =
                s.isCurrent device connection definition := by
              by_cases at_own : own = device
              · subst at_own
                rw [isCurrent_send connected, if_neg fun named => mentioned ⟨rfl, named⟩]
              · exact isCurrent_send_other at_own policies
            rw [unchanged]
            rcases waiting connected member with kept | serves
            · rw [reaches_iff connected] at kept
              rcases kept with current | ⟨other, own, serves⟩
              · exact .inl current
              · exact .inr ⟨other, others other own, serves⟩
            · exact .inr (handed ((moves device definition serves).resolve_right mentioned))

theorem policies_reach {start config : Config PolicyServer PolicyTask} (started : PolicyStart start)
    (reached : Reach policyProgram leavesNoneBehind start config) : PoliciesReach config := by
  refine reached.invariant PoliciesReach ?_ ?_ ?_
  · refine ⟨started.stored, fun device definition _ => ?_⟩
    simp [PolicyServer.reaches, PolicyServer.connectionOf, started.connections]
  · intro shared tasks task holds request
    exact ⟨holds.stored, fun device definition member =>
      reaches_mono (fun other old => List.mem_append_left _ old)
        (holds.reached device definition member)⟩
  · intro shared shared' before after new task choice holds meets moved
    obtain ⟨stored, turn⟩ := turn_stored holds.stored meets moved
    exact ⟨stored, turn.reaches holds.reached⟩

/-- When every handler has answered and no task of a connection is left, the pushes have
converged. -/
theorem policies_converge {start config : Config PolicyServer PolicyTask}
    (started : PolicyStart start) (reached : Reach policyProgram leavesNoneBehind start config)
    (quiescent : ∀ task ∈ config.tasks, task.finished = true) :
    PoliciesConverged config.shared := by
  intro device connection policy row connected found enabled assigned
  have reach := policies_reach started reached
  obtain ⟨rules, decoded⟩ := Option.isSome_iff_exists.mp (reach.stored.rules policy row found)
  let definition : PolicyDefinition := { id := policy, name := row.name, rules }
  have member : definition ∈ config.shared.app.db.policiesFor device := by
    refine Database.mem_policiesFor.mpr ⟨?_, assigned⟩
    simp [Database.enabledPolicy, definition, found, enabled, decoded]
  have last := (reaches_iff connected).mp (reach.reached device definition member)
  rcases last with current | ⟨task, own, serves⟩
  · obtain ⟨message, sent, only⟩ := (Option.any_eq_true _ _).mp current
    have named := List.find?_some sent
    simp only [decide_eq_true_eq, List.any_eq_true] at named
    refine ⟨message, sent, named.2.2, fun other carried same => ?_⟩
    have whole := List.all_eq_true.mp only other carried
    obtain rfl : other = definition := of_decide_eq_true whole same
    exact ⟨rfl, decoded⟩
  · cases task with
    | answered answer => cases serves
    | _ => exact absurd (quiescent _ own) (by simp [PolicyTask.finished])

/-! ## A group of devices -/

def enrolled : DeviceRow where
  status := .offline
  lastSeen := none
  agentVersion := none
  authTokenHash := none

/-- A policy of a group, with one of two devices in the group. -/
def samplePolicies : Config PolicyServer PolicyTask where
  shared :=
    { app := .ofDatabase
        { Database.ofDevices ⟨[(Uuid.small 1, enrolled), (Uuid.small 2, enrolled)], by decide⟩ with
          policies := ⟨[(Uuid.small 3,
            { name := "baseline", rules := .array [], enabled := true })], by simp⟩
          deviceGroups := ⟨[(Uuid.small 7, { name := "office", description := none })], by simp⟩
          groupMembers := [{ groupId := Uuid.small 7, deviceId := Uuid.small 1 }]
          policyAssignments :=
            [{ policyId := Uuid.small 3, deviceId := none, groupId := some (Uuid.small 7) }] }
      connections := 0
      closed := []
      enqueued := [] }
  tasks := []

theorem samplePolicies_start : PolicyStart samplePolicies where
  tasks := rfl
  stored := by
    constructor
    · intro policy row found
      simp only [samplePolicies, AppState.ofDatabase, Table.find?_eq_some, List.mem_singleton,
        Prod.mk.injEq] at found
      rw [found.2]
      decide
    · decide
  connections _ := rfl

def policyAdmin : AuthUser where
  userId := Uuid.small 9
  username := "admin"
  role := "admin"

/-- A device connects and gets its policies. -/
def policyConnects (device : Uuid) : List (Label PolicyTask PolicyChoice) :=
  [.arrive (.connects device), .run 0 .proceeds, .run 0 .proceeds]

/-- The member connects, and then the policy gets another name. -/
def policyRenamed : List (Label PolicyTask PolicyChoice) :=
  policyConnects (Uuid.small 1) ++ [.run 0 .proceeds,
    .arrive (.updatePolicy policyAdmin (Uuid.small 3)
      (.verifyPolicy { name := some "strict", description := none, rules := none, enabled := none })),
    .run 0 .proceeds, .run 0 .proceeds, .run 0 .proceeds, .run 0 .proceeds, .run 0 .proceeds,
    .run 0 .proceeds, .run 0 .proceeds, .run 0 .proceeds]

/-- The other device connects, and then joins the group. -/
def policyJoined : List (Label PolicyTask PolicyChoice) :=
  policyConnects (Uuid.small 2) ++
    [.arrive (.addMember policyAdmin (Uuid.small 7) (Uuid.small 2)), .run 0 .proceeds]

def PolicyServer.lastNames (config : Config PolicyServer PolicyTask) (device policy : Uuid) :
    Option (List String) :=
  (config.shared.lastPush device 0 policy).map fun message => message.policies.map (·.name)

theorem policies_converge_renamed : ∃ config,
    Reach policyProgram leavesNoneBehind samplePolicies config ∧
      PolicyServer.lastNames config (Uuid.small 1) (Uuid.small 3) = some ["strict"] ∧
      PoliciesConverged config.shared := by
  obtain ⟨config, reached, seen⟩ := Reach.of_observed policyProgram leavesNoneBehind samplePolicies
    policyRenamed
    (fun config => (PolicyServer.lastNames config (Uuid.small 1) (Uuid.small 3),
      config.tasks.all (·.finished)))
    (some ["strict"], true) (by decide +kernel)
  simp only [Prod.mk.injEq, List.all_eq_true] at seen
  exact ⟨config, reached, seen.1, policies_converge samplePolicies_start reached seen.2⟩

theorem policy_left_behind : ¬ ∀ (start config : Config PolicyServer PolicyTask),
    PolicyStart start → Reach policyProgram Guard.any start config →
      (∀ task ∈ config.tasks, task.finished = true) → PoliciesConverged config.shared := by
  intro converge
  obtain ⟨config, reached, seen⟩ := Reach.of_observed policyProgram Guard.any samplePolicies
    policyJoined
    (fun config => (config.shared.connectionOf (Uuid.small 2),
      config.shared.app.db.policiesFor (Uuid.small 2), config.shared.enqueued,
      config.tasks.all (·.finished)))
    (some 0, [{ id := Uuid.small 3, name := "baseline", rules := [] }], [], true)
    (by decide +kernel)
  simp only [Prod.mk.injEq, List.all_eq_true] at seen
  obtain ⟨connected, addressed, none, finished⟩ := seen
  obtain ⟨selected, assigned⟩ := Database.mem_policiesFor.mp (addressed ▸ List.mem_singleton_self _)
  obtain ⟨row, found, enabled⟩ := stored_of_enabledPolicy selected
  obtain ⟨message, sent, _⟩ := converge _ _ samplePolicies_start reached finished _ _ _ row connected
    found enabled assigned
  rw [PolicyServer.lastPush, none] at sent
  cases sent

end OsfmEdm
