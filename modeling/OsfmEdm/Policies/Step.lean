import OsfmEdm.Library.Interleaving
import OsfmEdm.Server.Api
import OsfmEdm.Server.PolicyEngine
import OsfmEdm.Server.State

/-!
The policy and group routes (`api/policies.rs`, `api/groups.rs`) beside the connections of the
agents and the policies those get. A step is one SQL statement or one send.
-/

namespace OsfmEdm

open Interleaving
open JsonText

/-- One `PushPolicy` that went into the channel of a connection. -/
structure PolicyMessage where
  device : Uuid
  connection : Nat
  policies : List PolicyDefinition
deriving DecidableEq

/-- `connections` counts the registered ones and `closed` has those whose receiver is gone. -/
structure PolicyServer where
  app : AppState
  connections : Nat
  closed : List Nat
  enqueued : List PolicyMessage

structure CreatePolicyRequest where
  name : String
  description : Option String
  rules : Json

structure UpdatePolicyRequest where
  name : Option String
  description : Option String
  rules : Option Json
  enabled : Option Bool

structure AssignPolicyRequest where
  deviceId : Option Uuid
  groupId : Option Uuid
deriving DecidableEq

structure CreateGroupRequest where
  name : String
  description : Option String
deriving DecidableEq

/-- What one `UPDATE policies` of a request sets. -/
inductive PolicyColumn where
  | name (name : String)
  | description (description : String)
  | rules (rules : Json)
  | enabled (enabled : Bool)

def PolicyColumn.set (column : PolicyColumn) (row : PolicyRow) : PolicyRow :=
  match column with
  | .name value => { row with name := value }
  | .description _ => row
  | .rules value => { row with rules := value }
  | .enabled value => { row with enabled := value }

/-- One statement for each field that is there, in the order of the handler. -/
def UpdatePolicyRequest.columns (body : UpdatePolicyRequest) : List PolicyColumn :=
  (body.name.map .name).toList ++ (body.description.map .description).toList ++
    (body.rules.map .rules).toList ++ (body.enabled.map .enabled).toList

/-! ## Tasks -/

inductive PolicyUpdate where
  | verifyPolicy (body : UpdatePolicyRequest)
  | setColumns (rest : List PolicyColumn)
  | selectPolicy

/-- `push_policy_to_agents`, the end of an update and of an assignment. -/
inductive PolicyPushing where
  | selectPolicy
  | selectDevices (definition : PolicyDefinition)
  | send (definition : PolicyDefinition) (devices : List Uuid)

/-- `push_policies_to_device`. -/
inductive PolicyGreeting where
  | selectPolicies
  | send (policies : List PolicyDefinition)

inductive PolicyTask where
  | createPolicy (auth : AuthUser) (body : CreatePolicyRequest)
  | updatePolicy (auth : AuthUser) (policy : Uuid) (phase : PolicyUpdate)
  | deletePolicy (auth : AuthUser) (policy : Uuid)
  | assignPolicy (auth : AuthUser) (policy : Uuid) (body : AssignPolicyRequest)
  | unassignPolicy (auth : AuthUser) (policy : Uuid) (body : AssignPolicyRequest)
  | createGroup (auth : AuthUser) (body : CreateGroupRequest)
  | deleteGroup (auth : AuthUser) (group : Uuid)
  | addMember (auth : AuthUser) (group device : Uuid)
  | removeMember (auth : AuthUser) (group device : Uuid)
  | pushing (policy : Uuid) (phase : PolicyPushing)
  | greeting (device : Uuid) (phase : PolicyGreeting)
  | connects (device : Uuid)
  | disconnects (device : Uuid)
  | closes (connection : Nat)
  | answered (answer : Except ApiError Unit)

inductive PolicyChoice where
  | proceeds
  | fails
  | generates (id : Uuid)
deriving DecidableEq

/-! ## Steps -/

namespace PolicyServer

def withDb (s : PolicyServer) (db : Database) : PolicyServer := { s with app := { s.app with db } }

/-- The open connection a message for the device goes to. -/
def connectionOf (s : PolicyServer) (device : Uuid) : Option Nat :=
  (s.app.channelOf device).filter fun connection => connection ∉ s.closed

/-- `send_to_agent`, whose result nobody reads. -/
def send (s : PolicyServer) (device : Uuid) (policies : List PolicyDefinition) : PolicyServer :=
  match s.connectionOf device with
  | some connection => { s with enqueued := s.enqueued ++ [{ device, connection, policies }] }
  | none => s

def register (s : PolicyServer) (device : Uuid) : PolicyServer :=
  { s with app := s.app.register device s.connections, connections := s.connections + 1 }

def disconnect (s : PolicyServer) (device : Uuid) : PolicyServer :=
  { s with app := s.app.disconnectAgent device }

def close (s : PolicyServer) (connection : Nat) : PolicyServer :=
  { s with closed := connection :: s.closed }

/-- A statement of an admin: what it does to the database, and the task after it. -/
def statement (s : PolicyServer) (auth : AuthUser) (choice : PolicyChoice)
    (change : Database → Except ApiError Database) (next : PolicyTask) :
    Option (PolicyServer × List PolicyTask) :=
  match auth.requireAdmin, choice with
  | .error error, _ => some (s, [.answered (.error error)])
  | .ok (), .proceeds =>
      match change s.app.db with
      | .ok db => some (s.withDb db, [next])
      | .error error => some (s, [.answered (.error error)])
  | .ok (), .fails => some (s, [.answered (.error .database)])
  | .ok (), .generates _ => none

/-- An `INSERT` that generates the id of its row. -/
def insertion (s : PolicyServer) (auth : AuthUser) (choice : PolicyChoice)
    (change : Uuid → Database → Option Database) : Option (PolicyServer × List PolicyTask) :=
  match auth.requireAdmin, choice with
  | .error error, _ => some (s, [.answered (.error error)])
  | .ok (), .generates id =>
      match change id s.app.db with
      | some db => some (s.withDb db, [.answered (.ok ())])
      | none => some (s, [.answered (.error .database)])
  | .ok (), .fails => some (s, [.answered (.error .database)])
  | .ok (), .proceeds => none

def policyNotFound (policy : Uuid) : ApiError := .notFound ("Policy " ++ policy.text ++ " not found")

def createPolicy (s : PolicyServer) (auth : AuthUser) (body : CreatePolicyRequest)
    (choice : PolicyChoice) : Option (PolicyServer × List PolicyTask) :=
  s.insertion auth choice fun policy db => db.insertPolicy policy body.name body.rules

def updatePolicy (s : PolicyServer) (auth : AuthUser) (policy : Uuid) (choice : PolicyChoice) :
    PolicyUpdate → Option (PolicyServer × List PolicyTask)
  | .verifyPolicy body =>
      s.statement auth choice
        (fun db => if db.policies.contains policy then .ok db else .error (policyNotFound policy))
        (.updatePolicy auth policy (.setColumns body.columns))
  | .setColumns [] => some (s, [.updatePolicy auth policy .selectPolicy])
  | .setColumns (column :: rest) =>
      match choice with
      | .proceeds =>
          some (s.withDb (s.app.db.updatePolicy policy column.set),
            [.updatePolicy auth policy (.setColumns rest)])
      | .fails => some (s, [.answered (.error .database)])
      | .generates _ => none
  -- `fetch_one`: no row is an error too
  | .selectPolicy =>
      match choice with
      | .proceeds =>
          if s.app.db.policies.contains policy then some (s, [.pushing policy .selectPolicy])
          else some (s, [.answered (.error .database)])
      | .fails => some (s, [.answered (.error .database)])
      | .generates _ => none

def deletePolicy (s : PolicyServer) (auth : AuthUser) (policy : Uuid) (choice : PolicyChoice) :
    Option (PolicyServer × List PolicyTask) :=
  s.statement auth choice
    (fun db =>
      if db.policies.contains policy then .ok (db.deletePolicy policy)
      else .error (policyNotFound policy))
    (.answered (.ok ()))

/-- The check of `assign_policy` on its body. -/
def verifyTarget (body : AssignPolicyRequest) : Except ApiError Unit :=
  if body.deviceId.isNone ∧ body.groupId.isNone then
    .error (.badRequest "assign requires exactly one of device_id or group_id")
  else if body.deviceId.isSome ∧ body.groupId.isSome then
    .error (.badRequest "assign accepts only one of device_id or group_id")
  else .ok ()

/-- A database that refuses a statement answers with its own error. -/
def orDatabaseError (done : Option Database) : Except ApiError Database :=
  match done with
  | some db => .ok db
  | none => .error .database

def assignPolicy (s : PolicyServer) (auth : AuthUser) (policy : Uuid) (body : AssignPolicyRequest)
    (choice : PolicyChoice) : Option (PolicyServer × List PolicyTask) :=
  s.statement auth choice
    (fun db => do
      verifyTarget body
      orDatabaseError (db.assignPolicy policy body.deviceId body.groupId))
    (.pushing policy .selectPolicy)

def unassignPolicy (s : PolicyServer) (auth : AuthUser) (policy : Uuid)
    (body : AssignPolicyRequest) (choice : PolicyChoice) :
    Option (PolicyServer × List PolicyTask) :=
  s.statement auth choice (fun db => .ok (db.unassignPolicy policy body.deviceId body.groupId))
    (.answered (.ok ()))

def createGroup (s : PolicyServer) (auth : AuthUser) (body : CreateGroupRequest)
    (choice : PolicyChoice) : Option (PolicyServer × List PolicyTask) :=
  s.insertion auth choice fun group db => db.insertGroup group body.name body.description

def deleteGroup (s : PolicyServer) (auth : AuthUser) (group : Uuid) (choice : PolicyChoice) :
    Option (PolicyServer × List PolicyTask) :=
  s.statement auth choice
    (fun db =>
      if db.deviceGroups.contains group then .ok (db.deleteGroup group)
      else .error (.notFound ("Group " ++ group.text ++ " not found")))
    (.answered (.ok ()))

def addMember (s : PolicyServer) (auth : AuthUser) (group device : Uuid) (choice : PolicyChoice) :
    Option (PolicyServer × List PolicyTask) :=
  s.statement auth choice (fun db => orDatabaseError (db.addMember group device))
    (.answered (.ok ()))

def removeMember (s : PolicyServer) (auth : AuthUser) (group device : Uuid)
    (choice : PolicyChoice) : Option (PolicyServer × List PolicyTask) :=
  s.statement auth choice (fun db => .ok (db.removeMember group device)) (.answered (.ok ()))

/-- A failed query counts as an empty one. -/
def pushing (s : PolicyServer) (policy : Uuid) (choice : PolicyChoice) :
    PolicyPushing → Option (PolicyServer × List PolicyTask)
  | .selectPolicy =>
      match choice with
      | .proceeds =>
          match s.app.db.enabledPolicy policy with
          | some definition => some (s, [.pushing policy (.selectDevices definition)])
          | none => some (s, [.answered (.ok ())])
      | .fails => some (s, [.answered (.ok ())])
      | .generates _ => none
  | .selectDevices definition =>
      match choice with
      | .proceeds => some (s, [.pushing policy (.send definition (s.app.db.devicesOf policy))])
      | .fails => some (s, [.pushing policy (.send definition [])])
      | .generates _ => none
  | .send _ [] => some (s, [.answered (.ok ())])
  | .send definition (device :: rest) =>
      some (s.send device [definition], [.pushing policy (.send definition rest)])

def greeting (s : PolicyServer) (device : Uuid) (choice : PolicyChoice) :
    PolicyGreeting → Option (PolicyServer × List PolicyTask)
  | .selectPolicies =>
      match choice with
      | .proceeds =>
          match s.app.db.policiesFor device with
          | [] => some (s, [])
          | policies => some (s, [.greeting device (.send policies)])
      | .fails => some (s, [])
      | .generates _ => none
  | .send policies => some (s.send device policies, [])

def turn (s : PolicyServer) (choice : PolicyChoice) :
    PolicyTask → Option (PolicyServer × List PolicyTask)
  | .createPolicy auth body => s.createPolicy auth body choice
  | .updatePolicy auth policy phase => s.updatePolicy auth policy choice phase
  | .deletePolicy auth policy => s.deletePolicy auth policy choice
  | .assignPolicy auth policy body => s.assignPolicy auth policy body choice
  | .unassignPolicy auth policy body => s.unassignPolicy auth policy body choice
  | .createGroup auth body => s.createGroup auth body choice
  | .deleteGroup auth group => s.deleteGroup auth group choice
  | .addMember auth group device => s.addMember auth group device choice
  | .removeMember auth group device => s.removeMember auth group device choice
  | .pushing policy phase => s.pushing policy choice phase
  | .greeting device phase => s.greeting device choice phase
  | .connects device =>
      match choice with
      | .proceeds =>
          if s.app.db.deviceExists device then
            some (s.register device, [.greeting device .selectPolicies])
          else some (s, [])
      | .fails => some (s, [])
      | .generates _ => none
  | .disconnects device => some (s.disconnect device, [])
  | .closes connection => some (s.close connection, [])
  | .answered _ => none

end PolicyServer

def PolicyTask.request : PolicyTask → Bool
  | .updatePolicy _ _ (.verifyPolicy _) | .createPolicy .. | .deletePolicy .. | .assignPolicy ..
  | .unassignPolicy .. | .createGroup .. | .deleteGroup .. | .addMember .. | .removeMember ..
  | .connects _ | .disconnects _ | .closes _ => true
  | _ => false

/-- A handler that has answered; a task of a connection is gone when it is done. -/
def PolicyTask.finished : PolicyTask → Bool
  | .answered _ => true
  | _ => false

def policyProgram : Program PolicyServer PolicyTask PolicyChoice where
  request := PolicyTask.request
  step s task choice := s.turn choice task

end OsfmEdm
