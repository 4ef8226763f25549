import OsfmEdm.Library.Interleaving
import OsfmEdm.Server.AlertEngine
import OsfmEdm.Server.AgentHub
import OsfmEdm.Server.Api

/-!
`check_alerts` runs beside the alert routes (`api/alerts.rs`). A step is one SQL statement.
-/

namespace OsfmEdm

open Interleaving

/-- `notified` has the rule and the device of each notification sent, and `released` those of the
open events that were resolved or deleted. -/
structure AlertServer where
  db : Database
  notified : List (Uuid × Uuid)
  released : List (Uuid × Uuid)

structure CreateRuleRequest where
  name : String
  metric : String
  operator : String
  threshold : ℚ
  severity : Option String
  enabled : Option Bool

structure UpdateRuleRequest where
  name : Option String
  metric : Option String
  operator : Option String
  threshold : Option ℚ
  severity : Option String
  enabled : Option Bool

def CreateRuleRequest.row (body : CreateRuleRequest) : AlertRuleRow where
  name := body.name
  metric := some body.metric
  operator := some body.operator
  threshold := some body.threshold
  severity := some (body.severity.getD "warning")
  enabled := body.enabled.getD true

/-- One statement for each field that is there, in the order of the handler. -/
def UpdateRuleRequest.statements (body : UpdateRuleRequest) : List (AlertRuleRow → AlertRuleRow) :=
  (body.name.map fun name (row : AlertRuleRow) => { row with name }).toList ++
  (body.metric.map fun metric (row : AlertRuleRow) => { row with metric := some metric }).toList ++
  (body.operator.map fun operator (row : AlertRuleRow) =>
    { row with operator := some operator }).toList ++
  (body.threshold.map fun threshold (row : AlertRuleRow) =>
    { row with threshold := some threshold }).toList ++
  (body.severity.map fun severity (row : AlertRuleRow) =>
    { row with severity := some severity }).toList ++
  (body.enabled.map fun enabled (row : AlertRuleRow) => { row with enabled }).toList

/-! ## Tasks -/

/-- A telemetry report and the `check_alerts` after it. The rules of a list have triggered and are
still to be looked at. -/
inductive CheckAlerts where
  | insertMetrics (snapshot : TelemetrySnapshot)
  | selectRules
  | selectMetrics (rules : List AlertRule)
  | selectOpen (rules : List AlertRule)
  | insertEvent (rule : AlertRule) (rest : List AlertRule)
  | notify (rule : AlertRule) (rest : List AlertRule)

inductive RuleEdit where
  | create (body : CreateRuleRequest)
  | update (rule : Uuid) (body : UpdateRuleRequest)
  | setColumns (rule : Uuid) (rest : List (AlertRuleRow → AlertRuleRow))
  | selectRule (rule : Uuid)
  | syncCondition (rule : Uuid)
  | delete (rule : Uuid)

inductive AlertTask where
  | check (device : Uuid) (phase : CheckAlerts)
  | edit (auth : AuthUser) (phase : RuleEdit)
  | resolveEvent (auth : AuthUser) (event : Uuid)
  | answered (answer : Except ApiError Unit)
  | clock

/-- `finds` is the row that has the id of a request, by its place in the table. -/
inductive AlertChoice where
  | proceeds
  | fails
  | generates (id : Uuid)
  | finds (place : Nat)
deriving DecidableEq

/-! ## Statements -/

namespace Database

def isOpenFor (rule device : Uuid) (row : AlertEventRow) : Bool :=
  row.ruleId = rule ∧ row.deviceId = some device ∧ row.resolvedAt = none

/-- The foreign key `rule_id`. -/
def insertAlertEvent? (db : Database) (rule : AlertRule) (device : Uuid) : Option Database :=
  if db.alertRules.contains rule.id then some (db.insertAlertEvent rule device) else none

/-- `UPDATE alert_events SET resolved_at = now() WHERE id = $1 AND resolved_at IS NULL`. -/
def resolveEvent (db : Database) (place : Nat) : Database :=
  { db with
    alertEvents := db.alertEvents.modify place fun row =>
      if row.resolvedAt = none then { row with resolvedAt := some db.now } else row }

/-- `DELETE FROM alert_rules WHERE id = $1`, with the events of the rule. -/
def deleteRule (db : Database) (rule : Uuid) : Database :=
  { db with
    alertRules := db.alertRules.keep fun key _ => key ≠ rule
    alertEvents := db.alertEvents.filter fun row => row.ruleId ≠ rule }

end Database

/-- The rule and the device of an open event. -/
def AlertEventRow.open? (row : AlertEventRow) : Option (Uuid × Uuid) :=
  if row.resolvedAt = none then row.deviceId.map fun device => (row.ruleId, device) else none

namespace AlertServer

def check (s : AlertServer) (device : Uuid) (choice : AlertChoice) :
    CheckAlerts → Option (AlertServer × List AlertTask)
  | .insertMetrics snapshot =>
      match choice with
      | .proceeds =>
          some ({ s with db := s.db.insertMetrics device snapshot }, [.check device .selectRules])
      | .fails => some (s, [.check device .selectRules])
      | _ => none
  | .selectRules =>
      match choice with
      | .proceeds =>
          match s.db.selectAlertRules with
          | [] => some (s, [])
          | rules => some (s, [.check device (.selectMetrics rules)])
      | .fails => some (s, [])
      | _ => none
  | .selectMetrics rules =>
      match choice with
      | .proceeds =>
          match s.db.latestMetrics device with
          | none => some (s, [])
          | some m => some (s, [.check device (.selectOpen (triggeredRules rules m))])
      | .fails => some (s, [])
      | _ => none
  | .selectOpen [] => some (s, [])
  | .selectOpen (rule :: rest) =>
      match choice with
      | .proceeds =>
          if s.db.hasOpenAlert rule.id device then some (s, [.check device (.selectOpen rest)])
          else some (s, [.check device (.insertEvent rule rest)])
      -- `unwrap_or(false)`: a failed query counts as no open event
      | .fails => some (s, [.check device (.insertEvent rule rest)])
      | _ => none
  | .insertEvent rule rest =>
      match choice with
      | .proceeds =>
          match s.db.insertAlertEvent? rule device with
          | some db => some ({ s with db }, [.check device (.notify rule rest)])
          | none => some (s, [.check device (.selectOpen rest)])
      | .fails => some (s, [.check device (.selectOpen rest)])
      | _ => none
  | .notify rule rest =>
      some ({ s with notified := (rule.id, device) :: s.notified },
        [.check device (.selectOpen rest)])

def ruleNotFound (rule : Uuid) : ApiError :=
  .notFound ("Alert rule " ++ rule.text ++ " not found")

def edit (s : AlertServer) (auth : AuthUser) (choice : AlertChoice) :
    RuleEdit → Option (AlertServer × List AlertTask)
  | .create body =>
      match auth.requireAdmin, choice with
      | .error error, _ => some (s, [.answered (.error error)])
      | .ok (), .generates rule =>
          (s.db.alertRules.insert rule body.row).map fun alertRules =>
            ({ s with db := { s.db with alertRules } }, [.answered (.ok ())])
      | .ok (), .fails => some (s, [.answered (.error .database)])
      | _, _ => none
  | .update rule body =>
      match auth.requireAdmin, choice with
      | .error error, _ => some (s, [.answered (.error error)])
      | .ok (), .proceeds =>
          if s.db.alertRules.contains rule then
            some (s, [.edit auth (.setColumns rule body.statements)])
          else some (s, [.answered (.error (ruleNotFound rule))])
      | .ok (), .fails => some (s, [.answered (.error .database)])
      | _, _ => none
  | .setColumns rule [] => some (s, [.edit auth (.selectRule rule)])
  | .setColumns rule (change :: rest) =>
      match choice with
      | .proceeds =>
          some ({ s with db := { s.db with alertRules := s.db.alertRules.update rule change } },
            [.edit auth (.setColumns rule rest)])
      | .fails => some (s, [.answered (.error .database)])
      | _ => none
  | .selectRule rule =>
      match choice with
      | .proceeds =>
          match s.db.alertRules.find? rule with
          | none => some (s, [.answered (.error .database)])
          | some row =>
              if row.metric.isSome || row.operator.isSome || row.threshold.isSome then
                some (s, [.edit auth (.syncCondition rule)])
              else some (s, [.answered (.ok ())])
      | .fails => some (s, [.answered (.error .database)])
      | _ => none
  -- the column `condition` is one that no modelled statement reads
  | .syncCondition _ =>
      match choice with
      | .proceeds => some (s, [.answered (.ok ())])
      | .fails => some (s, [.answered (.error .database)])
      | _ => none
  | .delete rule =>
      match auth.requireAdmin, choice with
      | .error error, _ => some (s, [.answered (.error error)])
      | .ok (), .proceeds =>
          if s.db.alertRules.contains rule then
            some ({ s with
                db := s.db.deleteRule rule
                released := ((s.db.alertEvents.filter fun row => row.ruleId = rule).filterMap
                  (·.open?)) ++ s.released },
              [.answered (.ok ())])
          else some (s, [.answered (.error (ruleNotFound rule))])
      | .ok (), .fails => some (s, [.answered (.error .database)])
      | _, _ => none

def eventNotFound (event : Uuid) : ApiError :=
  .notFound ("Alert event " ++ event.text ++ " not found or already resolved")

def resolveEvent (s : AlertServer) (auth : AuthUser) (event : Uuid) (choice : AlertChoice) :
    Option (AlertServer × List AlertTask) :=
  match auth.requireAdmin, choice with
  | .error error, _ => some (s, [.answered (.error error)])
  | .ok (), .finds place =>
      match s.db.alertEvents[place]? with
      | some row =>
          if row.resolvedAt = none then
            some ({ s with
                db := s.db.resolveEvent place
                released := row.open?.toList ++ s.released },
              [.answered (.ok ())])
          else some (s, [.answered (.error (eventNotFound event))])
      | none => none
  | .ok (), .proceeds =>
      some (s, [.answered (.error (eventNotFound event))])
  | .ok (), .fails => some (s, [.answered (.error .database)])
  | _, _ => none

def turn (s : AlertServer) (choice : AlertChoice) :
    AlertTask → Option (AlertServer × List AlertTask)
  | .check device phase => s.check device choice phase
  | .edit auth phase => s.edit auth choice phase
  | .resolveEvent auth event => s.resolveEvent auth event choice
  | .answered _ => none
  | .clock => some ({ s with db := { s.db with now := s.db.now + 1 } }, [])

end AlertServer

def AlertTask.request : AlertTask → Bool
  | .check _ (.insertMetrics _) | .edit _ (.create _) | .edit _ (.update ..) | .edit _ (.delete _)
  | .resolveEvent .. | .clock => true
  | _ => false

def alertProgram : Program AlertServer AlertTask AlertChoice where
  request := AlertTask.request
  step s task choice := s.turn choice task

end OsfmEdm
