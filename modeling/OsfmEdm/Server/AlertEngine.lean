import OsfmEdm.Server.Database

/-!
Alert rules against fresh telemetry (`services/alert_engine.rs`), one definition for each
statement and each decision of `check_alerts`. Doubles are rationals.
-/

namespace OsfmEdm

structure AlertRule where
  id : Uuid
  name : String
  metric : String
  operator : String
  threshold : ℚ
  severity : String
deriving DecidableEq

def AlertRuleRow.decode (id : Uuid) (row : AlertRuleRow) : Option AlertRule := do
  let metric ← row.metric
  let operator ← row.operator
  let threshold ← row.threshold
  let severity ← row.severity
  return { id, name := row.name, metric, operator, threshold, severity }

namespace Database

/-- One row that does not decode fails the whole query, which then counts as empty. -/
def selectAlertRules (db : Database) : List AlertRule :=
  let enabled := db.alertRules.rows.filter fun row => row.2.enabled
  (enabled.mapM fun row => AlertRuleRow.decode row.1 row.2).getD []

/-- `ORDER BY time DESC LIMIT 1`. -/
def latestMetrics (db : Database) (device : Uuid) : Option MetricsRow :=
  (db.deviceMetrics.filter fun row => row.deviceId = device).foldl
    (fun best row =>
      match best with
      | none => some row
      | some kept => if kept.time ≤ row.time then some row else some kept)
    none

def hasOpenAlert (db : Database) (rule device : Uuid) : Bool :=
  db.alertEvents.any fun row =>
    row.ruleId = rule ∧ row.deviceId = some device ∧ row.resolvedAt = none

def insertAlertEvent (db : Database) (rule : AlertRule) (device : Uuid) : Database :=
  { db with
    alertEvents := db.alertEvents ++
      [{ ruleId := rule.id, deviceId := some device, severity := rule.severity,
         triggeredAt := db.now, resolvedAt := none }] }

end Database

/-- `f64::EPSILON`. -/
def EPSILON : ℚ := 1 / 2 ^ 52

def AlertRule.metricValue (rule : AlertRule) (m : MetricsRow) : Option ℚ :=
  match rule.metric with
  | "cpu_pct" => m.cpuPct
  | "ram_pct" =>
      match m.ramUsedMb, m.ramTotalMb with
      | some used, some total =>
          if 0 < total.toInt then some ((used.toInt : ℚ) / total.toInt * 100) else none
      | _, _ => none
  | "disk_pct" =>
      match m.diskUsedGb, m.diskTotalGb with
      | some used, some total => if 0 < total then some (used / total * 100) else none
      | _, _ => none
  | _ => none

def AlertRule.triggered (rule : AlertRule) (value : ℚ) : Bool :=
  match rule.operator with
  | ">" | "gt" => rule.threshold < value
  | ">=" | "gte" => rule.threshold ≤ value
  | "<" | "lt" => value < rule.threshold
  | "<=" | "lte" => value ≤ rule.threshold
  | "==" | "eq" => |value - rule.threshold| < EPSILON
  | _ => false

/-- The rules whose value is there and triggers, in order. -/
def triggeredRules (rules : List AlertRule) (m : MetricsRow) : List AlertRule :=
  rules.filter fun rule =>
    match rule.metricValue m with
    | some value => rule.triggered value
    | none => false

end OsfmEdm
