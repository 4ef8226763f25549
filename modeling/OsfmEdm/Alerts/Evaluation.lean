import OsfmEdm.Alerts.Step

/-!
Which rules one run of `check_alerts` fires, against what the rows of `alert_rules` ask for.
-/

namespace OsfmEdm

open Interleaving

/-! ## What the rows ask for -/

/-- The metric of a name, where the row of telemetry has it. -/
inductive MetricReads (m : MetricsRow) : String → ℚ → Prop where
  | cpu {value : ℚ} (present : m.cpuPct = some value) : MetricReads m "cpu_pct" value
  | ram {used total : Int64} (usedPresent : m.ramUsedMb = some used)
      (totalPresent : m.ramTotalMb = some total) (positive : 0 < total.toInt) :
      MetricReads m "ram_pct" ((used.toInt : ℚ) / total.toInt * 100)
  | disk {used total : ℚ} (usedPresent : m.diskUsedGb = some used)
      (totalPresent : m.diskTotalGb = some total) (positive : 0 < total) :
      MetricReads m "disk_pct" (used / total * 100)

/-- The comparison of an operator. -/
inductive Compares (value threshold : ℚ) : String → Prop where
  | above {operator : String} (named : operator = ">" ∨ operator = "gt")
      (holds : threshold < value) : Compares value threshold operator
  | atLeast {operator : String} (named : operator = ">=" ∨ operator = "gte")
      (holds : threshold ≤ value) : Compares value threshold operator
  | below {operator : String} (named : operator = "<" ∨ operator = "lt")
      (holds : value < threshold) : Compares value threshold operator
  | atMost {operator : String} (named : operator = "<=" ∨ operator = "lte")
      (holds : value ≤ threshold) : Compares value threshold operator
  | equal {operator : String} (named : operator = "==" ∨ operator = "eq")
      (holds : |value - threshold| < EPSILON) : Compares value threshold operator

/-- A row whose alert is due: this is about the row itself, the latest telemetry and the open
events of the row. -/
structure RowFires (db : Database) (device id : Uuid) (row : AlertRuleRow) : Prop where
  enabled : row.enabled = true
  fires : ∃ metric operator threshold m value, row.metric = some metric ∧
    row.operator = some operator ∧ row.threshold = some threshold ∧
    db.latestMetrics device = some m ∧ MetricReads m metric value ∧
    Compares value threshold operator
  closed : db.hasOpenAlert id device = false

def RuleFires (db : Database) (device id : Uuid) : Prop :=
  ∃ row, db.alertRules.find? id = some row ∧ RowFires db device id row

/-- The columns `check_alerts` reads into fields that take no NULL. -/
def AlertRuleRow.complete (row : AlertRuleRow) : Bool :=
  row.metric.isSome && row.operator.isSome && row.threshold.isSome && row.severity.isSome

/-! ## One run -/

namespace Database

def checkRule (device : Uuid) (db : Database) (rule : AlertRule) : Database :=
  if db.hasOpenAlert rule.id device then db else (db.insertAlertEvent? rule device).getD db

/-- `check_alerts` where every query succeeds. -/
def checkAlerts (db : Database) (device : Uuid) : Database :=
  match db.selectAlertRules with
  | [] => db
  | rules =>
      match db.latestMetrics device with
      | none => db
      | some m => (triggeredRules rules m).foldl (checkRule device) db

end Database

/-- The event a rule opens. -/
def AlertRule.opens (rule : AlertRule) (db : Database) (device : Uuid) : AlertEventRow where
  ruleId := rule.id
  deviceId := some device
  severity := rule.severity
  triggeredAt := db.now
  resolvedAt := none

namespace Database

/-- The rules whose events a run inserts. -/
def firedRules (db : Database) (device : Uuid) : List Uuid :=
  ((db.checkAlerts device).alertEvents.drop db.alertEvents.length).map (·.ruleId)

/-- The same tables with one row of `alert_rules` alone. -/
def onlyRule (db : Database) (id : Uuid) (row : AlertRuleRow) : Database :=
  { db with alertRules := ⟨[(id, row)], List.nodup_singleton id⟩ }

end Database

/-- The run inserts one event for each rule that is to fire and changes nothing else, and a rule
fires as it would without the other rows. -/
structure EvaluatesRules (db : Database) (device : Uuid) : Prop where
  fires : ∃ inserted, db.checkAlerts device = { db with alertEvents := db.alertEvents ++ inserted } ∧
    (inserted.map (·.ruleId)).Nodup ∧
    (∀ id, id ∈ inserted.map (·.ruleId) ↔ RuleFires db device id) ∧
    ∀ event ∈ inserted, event.deviceId = some device ∧ event.resolvedAt = none
  independent : ∀ id row, db.alertRules.find? id = some row →
    (id ∈ db.firedRules device ↔ id ∈ (db.onlyRule id row).firedRules device)

/-! ## The run, turn by turn -/

theorem check_turn {start : Config AlertServer AlertTask} {s : AlertServer} {device : Uuid}
    {phase : CheckAlerts} (reached : Reach alertProgram Guard.any start ⟨s, [.check device phase]⟩)
    (s' : AlertServer) {new : List AlertTask}
    (moved : s.check device .proceeds phase = some (s', new)) :
    Reach alertProgram Guard.any start ⟨s', new⟩ := by
  have step := @Reach.run _ _ _ alertProgram Guard.any start s s' [] [] new (.check device phase)
    .proceeds reached trivial moved
  simpa using step

theorem checkRules_alone {start : Config AlertServer AlertTask} {device : Uuid}
    (rules : List AlertRule) (s : AlertServer)
    (reached : Reach alertProgram Guard.any start ⟨s, [.check device (.selectOpen rules)]⟩) :
    ∃ notified, Reach alertProgram Guard.any start
      ⟨{ s with db := rules.foldl (Database.checkRule device) s.db, notified }, []⟩ := by
  induction rules generalizing s with
  | nil => exact ⟨s.notified, check_turn reached s rfl⟩
  | cons rule rest ih =>
      simp only [List.foldl_cons]
      by_cases isOpen : s.db.hasOpenAlert rule.id device
      · have skipped := check_turn reached s
          (by simp only [AlertServer.check, isOpen, if_true]; rfl)
        simpa only [Database.checkRule, isOpen, if_true] using ih s skipped
      · have looked := check_turn reached s
          (by simp only [AlertServer.check, isOpen]; rfl)
        cases inserted : s.db.insertAlertEvent? rule device with
        | none =>
            have refused := check_turn looked s
              (by simp only [AlertServer.check, inserted]; rfl)
            simpa [Database.checkRule, isOpen, inserted] using ih s refused
        | some db =>
            have stored := check_turn looked { s with db }
              (by simp only [AlertServer.check, inserted]; rfl)
            have notified := check_turn stored _ rfl
            simpa [Database.checkRule, isOpen, inserted] using ih _ notified

theorem check_alone (s : AlertServer) (device : Uuid) :
    ∃ notified, Reach alertProgram Guard.any ⟨s, [.check device .selectRules]⟩
      ⟨{ s with db := s.db.checkAlerts device, notified }, []⟩ := by
  have first : Reach alertProgram Guard.any ⟨s, [.check device .selectRules]⟩
      ⟨s, [.check device .selectRules]⟩ := .start
  unfold Database.checkAlerts
  cases selected : s.db.selectAlertRules with
  | nil =>
      exact ⟨s.notified, check_turn first s
        (by simp only [AlertServer.check, selected])⟩
  | cons rule rules =>
      have second := check_turn first s
        (by simp only [AlertServer.check, selected]; rfl)
      cases latest : s.db.latestMetrics device with
      | none =>
          exact ⟨s.notified, check_turn second s
            (by simp only [AlertServer.check, latest])⟩
      | some m =>
          have third := check_turn second s
            (by simp only [AlertServer.check, latest]; rfl)
          exact checkRules_alone _ s third

/-! ## The rules of a batch -/

theorem mapM_none {α β : Type} {f : α → Option β} {rows : List α} {row : α} (member : row ∈ rows)
    (fails : f row = none) : rows.mapM f = none := by
  induction rows with
  | nil => cases member
  | cons first rest ih =>
      rw [List.mapM_cons]
      rcases List.mem_cons.mp member with rfl | later
      · rw [fails]
        rfl
      · cases f first with
        | none => rfl
        | some value =>
            rw [ih later]
            rfl

theorem mapM_some {α β : Type} (f : α → Option β) {rows : List α}
    (succeeds : ∀ row ∈ rows, (f row).isSome) : rows.mapM f = some (rows.filterMap f) := by
  induction rows with
  | nil => rfl
  | cons first rest ih =>
      obtain ⟨value, found⟩ := Option.isSome_iff_exists.mp (succeeds first List.mem_cons_self)
      rw [List.mapM_cons, found, ih fun row member => succeeds row (List.mem_cons_of_mem _ member),
        List.filterMap_cons_some found]
      rfl

theorem decode_isSome (id : Uuid) (row : AlertRuleRow) :
    (AlertRuleRow.decode id row).isSome = row.complete := by
  obtain ⟨name, metric, operator, threshold, severity, enabled⟩ := row
  cases metric <;> cases operator <;> cases threshold <;> cases severity <;> rfl

theorem decode_eq_some {id : Uuid} {row : AlertRuleRow} {rule : AlertRule} :
    AlertRuleRow.decode id row = some rule ↔ rule.id = id ∧ rule.name = row.name ∧
      row.metric = some rule.metric ∧ row.operator = some rule.operator ∧
      row.threshold = some rule.threshold ∧ row.severity = some rule.severity := by
  obtain ⟨name, metric, operator, threshold, severity, enabled⟩ := row
  obtain ⟨ruleId, ruleName, ruleMetric, ruleOperator, ruleThreshold, ruleSeverity⟩ := rule
  cases metric <;> cases operator <;> cases threshold <;> cases severity <;>
    simp [AlertRuleRow.decode, eq_comm]

/-- Every enabled row has the columns `check_alerts` needs. -/
def RowsComplete (db : Database) : Prop :=
  ∀ id row, db.alertRules.find? id = some row → row.enabled = true → row.complete = true

theorem selectAlertRules_incomplete {db : Database} (incomplete : ¬ RowsComplete db) :
    db.selectAlertRules = [] := by
  simp only [RowsComplete, not_forall] at incomplete
  obtain ⟨id, row, found, enabled, null⟩ := incomplete
  have member : (id, row) ∈ db.alertRules.rows.filter fun row => row.2.enabled :=
    List.mem_filter.mpr ⟨(db.alertRules.find?_eq_some id row).mp found, enabled⟩
  have fails : AlertRuleRow.decode id row = none := by
    rw [← Option.not_isSome_iff_eq_none, decode_isSome]
    exact null
  simp only [Database.selectAlertRules]
  rw [mapM_none member fails]
  rfl

theorem selectAlertRules_complete {db : Database} (complete : RowsComplete db) :
    db.selectAlertRules = (db.alertRules.rows.filter fun row => row.2.enabled).filterMap
      fun row => AlertRuleRow.decode row.1 row.2 := by
  simp only [Database.selectAlertRules]
  rw [mapM_some]
  · rfl
  · intro row member
    obtain ⟨stored, enabled⟩ := List.mem_filter.mp member
    rw [decode_isSome]
    exact complete row.1 row.2 ((db.alertRules.find?_eq_some _ _).mpr stored) enabled

theorem mem_selectAlertRules {db : Database} (complete : RowsComplete db) {rule : AlertRule} :
    rule ∈ db.selectAlertRules ↔ ∃ row, db.alertRules.find? rule.id = some row ∧
      row.enabled = true ∧ AlertRuleRow.decode rule.id row = some rule := by
  rw [selectAlertRules_complete complete, List.mem_filterMap]
  constructor
  · rintro ⟨⟨id, row⟩, member, decoded⟩
    obtain ⟨stored, enabled⟩ := List.mem_filter.mp member
    obtain ⟨own, _⟩ := decode_eq_some.mp decoded
    subst own
    exact ⟨row, (db.alertRules.find?_eq_some _ _).mpr stored, enabled, decoded⟩
  · rintro ⟨row, found, enabled, decoded⟩
    exact ⟨(rule.id, row),
      List.mem_filter.mpr ⟨(db.alertRules.find?_eq_some _ _).mp found, enabled⟩, decoded⟩

theorem selectAlertRules_distinct {db : Database} (complete : RowsComplete db) :
    (db.selectAlertRules.map (·.id)).Nodup := by
  rw [selectAlertRules_complete complete, List.map_filterMap]
  have keys : (db.alertRules.rows.filter fun row => row.2.enabled).filterMap
      (fun row => (AlertRuleRow.decode row.1 row.2).map (·.id)) =
        (db.alertRules.rows.filter fun row => row.2.enabled).map Prod.fst := by
    rw [← List.filterMap_eq_map]
    refine List.filterMap_congr fun row member => ?_
    obtain ⟨stored, enabled⟩ := List.mem_filter.mp member
    have present := complete row.1 row.2 ((db.alertRules.find?_eq_some _ _).mpr stored) enabled
    rw [← decode_isSome row.1] at present
    obtain ⟨rule, decoded⟩ := Option.isSome_iff_exists.mp present
    simp [decoded, (decode_eq_some.mp decoded).1]
  rw [keys]
  exact db.alertRules.unique.sublist (List.filter_sublist.map Prod.fst)

/-! ## The rules that trigger -/

theorem metricReads_iff {rule : AlertRule} {m : MetricsRow} {value : ℚ} :
    rule.metricValue m = some value ↔ MetricReads m rule.metric value := by
  constructor
  · intro read
    unfold AlertRule.metricValue at read
    split at read
    · rename_i metric
      rw [metric]
      exact .cpu read
    · rename_i metric
      rw [metric]
      split at read
      · rename_i used total usedPresent totalPresent
        split at read
        · rename_i positive
          cases read
          exact .ram usedPresent totalPresent positive
        · cases read
      · cases read
    · rename_i metric
      rw [metric]
      split at read
      · rename_i used total usedPresent totalPresent
        split at read
        · rename_i positive
          cases read
          exact .disk usedPresent totalPresent positive
        · cases read
      · cases read
    · cases read
  · intro reads
    unfold AlertRule.metricValue
    generalize rule.metric = metric at reads
    cases reads with
    | cpu present => exact present
    | ram usedPresent totalPresent positive => simp [usedPresent, totalPresent, positive]
    | disk usedPresent totalPresent positive => simp [usedPresent, totalPresent, positive]

theorem compares_iff {rule : AlertRule} {value : ℚ} :
    rule.triggered value = true ↔ Compares value rule.threshold rule.operator := by
  constructor
  · intro triggered
    unfold AlertRule.triggered at triggered
    split at triggered
    · rename_i operator
      exact .above (.inl operator) (by simpa using triggered)
    · rename_i operator
      exact .above (.inr operator) (by simpa using triggered)
    · rename_i operator
      exact .atLeast (.inl operator) (by simpa using triggered)
    · rename_i operator
      exact .atLeast (.inr operator) (by simpa using triggered)
    · rename_i operator
      exact .below (.inl operator) (by simpa using triggered)
    · rename_i operator
      exact .below (.inr operator) (by simpa using triggered)
    · rename_i operator
      exact .atMost (.inl operator) (by simpa using triggered)
    · rename_i operator
      exact .atMost (.inr operator) (by simpa using triggered)
    · rename_i operator
      exact .equal (.inl operator) (by simpa using triggered)
    · rename_i operator
      exact .equal (.inr operator) (by simpa using triggered)
    · cases triggered
  · intro compares
    unfold AlertRule.triggered
    cases compares with
    | above named holds | atLeast named holds | below named holds | atMost named holds
    | equal named holds => rcases named with operator | operator <;> simp [operator, holds]

theorem mem_triggeredRules {rules : List AlertRule} {m : MetricsRow} {rule : AlertRule} :
    rule ∈ triggeredRules rules m ↔ rule ∈ rules ∧
      ∃ value, MetricReads m rule.metric value ∧ Compares value rule.threshold rule.operator := by
  simp only [triggeredRules, List.mem_filter]
  refine and_congr_right fun _ => ?_
  constructor
  · intro triggers
    split at triggers
    · rename_i value read
      exact ⟨value, metricReads_iff.mp read, compares_iff.mp triggers⟩
    · cases triggers
  · rintro ⟨value, reads, compares⟩
    rw [metricReads_iff.mpr reads]
    exact compares_iff.mpr compares

/-! ## The events of a run -/

theorem hasOpenAlert_insert {db : Database} {rule : AlertRule} {device other : Uuid}
    (different : other ≠ rule.id) :
    (db.insertAlertEvent rule device).hasOpenAlert other device = db.hasOpenAlert other device := by
  simp [Database.hasOpenAlert, Database.insertAlertEvent, List.any_append, Ne.symm different]

/-- Rules of different ids do not see the events of each other. -/
theorem foldl_checkRule {device : Uuid} {rules : List AlertRule} {db : Database}
    (distinct : (rules.map (·.id)).Nodup)
    (stored : ∀ rule ∈ rules, db.alertRules.contains rule.id = true) :
    rules.foldl (Database.checkRule device) db =
      { db with alertEvents := db.alertEvents ++
          (rules.filter fun rule => !db.hasOpenAlert rule.id device).map (·.opens db device) } := by
  induction rules generalizing db with
  | nil => simp
  | cons rule rest ih =>
      simp only [List.map_cons, List.nodup_cons] at distinct
      simp only [List.foldl_cons]
      by_cases isOpen : db.hasOpenAlert rule.id device
      · have skipped : Database.checkRule device db rule = db := by
          simp [Database.checkRule, isOpen]
        rw [skipped, ih distinct.2 fun rule member => stored rule (List.mem_cons_of_mem _ member)]
        simp [isOpen]
      · have inserted : Database.checkRule device db rule = db.insertAlertEvent rule device := by
          simp [Database.checkRule, Database.insertAlertEvent?, isOpen,
            stored rule List.mem_cons_self]
        have unseen : (rest.filter fun rest =>
            !(db.insertAlertEvent rule device).hasOpenAlert rest.id device) =
              rest.filter fun rest => !db.hasOpenAlert rest.id device := by
          refine List.filter_congr fun other member => ?_
          have different : other.id ≠ rule.id := by
            intro same
            exact distinct.1 (List.mem_map.mpr ⟨other, member, same⟩)
          rw [hasOpenAlert_insert different]
        have kept : ∀ other ∈ rest,
            (db.insertAlertEvent rule device).alertRules.contains other.id = true :=
          fun other member => stored other (List.mem_cons_of_mem _ member)
        rw [inserted, ih distinct.2 kept, unseen]
        simp [isOpen, Database.insertAlertEvent, AlertRule.opens]

/-- The rules a run with complete rows inserts events for. -/
def Database.dueRules (db : Database) (device : Uuid) (m : MetricsRow) : List AlertRule :=
  (triggeredRules db.selectAlertRules m).filter fun rule => !db.hasOpenAlert rule.id device

variable {db : Database} {device : Uuid}

theorem mem_dueRules (complete : RowsComplete db) {m : MetricsRow}
    (latest : db.latestMetrics device = some m) (id : Uuid) :
    id ∈ (db.dueRules device m).map (·.id) ↔ RuleFires db device id := by
  simp only [Database.dueRules, List.mem_map, List.mem_filter, Bool.not_eq_true',
    mem_triggeredRules]
  constructor
  · rintro ⟨rule, ⟨⟨selected, value, reads, compares⟩, closed⟩, rfl⟩
    obtain ⟨row, found, enabled, decoded⟩ := (mem_selectAlertRules complete).mp selected
    obtain ⟨_, _, metric, operator, threshold, _⟩ := decode_eq_some.mp decoded
    exact ⟨row, found, enabled,
      ⟨rule.metric, rule.operator, rule.threshold, m, value, metric, operator, threshold, latest,
        reads, compares⟩, closed⟩
  · rintro ⟨row, found, enabled, ⟨metric, operator, threshold, last, value, hasMetric, hasOperator,
      hasThreshold, latest', reads, compares⟩, closed⟩
    rw [latest] at latest'
    cases latest'
    have present := complete id row found enabled
    rw [← decode_isSome id] at present
    obtain ⟨rule, decoded⟩ := Option.isSome_iff_exists.mp present
    obtain ⟨own, _, sameMetric, sameOperator, sameThreshold, _⟩ := decode_eq_some.mp decoded
    subst own
    rw [hasMetric, Option.some.injEq] at sameMetric
    rw [hasOperator, Option.some.injEq] at sameOperator
    rw [hasThreshold, Option.some.injEq] at sameThreshold
    subst sameMetric sameOperator sameThreshold
    exact ⟨rule, ⟨⟨(mem_selectAlertRules complete).mpr ⟨row, found, enabled, decoded⟩, value, reads,
      compares⟩, closed⟩, rfl⟩

theorem checkAlerts_complete (complete : RowsComplete db) {m : MetricsRow}
    (latest : db.latestMetrics device = some m) :
    db.checkAlerts device =
      { db with alertEvents := db.alertEvents ++ (db.dueRules device m).map (·.opens db device) } := by
  have folded : db.checkAlerts device =
      (triggeredRules db.selectAlertRules m).foldl (Database.checkRule device) db := by
    unfold Database.checkAlerts
    cases selected : db.selectAlertRules with
    | nil => rfl
    | cons rule rules => simp only [latest]
  rw [folded, foldl_checkRule]
  · rfl
  · exact (selectAlertRules_distinct complete).sublist (List.filter_sublist.map _)
  · intro rule member
    obtain ⟨row, found, _⟩ := (mem_selectAlertRules complete).mp (mem_triggeredRules.mp member).1
    simp [Table.contains, found]

theorem checkAlerts_silent (silent : db.selectAlertRules = [] ∨ db.latestMetrics device = none) :
    db.checkAlerts device = db := by
  unfold Database.checkAlerts
  rcases silent with selected | latest
  · rw [selected]
  · rw [latest]
    split <;> rfl

theorem fires_complete (complete : RowsComplete db) :
    ∃ inserted, db.checkAlerts device = { db with alertEvents := db.alertEvents ++ inserted } ∧
      (inserted.map (·.ruleId)).Nodup ∧
      (∀ id, id ∈ inserted.map (·.ruleId) ↔ RuleFires db device id) ∧
      ∀ event ∈ inserted, event.deviceId = some device ∧ event.resolvedAt = none := by
  cases latest : db.latestMetrics device with
  | none =>
      refine ⟨[], ?_, List.nodup_nil, ?_, fun event member => by cases member⟩
      · rw [checkAlerts_silent (.inr latest), List.append_nil]
      · rintro id
        refine ⟨fun member => (by cases member), ?_⟩
        rintro ⟨row, _, _, ⟨_, _, _, m, _, _, _, _, present, _⟩, _⟩
        rw [latest] at present
        cases present
  | some m =>
      have ids : ((db.dueRules device m).map (·.opens db device)).map (·.ruleId) =
          (db.dueRules device m).map (·.id) := by
        rw [List.map_map]
        rfl
      refine ⟨_, checkAlerts_complete complete latest, ?_, ?_, ?_⟩
      · rw [ids]
        exact (selectAlertRules_distinct complete).sublist
          ((List.filter_sublist.trans List.filter_sublist).map _)
      · intro id
        rw [ids]
        exact mem_dueRules complete latest id
      · intro event member
        obtain ⟨rule, _, rfl⟩ := List.mem_map.mp member
        exact ⟨rfl, rfl⟩

theorem firedRules_complete (complete : RowsComplete db) (id : Uuid) :
    id ∈ db.firedRules device ↔ RuleFires db device id := by
  obtain ⟨inserted, same, _, fires, _⟩ : ∃ inserted, db.checkAlerts device = _ ∧ _ :=
    fires_complete complete
  rw [← fires id]
  simp [Database.firedRules, same]

theorem firedRules_silent (silent : db.selectAlertRules = []) : db.firedRules device = [] := by
  simp [Database.firedRules, checkAlerts_silent (.inl silent)]

/-! ## Rules beside other rows -/

theorem onlyRule_find {id : Uuid} (row : AlertRuleRow) :
    (db.onlyRule id row).alertRules.find? id = some row := by
  simp [Database.onlyRule, Table.find?]

/-- Whether a row is to fire does not depend on the others. -/
theorem onlyRule_fires {id : Uuid} {row : AlertRuleRow}
    (found : db.alertRules.find? id = some row) :
    RuleFires (db.onlyRule id row) device id ↔ RuleFires db device id := by
  constructor
  · rintro ⟨other, own, fires⟩
    rw [onlyRule_find, Option.some.injEq] at own
    subst own
    exact ⟨row, found, fires.enabled, fires.fires, fires.closed⟩
  · rintro ⟨other, own, fires⟩
    rw [found, Option.some.injEq] at own
    subst own
    exact ⟨row, onlyRule_find row, fires.enabled, fires.fires, fires.closed⟩

theorem onlyRule_complete {id : Uuid} {row : AlertRuleRow} :
    RowsComplete (db.onlyRule id row) ↔ (row.enabled = true → row.complete = true) := by
  constructor
  · exact fun complete => complete id row (onlyRule_find row)
  · intro complete other otherRow found
    have member := ((db.onlyRule id row).alertRules.find?_eq_some other otherRow).mp found
    cases List.mem_singleton.mp member
    exact complete

theorem independent_complete (complete : RowsComplete db) {id : Uuid} {row : AlertRuleRow}
    (found : db.alertRules.find? id = some row) :
    id ∈ db.firedRules device ↔ id ∈ (db.onlyRule id row).firedRules device := by
  rw [firedRules_complete complete,
    firedRules_complete (onlyRule_complete.mpr (complete id row found)), onlyRule_fires found]

theorem independent_quiet (incomplete : ¬ RowsComplete db) (quiet : ∀ id, ¬ RuleFires db device id)
    {id : Uuid} {row : AlertRuleRow} (found : db.alertRules.find? id = some row) :
    id ∈ db.firedRules device ↔ id ∈ (db.onlyRule id row).firedRules device := by
  rw [firedRules_silent (selectAlertRules_incomplete incomplete)]
  by_cases complete : RowsComplete (db.onlyRule id row)
  · rw [firedRules_complete complete, onlyRule_fires found]
    simp [quiet id]
  · rw [firedRules_silent (selectAlertRules_incomplete complete)]

theorem quiet_of_evaluates (incomplete : ¬ RowsComplete db) (evaluates : EvaluatesRules db device)
    (id : Uuid) : ¬ RuleFires db device id := by
  intro fires
  obtain ⟨inserted, same, _, rules, _⟩ := evaluates.fires
  rw [checkAlerts_silent (.inl (selectAlertRules_incomplete incomplete))] at same
  have events := congrArg Database.alertEvents same
  have nothing : inserted = [] := by simpa using events
  rw [nothing] at rules
  cases (rules id).mpr fires

theorem rules_evaluated_iff (db : Database) (device : Uuid) :
    EvaluatesRules db device ↔ RowsComplete db ∨ ∀ id, ¬ RuleFires db device id := by
  constructor
  · intro evaluates
    exact Classical.or_iff_not_imp_left.mpr fun incomplete => quiet_of_evaluates incomplete evaluates
  · intro condition
    by_cases complete : RowsComplete db
    · exact ⟨fires_complete complete, fun id row found => independent_complete complete found⟩
    · have quiet := condition.resolve_left complete
      refine ⟨⟨[], ?_, List.nodup_nil, ?_, fun event member => by cases member⟩,
        fun id row found => independent_quiet complete quiet found⟩
      · rw [checkAlerts_silent (.inl (selectAlertRules_incomplete complete)), List.append_nil]
      · intro id
        simp [quiet id]

/-! ## A rule of the old schema -/

/-- Rule 5 is broken by the telemetry of device 1; rule 6 was there before its columns were. -/
def besideOldRule : Database :=
  { Database.ofDevices
      ⟨[(Uuid.small 1,
        { status := .online, lastSeen := some 0, agentVersion := none, authTokenHash := none })],
        by simp⟩ with
    alertRules :=
      ⟨[(Uuid.small 5,
          { name := "cpu", metric := some "cpu_pct", operator := some ">", threshold := some 80,
            severity := some "critical", enabled := true }),
        (Uuid.small 6,
          { name := "old", metric := none, operator := none, threshold := none,
            severity := some "warning", enabled := true })], by decide +kernel⟩
    deviceMetrics :=
      [{ deviceId := Uuid.small 1, time := 0, cpuPct := some 95, ramUsedMb := some 1,
         ramTotalMb := some 2, diskUsedGb := some 1, diskTotalGb := some 2, uptimeSecs := some 60 }] }

theorem old_rule_silences : ¬ ∀ db device, EvaluatesRules db device := by
  intro evaluates
  have fires : RuleFires besideOldRule (Uuid.small 1) (Uuid.small 5) := by
    refine ⟨_, rfl, rfl, ⟨"cpu_pct", ">", 80, _, 95, rfl, rfl, rfl, rfl, .cpu rfl,
      .above (.inl rfl) ?_⟩, rfl⟩
    norm_num
  have null : ¬ RowsComplete besideOldRule := by
    intro complete
    have present := complete (Uuid.small 6) _ rfl rfl
    cases present
  exact quiet_of_evaluates null (evaluates besideOldRule (Uuid.small 1)) _ fires

end OsfmEdm
