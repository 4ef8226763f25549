import OsfmEdm.Alerts.Step

/-!
A rule has at most one open event on a device as long as its look for an open event succeeds
and nobody else stands between such a look and the insert.
-/

namespace OsfmEdm

open Interleaving

/-- The open events of a rule on a device. -/
def Database.openEvents (db : Database) (rule device : Uuid) : Nat :=
  db.alertEvents.countP (Database.isOpenFor rule device)

/-- One for a check that has found no open event and inserts one next. -/
def AlertTask.inserting (rule device : Uuid) : AlertTask → Nat
  | .check own (.insertEvent looked _) => if looked.id = rule ∧ own = device then 1 else 0
  | _ => 0

/-- One for a check that notifies next. -/
def AlertTask.notifying (rule device : Uuid) : AlertTask → Nat
  | .check own (.notify looked _) => if looked.id = rule ∧ own = device then 1 else 0
  | _ => 0

/-- The look for an open event fails only where there is none, and no other check of the rule and
the device has looked and not yet inserted. -/
def looksAlone : Guard AlertServer AlertTask AlertChoice := fun s others task choice =>
  match task with
  | .check device (.selectOpen (rule :: _)) =>
      (choice = .fails → s.db.hasOpenAlert rule.id device = false) ∧
        ∀ other ∈ others, other.inserting rule.id device = 0
  | _ => True

instance : ∀ s others task choice, Decidable (looksAlone s others task choice) := by
  intro s others task choice
  unfold looksAlone
  split <;> infer_instance

theorem hasOpenAlert_eq_false {db : Database} {rule device : Uuid} :
    db.hasOpenAlert rule device = false ↔ db.openEvents rule device = 0 := by
  rw [Database.openEvents, List.countP_eq_zero]
  simp [Database.hasOpenAlert, Database.isOpenFor]

theorem openEvents_insert (db : Database) (looked : AlertRule) (own rule device : Uuid) :
    (db.insertAlertEvent looked own).openEvents rule device =
      db.openEvents rule device + if looked.id = rule ∧ own = device then 1 else 0 := by
  simp [Database.openEvents, Database.insertAlertEvent, Database.isOpenFor, List.countP_append,
    List.countP_singleton]

theorem openEvents_eq_count (events : List AlertEventRow) (rule device : Uuid) :
    events.countP (Database.isOpenFor rule device) =
      (events.filterMap (·.open?)).count (rule, device) := by
  induction events with
  | nil => rfl
  | cons row rows ih =>
      cases resolved : row.resolvedAt with
      | some time => simp [Database.isOpenFor, AlertEventRow.open?, resolved, ih]
      | none =>
          cases owner : row.deviceId with
          | none => simp [Database.isOpenFor, AlertEventRow.open?, resolved, owner, ih]
          | some own =>
              simp only [Database.isOpenFor, AlertEventRow.open?, resolved, owner,
                List.countP_cons, List.filterMap_cons, Option.map_some, if_true, List.count_cons,
                ih, decide_eq_true_eq, Option.some.injEq, and_true, beq_iff_eq, Prod.mk.injEq]

/-! ## Steps -/

/-- What one step can do. -/
inductive AlertTurn (s : AlertServer) (choice : AlertChoice) :
    AlertTask → AlertServer → List AlertTask → Prop where
  | looked {device rule rest}
      (none : s.db.hasOpenAlert rule.id device = false ∨ choice = .fails) :
      AlertTurn s choice (.check device (.selectOpen (rule :: rest))) s
        [.check device (.insertEvent rule rest)]
  | inserted {device rule rest} :
      AlertTurn s choice (.check device (.insertEvent rule rest))
        { s with db := s.db.insertAlertEvent rule device } [.check device (.notify rule rest)]
  | notified {device rule rest} :
      AlertTurn s choice (.check device (.notify rule rest))
        { s with notified := (rule.id, device) :: s.notified } [.check device (.selectOpen rest)]
  | deleted {auth rule} :
      AlertTurn s choice (.edit auth (.delete rule))
        { s with
          db := s.db.deleteRule rule
          released := ((s.db.alertEvents.filter fun row => row.ruleId = rule).filterMap
            (·.open?)) ++ s.released }
        [.answered (.ok ())]
  | resolved {auth event place row} (found : s.db.alertEvents[place]? = some row)
      (unresolved : row.resolvedAt = none) :
      AlertTurn s choice (.resolveEvent auth event)
        { s with db := s.db.resolveEvent place, released := row.open?.toList ++ s.released }
        [.answered (.ok ())]
  | quiet {task s' new} (events : s'.db.alertEvents = s.db.alertEvents)
      (notified : s'.notified = s.notified) (released : s'.released = s.released)
      (inserting : ∀ rule device, total (AlertTask.inserting rule device) new = 0)
      (notifying : ∀ rule device, total (AlertTask.notifying rule device) new = 0) :
      AlertTurn s choice task s' new

theorem AlertServer.turn_cases {s s' : AlertServer} {choice : AlertChoice} {task : AlertTask}
    {new : List AlertTask} (moved : s.turn choice task = some (s', new)) :
    AlertTurn s choice task s' new := by
  cases task with
  | check device phase =>
      cases phase with
      | insertMetrics snapshot =>
          simp only [turn, check] at moved
          split at moved <;> cases moved <;> exact .quiet rfl rfl rfl (fun _ _ => rfl) fun _ _ => rfl
      | selectRules =>
          simp only [turn, check] at moved
          repeat' split at moved
          all_goals
            cases moved
            try exact .quiet rfl rfl rfl (fun _ _ => rfl) fun _ _ => rfl
      | selectMetrics rules =>
          simp only [turn, check] at moved
          repeat' split at moved
          all_goals
            cases moved
            try exact .quiet rfl rfl rfl (fun _ _ => rfl) fun _ _ => rfl
      | selectOpen rules =>
          cases rules with
          | nil =>
              cases moved
              exact .quiet rfl rfl rfl (fun _ _ => rfl) fun _ _ => rfl
          | cons rule rest =>
              simp only [turn, check] at moved
              split at moved
              · split at moved
                · cases moved
                  exact .quiet rfl rfl rfl (fun _ _ => rfl) fun _ _ => rfl
                · rename_i absent
                  cases moved
                  exact .looked (.inl (by simpa using absent))
              · cases moved
                exact .looked (.inr rfl)
              · cases moved
      | insertEvent rule rest =>
          simp only [turn, check] at moved
          split at moved
          · split at moved
            · rename_i db stored
              simp only [Database.insertAlertEvent?] at stored
              split at stored <;> cases stored
              cases moved
              exact .inserted
            · cases moved
              exact .quiet rfl rfl rfl (fun _ _ => rfl) fun _ _ => rfl
          · cases moved
            exact .quiet rfl rfl rfl (fun _ _ => rfl) fun _ _ => rfl
          · cases moved
      | notify rule rest =>
          cases moved
          exact .notified
  | edit auth phase =>
      cases phase with
      | create body =>
          simp only [turn, edit] at moved
          split at moved
          · cases moved
            exact .quiet rfl rfl rfl (fun _ _ => rfl) fun _ _ => rfl
          · obtain ⟨alertRules, _, same⟩ := Option.map_eq_some_iff.mp moved
            cases same
            exact .quiet rfl rfl rfl (fun _ _ => rfl) fun _ _ => rfl
          · cases moved
            exact .quiet rfl rfl rfl (fun _ _ => rfl) fun _ _ => rfl
          · cases moved
      | delete rule =>
          simp only [turn, edit] at moved
          split at moved
          · cases moved
            exact .quiet rfl rfl rfl (fun _ _ => rfl) fun _ _ => rfl
          · split at moved <;> cases moved
            · exact .deleted
            · exact .quiet rfl rfl rfl (fun _ _ => rfl) fun _ _ => rfl
          · cases moved
            exact .quiet rfl rfl rfl (fun _ _ => rfl) fun _ _ => rfl
          · cases moved
      | setColumns rule changes =>
          cases changes with
          | nil =>
              cases moved
              exact .quiet rfl rfl rfl (fun _ _ => rfl) fun _ _ => rfl
          | cons change rest =>
              simp only [turn, edit] at moved
              split at moved <;> cases moved <;>
                exact .quiet rfl rfl rfl (fun _ _ => rfl) fun _ _ => rfl
      | update | selectRule | syncCondition =>
          simp only [turn, edit] at moved
          repeat' split at moved
          all_goals
            cases moved
            try exact .quiet rfl rfl rfl (fun _ _ => rfl) fun _ _ => rfl
  | resolveEvent auth event =>
      simp only [turn, resolveEvent] at moved
      split at moved
      · cases moved
        exact .quiet rfl rfl rfl (fun _ _ => rfl) fun _ _ => rfl
      · split at moved
        · rename_i row found
          split at moved <;> cases moved
          · rename_i unresolved
            exact .resolved found unresolved
          · exact .quiet rfl rfl rfl (fun _ _ => rfl) fun _ _ => rfl
        · cases moved
      · cases moved
        exact .quiet rfl rfl rfl (fun _ _ => rfl) fun _ _ => rfl
      · cases moved
        exact .quiet rfl rfl rfl (fun _ _ => rfl) fun _ _ => rfl
      · cases moved
  | answered answer => cases moved
  | clock =>
      cases moved
      exact .quiet rfl rfl rfl (fun _ _ => rfl) fun _ _ => rfl

theorem openEvents_resolve {db : Database} {place : Nat} {row : AlertEventRow}
    (found : db.alertEvents[place]? = some row) (unresolved : row.resolvedAt = none)
    (rule device : Uuid) :
    (db.resolveEvent place).openEvents rule device + row.open?.toList.count (rule, device) =
      db.openEvents rule device := by
  have moved := total_modify (fun row => if Database.isOpenFor rule device row then 1 else 0)
    (fun row => if row.resolvedAt = none then { row with resolvedAt := some db.now } else row) found
  have shut : Database.isOpenFor rule device
      (if row.resolvedAt = none then { row with resolvedAt := some db.now } else row) = false := by
    simp [Database.isOpenFor, unresolved]
  have own : row.open?.toList.count (rule, device) =
      if Database.isOpenFor rule device row then 1 else 0 := by
    have counted := openEvents_eq_count [row] rule device
    cases opened : row.open? <;> simpa [opened, List.countP_singleton] using counted.symm
  simp only [Database.openEvents, Database.resolveEvent, countP_eq_total, own, shut] at moved ⊢
  simpa using moved

theorem openEvents_delete (db : Database) (deleted rule device : Uuid) :
    (db.deleteRule deleted).openEvents rule device +
        ((db.alertEvents.filter fun row => row.ruleId = deleted).filterMap (·.open?)).count
          (rule, device) =
      db.openEvents rule device := by
  rw [← openEvents_eq_count]
  have parts := List.countP_eq_countP_filter_add db.alertEvents (Database.isOpenFor rule device)
    (fun row => row.ruleId ≠ deleted)
  simp only [Database.openEvents, Database.deleteRule, decide_not, Bool.not_not] at parts ⊢
  exact parts.symm

variable {s s' : AlertServer} {choice : AlertChoice} {task : AlertTask} {new others : List AlertTask}

/-- A check enters the section before its insert only while nothing is open and nobody else is in
it. -/
theorem AlertTurn.opens (turn : AlertTurn s choice task s' new) (rule device : Uuid)
    (alone : looksAlone s others task choice) :
    s'.db.openEvents rule device + total (AlertTask.inserting rule device) new ≤
        s.db.openEvents rule device + task.inserting rule device ∨
      s'.db.openEvents rule device + total (AlertTask.inserting rule device) new ≤ 1 ∧
        total (AlertTask.inserting rule device) others = 0 := by
  cases turn with
  | looked none =>
      rename_i own looked rest
      by_cases same : looked.id = rule ∧ own = device
      · right
        obtain ⟨rfl, rfl⟩ := same
        have closed := hasOpenAlert_eq_false.mp (none.elim id alone.1)
        refine ⟨?_, total_eq_zero alone.2⟩
        simp [closed, AlertTask.inserting]
      · left
        simp [AlertTask.inserting, same]
  | inserted =>
      left
      simp [openEvents_insert, AlertTask.inserting]
  | notified =>
      left
      simp [AlertTask.inserting]
  | deleted =>
      left
      rename_i auth deleted
      have fewer := openEvents_delete s.db deleted rule device
      simp only [total_cons, total_nil, AlertTask.inserting]
      omega
  | resolved found unresolved =>
      left
      have fewer := openEvents_resolve found unresolved rule device
      simp only [total_cons, total_nil, AlertTask.inserting]
      omega
  | quiet events _ _ inserting _ =>
      left
      simp only [Database.openEvents, events, inserting]
      omega

/-- A notification is owed only for an event that was opened. -/
theorem AlertTurn.notifies (turn : AlertTurn s choice task s' new) (rule device : Uuid) :
    s'.notified.count (rule, device) + total (AlertTask.notifying rule device) new +
        (s.released.count (rule, device) + s.db.openEvents rule device) ≤
      s.notified.count (rule, device) + task.notifying rule device +
        (s'.released.count (rule, device) + s'.db.openEvents rule device) := by
  cases turn with
  | looked none => simp [AlertTask.notifying]
  | inserted =>
      simp only [openEvents_insert, AlertTask.notifying, total_cons, total_nil]
      omega
  | notified =>
      simp only [AlertTask.notifying, total_cons, total_nil, List.count_cons, beq_iff_eq,
        Prod.mk.injEq]
      omega
  | deleted =>
      rename_i auth deleted
      have fewer := openEvents_delete s.db deleted rule device
      simp only [AlertTask.notifying, total_cons, total_nil, List.count_append]
      omega
  | resolved found unresolved =>
      have fewer := openEvents_resolve found unresolved rule device
      simp only [AlertTask.notifying, total_cons, total_nil, List.count_append]
      omega
  | quiet events notified released _ notifying =>
      simp only [Database.openEvents, events, notified, released, notifying]
      omega

/-! ## Open events -/

/-- A server that starts on its database, with at most one open event of a rule on a device. -/
structure AlertStart (config : Config AlertServer AlertTask) : Prop where
  tasks : config.tasks = []
  opened : ∀ rule device, config.shared.db.openEvents rule device ≤ 1
  notified : config.shared.notified = []

/-- At most one open event, and so one notification until that event is resolved. -/
structure AlertsOnce (config : Config AlertServer AlertTask) : Prop where
  opened : ∀ rule device, config.shared.db.openEvents rule device ≤ 1
  notified : ∀ rule device, config.shared.notified.count (rule, device) ≤
    config.shared.released.count (rule, device) + 1

theorem alerts_once {start config : Config AlertServer AlertTask} (started : AlertStart start)
    (reached : Reach alertProgram looksAlone start config) : AlertsOnce config := by
  have opened (rule device : Uuid) : config.shared.db.openEvents rule device ≤ 1 := by
    have counted := reached.at_most_one (fun s => s.db.openEvents rule device)
      (AlertTask.inserting rule device) (by simpa [started.tasks] using started.opened rule device)
      (by
        intro task request
        cases task with
        | check own phase => cases phase <;> first | rfl | cases request
        | _ => rfl)
      fun shared others task choice shared' new alone moved =>
        (AlertServer.turn_cases moved).opens rule device alone
    omega
  refine ⟨opened, ?_⟩
  intro rule device
  have owed := reached.at_most (fun s => s.notified.count (rule, device))
    (fun s => s.released.count (rule, device) + s.db.openEvents rule device)
    (AlertTask.notifying rule device) (by simp [started.tasks, started.notified])
    (by
      intro task request
      cases task with
      | check own phase => cases phase <;> first | rfl | cases request
      | _ => rfl)
    fun shared others task choice shared' new _ moved =>
      (AlertServer.turn_cases moved).notifies rule device
  have one := opened rule device
  omega

/-! ## A busy device -/

/-- A rule for a processor load over eighty per cent. -/
def sampleAlerts : Config AlertServer AlertTask where
  shared :=
    { db :=
        { Database.ofDevices .empty with
          alertRules := ⟨[(Uuid.small 5,
            { name := "load"
              metric := some "cpu_pct"
              operator := some ">"
              threshold := some 80
              severity := some "warning"
              enabled := true })], by simp⟩ }
      notified := []
      released := [] }
  tasks := []

theorem sampleAlerts_start : AlertStart sampleAlerts where
  tasks := rfl
  opened _ _ := Nat.zero_le _
  notified := rfl

def busy : TelemetrySnapshot where
  cpuPct := 95
  ramUsedMb := 1
  ramTotalMb := 2
  diskUsedGb := 1
  diskTotalGb := 2
  uptimeSecs := 60
  timestamp := 0

/-- A report of the device up to its look for an open event. -/
def reported (index : Nat) : List (Label AlertTask AlertChoice) :=
  [.arrive (.check (Uuid.small 1) (.insertMetrics busy)), .run index .proceeds,
    .run index .proceeds, .run index .proceeds]

/-- A report opens an event; a second one finds it. -/
def reportedTwice : List (Label AlertTask AlertChoice) :=
  reported 0 ++ [.run 0 .proceeds, .run 0 .proceeds, .run 0 .proceeds, .run 0 .proceeds] ++
    reported 0 ++ [.run 0 .proceeds]

/-- Both look before either inserts. -/
def reportedAtOnce : List (Label AlertTask AlertChoice) :=
  reported 0 ++ reported 1 ++
    [.run 0 .proceeds, .run 1 .proceeds, .run 0 .proceeds, .run 1 .proceeds]

theorem alerts_once_reported : ∃ config, Reach alertProgram looksAlone sampleAlerts config ∧
    config.shared.notified = [(Uuid.small 5, Uuid.small 1)] ∧ AlertsOnce config := by
  obtain ⟨config, reached, seen⟩ := Reach.of_observed alertProgram looksAlone sampleAlerts
    reportedTwice (fun config => config.shared.notified) [(Uuid.small 5, Uuid.small 1)]
    (by decide +kernel)
  exact ⟨config, reached, seen, alerts_once sampleAlerts_start reached⟩

theorem alerts_opened_twice : ¬ ∀ (start config : Config AlertServer AlertTask), AlertStart start →
    Reach alertProgram Guard.any start config →
      ∀ rule device, config.shared.db.openEvents rule device ≤ 1 := by
  intro once
  obtain ⟨config, reached, seen⟩ := Reach.of_observed alertProgram Guard.any sampleAlerts
    reportedAtOnce (fun config => config.shared.db.openEvents (Uuid.small 5) (Uuid.small 1)) 2
    (by decide +kernel)
  have one := once _ _ sampleAlerts_start reached (Uuid.small 5) (Uuid.small 1)
  omega

end OsfmEdm
