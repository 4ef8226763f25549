import OsfmEdm.Api.Patches

/-!
The column `condition` of alert rules beside their columns `metric`, `operator` and `threshold`: rules
are created, and `PATCH` requests overlap statement by statement.
-/

namespace OsfmEdm

open Interleaving
open JsonText

/-! ## Requests -/

structure PostRuleRequest extends CreateRuleRequest where
  channels : Option Json

def PostRuleRequest.record (body : PostRuleRequest) : AlertRuleRecord where
  toAlertRuleRow := body.row
  condition := .columns (some body.metric) (some body.operator) (some body.threshold)
  channels := body.channels.getD (.object [])

/-- `created` has the rules that came through the API; no step reads it. -/
structure RuleServer where
  rules : Table Uuid AlertRuleRecord
  created : List Uuid

inductive RuleTask where
  | create (body : PostRuleRequest)
  | patch (rule : Uuid) (phase : PatchPhase AlertRuleColumn AlertRuleRecord)

inductive RuleChoice where
  | generates (id : Uuid)
  | statement (choice : PatchChoice)
deriving DecidableEq

namespace RuleServer

def turn (s : RuleServer) : RuleTask → RuleChoice → Option (RuleServer × List RuleTask)
  | .create body, .generates rule =>
      (s.rules.insert rule body.record).map fun rules =>
        ({ rules, created := rule :: s.created }, [.patch rule (.answered (.ok body.record))])
  | .patch rule phase, .statement choice =>
      (updateRuleRoute.step rule s.rules phase choice).map fun after =>
        ({ s with rules := after.1 }, [.patch rule after.2])
  | _, _ => none

end RuleServer

namespace RuleTask

/-- The body of a `PATCH` may have any of the fields. -/
def request : RuleTask → Bool
  | .create _ | .patch _ (.verify _) => true
  | _ => false

def finished : RuleTask → Bool
  | .patch _ (.answered _) => true
  | _ => false

/-- The task is still to write the condition, and what it writes will be that of the row's columns as
they are. -/
def restores (rule : Uuid) (row : AlertRuleRecord) : RuleTask → Bool
  | .patch other (.verify _) | .patch other (.setColumn _ _) | .patch other .selectRow => other = rule
  | .patch other (.sync selected) =>
      other = rule && selected.metric = row.metric && selected.operator = row.operator &&
        selected.threshold = row.threshold
  | _ => false

end RuleTask

def ruleProgram : Program RuleServer RuleTask RuleChoice where
  request := RuleTask.request
  step s task choice := s.turn task choice

def completes : Guard RuleServer RuleTask RuleChoice := fun _ _ _ choice =>
  choice ≠ .statement .fails

/-- Whether a request that has selected a row writes the condition of the columns as they are, or
another will do so. -/
def RuleServer.restored (s : RuleServer) (others : List RuleTask) (rule : Uuid)
    (selected : AlertRuleRecord) : Bool :=
  s.created.all (· ≠ rule) || (s.rules.find? rule).all fun row =>
    (RuleTask.patch rule (.sync selected)).restores rule row ||
      others.any fun task => task.restores rule row

/-- Whoever writes a condition has read the columns as they still are, or another request will write
it again. -/
def syncsInTime : Guard RuleServer RuleTask RuleChoice
  | s, others, .patch rule (.sync selected), choice =>
      choice ≠ .statement .fails ∧ s.restored others rule selected = true
  | _, _, _, choice => choice ≠ .statement .fails

instance : ∀ s others task choice, Decidable (completes s others task choice) :=
  fun _ _ _ _ => inferInstanceAs (Decidable (_ ≠ _))

instance : ∀ s others task choice, Decidable (syncsInTime s others task choice)
  | _, _, .patch _ (.sync _), _ => inferInstanceAs (Decidable (_ ≠ _ ∧ _ = true))
  | _, _, .create _, _ => inferInstanceAs (Decidable (_ ≠ _))
  | _, _, .patch _ (.verify _), _ => inferInstanceAs (Decidable (_ ≠ _))
  | _, _, .patch _ (.setColumn _ _), _ => inferInstanceAs (Decidable (_ ≠ _))
  | _, _, .patch _ .selectRow, _ => inferInstanceAs (Decidable (_ ≠ _))
  | _, _, .patch _ (.answered _), _ => inferInstanceAs (Decidable (_ ≠ _))

theorem syncsInTime.completes {s : RuleServer} {others : List RuleTask} {task : RuleTask}
    {choice : RuleChoice} (meets : syncsInTime s others task choice) :
    choice ≠ .statement .fails := by
  unfold syncsInTime at meets
  split at meets
  · exact meets.1
  · exact meets

/-! ## One step -/

/-- The condition of a rule is that of its columns, or a task will see to it. -/
structure Restored (tasks : List RuleTask) (rule : Uuid) (row : AlertRuleRecord) : Prop where
  metric : row.metric.isSome = true
  condition : row.condition = row.ownCondition ∨ ∃ task ∈ tasks, task.restores rule row = true

def RulesRestored (config : Config RuleServer RuleTask) : Prop :=
  ∀ rule ∈ config.shared.created, ∃ row, config.shared.rules.find? rule = some row ∧
    Restored config.tasks rule row

section

variable {rule : Uuid} {row selected : AlertRuleRecord}

theorem restores_next (columns : List AlertRuleColumn) :
    (RuleTask.patch rule (.next columns)).restores rule row = true := by
  cases columns <;> simp [PatchPhase.next, RuleTask.restores]

theorem restores_sync : (RuleTask.patch rule (.sync selected)).restores rule row = true ↔
    selected.ownCondition = row.ownCondition := by
  simp [RuleTask.restores, AlertRuleRecord.ownCondition, and_assoc]

/-- What a task will write depends on three columns. -/
theorem restores_congr {row' : AlertRuleRecord} (same : row.ownCondition = row'.ownCondition)
    (task : RuleTask) : task.restores rule row = task.restores rule row' := by
  obtain ⟨metric, operator, threshold⟩ := AlertCondition.columns.inj same
  unfold RuleTask.restores
  split
  · rfl
  · rfl
  · rfl
  · rw [metric, operator, threshold]
  · rfl

theorem metric_set {column : AlertRuleColumn} (metric : row.metric.isSome = true) :
    (column.set row).metric.isSome = true := by
  cases column with
  | metric value => rfl
  | name | operator | threshold | severity | channels | enabled => exact metric

theorem metric_setAll (writes : List (Nat × AlertRuleColumn)) (metric : row.metric.isSome = true) :
    (alertRuleColumns.setAll writes row).metric.isSome = true := by
  induction writes generalizing row with
  | nil => exact metric
  | cons write writes ih => exact ih (metric_set metric)

theorem Restored.own {s : RuleServer} {before after : List RuleTask} {now : Nat}
    {phase phase' : PatchPhase AlertRuleColumn AlertRuleRecord}
    {rules : Table Uuid AlertRuleRecord} (created : rule ∈ s.created)
    (found : s.rules.find? rule = some row)
    (held : Restored (before ++ .patch rule phase :: after) rule row)
    (meets : syncsInTime s (before ++ after) (.patch rule phase) (.statement (.proceeds now)))
    (moved : updateRuleRoute.step rule s.rules phase (.proceeds now) = some (rules, phase')) :
    ∃ row, rules.find? rule = some row ∧
      Restored (before ++ [.patch rule phase'] ++ after) rule row := by
  have here (task : RuleTask) : task ∈ before ++ [task] ++ after := by simp
  have updated (change : AlertRuleRecord → AlertRuleRecord) :
      (s.rules.update rule change).find? rule = some (change row) := by
    rw [Table.find?_update, if_pos rfl, found]
    rfl
  cases phase with
  | answered answer => cases moved
  | verify columns =>
      simp only [PatchRoute.step] at moved
      rw [if_pos (by simp [Table.contains, found])] at moved
      cases moved
      exact ⟨row, found, held.metric, .inr ⟨_, here _, restores_next columns⟩⟩
  | setColumn column rest =>
      cases moved
      exact ⟨_, updated _, metric_set held.metric, .inr ⟨_, here _, restores_next rest⟩⟩
  | selectRow =>
      have syncs : updateRuleRoute.syncs row = true := by simp [updateRuleRoute, held.metric]
      simp only [PatchRoute.step, found, if_pos syncs] at moved
      cases moved
      exact ⟨row, found, held.metric, .inr ⟨_, here _, restores_sync.mpr rfl⟩⟩
  | sync selected =>
      cases moved
      refine ⟨_, updated _, held.metric, ?_⟩
      have restored := meets.2
      have known : s.created.all (· ≠ rule) = false := by
        simpa using created
      rw [RuleServer.restored, known, found, Bool.false_or, Option.all_some, Bool.or_eq_true,
        List.any_eq_true] at restored
      rcases restored with own | ⟨task, other, restores⟩
      · exact .inl (restores_sync.mp own)
      · refine .inr ⟨task, mem_beside _ other, ?_⟩
        rw [← restores]
        exact restores_congr rfl task

end

theorem rulesRestored_step {s s' : RuleServer} {before after new : List RuleTask} {task : RuleTask}
    {choice : RuleChoice} (held : RulesRestored ⟨s, before ++ task :: after⟩)
    (meets : syncsInTime s (before ++ after) task choice)
    (moved : ruleProgram.step s task choice = some (s', new)) :
    RulesRestored ⟨s', before ++ new ++ after⟩ := by
  have moved : s.turn task choice = some (s', new) := moved
  -- A rule keeps its row and a task that was there for it.
  have beside {rule : Uuid} (created : rule ∈ s.created) (rules : Table Uuid AlertRuleRecord)
      (same : rules.find? rule = s.rules.find? rule)
      (idle : ∀ row, task.restores rule row = false) :
      ∃ row, rules.find? rule = some row ∧ Restored (before ++ new ++ after) rule row := by
    obtain ⟨row, found, metric, condition⟩ := held rule created
    refine ⟨row, same.trans found, metric, condition.imp_right ?_⟩
    rintro ⟨other, member, restores⟩
    refine ⟨other, mem_other member ?_, restores⟩
    rintro rfl
    rw [idle row] at restores
    cases restores
  cases task with
  | create body =>
      cases choice with
      | statement choice => cases moved
      | generates id =>
          obtain ⟨rules, inserted, same⟩ := Option.map_eq_some_iff.mp moved
          cases same
          have absent := Table.insert_absent inserted
          intro rule created
          rcases List.mem_cons.mp created with rfl | earlier
          · refine ⟨body.record, ?_, rfl, .inl rfl⟩
            rw [Table.find?_insert inserted, if_pos rfl]
          · refine beside earlier rules ?_ fun _ => rfl
            rw [Table.find?_insert inserted, if_neg]
            rintro rfl
            obtain ⟨row, found, -⟩ := held rule earlier
            rw [absent] at found
            cases found
  | patch id phase =>
      cases choice with
      | generates rule => cases moved
      | statement choice =>
          cases choice with
          | fails => exact absurd rfl meets.completes
          | proceeds now =>
              obtain ⟨⟨rules, phase'⟩, stepped, same⟩ := Option.map_eq_some_iff.mp moved
              cases same
              intro rule created
              by_cases own : rule = id
              · subst own
                obtain ⟨row, found, restored⟩ := held rule created
                exact restored.own (s := s) created found meets stepped
              · refine beside created rules (PatchRoute.step_other stepped own) fun row => ?_
                cases phase <;> simp [RuleTask.restores, Ne.symm own]

theorem rulesRestored {table : Table Uuid AlertRuleRecord} {config : Config RuleServer RuleTask}
    (reached : Reach ruleProgram syncsInTime ⟨⟨table, []⟩, []⟩ config) : RulesRestored config := by
  refine reached.invariant RulesRestored ?_ ?_ ?_
  · simp [RulesRestored]
  · intro shared tasks task held _ rule created
    obtain ⟨row, found, metric, condition⟩ := held rule created
    refine ⟨row, found, metric, condition.imp_right ?_⟩
    rintro ⟨other, member, restores⟩
    exact ⟨other, List.mem_append_left _ member, restores⟩
  · intro shared shared' before after new task choice held meets moved
    exact rulesRestored_step held meets moved

/-! ## One request alone -/

/-- The columns of the condition that the request gives are as they were. -/
structure PatchRuleRequest.KeepsCondition (body : PatchRuleRequest) (row : AlertRuleRecord) :
    Prop where
  metric : ∀ value ∈ body.metric, row.metric = some value
  operator : ∀ value ∈ body.operator, row.operator = some value
  threshold : ∀ value ∈ body.threshold, row.threshold = some value

theorem mem_columns {body : PatchRuleRequest} {column : AlertRuleColumn} :
    column ∈ body.columns ↔ match column with
      | .name value => body.name = some value
      | .metric value => body.metric = some value
      | .operator value => body.operator = some value
      | .threshold value => body.threshold = some value
      | .severity value => body.severity = some value
      | .channels value => body.channels = some value
      | .enabled value => body.enabled = some value := by
  simp only [PatchRuleRequest.columns, List.mem_append, Option.mem_toList, Option.map_eq_some_iff]
  cases column <;> simp

theorem column_kept_iff {α : Type} {given stored before : Option α}
    (written : ∀ value ∈ given, stored = some value)
    (other : given = none → ∀ value, stored = some value ↔ before = some value) :
    before = stored ↔ ∀ value ∈ given, before = some value := by
  cases given with
  | none =>
      have same : before = stored := Option.ext fun value => (other rfl value).symm
      simp [same]
  | some value => simp [written value rfl]

/-- A column is as it was just where the value that is given for it is. -/
theorem column_setAll_iff {α : Type} {body : PatchRuleRequest}
    {writes : List (Nat × AlertRuleColumn)} (row : AlertRuleRecord)
    (all : writes.map Prod.snd = body.columns) (stored : AlertRuleRecord → Option α)
    (given : Option α) (column : α → AlertRuleColumn)
    (holds : ∀ value row, (column value).Holds row ↔ stored row = some value)
    (listed : ∀ value, column value ∈ body.columns ↔ given = some value)
    (alone : ∀ other value, other.column = (column value).column → ∃ own, other = column own) :
    stored row = stored (alertRuleColumns.setAll writes row) ↔
      ∀ value ∈ given, stored row = some value := by
  have different : (writes.map fun write => alertRuleColumns.column write.2).Nodup := by
    have fields := nodup_alertRuleColumns body
    rwa [← all, List.map_map] at fields
  refine column_kept_iff (fun value member => ?_) fun none value => ?_
  · have field := (listed value).mpr member
    rw [← all] at field
    obtain ⟨write, written, own⟩ := List.mem_map.mp field
    rw [← holds, ← own]
    exact alertRuleColumns.holds_setAll different row write written
  · rw [← holds, ← holds]
    refine alertRuleColumns.holds_setAll_other (fun write written same => ?_) row
    obtain ⟨own, eq⟩ := alone write.2 value same
    have field : column own ∈ body.columns := by
      rw [← all, ← eq]
      exact List.mem_map.mpr ⟨write, written, rfl⟩
    rw [listed, none] at field
    cases field

theorem keepsCondition_iff {body : PatchRuleRequest} {writes : List (Nat × AlertRuleColumn)}
    {row : AlertRuleRecord} (all : writes.map Prod.snd = body.columns) :
    row.ownCondition = (alertRuleColumns.setAll writes row).ownCondition ↔
      body.KeepsCondition row := by
  have metric := column_setAll_iff row all (·.metric) body.metric .metric
    (fun _ _ => Iff.rfl) (fun _ => mem_columns) fun other value same => by
      cases other <;> cases same
      exact ⟨_, rfl⟩
  have operator := column_setAll_iff row all (·.operator) body.operator .operator
    (fun _ _ => Iff.rfl) (fun _ => mem_columns) fun other value same => by
      cases other <;> cases same
      exact ⟨_, rfl⟩
  have threshold := column_setAll_iff row all (·.threshold) body.threshold .threshold
    (fun _ _ => Iff.rfl) (fun _ => mem_columns) fun other value same => by
      cases other <;> cases same
      exact ⟨_, rfl⟩
  rw [AlertRuleRecord.ownCondition, AlertRuleRecord.ownCondition, AlertCondition.columns.injEq, metric,
    operator, threshold]
  exact ⟨fun ⟨metric, operator, threshold⟩ => ⟨metric, operator, threshold⟩,
    fun ⟨metric, operator, threshold⟩ => ⟨metric, operator, threshold⟩⟩

/-- The answer has the row as it was before the condition was written. -/
theorem answered_iff {body : PatchRuleRequest} {table table' : Table Uuid AlertRuleRecord}
    {rule : Uuid} {row returned : AlertRuleRecord} {choices : List PatchChoice}
    (found : table.find? rule = some row) (metric : row.metric.isSome = true)
    (synced : row.condition = row.ownCondition)
    (ran : updateRuleRoute.run rule table (.verify body.columns) choices =
      some (table', .answered (.ok returned))) :
    table'.find? rule = some returned ↔ body.KeepsCondition row := by
  cases choices with
  | nil => cases ran
  | cons choice choices =>
      cases choice with
      | fails =>
          obtain ⟨-, -, failed⟩ := PatchRoute.run_answered ran
          cases failed
      | proceeds now =>
          simp only [PatchRoute.run, PatchRoute.step] at ran
          rw [if_pos (by simp [Table.contains, found]), Option.bind_some] at ran
          obtain ⟨stored, after, ended⟩ := PatchRoute.run_next found ran
          cases ended with
          | done completes all selected =>
              have condition : returned.condition = row.condition := by
                rw [selected]
                exact alertRuleColumns.setAll_frame (·.condition)
                  (fun _ write _ => by cases write <;> rfl) _ row
              have syncs : updateRuleRoute.syncs returned = true := by
                have metric : returned.metric.isSome = true := selected ▸ metric_setAll _ metric
                simp [updateRuleRoute, metric]
              have same : updateRuleRoute.sync returned returned = returned ↔
                  returned.ownCondition = returned.condition := by
                refine ⟨fun same => congrArg (·.condition) same, fun same => ?_⟩
                change { returned with condition := returned.ownCondition } = returned
                rw [same]
              rw [after, if_pos syncs, Option.some.injEq, same, ← keepsCondition_iff all, condition,
                synced, selected, eq_comm]
              rfl

/-! ## Runs -/

/-- Where the conditions are written in time, every rule of the API has the condition of its columns
when the requests are done. What a further request alone answers is the row it leaves just where it
gives none of the three columns a new value. -/
theorem conditions_in_sync {table : Table Uuid AlertRuleRecord} {config : Config RuleServer RuleTask}
    (reached : Reach ruleProgram syncsInTime ⟨⟨table, []⟩, []⟩ config)
    (done : ∀ task ∈ config.tasks, task.finished = true) :
    ∀ rule ∈ config.shared.created, ∃ row, config.shared.rules.find? rule = some row ∧
      row.condition = row.ownCondition ∧
        ∀ (body : PatchRuleRequest) (choices : List PatchChoice) (rules : Table Uuid AlertRuleRecord)
          (returned : AlertRuleRecord),
          updateRuleRoute.run rule config.shared.rules (.verify body.columns) choices =
              some (rules, .answered (.ok returned)) →
            (rules.find? rule = some returned ↔ body.KeepsCondition row) := by
  intro rule created
  obtain ⟨row, found, metric, synced | ⟨task, member, restores⟩⟩ := rulesRestored reached rule created
  · exact ⟨row, found, synced, fun body choices rules returned ran =>
      answered_iff found metric synced ran⟩
  · have finished := done task member
    cases task with
    | create body => cases finished
    | patch other phase => cases phase <;> simp [RuleTask.finished, RuleTask.restores] at *

/-! ## Overlapping requests -/

def cpuRule : PostRuleRequest where
  name := "cpu"
  metric := "cpu_pct"
  operator := ">"
  threshold := 80
  severity := none
  enabled := none
  channels := none

def noRules : Config RuleServer RuleTask := ⟨⟨.empty, []⟩, []⟩

def ruleStatement (index : Nat) : Label RuleTask RuleChoice :=
  .run index (.statement (.proceeds 0))

def ruleCreated : List (Label RuleTask RuleChoice) :=
  [.arrive (.create cpuRule), .run 0 (.generates (Uuid.small 1))]

def thresholdPatch (threshold : ℚ) : Label RuleTask RuleChoice :=
  .arrive (.patch (Uuid.small 1) (.verify [.threshold threshold]))

def AlertCondition.threshold? : AlertCondition → Option ℚ
  | .columns _ _ threshold => threshold
  | .other _ => none

def ruleThresholds (config : Config RuleServer RuleTask) :
    List Uuid × Option (Option ℚ × Option ℚ) × Bool :=
  (config.shared.created,
    (config.shared.rules.find? (Uuid.small 1)).map fun row =>
      (row.threshold, row.condition.threshold?),
    config.tasks.all (·.finished))

theorem conditions_in_sync_patched : ∃ config,
    Reach ruleProgram syncsInTime noRules config ∧
      ruleThresholds config = ([Uuid.small 1], some (some 90, some 90), true) ∧
      ∃ row, config.shared.rules.find? (Uuid.small 1) = some row ∧
        row.condition = row.ownCondition := by
  obtain ⟨config, reached, seen⟩ := Reach.of_observed ruleProgram syncsInTime noRules
    (ruleCreated ++ thresholdPatch 90 :: List.replicate 4 (ruleStatement 1)) ruleThresholds
    ([Uuid.small 1], some (some 90, some 90), true) (by decide +kernel)
  obtain ⟨created, rest⟩ := Prod.mk.inj seen
  obtain ⟨row, found, synced, -⟩ := conditions_in_sync reached
    (List.all_eq_true.mp (Prod.mk.inj rest).2) (Uuid.small 1) (by rw [created]; simp)
  exact ⟨config, reached, seen, row, found, synced⟩

/-- Two requests overlap, and the first one writes the condition of a threshold that is gone; a request
alone answers with the condition it is about to replace. -/
theorem conditions_out_of_sync :
    (¬ ∀ (table : Table Uuid AlertRuleRecord) (config : Config RuleServer RuleTask),
      Reach ruleProgram completes ⟨⟨table, []⟩, []⟩ config →
        (∀ task ∈ config.tasks, task.finished = true) → ∀ rule ∈ config.shared.created, ∀ row,
          config.shared.rules.find? rule = some row → row.condition = row.ownCondition) ∧
      ¬ ∀ (body : PatchRuleRequest) (choices : List PatchChoice)
        (table table' : Table Uuid AlertRuleRecord) (returned : AlertRuleRecord),
        updateRuleRoute.run (Uuid.small 1) table (.verify body.columns) choices =
            some (table', .answered (.ok returned)) →
          table'.find? (Uuid.small 1) = some returned := by
  constructor
  · intro synced
    obtain ⟨config, reached, seen⟩ := Reach.of_observed ruleProgram completes noRules
      (ruleCreated ++ [thresholdPatch 90, thresholdPatch 95] ++
        List.replicate 3 (ruleStatement 1) ++ List.replicate 4 (ruleStatement 2) ++
        [ruleStatement 1])
      ruleThresholds ([Uuid.small 1], some (some 95, some 90), true) (by decide +kernel)
    obtain ⟨created, rest⟩ := Prod.mk.inj seen
    obtain ⟨thresholds, finished⟩ := Prod.mk.inj rest
    obtain ⟨row, found, both⟩ := Option.map_eq_some_iff.mp thresholds
    have condition := synced .empty config reached (List.all_eq_true.mp finished) (Uuid.small 1)
      (by rw [created]; simp) row found
    have same : row.condition.threshold? = row.threshold := by
      rw [condition]
      rfl
    rw [(Prod.mk.inj both).1, (Prod.mk.inj both).2] at same
    exact absurd same (by decide)
  · intro stored
    let table : Table Uuid AlertRuleRecord := ⟨[(Uuid.small 1, cpuRule.record)], by simp⟩
    let changed := { cpuRule.record with threshold := some 90 }
    let written := (table.update (Uuid.small 1) (AlertRuleColumn.threshold 90).set).update
      (Uuid.small 1) (updateRuleRoute.sync changed)
    have same := stored ⟨⟨none, none, none, some 90, none, none⟩, none⟩
      (List.replicate 4 (.proceeds 0)) table written changed rfl
    have condition : (written.find? (Uuid.small 1)).map (·.condition.threshold?) = some (some 90) := by
      decide
    rw [same] at condition
    exact absurd condition (by decide)

end OsfmEdm
