import OsfmEdm.Alerts.Step
import OsfmEdm.Library.Columns
import OsfmEdm.Policies.Step

/-!
The `PATCH` requests of `api/policies.rs` and `api/alerts.rs` with all columns of their rows. Every
statement is committed on its own.
-/

namespace OsfmEdm

open JsonText

/-! ## Requests -/

/-- A statement succeeds, at its time, or fails. -/
inductive PatchChoice where
  | proceeds (now : Nat)
  | fails
deriving DecidableEq

inductive PatchPhase (ω ρ : Type) where
  | verify (columns : List ω)
  | setColumn (column : ω) (rest : List ω)
  | selectRow
  | sync (selected : ρ)
  | answered (answer : Except ApiError ρ)

/-- A route with a `PATCH`; `syncs` tells of the row it has selected whether it writes once more, and
`sync` what that leaves of the row that is stored. -/
structure PatchRoute (ω ρ : Type) where
  columns : Columns ω ρ
  notFound : Uuid → ApiError
  syncs : ρ → Bool
  sync : ρ → ρ → ρ

namespace PatchPhase

variable {ω ρ : Type}

def start (auth : AuthUser) (columns : List ω) : PatchPhase ω ρ :=
  match auth.requireAdmin with
  | .ok () => .verify columns
  | .error error => .answered (.error error)

/-- The statement after those for the columns so far. -/
def next : List ω → PatchPhase ω ρ
  | [] => .selectRow
  | column :: rest => .setColumn column rest

end PatchPhase

namespace PatchRoute

variable {ω ρ : Type} (route : PatchRoute ω ρ) (id : Uuid)

def step (table : Table Uuid ρ) :
    PatchPhase ω ρ → PatchChoice → Option (Table Uuid ρ × PatchPhase ω ρ)
  | .answered _, _ => none
  | _, .fails => some (table, .answered (.error .database))
  | .verify columns, .proceeds _ =>
      if table.contains id then some (table, .next columns)
      else some (table, .answered (.error (route.notFound id)))
  | .setColumn column rest, .proceeds now =>
      some (table.update id (route.columns.set now column), .next rest)
  -- `fetch_one`: no row is an error too
  | .selectRow, .proceeds _ =>
      match table.find? id with
      | none => some (table, .answered (.error .database))
      | some row =>
          if route.syncs row then some (table, .sync row) else some (table, .answered (.ok row))
  | .sync selected, .proceeds _ =>
      some (table.update id (route.sync selected), .answered (.ok selected))

/-- The statements of a request that runs alone. -/
def run (table : Table Uuid ρ) (phase : PatchPhase ω ρ) :
    List PatchChoice → Option (Table Uuid ρ × PatchPhase ω ρ)
  | [] => some (table, phase)
  | choice :: choices =>
      (route.step id table phase choice).bind fun after => run after.1 after.2 choices

end PatchRoute

/-! ## Policies -/

/-- `PolicyRow` of `api/policies.rs`. -/
structure PolicyRecord extends PolicyRow where
  description : Option String
  version : Int
  updatedAt : Option Nat

namespace PolicyColumn

def column : PolicyColumn → Nat
  | .name _ => 0
  | .description _ => 1
  | .rules _ => 2
  | .enabled _ => 3

def isRules : PolicyColumn → Bool
  | .rules _ => true
  | _ => false

/-- `SET …, updated_at = now()`; with new rules also `version = version + 1`. -/
def setRecord (now : Nat) (column : PolicyColumn) (row : PolicyRecord) : PolicyRecord :=
  let row := { row with toPolicyRow := column.set row.toPolicyRow, updatedAt := some now }
  match column with
  | .description value => { row with description := some value }
  | .rules _ => { row with version := row.version + 1 }
  | .name _ | .enabled _ => row

def Holds (column : PolicyColumn) (row : PolicyRecord) : Prop :=
  match column with
  | .name value => row.name = value
  | .description value => row.description = some value
  | .rules value => row.rules = value
  | .enabled value => row.enabled = value

end PolicyColumn

def policyColumns : Columns PolicyColumn PolicyRecord where
  column := PolicyColumn.column
  set := PolicyColumn.setRecord
  Holds := PolicyColumn.Holds
  holds_set now write row := by cases write <;> rfl
  holds_set_other now write other row different := by
    cases other <;> cases write <;> first | exact absurd rfl different | rfl

/-- `update_policy`; that it pushes the policy to agents changes neither the row nor the answer. -/
def updatePolicyRoute : PatchRoute PolicyColumn PolicyRecord where
  columns := policyColumns
  notFound := PolicyServer.policyNotFound
  syncs _ := false
  sync _ row := row

/-! ## Alert rules -/

/-- The column `condition`: the object with these three members, or another document. -/
inductive AlertCondition where
  | columns (metric operator : Option String) (threshold : Option ℚ)
  | other (document : Json)

/-- `AlertRuleRow` of `api/alerts.rs`. -/
structure AlertRuleRecord extends AlertRuleRow where
  condition : AlertCondition
  channels : Json

structure PatchRuleRequest extends UpdateRuleRequest where
  channels : Option Json

inductive AlertRuleColumn where
  | name (value : String)
  | metric (value : String)
  | operator (value : String)
  | threshold (value : ℚ)
  | severity (value : String)
  | channels (value : Json)
  | enabled (value : Bool)

namespace AlertRuleColumn

def column : AlertRuleColumn → Nat
  | .name _ => 0
  | .metric _ => 1
  | .operator _ => 2
  | .threshold _ => 3
  | .severity _ => 4
  | .channels _ => 5
  | .enabled _ => 6

def set (column : AlertRuleColumn) (row : AlertRuleRecord) : AlertRuleRecord :=
  match column with
  | .name value => { row with name := value }
  | .metric value => { row with metric := some value }
  | .operator value => { row with operator := some value }
  | .threshold value => { row with threshold := some value }
  | .severity value => { row with severity := some value }
  | .channels value => { row with channels := value }
  | .enabled value => { row with enabled := value }

def Holds (column : AlertRuleColumn) (row : AlertRuleRecord) : Prop :=
  match column with
  | .name value => row.name = value
  | .metric value => row.metric = some value
  | .operator value => row.operator = some value
  | .threshold value => row.threshold = some value
  | .severity value => row.severity = some value
  | .channels value => row.channels = value
  | .enabled value => row.enabled = value

end AlertRuleColumn

/-- One statement for each field that is there, in the order of the handler. -/
def PatchRuleRequest.columns (body : PatchRuleRequest) : List AlertRuleColumn :=
  (body.name.map .name).toList ++ (body.metric.map .metric).toList ++
    (body.operator.map .operator).toList ++ (body.threshold.map .threshold).toList ++
    (body.severity.map .severity).toList ++ (body.channels.map .channels).toList ++
    (body.enabled.map .enabled).toList

def alertRuleColumns : Columns AlertRuleColumn AlertRuleRecord where
  column := AlertRuleColumn.column
  set _ := AlertRuleColumn.set
  Holds := AlertRuleColumn.Holds
  holds_set _ write row := by cases write <;> rfl
  holds_set_other _ write other row different := by
    cases other <;> cases write <;> first | exact absurd rfl different | rfl

def AlertRuleRecord.ownCondition (row : AlertRuleRecord) : AlertCondition :=
  .columns row.metric row.operator row.threshold

/-- `update_rule`. -/
def updateRuleRoute : PatchRoute AlertRuleColumn AlertRuleRecord where
  columns := alertRuleColumns
  notFound := AlertServer.ruleNotFound
  syncs row := row.metric.isSome || row.operator.isSome || row.threshold.isSome
  sync selected row := { row with condition := selected.ownCondition }

/-- Without the two columns it has more, a row is changed as the evaluation of the rules sees it. -/
theorem AlertRuleRecord.toAlertRuleRow_setAll (body : PatchRuleRequest) (row : AlertRuleRecord) :
    (body.columns.foldl (fun row column => column.set row) row).toAlertRuleRow =
      body.statements.foldl (fun row change => change row) row.toAlertRuleRow := by
  obtain ⟨⟨name, metric, operator, threshold, severity, enabled⟩, channels⟩ := body
  simp only [PatchRuleRequest.columns, UpdateRuleRequest.statements, List.foldl_append]
  cases name <;> cases metric <;> cases operator <;> cases threshold <;> cases severity <;>
    cases channels <;> cases enabled <;> rfl

/-! ## Runs of one request -/

/-- The columns that are written by the choices of their statements, each with its time. -/
def writtenColumns {ω : Type} : List ω → List PatchChoice → List (Nat × ω)
  | column :: rest, .proceeds now :: choices => (now, column) :: writtenColumns rest choices
  | _, _ => []

@[simp] theorem writtenColumns_nil {ω : Type} (choices : List PatchChoice) :
    writtenColumns ([] : List ω) choices = [] := by
  cases choices <;> rfl

theorem writtenColumns_initial {ω : Type} (columns : List ω) (choices : List PatchChoice) :
    (writtenColumns columns choices).map Prod.snd <+: columns := by
  induction columns generalizing choices with
  | nil => simp
  | cons column columns ih =>
      cases choices with
      | nil => exact List.nil_prefix
      | cons choice choices =>
          cases choice with
          | fails => exact List.nil_prefix
          | proceeds now => exact List.cons_prefix_cons.mpr ⟨rfl, ih choices⟩

namespace PatchRoute

variable {ω ρ : Type} {route : PatchRoute ω ρ} {id : Uuid} {table table' : Table Uuid ρ}
  {choices : List PatchChoice} {answer : Except ApiError ρ}

theorem step_other {phase phase' : PatchPhase ω ρ} {choice : PatchChoice} {other : Uuid}
    (moved : route.step id table phase choice = some (table', phase')) (different : other ≠ id) :
    table'.find? other = table.find? other := by
  have updated (change : ρ → ρ) : (table.update id change).find? other = table.find? other := by
    rw [Table.find?_update, if_neg different]
  unfold step at moved
  split at moved
  · cases moved
  · cases moved
    rfl
  · split at moved <;> cases moved <;> rfl
  · cases moved
    exact updated _
  · split at moved
    · cases moved
      rfl
    · split at moved <;> cases moved <;> rfl
  · cases moved
    exact updated _

theorem run_answered {first : Except ApiError ρ} {last : PatchPhase ω ρ}
    (ran : route.run id table (.answered first) choices = some (table', last)) :
    choices = [] ∧ table' = table ∧ last = .answered first := by
  cases choices with
  | nil =>
      cases ran
      exact ⟨rfl, rfl, rfl⟩
  | cons choice choices => cases ran

/-- What a request leaves that has found its row: after a failure the columns written before it, else
all of them. -/
inductive Ended (route : PatchRoute ω ρ) (columns : List ω) (choices : List PatchChoice) (row : ρ) :
    Except ApiError ρ → ρ → Prop where
  | failed (fails : .fails ∈ choices) :
      Ended route columns choices row (.error .database)
        (route.columns.setAll (writtenColumns columns choices) row)
  | done (completes : .fails ∉ choices)
      (all : (writtenColumns columns choices).map Prod.snd = columns) {after : ρ}
      (selected : after = route.columns.setAll (writtenColumns columns choices) row) :
      Ended route columns choices row (.ok after)
        (if route.syncs after then route.sync after after else after)

/-- A statement that fails is the last one, and it changes nothing. -/
theorem run_failed {phase : PatchPhase ω ρ} {row : ρ} (columns : List ω)
    (found : table.find? id = some row)
    (fails : route.step id table phase .fails = some (table, .answered (.error .database)))
    (ran : route.run id table phase (.fails :: choices) = some (table', .answered answer)) :
    ∃ stored, table'.find? id = some stored ∧
      route.Ended columns (.fails :: choices) row answer stored := by
  rw [run, fails] at ran
  obtain ⟨rfl, rfl, same⟩ := run_answered ran
  cases same
  refine ⟨row, found, ?_⟩
  -- no column is written, whichever are left
  cases columns <;> exact .failed List.mem_cons_self

theorem run_sync {row : ρ} (found : table.find? id = some row) (syncs : route.syncs row = true)
    (ran : route.run id table (.sync row) choices = some (table', .answered answer)) :
    ∃ stored, table'.find? id = some stored ∧ route.Ended [] choices row answer stored := by
  cases choices with
  | nil => cases ran
  | cons choice choices =>
      cases choice with
      | fails => exact run_failed [] found rfl ran
      | proceeds now =>
          obtain ⟨rfl, rfl, same⟩ := run_answered ran
          cases same
          refine ⟨_, ?_, .done (by simp) rfl rfl⟩
          rw [Table.find?_update, if_pos rfl, found, if_pos syncs]
          rfl

theorem run_selectRow {row : ρ} (found : table.find? id = some row)
    (ran : route.run id table .selectRow choices = some (table', .answered answer)) :
    ∃ stored, table'.find? id = some stored ∧ route.Ended [] choices row answer stored := by
  cases choices with
  | nil => cases ran
  | cons choice choices =>
      cases choice with
      | fails => exact run_failed [] found rfl ran
      | proceeds now =>
          simp only [run, step, found] at ran
          by_cases syncs : route.syncs row = true
          · rw [if_pos syncs, Option.bind_some] at ran
            obtain ⟨stored, kept, ended⟩ := run_sync found syncs ran
            refine ⟨stored, kept, ?_⟩
            cases ended with
            | failed fails => exact .failed (List.mem_cons_of_mem _ fails)
            | done completes all selected =>
                exact .done (by simpa using completes) (by simp) (by simpa using selected)
          · rw [if_neg syncs, Option.bind_some] at ran
            obtain ⟨rfl, rfl, same⟩ := run_answered ran
            cases same
            refine ⟨row, found, ?_⟩
            have ended : route.Ended [] [.proceeds now] row (.ok row)
                (if route.syncs row then route.sync row row else row) :=
              .done (by simp) rfl rfl
            simpa [writtenColumns, syncs] using ended

/-- The loop over the columns, from any of them on. -/
theorem run_next {columns : List ω} {row : ρ} (found : table.find? id = some row)
    (ran : route.run id table (.next columns) choices = some (table', .answered answer)) :
    ∃ stored, table'.find? id = some stored ∧ route.Ended columns choices row answer stored := by
  induction columns generalizing table row choices with
  | nil => exact run_selectRow found ran
  | cons column columns ih =>
      cases choices with
      | nil => cases ran
      | cons choice choices =>
          cases choice with
          | fails => exact run_failed (column :: columns) found rfl ran
          | proceeds now =>
              have changed : (table.update id (route.columns.set now column)).find? id =
                  some (route.columns.set now column row) := by
                rw [Table.find?_update, if_pos rfl, found]
                rfl
              obtain ⟨stored, kept, ended⟩ := ih changed ran
              refine ⟨stored, kept, ?_⟩
              cases ended with
              | failed fails => exact .failed (List.mem_cons_of_mem _ fails)
              | done completes all selected =>
                  exact .done (by simpa using completes)
                    (by rw [writtenColumns, List.map_cons, all]) selected

/-! ## All or nothing -/

variable (route id) in
/-- After an error the row is as before. After a success it has the values that were given, what was
not given is as before, and so is `kept`. -/
structure Atomic (columns : List ω) (kept : ρ → ρ → Prop) (table table' : Table Uuid ρ)
    (answer : Except ApiError ρ) : Prop where
  error : ∀ error, answer = .error error → table'.find? id = table.find? id
  success : ∀ selected, answer = .ok selected → ∃ row stored,
    table.find? id = some row ∧ table'.find? id = some stored ∧
      (∀ column ∈ columns, route.columns.Holds column stored) ∧
      (∀ other, (∀ column ∈ columns, route.columns.column column ≠ route.columns.column other) →
        (route.columns.Holds other stored ↔ route.columns.Holds other row)) ∧
      kept row stored

structure Complete (route : PatchRoute ω ρ) (kept : List ω → ρ → ρ → Prop) : Prop where
  /-- Nothing reads the second write of a row. -/
  sync : ∀ selected row column, route.columns.Holds column (route.sync selected row) ↔
    route.columns.Holds column row
  kept : ∀ writes row selected,
    kept (writes.map Prod.snd) row (route.columns.setAll writes row) ∧
      kept (writes.map Prod.snd) row (route.sync selected (route.columns.setAll writes row))

theorem nodup_writtenColumns {columns : List ω}
    (different : (columns.map route.columns.column).Nodup) (choices : List PatchChoice) :
    ((writtenColumns columns choices).map fun write => route.columns.column write.2).Nodup := by
  have written := ((writtenColumns_initial columns choices).map route.columns.column).sublist
  rw [List.map_map] at written
  exact different.sublist written

theorem atomic_ended {columns : List ω} {kept : List ω → ρ → ρ → Prop}
    {unchanged : List (Nat × ω) → ρ → Prop} {row stored : ρ} {now : Nat}
    (complete : route.Complete kept) (different : (columns.map route.columns.column).Nodup)
    (same : ∀ writes row, (writes.map fun write => route.columns.column write.2).Nodup →
      (route.columns.setAll writes row = row ↔ unchanged writes row))
    (found : table.find? id = some row) (after : table'.find? id = some stored)
    (ended : route.Ended columns choices row answer stored) :
    route.Atomic id columns (kept columns) table table' answer ↔
      .fails ∉ .proceeds now :: choices ∨ ∀ row, table.find? id = some row →
        unchanged (writtenColumns columns choices) row := by
  have distinct := nodup_writtenColumns different choices
  cases ended with
  | failed fails =>
      have failing : ¬ PatchChoice.fails ∉ PatchChoice.proceeds now :: choices :=
        not_not.mpr (List.mem_cons_of_mem _ fails)
      rw [or_iff_right failing, found]
      simp only [Option.some.injEq, forall_eq']
      rw [← same _ row distinct]
      constructor
      · intro atomic
        have back := atomic.error _ rfl
        rw [after, found] at back
        exact Option.some.inj back
      · intro back
        rw [back] at after
        exact ⟨fun _ _ => after.trans found.symm, fun _ done => nomatch done⟩
  | @done completes all selected chosen =>
      have listed (column : ω) : column ∈ columns ↔
          ∃ write ∈ writtenColumns columns choices, write.2 = column := by
        rw [← List.mem_map, all]
      have holds (column : ω) : route.columns.Holds column
          (if route.syncs selected then route.sync selected selected else selected) ↔
            route.columns.Holds column selected := by
        split
        · exact complete.sync _ _ _
        · rfl
      have kept_writes := complete.kept (writtenColumns columns choices) row selected
      rw [all, ← chosen] at kept_writes
      refine iff_of_true ⟨fun _ failed => (nomatch failed), fun _ _ =>
        ⟨row, _, found, after, fun column member => ?_, fun other absent => ?_, ?_⟩⟩
        (.inl (by simpa using completes))
      · obtain ⟨write, written, rfl⟩ := (listed column).mp member
        rw [holds, chosen]
        exact route.columns.holds_setAll distinct row write written
      · rw [holds, chosen]
        exact route.columns.holds_setAll_other
          (fun write written => absent write.2 ((listed _).mpr ⟨write, written, rfl⟩)) row
      · split
        · exact kept_writes.2
        · exact kept_writes.1

/-- A request is all or nothing just where nothing fails, or what was written before that is what the
row had. -/
theorem atomic_iff {columns : List ω} {kept : List ω → ρ → ρ → Prop}
    {unchanged : List (Nat × ω) → ρ → Prop} {auth : AuthUser}
    (complete : route.Complete kept) (different : (columns.map route.columns.column).Nodup)
    (same : ∀ writes row, (writes.map fun write => route.columns.column write.2).Nodup →
      (route.columns.setAll writes row = row ↔ unchanged writes row))
    (ran : route.run id table (.start auth columns) choices = some (table', .answered answer)) :
    route.Atomic id columns (kept columns) table table' answer ↔
      .fails ∉ choices ∨ ∀ row, table.find? id = some row →
        unchanged (writtenColumns columns choices.tail) row := by
  -- A request that ends before its first column leaves the table alone.
  have early (error : ApiError) : route.Atomic id columns (kept columns) table table (.error error) :=
    ⟨fun _ _ => rfl, fun _ done => nomatch done⟩
  rw [PatchPhase.start] at ran
  cases admin : auth.requireAdmin with
  | error error =>
      rw [admin] at ran
      obtain ⟨rfl, rfl, last⟩ := run_answered ran
      cases last
      exact iff_of_true (early error) (.inl List.not_mem_nil)
  | ok _ =>
      rw [admin] at ran
      cases choices with
      | nil => cases ran
      | cons choice choices =>
          cases choice with
          | fails =>
              obtain ⟨rfl, rfl, last⟩ := run_answered ran
              cases last
              refine iff_of_true (early _) (.inr fun row _ => ?_)
              rw [List.tail_cons, show writtenColumns columns [] = [] by cases columns <;> rfl]
              exact (same [] row List.nodup_nil).mp rfl
          | proceeds now =>
              simp only [run, step] at ran
              rcases Option.eq_none_or_eq_some (table.find? id) with none | ⟨row, found⟩
              · rw [if_neg (by simp [Table.contains, none]), Option.bind_some] at ran
                obtain ⟨rfl, rfl, last⟩ := run_answered ran
                cases last
                exact iff_of_true (early _) (.inl (by simp))
              · rw [if_pos (by simp [Table.contains, found]), Option.bind_some] at ran
                obtain ⟨stored, after, ended⟩ := run_next found ran
                exact atomic_ended complete different same found after ended

end PatchRoute

/-! ## Policies -/

theorem nodup_policyColumns (body : UpdatePolicyRequest) :
    (body.columns.map policyColumns.column).Nodup := by
  have given : (body.columns.map policyColumns.column).Sublist ([0] ++ [1] ++ [2] ++ [3]) := by
    simp only [UpdatePolicyRequest.columns, List.map_append]
    exact (((policyColumns.given_sublist .name 0 body.name fun _ => rfl).append
      (policyColumns.given_sublist .description 1 body.description fun _ => rfl)).append
      (policyColumns.given_sublist .rules 2 body.rules fun _ => rfl)).append
      (policyColumns.given_sublist .enabled 3 body.enabled fun _ => rfl)
  exact List.Nodup.sublist given (by decide)

def VersionGrows (columns : List PolicyColumn) (row stored : PolicyRecord) : Prop :=
  stored.version = row.version + columns.countP (·.isRules)

theorem version_setAll (writes : List (Nat × PolicyColumn)) (row : PolicyRecord) :
    (policyColumns.setAll writes row).version =
      row.version + (writes.map Prod.snd).countP (·.isRules) := by
  induction writes generalizing row with
  | nil => simp
  | cons write writes ih =>
      obtain ⟨now, column⟩ := write
      rw [Columns.setAll_cons, ih, List.map_cons, List.countP_cons]
      cases column with
      | rules value =>
          simp only [policyColumns, PolicyColumn.setRecord, PolicyColumn.isRules, if_true]
          omega
      | name | description | enabled => rfl

theorem updatePolicy_complete : updatePolicyRoute.Complete VersionGrows where
  sync _ _ _ := Iff.rfl
  kept writes row _ := ⟨version_setAll writes row, version_setAll writes row⟩

/-- What the writes put into a policy is what it had, its time included. -/
def PolicyUnchanged (writes : List (Nat × PolicyColumn)) (row : PolicyRecord) : Prop :=
  (∀ write ∈ writes, write.2.Holds row ∧ ¬ write.2.isRules) ∧
    ∀ write ∈ writes.getLast?, row.updatedAt = some write.1

theorem setRecord_of_holds {column : PolicyColumn} {row : PolicyRecord} (now : Nat)
    (holds : column.Holds row) (other : ¬ column.isRules) :
    column.setRecord now row = { row with updatedAt := some now } := by
  obtain ⟨⟨name, rules, enabled⟩, description, version, updatedAt⟩ := row
  cases column with
  | rules value => exact absurd rfl other
  | name value | description value | enabled value =>
      cases holds
      rfl

/-- Values that are there already leave only the time of the last write. -/
theorem setAll_of_holds {writes : List (Nat × PolicyColumn)} {row : PolicyRecord}
    (holds : ∀ write ∈ writes, write.2.Holds row ∧ ¬ write.2.isRules) :
    policyColumns.setAll writes row =
      { row with updatedAt := (writes.getLast?.map Prod.fst).or row.updatedAt } := by
  induction writes generalizing row with
  | nil => rfl
  | cons write writes ih =>
      obtain ⟨now, column⟩ := write
      obtain ⟨value, other⟩ := holds _ List.mem_cons_self
      have written : policyColumns.set now column row = { row with updatedAt := some now } :=
        setRecord_of_holds now value other
      rw [Columns.setAll_cons, written, ih]
      · rw [List.getLast?_cons]
        cases writes.getLast? <;> rfl
      · intro write member
        obtain ⟨value, other⟩ := holds write (List.mem_cons_of_mem _ member)
        refine ⟨?_, other⟩
        revert value
        cases write.2 <;> exact id

theorem updatedAt_setAll (writes : List (Nat × PolicyColumn)) (row : PolicyRecord) :
    (policyColumns.setAll writes row).updatedAt =
      (writes.getLast?.map Prod.fst).or row.updatedAt := by
  induction writes generalizing row with
  | nil => rfl
  | cons write writes ih =>
      obtain ⟨now, column⟩ := write
      rw [Columns.setAll_cons, ih, List.getLast?_cons]
      cases writes.getLast? with
      | some last => rfl
      | none => cases column <;> rfl

theorem setAll_policy_iff (writes : List (Nat × PolicyColumn)) (row : PolicyRecord)
    (different : (writes.map fun write => policyColumns.column write.2).Nodup) :
    policyColumns.setAll writes row = row ↔ PolicyUnchanged writes row := by
  constructor
  · intro same
    have values := policyColumns.holds_setAll different row
    have versions := version_setAll writes row
    have times := updatedAt_setAll writes row
    rw [same] at values versions times
    have none : (writes.map Prod.snd).countP (·.isRules) = 0 := by omega
    refine ⟨fun write member => ⟨values write member, ?_⟩, fun last member => ?_⟩
    · exact List.countP_eq_zero.mp none _ (List.mem_map.mpr ⟨write, member, rfl⟩)
    · rw [times, Option.mem_def.mp member]
      rfl
  · rintro ⟨holds, time⟩
    rw [setAll_of_holds holds]
    cases last : writes.getLast? with
    | none => rfl
    | some write =>
        have stored := time write last
        obtain ⟨record, description, version, updatedAt⟩ := row
        cases stored
        rfl

/-! ## Alert rules -/

theorem nodup_alertRuleColumns (body : PatchRuleRequest) :
    (body.columns.map alertRuleColumns.column).Nodup := by
  have given : (body.columns.map alertRuleColumns.column).Sublist
      ([0] ++ [1] ++ [2] ++ [3] ++ [4] ++ [5] ++ [6]) := by
    simp only [PatchRuleRequest.columns, List.map_append]
    exact ((((((alertRuleColumns.given_sublist .name 0 body.name fun _ => rfl).append
      (alertRuleColumns.given_sublist .metric 1 body.metric fun _ => rfl)).append
      (alertRuleColumns.given_sublist .operator 2 body.operator fun _ => rfl)).append
      (alertRuleColumns.given_sublist .threshold 3 body.threshold fun _ => rfl)).append
      (alertRuleColumns.given_sublist .severity 4 body.severity fun _ => rfl)).append
      (alertRuleColumns.given_sublist .channels 5 body.channels fun _ => rfl)).append
      (alertRuleColumns.given_sublist .enabled 6 body.enabled fun _ => rfl)
  exact List.Nodup.sublist given (by decide)

theorem updateRule_complete : updateRuleRoute.Complete fun _ _ _ => True where
  sync _ _ column := by cases column <;> rfl
  kept _ _ _ := ⟨trivial, trivial⟩

theorem set_of_holds {column : AlertRuleColumn} {row : AlertRuleRecord} (holds : column.Holds row) :
    column.set row = row := by
  obtain ⟨⟨name, metric, operator, threshold, severity, enabled⟩, condition, channels⟩ := row
  cases column <;> cases holds <;> rfl

theorem setAll_rule_iff (writes : List (Nat × AlertRuleColumn)) (row : AlertRuleRecord)
    (different : (writes.map fun write => alertRuleColumns.column write.2).Nodup) :
    alertRuleColumns.setAll writes row = row ↔ ∀ write ∈ writes, write.2.Holds row := by
  constructor
  · intro same
    have values := alertRuleColumns.holds_setAll different row
    rwa [same] at values
  · intro holds
    clear different
    induction writes with
    | nil => rfl
    | cons write writes ih =>
        obtain ⟨now, column⟩ := write
        have written : alertRuleColumns.set now column row = row :=
          set_of_holds (holds _ List.mem_cons_self)
        rw [Columns.setAll_cons, written]
        exact ih fun write member => holds write (List.mem_cons_of_mem _ member)

/-! ## Both routes -/

theorem countP_isRules (body : UpdatePolicyRequest) :
    body.columns.countP (·.isRules) = if body.rules.isSome then 1 else 0 := by
  obtain ⟨name, description, rules, enabled⟩ := body
  simp only [UpdatePolicyRequest.columns, List.countP_append]
  cases name <;> cases description <;> cases rules <;> cases enabled <;> rfl

def UpdatePolicyRequest.Versioned (body : UpdatePolicyRequest) (row stored : PolicyRecord) : Prop :=
  stored.version = row.version + if body.rules.isSome then 1 else 0

theorem versionGrows_eq (body : UpdatePolicyRequest) :
    VersionGrows body.columns = body.Versioned := by
  funext row stored
  rw [VersionGrows, countP_isRules, UpdatePolicyRequest.Versioned]
  split <;> rfl

/-- A `PATCH` that fails has changed its row just where the statements before the failure wrote
something new, and to write a policy is to write its time. -/
theorem patch_atomic_iff (auth : AuthUser) (id : Uuid) (choices : List PatchChoice) :
    (∀ (body : UpdatePolicyRequest) (table table' : Table Uuid PolicyRecord)
      (answer : Except ApiError PolicyRecord),
      updatePolicyRoute.run id table (.start auth body.columns) choices =
          some (table', .answered answer) →
        (updatePolicyRoute.Atomic id body.columns body.Versioned table table' answer ↔
          .fails ∉ choices ∨ ∀ row, table.find? id = some row →
            PolicyUnchanged (writtenColumns body.columns choices.tail) row)) ∧
      ∀ (body : PatchRuleRequest) (table table' : Table Uuid AlertRuleRecord)
        (answer : Except ApiError AlertRuleRecord),
        updateRuleRoute.run id table (.start auth body.columns) choices =
            some (table', .answered answer) →
          (updateRuleRoute.Atomic id body.columns (fun _ _ => True) table table' answer ↔
            .fails ∉ choices ∨ ∀ row, table.find? id = some row →
              ∀ write ∈ writtenColumns body.columns choices.tail, write.2.Holds row) := by
  constructor
  · intro body table table' answer ran
    rw [← versionGrows_eq]
    exact PatchRoute.atomic_iff updatePolicy_complete (nodup_policyColumns body) setAll_policy_iff ran
  · intro body table table' answer ran
    exact PatchRoute.atomic_iff updateRule_complete (nodup_alertRuleColumns body) setAll_rule_iff ran

def guestPolicy : PolicyRecord where
  name := "guests"
  rules := .array []
  enabled := true
  description := none
  version := 1
  updatedAt := some 5

/-- The name and the switch of a policy are to change, and the second statement fails. -/
theorem patch_half_done : ¬ ∀ (auth : AuthUser) (body : UpdatePolicyRequest)
    (table table' : Table Uuid PolicyRecord) (choices : List PatchChoice)
    (answer : Except ApiError PolicyRecord),
    updatePolicyRoute.run (Uuid.small 1) table (.start auth body.columns) choices =
        some (table', .answered answer) →
      updatePolicyRoute.Atomic (Uuid.small 1) body.columns body.Versioned table table' answer := by
  intro atomic
  let table : Table Uuid PolicyRecord := ⟨[(Uuid.small 1, guestPolicy)], by simp⟩
  let written := table.update (Uuid.small 1) (PolicyColumn.setRecord 9 (.name "visitors"))
  have half := atomic ⟨Uuid.small 8, "root", "admin"⟩ ⟨some "visitors", none, none, some false⟩
    table written [.proceeds 8, .proceeds 9, .fails] (.error .database) rfl
  have back := half.error _ rfl
  have name : (written.find? (Uuid.small 1)).map (·.name) = some "visitors" := by decide
  rw [back] at name
  exact absurd name (by decide)

end OsfmEdm
