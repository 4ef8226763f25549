import OsfmEdm.Agent.PolicyEngine
import OsfmEdm.Library.Interleaving
import OsfmEdm.Server.AgentHub

/-!
Compliance reports from the tasks that agents evaluate policies in to the rows of
`compliance_reports`. Messages are processed in any order, statement by statement.
-/

namespace OsfmEdm

open Interleaving

/-- `stored` has the reports whose statements have written a row, each with its device; no step reads
it. -/
structure ReportServer where
  state : AppState
  stored : List (Uuid × ComplianceReport)

inductive ReportTask where
  /-- `evaluate_policies`: what is left of its loop and the reports so far. -/
  | evaluating (device : Uuid) (policies : List PolicyDefinition) (reports : List ComplianceReport)
  | arriving (device : Uuid) (message : AgentMessage)
  | processing (device : Uuid) (actions : List Action)

inductive ReportChoice where
  /-- The next policy is evaluated, each of its rules at a moment of its own. -/
  | evaluates (moments : Nat → Host)
  | proceeds
  | fails

namespace ReportServer

/-- The report that an action writes into a row. -/
def writes (s : ReportServer) (fails : Bool) : Action → Option ComplianceReport
  | .upsertReport report =>
      if !fails && s.state.db.policies.contains report.policyId then some report else none
  | _ => none

def perform (s : ReportServer) (device : Uuid) (fails : Bool) (action : Action) : ReportServer where
  state := action.perform device s.state fails
  stored := ((s.writes fails action).map (device, ·)).toList ++ s.stored

def process (s : ReportServer) (device : Uuid) (fails : Bool) :
    List Action → ReportServer × List ReportTask
  | [] => (s, [])
  | action :: rest =>
      (s.perform device fails action,
        [.processing device (action.follow device s.state fails ++ rest)])

def turn (s : ReportServer) : ReportTask → ReportChoice → Option (ReportServer × List ReportTask)
  | .evaluating device (policy :: rest) reports, .evaluates moments =>
      some (s, [.evaluating device rest (reports ++ [(evaluatePolicy device moments policy).1])])
  | .evaluating _ [] [], .proceeds => some (s, [])
  | .evaluating device [] reports, .proceeds => some (s, [.arriving device (.complianceReport reports)])
  | .arriving device message, .proceeds => some (s, [.processing device (processAgentMessage message)])
  | .processing device actions, .proceeds => some (s.process device false actions)
  | .processing device actions, .fails => some (s.process device true actions)
  | _, _ => none

end ReportServer

/-- `PushPolicy` starts a task. -/
def ReportTask.request : ReportTask → Bool
  | .evaluating _ _ [] => true
  | _ => false

def reportProgram : Program ReportServer ReportTask ReportChoice where
  request := ReportTask.request
  step s task choice := s.turn task choice

/-- A task that has run through its policies has the reports of `evaluate_policies`. -/
theorem evaluating_reports (device : Uuid) (policies : List PolicyDefinition)
    (moments : Nat → Nat → Host) (s : ReportServer) :
    ∃ strides, Follows reportProgram (.evaluating device policies []) strides
      (.evaluating device [] (policies.zipIdx.map fun (policy, index) =>
        (evaluatePolicy device (moments index) policy).1)) := by
  suffices later : ∀ (reports : List ComplianceReport) (place : Nat), ∃ strides,
      Follows reportProgram (.evaluating device policies reports) strides
        (.evaluating device [] (reports ++ (policies.zipIdx place).map fun (policy, index) =>
          (evaluatePolicy device (moments index) policy).1)) by
    simpa using later [] 0
  intro reports place
  induction policies generalizing reports place with
  | nil => exact ⟨[], by simpa using Follows.here⟩
  | cons policy policies ih =>
      obtain ⟨strides, follows⟩ :=
        ih (reports ++ [(evaluatePolicy device (moments place) policy).1]) (place + 1)
      refine ⟨⟨s, .evaluates (moments place), s⟩ :: strides, .step rfl ?_⟩
      simpa using follows

/-! ## The newest report -/

namespace ReportServer

/-- For every report that was stored the row of its device and policy has one that was stored too and
checked no earlier. -/
def Latest (s : ReportServer) : Prop :=
  ∀ entry ∈ s.stored, ∃ row,
    s.state.db.complianceReports.find? (entry.1, entry.2.policyId) = some row ∧
      (entry.1, row.detail) ∈ s.stored ∧ row.detail.policyId = entry.2.policyId ∧
        row.compliant = row.detail.compliant ∧ entry.2.checkedAt ≤ row.detail.checkedAt

/-- No report of the device and the policy that was checked later is stored. -/
def newest (s : ReportServer) (device : Uuid) (report : ComplianceReport) : Bool :=
  s.stored.all fun entry =>
    !(entry.1 = device && entry.2.policyId = report.policyId) || entry.2.checkedAt ≤ report.checkedAt

end ReportServer

/-- Whatever a step writes is the newest report of its device and policy. -/
def writesInOrder : Guard ReportServer ReportTask ReportChoice
  | s, _, .processing device (action :: _), .proceeds =>
      ((s.writes false action).all fun report => s.newest device report) = true
  | _, _, _, _ => True

instance : ∀ s others task choice, Decidable (writesInOrder s others task choice)
  | _, _, .processing _ (_ :: _), .proceeds => inferInstanceAs (Decidable (_ = true))
  | _, _, .processing _ (_ :: _), .fails => inferInstanceAs (Decidable True)
  | _, _, .processing _ (_ :: _), .evaluates _ => inferInstanceAs (Decidable True)
  | _, _, .processing _ [], _ => inferInstanceAs (Decidable True)
  | _, _, .evaluating .., _ => inferInstanceAs (Decidable True)
  | _, _, .arriving .., _ => inferInstanceAs (Decidable True)

section

variable {s : ReportServer} {device : Uuid} {report : ComplianceReport}

theorem newest_iff : s.newest device report = true ↔ ∀ entry ∈ s.stored, entry.1 = device →
    entry.2.policyId = report.policyId → entry.2.checkedAt ≤ report.checkedAt := by
  simp only [ReportServer.newest, List.all_eq_true, Bool.or_eq_true, Bool.not_eq_true',
    Bool.and_eq_false_iff, decide_eq_true_eq, decide_eq_false_iff_not]
  grind

/-- A statement that writes nothing leaves the table as it is. -/
theorem perform_of_none {fails : Bool} (none : s.writes fails (.upsertReport report) = none) :
    s.perform device fails (.upsertReport report) = s := by
  have state : Action.perform device s.state fails (.upsertReport report) = s.state := by
    rw [Action.perform]
    cases fails with
    | true => rfl
    | false =>
        have absent : s.state.db.policies.contains report.policyId = false := by
          simpa [ReportServer.writes] using none
        simp [Action.isStatement, Action.apply, Database.upsertReport, absent]
  rw [ReportServer.perform, state, none]
  rfl

theorem find?_perform {fails : Bool} {written : ComplianceReport} (device : Uuid) (key : Uuid × Uuid)
    (writes : s.writes fails (.upsertReport report) = some written) :
    written = report ∧
      (s.perform device fails (.upsertReport report)).stored = (device, report) :: s.stored ∧
      (s.perform device fails (.upsertReport report)).state.db.complianceReports.find? key =
        if key = (device, report.policyId) then
          some { compliant := report.compliant, detail := report, reportedAt := s.state.db.now }
        else s.state.db.complianceReports.find? key := by
  have condition : (!fails && s.state.db.policies.contains report.policyId) = true := by
    by_contra not
    simp [ReportServer.writes, not] at writes
  have same : written = report := by
    simpa [ReportServer.writes, condition, eq_comm] using writes
  rw [Bool.and_eq_true, Bool.not_eq_true'] at condition
  subst same
  refine ⟨rfl, by rw [ReportServer.perform, writes]; rfl, ?_⟩
  simp only [ReportServer.perform, Action.perform, condition.1, Bool.false_and, Bool.false_eq_true,
    if_false, Action.apply, Database.upsertReport, condition.2, if_true, Table.find?_upsert]
  by_cases own : key = (device, written.policyId)
  · rw [if_pos own, if_pos own]
    cases s.state.db.complianceReports.find? (device, written.policyId) <;> rfl
  · rw [if_neg own, if_neg own]

/-- The row of the newest report stays the newest just when the next one is newer. -/
theorem latest_perform_iff (latest : s.Latest) (device : Uuid) (fails : Bool)
    (report : ComplianceReport) :
    (s.perform device fails (.upsertReport report)).Latest ↔
      ((s.writes fails (.upsertReport report)).all fun report => s.newest device report) = true := by
  cases writes : s.writes fails (.upsertReport report) with
  | none =>
      rw [perform_of_none writes]
      exact iff_of_true latest rfl
  | some written =>
      obtain ⟨rfl, stored, -⟩ := find?_perform device (device, report.policyId) writes
      have found (key : Uuid × Uuid) := (find?_perform device key writes).2.2
      rw [Option.all_some, newest_iff]
      constructor
      · intro after entry member own same
        obtain ⟨row, row_found, -, -, -, newer⟩ := after entry (stored ▸ List.mem_cons_of_mem _ member)
        rw [found, if_pos (by rw [own, same])] at row_found
        cases row_found
        exact newer
      · intro newest entry member
        by_cases own : (entry.1, entry.2.policyId) = (device, written.policyId)
        · refine ⟨_, (found _).trans (if_pos own), ?_, ?_, rfl, ?_⟩
          · rw [stored, (Prod.ext_iff.mp own).1]
            exact List.mem_cons_self
          · exact (Prod.ext_iff.mp own).2.symm
          · rcases List.mem_cons.mp (stored ▸ member) with rfl | earlier
            · exact Int64.le_refl _
            · exact newest entry earlier (Prod.ext_iff.mp own).1 (Prod.ext_iff.mp own).2
        · rcases List.mem_cons.mp (stored ▸ member) with rfl | earlier
          · exact absurd rfl own
          · obtain ⟨row, row_found, row_stored, policy, compliant, newer⟩ := latest entry earlier
            exact ⟨row, ((found _).trans (if_neg own)).trans row_found,
              stored ▸ List.mem_cons_of_mem _ row_stored, policy, compliant, newer⟩

end

/-! ## Runs -/

def ReportTask.Reports : ReportTask → Prop
  | .evaluating .. => True
  | .arriving _ message => ∃ reports, message = .complianceReport reports
  | .processing _ actions => ∀ action ∈ actions, ∃ report, action = .upsertReport report

theorem reports_process {device : Uuid} {actions : List Action} (s : ReportServer) (fails : Bool)
    (own : (ReportTask.processing device actions).Reports) :
    ∀ next ∈ (s.process device fails actions).2, next.Reports := by
  cases actions with
  | nil => simp [ReportServer.process]
  | cons action rest =>
      obtain ⟨report, rfl⟩ := own action List.mem_cons_self
      simp only [ReportServer.process, Action.follow, List.nil_append, List.mem_singleton, forall_eq]
      exact fun action member => own action (List.mem_cons_of_mem _ member)

theorem latest_process_iff {device : Uuid} {actions : List Action} {s : ReportServer}
    {others : List ReportTask} (latest : s.Latest) (fails : Bool)
    (own : (ReportTask.processing device actions).Reports) :
    (s.process device fails actions).1.Latest ↔
      writesInOrder s others (.processing device actions) (if fails then .fails else .proceeds) := by
  cases actions with
  | nil => exact iff_of_true latest (by cases fails <;> trivial)
  | cons action rest =>
      obtain ⟨report, rfl⟩ := own action List.mem_cons_self
      have performed := latest_perform_iff latest device fails report
      cases fails with
      | false => exact performed
      | true => exact performed.trans (iff_of_true rfl trivial)

theorem reports_step {s s' : ReportServer} {task : ReportTask} {new : List ReportTask}
    {choice : ReportChoice} (own : task.Reports)
    (moved : reportProgram.step s task choice = some (s', new)) : ∀ next ∈ new, next.Reports := by
  have moved : s.turn task choice = some (s', new) := moved
  unfold ReportServer.turn at moved
  split at moved <;> simp only [Option.some.injEq, reduceCtorEq] at moved
  · cases moved
    simp [ReportTask.Reports]
  · cases moved
    simp
  · cases moved
    simp [ReportTask.Reports]
  · cases moved
    obtain ⟨reports, rfl⟩ := own
    simp [ReportTask.Reports, processAgentMessage]
  · rw [← show _ = new from congrArg Prod.snd moved]
    exact reports_process s false own
  · rw [← show _ = new from congrArg Prod.snd moved]
    exact reports_process s true own

/-- A step keeps the newest reports just when it meets the guard. -/
theorem latest_step_iff {s s' : ReportServer} {others new : List ReportTask} {task : ReportTask}
    {choice : ReportChoice} (latest : s.Latest) (own : task.Reports)
    (moved : reportProgram.step s task choice = some (s', new)) :
    s'.Latest ↔ writesInOrder s others task choice := by
  have moved : s.turn task choice = some (s', new) := moved
  unfold ReportServer.turn at moved
  split at moved <;> simp only [Option.some.injEq, reduceCtorEq] at moved
  · cases moved
    exact iff_of_true latest trivial
  · cases moved
    exact iff_of_true latest trivial
  · cases moved
    exact iff_of_true latest trivial
  · cases moved
    exact iff_of_true latest trivial
  · rw [← show _ = s' from congrArg Prod.fst moved]
    exact latest_process_iff latest false own
  · rw [← show _ = s' from congrArg Prod.fst moved]
    exact latest_process_iff latest true own

theorem latest_outline :
    Outline reportProgram writesInOrder ReportServer.Latest fun _ task => task.Reports where
  arrive s task _ request := by
    cases task with
    | evaluating => trivial
    | arriving | processing => cases request
  step s others task choice s' new latest own _ meets moved :=
    ⟨(latest_step_iff latest own moved).mpr meets, reports_step own moved⟩
  stable _ _ _ _ _ _ _ _ _ _ _ _ holds := holds

/-- Where every report is stored after those that were checked before it, the rows are the newest
reports; any other step breaks that. -/
theorem stored_reports_latest {state : AppState} {config : Config ReportServer ReportTask}
    (reached : Reach reportProgram writesInOrder ⟨⟨state, []⟩, []⟩ config) :
    config.shared.Latest ∧ ∀ task ∈ config.tasks, ∀ others choice s' new,
      reportProgram.step config.shared task choice = some (s', new) →
        (s'.Latest ↔ writesInOrder config.shared others task choice) := by
  have held := latest_outline.holds ⟨by simp [ReportServer.Latest], by simp⟩ reached
  exact ⟨held.shared, fun task member others choice s' new moved =>
    latest_step_iff held.shared (held.tasks task member) moved⟩

/-! ## A late report -/

def firewallPolicy : PolicyDefinition where
  id := Uuid.small 3
  name := "firewall"
  rules := [.firewall true]

def reportStart : Config ReportServer ReportTask where
  shared :=
    { state := .ofDatabase { Database.ofDevices .empty with
        policies := ⟨[(Uuid.small 3, { name := "firewall", rules := .array [], enabled := true })],
          List.nodup_singleton _⟩ }
      stored := [] }
  tasks := []

def firewallHost (firewallEnabled : Bool) (now : Int64) : Host where
  firewallEnabled
  usbStorageLoaded := false
  screenLock _ _ := .ok ()
  autoUpdates := true
  processes := []
  now

def firewallReport (firewallEnabled : Bool) (now : Int64) : List (Label ReportTask ReportChoice) :=
  [.arrive (.evaluating (Uuid.small 1) [firewallPolicy] []),
    .run 0 (.evaluates fun _ => firewallHost firewallEnabled now), .run 0 .proceeds,
    .run 0 .proceeds, .run 0 .proceeds, .run 0 .proceeds]

def firewallRow (config : Config ReportServer ReportTask) : Option (Bool × Int64) :=
  (config.shared.state.db.complianceReports.find? (Uuid.small 1, Uuid.small 3)).map fun row =>
    (row.compliant, row.detail.checkedAt)

theorem stored_reports_latest_twice : ∃ config,
    Reach reportProgram writesInOrder reportStart config ∧
      firewallRow config = some (true, 20) ∧ config.shared.Latest := by
  obtain ⟨config, reached, seen⟩ := Reach.of_observed reportProgram writesInOrder reportStart
    (firewallReport false 10 ++ firewallReport true 20) firewallRow (some (true, 20))
    (by decide +kernel)
  exact ⟨config, reached, seen, (stored_reports_latest reached).1⟩

/-- The first evaluation ends after the second: the firewall is on, and the row says that it is
off. -/
theorem late_report_stored : ¬ ∀ (state : AppState) (config : Config ReportServer ReportTask),
    Reach reportProgram Guard.any ⟨⟨state, []⟩, []⟩ config → config.shared.Latest := by
  intro latest
  obtain ⟨config, reached, seen⟩ := Reach.of_observed reportProgram Guard.any reportStart
    ([.arrive (.evaluating (Uuid.small 1) [firewallPolicy] []),
      .run 0 (.evaluates fun _ => firewallHost false 10),
      .arrive (.evaluating (Uuid.small 1) [firewallPolicy] []),
      .run 1 (.evaluates fun _ => firewallHost true 20), .run 1 .proceeds, .run 1 .proceeds,
      .run 1 .proceeds, .run 0 .proceeds, .run 0 .proceeds, .run 0 .proceeds])
    (fun config => (firewallRow config,
      config.shared.stored.map fun entry => (entry.1, entry.2.policyId, entry.2.checkedAt)))
    (some (false, 10), [(Uuid.small 1, Uuid.small 3, 10), (Uuid.small 1, Uuid.small 3, 20)])
    (by decide +kernel)
  obtain ⟨stays, both⟩ := Prod.mk.inj seen
  have newer : (Uuid.small 1, Uuid.small 3, (20 : Int64)) ∈ config.shared.stored.map fun entry =>
      (entry.1, entry.2.policyId, entry.2.checkedAt) := by
    rw [both]
    exact List.mem_cons_of_mem _ List.mem_cons_self
  obtain ⟨⟨device, report⟩, member, same⟩ := List.mem_map.mp newer
  obtain ⟨rfl, policy, checked⟩ : device = _ ∧ _ = _ ∧ _ = _ := by simpa using same
  obtain ⟨row, found, -, -, -, bound⟩ := latest _ config reached _ member
  rw [firewallRow, ← policy, found] at stays
  have late : row.detail.checkedAt = 10 := (Prod.mk.inj (Option.some.inj stays)).2
  rw [checked, late] at bound
  exact absurd bound (by decide)

end OsfmEdm
