import OsfmEdm.Server.AgentHub

/-!
Which rows and shell sessions a device's messages reach. The part of the state that belongs
to other devices is a view of the state, and a message keeps to its device when processing
it leaves that view as it is, statement by statement.
-/

namespace OsfmEdm

/-- What does not belong to one device. -/
@[ext]
structure OthersView where
  now : Nat
  devices : Uuid → Option DeviceRow
  certificates : Table Uuid CertificateRow
  jobs : Uuid → Option JobRow
  jobLogs : List JobLogRow
  deviceMetrics : List MetricsRow
  kernelEvents : List KernelEventRow
  complianceReports : Uuid × Uuid → Option ComplianceRow
  installedSoftware : Uuid × String → Option SoftwareRow
  patches : Uuid × String → Option PatchRow
  alertRules : Table Uuid AlertRuleRow
  alertEvents : List AlertEventRow
  policies : Table Uuid PolicyRow
  policyAssignments : List PolicyAssignmentRow
  groupMembers : List GroupMemberRow
  connectedAgents : Uuid → Option AgentConnection
  shellSessions : Uuid → Option ShellSessionMeta
  shellBroadcasts : Uuid → Bool
  relayed : List ShellEvent

namespace AppState

/-- The row of a job created for another device. -/
def othersJob (state : AppState) (device job : Uuid) : Option JobRow :=
  (state.db.jobs.find? job).filter fun row => row.deviceId ≠ device

/-- The metadata of a shell session that runs on another device. -/
def othersSession (state : AppState) (device session : Uuid) : Option ShellSessionMeta :=
  (state.shellSessions session).filter fun shell => shell.deviceId ≠ device

def others (state : AppState) (device : Uuid) : OthersView where
  now := state.db.now
  devices other := if other = device then none else state.db.devices.find? other
  certificates := state.db.certificates
  jobs := state.othersJob device
  jobLogs := state.db.jobLogs.filter fun row => (state.othersJob device row.jobId).isSome
  deviceMetrics := state.db.deviceMetrics.filter fun row => row.deviceId ≠ device
  kernelEvents := state.db.kernelEvents.filter fun row => row.deviceId ≠ device
  complianceReports key := if key.1 = device then none else state.db.complianceReports.find? key
  installedSoftware key := if key.1 = device then none else state.db.installedSoftware.find? key
  patches key := if key.1 = device then none else state.db.patches.find? key
  alertRules := state.db.alertRules
  alertEvents := state.db.alertEvents.filter fun row => row.deviceId ≠ some device
  policies := state.db.policies
  policyAssignments := state.db.policyAssignments
  groupMembers := state.db.groupMembers
  connectedAgents := state.connectedAgents
  shellSessions := state.othersSession device
  shellBroadcasts session :=
    (state.othersSession device session).isSome && state.shellBroadcasts session
  relayed := state.relayed.filter fun event => (state.othersSession device event.sessionId).isSome

end AppState

/-- The row of a job after `UPDATE jobs SET status = $1, exit_code = $2, finished_at = now()`. -/
def JobRow.complete (row : JobRow) (now : Nat) (exitCode : Int32) : JobRow :=
  { row with
    status := Database.outcome exitCode
    exitCode := some exitCode
    finishedAt := some now }

/-- A message that names no job or session of another device, as far as it writes. -/
def Tied (view : OthersView) : AgentMessage → Prop
  | .jobLog job _ stream => stream = "stdout" ∨ stream = "stderr" → view.jobs job = none
  | .jobCompleted job exitCode =>
      ∀ row, view.jobs job = some row → row.complete view.now exitCode = row
  | .shellOutput session _ => view.shellBroadcasts session = false
  | .shellClosed session _ => view.shellSessions session = none
  | _ => True

/-- The same for an action. -/
def Action.Safe (view : OthersView) : Action → Prop
  | .insertJobLog job _ stream => stream = "stdout" ∨ stream = "stderr" → view.jobs job = none
  | .completeJob job exitCode =>
      ∀ row, view.jobs job = some row → row.complete view.now exitCode = row
  | .relay event => view.shellBroadcasts event.sessionId = false
  | .removeBroadcast session => view.shellBroadcasts session = false
  | .removeSession session => view.shellSessions session = none
  | _ => True

/-! ## Statements that name the device -/

section

variable (device : Uuid) (state : AppState)

theorem others_heartbeat (agentVersion : String) :
    AppState.others { state with db := state.db.heartbeat device agentVersion } device =
      state.others device := by
  apply OthersView.ext <;> try rfl
  funext other
  simp only [AppState.others, Database.heartbeat, Database.updateDevice, Table.find?_update]
  split <;> rfl

theorem others_insertMetrics (snapshot : TelemetrySnapshot) :
    AppState.others { state with db := state.db.insertMetrics device snapshot } device =
      state.others device := by
  apply OthersView.ext <;> try rfl
  simp [AppState.others, Database.insertMetrics]

theorem others_insertEvent (event : SystemEvent) :
    AppState.others { state with db := state.db.insertEvent device event } device =
      state.others device := by
  apply OthersView.ext <;> try rfl
  simp [AppState.others, Database.insertEvent]

theorem others_insertAlertEvent (rule : AlertRule) :
    AppState.others { state with db := state.db.insertAlertEvent rule device } device =
      state.others device := by
  apply OthersView.ext <;> try rfl
  simp [AppState.others, Database.insertAlertEvent]

theorem others_upsertReport (report : ComplianceReport) :
    AppState.others { state with db := state.db.upsertReport device report } device =
      state.others device := by
  unfold Database.upsertReport
  split
  · apply OthersView.ext <;> try rfl
    funext key
    simp only [AppState.others, Table.find?_upsert]
    by_cases own : key.1 = device
    · simp [own]
    · have different : key ≠ (device, report.policyId) := fun same => own (by rw [same])
      simp [own, different]
  · rfl

theorem others_upsertPatch (patch : PatchItem) :
    AppState.others { state with db := state.db.upsertPatch device patch } device =
      state.others device := by
  apply OthersView.ext <;> try rfl
  funext key
  simp only [AppState.others, Database.upsertPatch, Table.find?_upsert]
  by_cases own : key.1 = device
  · simp [own]
  · have different : key ≠ (device, patch.patchId) := fun same => own (by rw [same])
    simp [own, different]

theorem others_insertSoftware (item : SoftwareItem) {db : Database}
    (done : state.db.insertSoftware device item = some db) :
    AppState.others { state with db } device = state.others device := by
  simp [Database.insertSoftware, ColumnType.takesText] at done

theorem others_clearSoftware :
    AppState.others
      { state with
        db := { state.db with
          installedSoftware := state.db.installedSoftware.keep fun key _ => key.1 ≠ device } }
      device = state.others device := by
  apply OthersView.ext <;> try rfl
  funext key
  simp only [AppState.others, Table.find?_keep]
  by_cases own : key.1 = device
  · simp [own]
  · cases state.db.installedSoftware.find? key <;> simp [own, Option.filter]

end

theorem others_foldSoftware (device : Uuid) (software : List SoftwareItem) (state : AppState)
    {db : Database}
    (done : software.foldlM (fun db item => db.insertSoftware device item) state.db = some db) :
    AppState.others { state with db } device = state.others device := by
  induction software generalizing state with
  | nil =>
      cases done
      rfl
  | cons item items ih =>
      simp only [List.foldlM_cons, Option.bind_eq_bind, Option.bind_eq_some_iff] at done
      obtain ⟨stored, first, later⟩ := done
      have inserted := others_insertSoftware device state item first
      rw [← inserted]
      exact ih { state with db := stored } later

theorem others_foldPatches (device : Uuid) (patches : List PatchItem) (state : AppState) :
    AppState.others
      { state with db := patches.foldl (fun db patch => db.upsertPatch device patch) state.db }
      device = state.others device := by
  induction patches generalizing state with
  | nil => rfl
  | cons patch patches ih =>
      rw [List.foldl_cons, ← others_upsertPatch device state patch]
      exact ih { state with db := state.db.upsertPatch device patch }

theorem others_persistInventory (device : Uuid) (state : AppState) (software : List SoftwareItem)
    (patches : List PatchItem) {db : Database}
    (done : state.db.persistInventory device software patches = some db) :
    AppState.others { state with db } device = state.others device := by
  simp only [Database.persistInventory, Option.bind_eq_bind, Option.bind_eq_some_iff] at done
  obtain ⟨stored, inserted, committed⟩ := done
  cases committed
  calc
    _ = AppState.others { state with db := stored } device :=
        others_foldPatches device patches { state with db := stored }
    _ = _ := others_foldSoftware device software
        { state with
          db := { state.db with
            installedSoftware := state.db.installedSoftware.keep fun key _ => key.1 ≠ device } }
        inserted
    _ = _ := others_clearSoftware device state

/-! ## Statements and maps that take an id from the message -/

theorem others_insertJobLog {state : AppState} {device job : Uuid} {line stream : String}
    (safe : Action.Safe (state.others device) (.insertJobLog job line stream)) :
    AppState.others { state with db := state.db.insertJobLog job line stream } device =
      state.others device := by
  unfold Database.insertJobLog
  split
  · rename_i admitted
    simp only [Database.admitsJobLog, Bool.decide_and, Bool.and_eq_true, decide_eq_true_eq]
      at admitted
    have own : state.othersJob device job = none := safe admitted.2
    apply OthersView.ext <;> try rfl
    have same (other : Uuid) : AppState.othersJob
        { state with db := { state.db with jobLogs := state.db.jobLogs ++ [⟨job, line, stream⟩] } }
        device other = state.othersJob device other := rfl
    simp [AppState.others, same, own]
  · rfl

theorem othersJob_completed {state : AppState} {device job : Uuid} {exitCode : Int32}
    (safe : Action.Safe (state.others device) (.completeJob job exitCode)) (other : Uuid) :
    AppState.othersJob { state with db := state.db.markCompleted job exitCode } device other =
      state.othersJob device other := by
  simp only [AppState.othersJob, Database.markCompleted, Database.updateJob, Table.find?_update]
  by_cases same : other = job
  · subst same
    cases found : state.db.jobs.find? other with
    | none => simp
    | some row =>
        by_cases own : row.deviceId = device
        · simp [own, Option.filter]
        · have foreign : (state.others device).jobs other = some row := by
            simp [AppState.others, AppState.othersJob, found, own, Option.filter]
          have unchanged := safe row foreign
          simp only [JobRow.complete, AppState.others] at unchanged
          simp [own, Option.filter, unchanged]
  · simp [same]

theorem others_completeJob {state : AppState} {device job : Uuid} {exitCode : Int32}
    (safe : Action.Safe (state.others device) (.completeJob job exitCode)) :
    AppState.others { state with db := state.db.markCompleted job exitCode } device =
      state.others device := by
  have jobs := othersJob_completed safe
  apply OthersView.ext <;> try rfl
  · funext other
    exact jobs other
  · simp only [AppState.others, jobs]
    rfl

theorem others_relay {state : AppState} {device : Uuid} {event : ShellEvent}
    (safe : Action.Safe (state.others device) (.relay event))
    (subscribed : state.shellBroadcasts event.sessionId = true) :
    AppState.others { state with relayed := state.relayed ++ [event] } device =
      state.others device := by
  have own : state.othersSession device event.sessionId = none := by
    simpa [Action.Safe, AppState.others, subscribed] using safe
  have same (session : Uuid) :
      AppState.othersSession { state with relayed := state.relayed ++ [event] } device session =
        state.othersSession device session := rfl
  apply OthersView.ext <;> try rfl
  simp [AppState.others, same, own]

theorem others_removeBroadcast {state : AppState} {device session : Uuid}
    (safe : Action.Safe (state.others device) (.removeBroadcast session)) :
    AppState.others
      { state with shellBroadcasts := Function.update state.shellBroadcasts session false } device =
      state.others device := by
  apply OthersView.ext <;> try rfl
  funext other
  by_cases same : other = session
  · subst same
    simp only [Action.Safe] at safe
    rw [safe]
    simp [AppState.others]
  · simp only [AppState.others, Function.update_of_ne same]
    rfl

theorem others_removeSession {state : AppState} {device session : Uuid}
    (safe : Action.Safe (state.others device) (.removeSession session)) :
    AppState.others
      { state with shellSessions := Function.update state.shellSessions session none } device =
      state.others device := by
  have sessions (other : Uuid) : AppState.othersSession
      { state with shellSessions := Function.update state.shellSessions session none } device other =
        state.othersSession device other := by
    by_cases same : other = session
    · subst same
      simp only [Action.Safe] at safe
      change _ = (state.others device).shellSessions other
      rw [safe]
      simp [AppState.othersSession]
    · simp [AppState.othersSession, same]
  apply OthersView.ext <;> try rfl
  · funext other
    exact sessions other
  · funext other
    simp only [AppState.others, sessions]
  · simp only [AppState.others, sessions]

/-! ## Messages -/

/-- A safe action, done or failed, changes nothing that belongs to others. -/
theorem others_perform {state : AppState} {device : Uuid} {action : Action}
    (safe : action.Safe (state.others device)) (fails : Bool) :
    (action.perform device state fails).others device = state.others device := by
  unfold Action.perform
  split
  · rfl
  cases action with
  | heartbeat agentVersion => exact others_heartbeat device state agentVersion
  | insertMetrics snapshot => exact others_insertMetrics device state snapshot
  | selectAlertRules | selectLatestMetrics rules | selectOpenAlert rule => rfl
  | insertAlertEvent rule => exact others_insertAlertEvent device state rule
  | insertEvent event => exact others_insertEvent device state event
  | insertJobLog job line stream => exact others_insertJobLog safe
  | completeJob job exitCode => exact others_completeJob safe
  | upsertReport report => exact others_upsertReport device state report
  | persistInventory software patches =>
      simp only [Action.apply]
      split
      · rename_i db done
        exact others_persistInventory device state software patches done
      · rfl
  | relay event =>
      simp only [Action.apply]
      split
      · rename_i subscribed
        exact others_relay safe subscribed
      · rfl
  | removeBroadcast session => exact others_removeBroadcast safe
  | removeSession session => exact others_removeSession safe

theorem safe_follow (view : OthersView) (device : Uuid) (state : AppState) (fails : Bool)
    (action next : Action) (member : next ∈ action.follow device state fails) :
    next.Safe view := by
  cases action with
  | selectAlertRules =>
      simp only [Action.follow] at member
      repeat' split at member
      all_goals simp only [List.not_mem_nil, List.mem_singleton] at member
      rw [member]
      trivial
  | selectLatestMetrics rules =>
      simp only [Action.follow] at member
      repeat' split at member
      all_goals simp only [List.not_mem_nil, List.mem_map] at member
      obtain ⟨rule, _, same⟩ := member
      rw [← same]
      trivial
  | selectOpenAlert rule =>
      simp only [Action.follow] at member
      split at member
      all_goals simp only [List.not_mem_nil, List.mem_singleton] at member
      rw [member]
      trivial
  | _ => cases member

/-- Along the processing of safe actions the view stays, so what is left stays safe. -/
theorem others_processing {device : Uuid} {first state : AppState} {actions rest : List Action}
    (processing : Processing device first actions state rest)
    (safe : ∀ action ∈ actions, action.Safe (first.others device)) :
    state.others device = first.others device ∧
      ∀ action ∈ rest, action.Safe (first.others device) := by
  induction processing with
  | start => exact ⟨rfl, safe⟩
  | @action state rest action before fails ih =>
      obtain ⟨same, left⟩ := ih
      have head : action.Safe (state.others device) := by
        rw [same]
        exact left action List.mem_cons_self
      refine ⟨(others_perform head fails).trans same, ?_⟩
      intro next member
      rcases List.mem_append.mp member with followed | later
      · exact safe_follow _ device state fails action next followed
      · exact left next (List.mem_cons_of_mem _ later)

theorem safe_of_tied {view : OthersView} {message : AgentMessage} (tied : Tied view message)
    (noBroadcast : ∀ session, view.shellSessions session = none →
      view.shellBroadcasts session = false) :
    ∀ action ∈ processAgentMessage message, action.Safe view := by
  intro action member
  cases message with
  | shellClosed session exitCode =>
      simp only [processAgentMessage, List.mem_cons, List.not_mem_nil, or_false] at member
      rcases member with same | same | same <;> rw [same]
      · exact noBroadcast session tied
      · exact noBroadcast session tied
      · exact tied
  | systemEventBatch events =>
      obtain ⟨event, _, same⟩ := List.mem_map.mp member
      rw [← same]
      trivial
  | complianceReport reports =>
      obtain ⟨report, _, same⟩ := List.mem_map.mp member
      rw [← same]
      trivial
  | telemetryReport snapshot =>
      simp only [processAgentMessage, List.mem_cons, List.not_mem_nil, or_false] at member
      rcases member with same | same <;> rw [same] <;> trivial
  | heartbeat agentVersion | inventoryReport software patches =>
      rw [List.mem_singleton.mp member]
      trivial
  | jobLog job line stream | jobCompleted job exitCode | shellOutput session data =>
      rw [List.mem_singleton.mp member]
      exact tied

theorem Processing.first {device : Uuid} {state : AppState} {action : Action} {rest : List Action} :
    Processing device state (action :: rest) (action.perform device state false)
      (action.follow device state false ++ rest) :=
  .action .start false

theorem tied_of_kept {state : AppState} {device : Uuid} {message : AgentMessage}
    (kept : ∀ after rest, Processing device state (processAgentMessage message) after rest →
      after.others device = state.others device) :
    Tied (state.others device) message := by
  cases message with
  | jobLog job line stream =>
      intro admitted
      have same := congrArg OthersView.jobLogs (kept _ _ Processing.first)
      cases found : state.othersJob device job with
      | none => exact found
      | some row =>
          exfalso
          have present : state.db.jobs.contains job = true := by
            cases located : state.db.jobs.find? job with
            | none => simp [AppState.othersJob, located] at found
            | some _ => simp [Table.contains, located]
          have jobs (other : Uuid) : AppState.othersJob { state with
              db := { state.db with jobLogs := state.db.jobLogs ++ [⟨job, line, stream⟩] } }
              device other = state.othersJob device other := rfl
          have longer := congrArg List.length same
          simp [Action.perform, Action.isStatement, Action.apply, Database.insertJobLog,
            Database.admitsJobLog, present, admitted, AppState.others, jobs, found] at longer
  | jobCompleted job exitCode =>
      intro row foreign
      have same := congrFun (congrArg OthersView.jobs (kept _ _ Processing.first)) job
      rw [foreign] at same
      have located : state.db.jobs.find? job = some row ∧ row.deviceId ≠ device := by
        simpa [AppState.others, AppState.othersJob, Option.filter_eq_some_iff] using foreign
      simp only [AppState.others, AppState.othersJob, Action.perform, Action.isStatement,
        Action.apply, Database.markCompleted, Database.updateJob, Table.find?_update, if_true,
        located.1, Bool.false_and, Bool.false_eq_true, if_false, Option.map_some] at same
      simpa [Option.filter, located.2, JobRow.complete, AppState.others] using same
  | shellOutput session data =>
      change (state.others device).shellBroadcasts session = false
      cases subscribed : (state.others device).shellBroadcasts session with
      | false => rfl
      | true =>
          exfalso
          simp only [AppState.others, Bool.and_eq_true] at subscribed
          have same := congrArg OthersView.relayed (kept _ _ Processing.first)
          have sessions (events : List ShellEvent) (other : Uuid) :
              AppState.othersSession { state with relayed := events } device other =
                state.othersSession device other := rfl
          have longer := congrArg List.length same
          simp [Action.perform, Action.isStatement, Action.apply, subscribed.1, subscribed.2,
            AppState.others, sessions] at longer
  | shellClosed session exitCode =>
      have relayed : Processing device state
          [.relay ⟨session, "", true, exitCode⟩, .removeBroadcast session, .removeSession session]
          _ _ := Processing.first
      have all := kept _ _ ((relayed.action false).action false)
      have same := congrFun (congrArg OthersView.shellSessions all) session
      change (state.others device).shellSessions session = none
      rw [← same]
      simp [AppState.others, AppState.othersSession, Action.perform, Action.isStatement,
        Action.apply]
  | _ => trivial

/-- Every way of processing a message leaves what belongs to other devices alone exactly when the
message names no job and no shell session of another device. -/
theorem processing_keeps_others_iff (state : AppState) (device : Uuid) (message : AgentMessage) :
    (∀ after rest, Processing device state (processAgentMessage message) after rest →
      after.others device = state.others device) ↔ Tied (state.others device) message := by
  constructor
  · exact tied_of_kept
  · intro tied after rest processing
    have noBroadcast (session : Uuid) (own : (state.others device).shellSessions session = none) :
        (state.others device).shellBroadcasts session = false := by
      change state.othersSession device session = none at own
      simp [AppState.others, own]
    exact (others_processing processing (safe_of_tied tied noBroadcast)).1

/-- A state in which another device's job waits for its answer. -/
def othersJobWaits : AppState :=
  .ofDatabase
    { Database.ofDevices .empty with
      jobs := ⟨[(Uuid.small 9,
        { deviceId := Uuid.small 2
          payload := JobPayload.codec.encode .collectInventory
          status := .dispatched
          exitCode := none
          createdBy := none
          finishedAt := none })], by simp⟩ }

/-- A device that reports the job of another device completes that job. -/
theorem jobCompleted_reaches_others :
    ¬ ∀ (state : AppState) (device : Uuid) (message : AgentMessage) (after : AppState)
        (rest : List Action),
      Processing device state (processAgentMessage message) after rest →
      after.others device = state.others device := by
  intro isolated
  have kept := isolated othersJobWaits (Uuid.small 1) (.jobCompleted (Uuid.small 9) 0) _ _
    Processing.first
  have job := congrFun (congrArg OthersView.jobs kept) (Uuid.small 9)
  have status := congrArg (Option.map JobRow.status) job
  exact absurd status (by decide)

end OsfmEdm
