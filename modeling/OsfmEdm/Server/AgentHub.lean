import OsfmEdm.Server.AlertEngine
import OsfmEdm.Server.State

/-!
The agent hub (`ws/agent_hub.rs`): authentication of an upgrade and the processing of an
agent's messages. Processing a message is a list of actions, each one SQL statement (or one
transaction) or one access to a shell map. A statement may fail; the hub ignores the error.
-/

namespace OsfmEdm

def MAX_EVENTS_PER_BATCH : Nat := 1000

/-- `authenticate_agent` on the token after `Bearer `, where there is one. -/
def authenticateAgent (sha256 : String → String) (db : Database) (device : Uuid)
    (presented : Option String) : Bool :=
  match presented with
  | none => false
  | some token =>
      match (db.devices.find? device).bind (·.authTokenHash) with
      | some hash => hash = sha256 token
      | none => false

/-! ## Inventory -/

inductive ColumnType where
  | text
  | date

/-- Whether a column takes a parameter bound as text: there is no assignment cast to a date. -/
def ColumnType.takesText : ColumnType → Bool
  | .text => true
  | .date => false

namespace Database

/-- `INSERT INTO installed_software`, whose last column `install_date` is a date. -/
def insertSoftware (db : Database) (device : Uuid) (item : SoftwareItem) : Option Database :=
  if [ColumnType.text, .text, .text, .date].all (·.takesText) then
    (db.installedSoftware.insert (device, item.name)
      { version := item.version, publisher := item.publisher, installDate := item.installDate }).map
      fun installedSoftware => { db with installedSoftware }
  else none

def coerceSeverity (severity : Option String) : String :=
  match severity.map (·.toLower) with
  | some "critical" => "critical"
  | some "important" => "important"
  | some "moderate" => "moderate"
  | some "low" => "low"
  | _ => "unknown"

def coerceStatus : String → String
  | "installed" => "installed"
  | "failed" => "failed"
  | _ => "pending"

def upsertPatch (db : Database) (device : Uuid) (patch : PatchItem) : Database :=
  let row : PatchRow :=
    { title := patch.title
      severity := coerceSeverity patch.severity
      status := coerceStatus patch.status }
  { db with patches := db.patches.upsert (device, patch.patchId) row fun _ => row }

/-- One transaction: nothing is stored when a statement fails. -/
def persistInventory (db : Database) (device : Uuid) (software : List SoftwareItem)
    (patches : List PatchItem) : Option Database := do
  let cleared :=
    { db with installedSoftware := db.installedSoftware.keep fun key _ => key.1 ≠ device }
  let stored ← software.foldlM (fun db item => db.insertSoftware device item) cleared
  return patches.foldl (fun db patch => db.upsertPatch device patch) stored

theorem insertSoftware_frame {db stored : Database} {device : Uuid} {item : SoftwareItem}
    (done : db.insertSoftware device item = some stored) :
    ∃ installedSoftware, stored = { db with installedSoftware } := by
  unfold insertSoftware at done
  split at done
  · obtain ⟨installedSoftware, _, rfl⟩ := Option.map_eq_some_iff.mp done
    exact ⟨installedSoftware, rfl⟩
  · cases done

theorem foldSoftware_frame {device : Uuid} (software : List SoftwareItem) {db stored : Database}
    (done : software.foldlM (fun db item => db.insertSoftware device item) db = some stored) :
    ∃ installedSoftware, stored = { db with installedSoftware } := by
  induction software generalizing db with
  | nil =>
      cases done
      exact ⟨stored.installedSoftware, rfl⟩
  | cons item items ih =>
      simp only [List.foldlM_cons, Option.bind_eq_bind, Option.bind_eq_some_iff] at done
      obtain ⟨middle, first, later⟩ := done
      obtain ⟨_, rfl⟩ := insertSoftware_frame first
      obtain ⟨installedSoftware, rfl⟩ := ih later
      exact ⟨installedSoftware, rfl⟩

theorem foldPatches_frame (device : Uuid) (patches : List PatchItem) (db : Database) :
    ∃ stored, patches.foldl (fun db patch => db.upsertPatch device patch) db =
      { db with patches := stored } := by
  induction patches generalizing db with
  | nil => exact ⟨db.patches, rfl⟩
  | cons patch patches ih => exact ih _

theorem persistInventory_frame {db stored : Database} {device : Uuid}
    {software : List SoftwareItem} {patches : List PatchItem}
    (done : db.persistInventory device software patches = some stored) :
    ∃ installedSoftware patches, stored = { db with installedSoftware, patches } := by
  simp only [persistInventory, Option.bind_eq_bind, Option.bind_eq_some_iff] at done
  obtain ⟨middle, first, committed⟩ := done
  obtain ⟨installedSoftware, rfl⟩ := foldSoftware_frame software first
  obtain ⟨patchRows, same⟩ := foldPatches_frame device patches
    { db with installedSoftware := installedSoftware }
  cases committed
  exact ⟨installedSoftware, patchRows, same⟩

/-! ## Statements -/

def heartbeat (db : Database) (device : Uuid) (agentVersion : String) : Database :=
  db.updateDevice device fun row =>
    { row with
      lastSeen := some db.now
      agentVersion := some agentVersion
      status := .online }

def insertMetrics (db : Database) (device : Uuid) (snapshot : TelemetrySnapshot) : Database :=
  { db with
    deviceMetrics := db.deviceMetrics ++
      [{ deviceId := device
         time := db.now
         cpuPct := some snapshot.cpuPct
         ramUsedMb := some snapshot.ramUsedMb.toInt64
         ramTotalMb := some snapshot.ramTotalMb.toInt64
         diskUsedGb := some snapshot.diskUsedGb
         diskTotalGb := some snapshot.diskTotalGb
         uptimeSecs := some snapshot.uptimeSecs.toInt64 }] }

def eventType : SystemEvent → String
  | .processStarted .. => "process_started"
  | .processExited .. => "process_exited"
  | .fileAccessed .. => "file_accessed"
  | .networkConnected .. => "network_connected"
  | .registryChanged .. => "registry_changed"

def insertEvent (db : Database) (device : Uuid) (event : SystemEvent) : Database :=
  { db with
    kernelEvents := db.kernelEvents ++
      [{ deviceId := device, time := db.now, eventType := eventType event, payload := event }] }

/-- The foreign key of `job_logs` and its check on `stream`. -/
def admitsJobLog (db : Database) (job : Uuid) (stream : String) : Bool :=
  db.jobs.contains job ∧ (stream = "stdout" ∨ stream = "stderr")

def insertJobLog (db : Database) (job : Uuid) (line stream : String) : Database :=
  if db.admitsJobLog job stream then
    { db with jobLogs := db.jobLogs ++ [{ jobId := job, line, stream }] }
  else db

def upsertReport (db : Database) (device : Uuid) (report : ComplianceReport) : Database :=
  let row : ComplianceRow :=
    { compliant := report.compliant, detail := report, reportedAt := db.now }
  if db.policies.contains report.policyId then
    { db with
      complianceReports :=
        db.complianceReports.upsert (device, report.policyId) row fun _ => row }
  else db

end Database

/-! ## Messages -/

inductive Action where
  | heartbeat (agentVersion : String)
  | insertMetrics (snapshot : TelemetrySnapshot)
  | selectAlertRules
  | selectLatestMetrics (rules : List AlertRule)
  | selectOpenAlert (rule : AlertRule)
  | insertAlertEvent (rule : AlertRule)
  | insertEvent (event : SystemEvent)
  | insertJobLog (job : Uuid) (line stream : String)
  | completeJob (job : Uuid) (exitCode : Int32)
  | upsertReport (report : ComplianceReport)
  | persistInventory (software : List SoftwareItem) (patches : List PatchItem)
  | relay (event : ShellEvent)
  | removeBroadcast (session : Uuid)
  | removeSession (session : Uuid)

/-- The actions `process_agent_message` starts with. -/
def processAgentMessage : AgentMessage → List Action
  | .heartbeat agentVersion => [.heartbeat agentVersion]
  | .telemetryReport snapshot => [.insertMetrics snapshot, .selectAlertRules]
  | .systemEventBatch events => (events.take MAX_EVENTS_PER_BATCH).map .insertEvent
  | .jobLog job line stream => [.insertJobLog job line stream]
  | .jobCompleted job exitCode => [.completeJob job exitCode]
  | .complianceReport reports => reports.map .upsertReport
  | .inventoryReport software patches => [.persistInventory software patches]
  | .shellOutput session data =>
      [.relay { sessionId := session, data, closed := false, exitCode := none }]
  | .shellClosed session exitCode =>
      [.relay { sessionId := session, data := "", closed := true, exitCode },
        .removeBroadcast session, .removeSession session]

namespace Action

/-- The action as a change of the state. -/
def apply (device : Uuid) (state : AppState) : Action → AppState
  | .heartbeat agentVersion => { state with db := state.db.heartbeat device agentVersion }
  | .insertMetrics snapshot => { state with db := state.db.insertMetrics device snapshot }
  | .selectAlertRules | .selectLatestMetrics _ | .selectOpenAlert _ => state
  | .insertAlertEvent rule => { state with db := state.db.insertAlertEvent rule device }
  | .insertEvent event => { state with db := state.db.insertEvent device event }
  | .insertJobLog job line stream => { state with db := state.db.insertJobLog job line stream }
  | .completeJob job exitCode => { state with db := state.db.markCompleted job exitCode }
  | .upsertReport report => { state with db := state.db.upsertReport device report }
  | .persistInventory software patches =>
      match state.db.persistInventory device software patches with
      | some db => { state with db }
      | none => state
  | .relay event =>
      if state.shellBroadcasts event.sessionId then
        { state with relayed := state.relayed ++ [event] }
      else state
  | .removeBroadcast session =>
      { state with shellBroadcasts := Function.update state.shellBroadcasts session false }
  | .removeSession session =>
      { state with shellSessions := Function.update state.shellSessions session none }

/-- Whether the action is a statement the database may fail. -/
def isStatement : Action → Bool
  | .relay _ | .removeBroadcast _ | .removeSession _ => false
  | _ => true

/-- The actions that follow. `check_alerts` reads a failed query as an empty one, and a failed
look for an open alert as none. -/
def follow (device : Uuid) (state : AppState) (fails : Bool) : Action → List Action
  | .selectAlertRules =>
      if fails then []
      else
        match state.db.selectAlertRules with
        | [] => []
        | rules => [.selectLatestMetrics rules]
  | .selectLatestMetrics rules =>
      if fails then []
      else
        match state.db.latestMetrics device with
        | none => []
        | some m => (triggeredRules rules m).map .selectOpenAlert
  | .selectOpenAlert rule =>
      if !fails && state.db.hasOpenAlert rule.id device then [] else [.insertAlertEvent rule]
  | _ => []

/-- One action, done or failed. -/
def perform (device : Uuid) (state : AppState) (fails : Bool) (action : Action) : AppState :=
  if fails && action.isStatement then state else action.apply device state

/-- What an action leaves of the state; `rows` for the statements on the tables that hold what agents
have reported. -/
inductive Left (device : Uuid) (state : AppState) : Action → AppState → Prop where
  | same {action} : Left device state action state
  | heartbeat {agentVersion} : Left device state (.heartbeat agentVersion)
      { state with db := state.db.heartbeat device agentVersion }
  | event {event} : Left device state (.insertEvent event)
      { state with db := state.db.insertEvent device event }
  | completed {job exitCode} : Left device state (.completeJob job exitCode)
      { state with db := state.db.markCompleted job exitCode }
  | rows {action deviceMetrics alertEvents jobLogs complianceReports installedSoftware patches}
      (statement : action.isStatement = true) : Left device state action
        { state with db := { state.db with deviceMetrics, alertEvents, jobLogs, complianceReports,
                                           installedSoftware, patches } }
  | relayed {event} : Left device state (.relay event)
      { state with relayed := state.relayed ++ [event] }
  | broadcast {session} : Left device state (.removeBroadcast session)
      { state with shellBroadcasts := Function.update state.shellBroadcasts session false }
  | session {session} : Left device state (.removeSession session)
      { state with shellSessions := Function.update state.shellSessions session none }

theorem left_perform (device : Uuid) (state : AppState) (fails : Bool) (action : Action) :
    Left device state action (action.perform device state fails) := by
  unfold perform
  split
  · exact .same
  cases action with
  | heartbeat agentVersion => exact .heartbeat
  | insertMetrics | insertAlertEvent => exact .rows rfl
  | selectAlertRules | selectLatestMetrics | selectOpenAlert => exact .same
  | insertEvent event => exact .event
  | insertJobLog job line stream =>
      simp only [apply, Database.insertJobLog]
      split
      · exact .rows rfl
      · exact .same
  | completeJob job exitCode => exact .completed
  | upsertReport report =>
      simp only [apply, Database.upsertReport]
      split
      · exact .rows rfl
      · exact .same
  | persistInventory software patches =>
      simp only [apply]
      split
      · rename_i db stored
        obtain ⟨_, _, rfl⟩ := Database.persistInventory_frame stored
        exact .rows rfl
      · exact .same
  | relay event =>
      simp only [apply]
      split
      · exact .relayed
      · exact .same
  | removeBroadcast session => exact .broadcast
  | removeSession session => exact .session

end Action

/-- The processing of a list of actions up to some point: what has changed and what is left. -/
inductive Processing (device : Uuid) (first : AppState) (actions : List Action) :
    AppState → List Action → Prop where
  | start : Processing device first actions first actions
  | action {state : AppState} {rest : List Action} {action : Action}
      (before : Processing device first actions state (action :: rest)) (fails : Bool) :
      Processing device first actions (action.perform device state fails)
        (action.follow device state fails ++ rest)

end OsfmEdm
