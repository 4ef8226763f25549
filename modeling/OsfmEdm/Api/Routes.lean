import OsfmEdm.Fleet.Step
import OsfmEdm.Server.Handlers

/-!
The handlers of the routes under `/api/v1` that authenticate their caller, router by router. An
answer has the columns the tables here have; a `SELECT` with an order the tables do not know gives
its rows as they stand.
-/

namespace OsfmEdm

open JsonText

namespace Api

open ApiHandler

def requireAdmin (auth : AuthUser) : ApiHandler Unit := check auth.requireAdmin

/-! ## Devices (`api/devices.rs`) -/

structure DeviceAnswer where
  id : Uuid
  hostname : String
  agentVersion : Option String
  lastSeen : Option Nat
  status : DeviceStatus
deriving DecidableEq

structure UpdateDeviceRequest where
  hostname : Option String
deriving DecidableEq

structure TelemetryQuery where
  since : Option Nat
  upTo : Option Nat
deriving DecidableEq

def deviceNotFound (device : Uuid) : ApiError := .notFound ("Device " ++ device.text ++ " not found")

def deviceAnswer (t : ApiTables) (id : Uuid) (row : DeviceRow) : DeviceAnswer where
  id
  hostname := (t.hostnames.find? id).getD ""
  agentVersion := row.agentVersion
  lastSeen := row.lastSeen
  status := row.status

def selectDevice (t : ApiTables) (id : Uuid) : Option DeviceAnswer :=
  (t.db.devices.find? id).map (deviceAnswer t id)

def listDevices : ApiHandler (List DeviceAnswer) :=
  query fun t => t.db.devices.rows.reverse.map fun row => deviceAnswer t row.1 row.2

def getDevice (id : Uuid) : ApiHandler DeviceAnswer := do
  let device ← query fun t => selectDevice t id
  orThrow (deviceNotFound id) device

def updateDevice (auth : AuthUser) (id : Uuid) (body : UpdateDeviceRequest) :
    ApiHandler DeviceAnswer := do
  requireAdmin auth
  let found ← query fun t => t.db.deviceExists id
  require found (deviceNotFound id)
  body.hostname.forM fun hostname =>
    execute fun t => { t with hostnames := t.hostnames.update id fun _ => hostname }
  -- `fetch_one`: no row is an error of the database
  let device ← query fun t => selectDevice t id
  orThrow .database device

def deleteDevice (auth : AuthUser) (id : Uuid) : ApiHandler Unit := do
  requireAdmin auth
  let found ← query fun t => t.db.deviceExists id
  require found (deviceNotFound id)
  execute fun t => t.updateDb (·.revokeCertificates id)
  execute fun t => t.updateDb (·.dropCredential id)
  access (fun s => { s with app := s.app.disconnectAgent id }) fun _ => .ok ()

/-- Without bounds, the last 24 hours. -/
def getTelemetry (id : Uuid) (params : TelemetryQuery) : ApiHandler (List MetricsRow) :=
  query fun t =>
    t.db.deviceMetrics.filter fun row =>
      row.deviceId = id ∧ params.since.getD (t.db.now - hours 24) ≤ row.time ∧
        row.time ≤ params.upTo.getD t.db.now

def pushToAgent (device : Uuid) (message : ServerMessage) : ApiHandler Unit := do
  let sent ← sendToAgent device message
  require sent (notConnected device)

def requestInventory (auth : AuthUser) (id : Uuid) : ApiHandler Unit := do
  requireAdmin auth
  pushToAgent id .requestInventory

def requestTelemetry (auth : AuthUser) (id : Uuid) : ApiHandler Unit := do
  requireAdmin auth
  pushToAgent id .requestTelemetry

/-! ## Policies (`api/policies.rs`) -/

def selectPolicy (t : ApiTables) (id : Uuid) : Option PolicyRow := t.db.policies.find? id

/-- A failed query counts as an empty one. -/
def pushPolicyToAgents (policy : Uuid) : ApiHandler Unit := do
  let selected ← recover none (query fun t => t.db.enabledPolicy policy)
  match selected with
  | none => pure ()
  | some definition =>
      let devices ← recover [] (query fun t => t.db.devicesOf policy)
      devices.forM fun device => do
        let _ ← sendToAgent device (.pushPolicy [definition])

def createPolicy (auth : AuthUser) (body : CreatePolicyRequest) : ApiHandler Uuid := do
  requireAdmin auth
  insertion fun policy t => (t.db.insertPolicy policy body.name body.rules).map t.withDb

def listPolicies : ApiHandler (List (Uuid × PolicyRow)) := query fun t => t.db.policies.rows.reverse

def getPolicy (id : Uuid) : ApiHandler PolicyRow := do
  let policy ← query fun t => selectPolicy t id
  orThrow (PolicyServer.policyNotFound id) policy

def updatePolicy (auth : AuthUser) (id : Uuid) (body : UpdatePolicyRequest) :
    ApiHandler PolicyRow := do
  requireAdmin auth
  let found ← query fun t => t.db.policies.contains id
  require found (PolicyServer.policyNotFound id)
  body.columns.forM fun column => execute fun t => t.updateDb (·.updatePolicy id column.set)
  let policy ← query fun t => selectPolicy t id
  let policy ← orThrow .database policy
  pushPolicyToAgents id
  pure policy

def deletePolicy (auth : AuthUser) (id : Uuid) : ApiHandler Unit := do
  requireAdmin auth
  let deleted ← statement fun t =>
    if t.db.policies.contains id then some (t.updateDb (·.deletePolicy id), true)
    else some (t, false)
  require deleted (PolicyServer.policyNotFound id)

def assignPolicy (auth : AuthUser) (id : Uuid) (body : AssignPolicyRequest) : ApiHandler Unit := do
  requireAdmin auth
  check (PolicyServer.verifyTarget body)
  statement fun t =>
    (t.db.assignPolicy id body.deviceId body.groupId).map fun db => (t.withDb db, ())
  pushPolicyToAgents id

def unassignPolicy (auth : AuthUser) (id : Uuid) (body : AssignPolicyRequest) :
    ApiHandler Unit := do
  requireAdmin auth
  execute fun t => t.updateDb (·.unassignPolicy id body.deviceId body.groupId)

/-! ## Jobs (`api/jobs.rs`) -/

structure CreateJobRequest where
  deviceId : Uuid
  payload : Json

structure ListJobsQuery where
  deviceId : Option Uuid
  status : Option String
deriving DecidableEq

def jobNotFound (job : Uuid) : ApiError := .notFound ("Job " ++ job.text ++ " not found")

def createJob (context : ApiContext) (auth : AuthUser) (body : CreateJobRequest) :
    ApiHandler Uuid := do
  requireAdmin auth
  let found ← query fun t => t.db.deviceExists body.deviceId
  require found (deviceNotFound body.deviceId)
  let job ← insertion fun job t =>
    (t.db.insertJob job body.deviceId body.payload (some auth.userId)).map t.withDb
  let payload ← orThrow
    (.badRequest ("Invalid job payload: " ++ context.decodeError body.payload))
    (JobPayload.codec.decode body.payload)
  let dispatched ← sendToAgent body.deviceId
    (.dispatchJob job payload (signJob context.jobSigner job payload))
  if dispatched then
    recover () (execute fun t => t.updateDb (·.markDispatched job))
  pure job

def listJobs (params : ListJobsQuery) : ApiHandler (List (Uuid × JobRow)) :=
  query fun t =>
    (t.db.jobs.rows.reverse.filter fun row =>
      params.deviceId.all (· = row.2.deviceId) ∧ params.status.all (· = row.2.status.text)).take 100

def getJob (id : Uuid) : ApiHandler (JobRow × List JobLogRow) := do
  let job ← query fun t => t.db.jobs.find? id
  let job ← orThrow (jobNotFound id) job
  let logs ← query fun t => (t.db.jobLogs.filter fun row => row.jobId = id).take 5000
  pure (job, logs)

def cancelJob (auth : AuthUser) (id : Uuid) : ApiHandler Unit := do
  requireAdmin auth
  let job ← query fun t => t.db.jobs.find? id
  let job ← orThrow (jobNotFound id) job
  require (!job.status.terminal) (.conflict ("Job is already " ++ job.status.text))
  let _ ← sendToAgent job.deviceId (.revokeJob id)
  recover () (execute fun t => t.updateDb (·.markCancelled id))

/-! ## Groups (`api/groups.rs`) -/

structure AddMemberRequest where
  deviceId : Uuid
deriving DecidableEq

def groupNotFound (group : Uuid) : ApiError := .notFound ("Group " ++ group.text ++ " not found")

def createGroup (auth : AuthUser) (body : CreateGroupRequest) : ApiHandler Uuid := do
  requireAdmin auth
  insertion fun group t => (t.db.insertGroup group body.name body.description).map t.withDb

def listGroups : ApiHandler (List (Uuid × DeviceGroupRow)) := query fun t => t.db.deviceGroups.rows

def getGroup (id : Uuid) : ApiHandler DeviceGroupRow := do
  let group ← query fun t => t.db.deviceGroups.find? id
  orThrow (groupNotFound id) group

def deleteGroup (auth : AuthUser) (id : Uuid) : ApiHandler Unit := do
  requireAdmin auth
  let deleted ← statement fun t =>
    if t.db.deviceGroups.contains id then some (t.updateDb (·.deleteGroup id), true)
    else some (t, false)
  require deleted (groupNotFound id)

def listMembers (id : Uuid) : ApiHandler (List DeviceAnswer) :=
  query fun t =>
    (t.db.groupMembers.filter fun row => row.groupId = id).filterMap fun row =>
      selectDevice t row.deviceId

def addMember (auth : AuthUser) (id : Uuid) (body : AddMemberRequest) : ApiHandler Unit := do
  requireAdmin auth
  statement fun t => (t.db.addMember id body.deviceId).map fun db => (t.withDb db, ())

def removeMember (auth : AuthUser) (id device : Uuid) : ApiHandler Unit := do
  requireAdmin auth
  execute fun t => t.updateDb (·.removeMember id device)

/-! ## Software, patches and reports -/

def listDeviceSoftware (device : Uuid) : ApiHandler (List ((Uuid × String) × SoftwareRow)) :=
  query fun t => t.db.installedSoftware.rows.filter fun row => row.1.1 = device

structure PatchStatus where
  pendingCount : Nat
  patches : List ((Uuid × String) × PatchRow)
deriving DecidableEq

def devicePatchStatus (device : Uuid) : ApiHandler PatchStatus := do
  let patches ← query fun t => (t.db.patches.rows.filter fun row => row.1.1 = device).take 500
  pure { pendingCount := patches.countP fun row => row.2.status = "pending", patches }

structure PatchSummary where
  totalDevices : Nat
  devicesWithPendingPatches : Nat
  pendingBySeverity : List (String × Nat)
deriving DecidableEq

def pendingPatches (t : ApiTables) : List ((Uuid × String) × PatchRow) :=
  t.db.patches.rows.filter fun row => row.2.status = "pending"

def fleetPatchSummary : ApiHandler PatchSummary := do
  let totalDevices ← query fun t => t.db.devices.rows.length
  let devicesWithPendingPatches ← query fun t =>
    ((pendingPatches t).map fun row => row.1.1).dedup.length
  let pendingBySeverity ← query fun t =>
    let severities := (pendingPatches t).map fun row => row.2.severity
    severities.dedup.map fun severity => (severity, severities.count severity)
  pure { totalDevices, devicesWithPendingPatches, pendingBySeverity }

structure ComplianceSummary where
  totalEvaluations : Nat
  compliant : Nat
  nonCompliant : Int
  recentViolations : List ((Uuid × Uuid) × ComplianceRow)

def latestFirst (t : ApiTables) : List ((Uuid × Uuid) × ComplianceRow) :=
  t.db.complianceReports.rows.mergeSort fun first second =>
    second.2.reportedAt ≤ first.2.reportedAt

/-- The rate is left out. -/
def fleetCompliance : ApiHandler ComplianceSummary := do
  let total ← query fun t => t.db.complianceReports.rows.length
  let compliant ← query fun t => t.db.complianceReports.rows.countP fun row => row.2.compliant
  let recent ← query fun t =>
    ((latestFirst t).filter fun row => !row.2.compliant).take 20
  pure
    { totalEvaluations := total, compliant, nonCompliant := total - compliant,
      recentViolations := recent }

structure DeviceCompliance where
  totalPolicies : Nat
  compliant : Nat
  nonCompliant : Nat
  reports : List ((Uuid × Uuid) × ComplianceRow)

def deviceCompliance (device : Uuid) : ApiHandler DeviceCompliance := do
  let reports ← query fun t => (latestFirst t).filter fun row => row.1.1 = device
  let compliant := reports.countP fun row => row.2.compliant
  pure
    { totalPolicies := reports.length, compliant, nonCompliant := reports.length - compliant,
      reports }

/-! ## Settings (`api/settings.rs`) -/

/-- The configuration is constant and left out. -/
def getSettings : ApiHandler Unit := pure ()

/-- The number of connected agents is left out. -/
structure ServerStatus where
  totalDevices : Nat
  onlineDevices : Nat
  totalUsers : Nat
  totalPolicies : Nat
  pendingJobs : Nat
deriving DecidableEq

def serverStatus : ApiHandler ServerStatus := do
  let totalDevices ← query fun t => t.db.devices.rows.length
  let onlineDevices ← query fun t => t.db.devices.rows.countP fun row => row.2.status = .online
  let totalUsers ← query fun t => t.users.rows.length
  let totalPolicies ← query fun t => t.db.policies.rows.length
  let pendingJobs ← query fun t =>
    t.db.jobs.rows.countP fun row => row.2.status = .pending ∨ row.2.status = .dispatched
  pure { totalDevices, onlineDevices, totalUsers, totalPolicies, pendingJobs }

/-! ## Shell (`api/shell.rs`) -/

structure ShellInputBody where
  data : String
deriving DecidableEq

def openShell (auth : AuthUser) (device : Uuid) : ApiHandler Uuid := do
  requireAdmin auth
  let session ← generate
  access (fun s => { s with app := s.app.insertBroadcast session }) fun _ => .ok ()
  let sent ← sendToAgent device (.openShell session)
  if sent then
    access (·.bindSession auth session device) fun _ => .ok ()
    pure session
  else
    access (fun s => { s with app := s.app.removeBroadcast session }) fun _ => .ok ()
    throw (notConnected device)

def authorizeSession (auth : AuthUser) (session : Uuid) : ApiHandler ShellSessionMeta :=
  access id fun s => OsfmEdm.authorizeSession s.app session auth

def sendInput (auth : AuthUser) (session : Uuid) (body : ShellInputBody) : ApiHandler Unit := do
  let found ← authorizeSession auth session
  let sent ← sendToAgent found.deviceId (.shellInput session body.data)
  require sent (notConnected found.deviceId)

def closeShell (auth : AuthUser) (session : Uuid) : ApiHandler Unit := do
  let found ← authorizeSession auth session
  let sent ← sendToAgent found.deviceId (.closeShell session)
  require sent (notConnected found.deviceId)
  access (·.removeSession session) fun _ => .ok ()

def streamShell (auth : AuthUser) (session : Uuid) : ApiHandler Unit := do
  let _ ← authorizeSession auth session
  access id fun s =>
    if s.app.shellBroadcasts session then .ok ()
    else .error (.notFound ("Shell session " ++ session.text ++ " not found or already closed"))

/-! ## Alerts (`api/alerts.rs`) -/

structure ListEventsQuery where
  deviceId : Option Uuid
  severity : Option String
  unresolved : Option Bool
  limit : Option Int
  offset : Option Int
deriving DecidableEq

def createRule (auth : AuthUser) (body : CreateRuleRequest) : ApiHandler Uuid := do
  requireAdmin auth
  insertion fun rule t => (t.db.alertRules.insert rule body.row).map fun alertRules =>
    t.withDb { t.db with alertRules }

def listRules : ApiHandler (List (Uuid × AlertRuleRow)) := query fun t => t.db.alertRules.rows.reverse

def getRule (id : Uuid) : ApiHandler AlertRuleRow := do
  let rule ← query fun t => t.db.alertRules.find? id
  orThrow (AlertServer.ruleNotFound id) rule

def updateRule (auth : AuthUser) (id : Uuid) (body : UpdateRuleRequest) :
    ApiHandler AlertRuleRow := do
  requireAdmin auth
  let found ← query fun t => t.db.alertRules.contains id
  require found (AlertServer.ruleNotFound id)
  body.statements.forM fun change =>
    execute fun t => t.updateDb fun db => { db with alertRules := db.alertRules.update id change }
  let rule ← query fun t => t.db.alertRules.find? id
  let rule ← orThrow .database rule
  -- the column `condition` is one that no modelled statement reads
  if rule.metric.isSome || rule.operator.isSome || rule.threshold.isSome then
    execute fun t => t
  pure rule

def deleteRule (auth : AuthUser) (id : Uuid) : ApiHandler Unit := do
  requireAdmin auth
  let deleted ← statement fun t =>
    if t.db.alertRules.contains id then some (t.updateDb (·.deleteRule id), true)
    else some (t, false)
  require deleted (AlertServer.ruleNotFound id)

/-- Postgres refuses a negative limit or offset. -/
def listEvents (params : ListEventsQuery) : ApiHandler (List AlertEventRow) :=
  let limit := min (params.limit.getD 100) 500
  let offset := params.offset.getD 0
  statement fun t =>
    if limit < 0 ∨ offset < 0 then none
    else
      let events := t.db.alertEvents.reverse.filter fun row =>
        params.deviceId.all (some · = row.deviceId) ∧ params.severity.all (· = row.severity) ∧
          (params.unresolved.getD false → row.resolvedAt = none)
      some (t, (events.drop offset.toNat).take limit.toNat)

def resolveEvent (auth : AuthUser) (id : Uuid) : ApiHandler Unit := do
  requireAdmin auth
  let resolved ← located fun place t =>
    match place.bind fun place => (t.db.alertEvents[place]?).map fun row => (place, row) with
    | some (place, row) => (t.updateDb (·.resolveEvent place), row.resolvedAt.isNone)
    | none => (t, false)
  require resolved (AlertServer.eventNotFound id)

/-! ## Enrollment (`api/enroll.rs`) -/

def createEnrollmentToken (context : ApiContext) (auth : AuthUser) : ApiHandler String := do
  requireAdmin auth
  let token ← generate
  statement fun t =>
    (t.insertToken (context.hexSha256 token.text) auth.userId).map fun t => (t, ())
  pure token.text

end Api

/-! ## The routers (`api/mod.rs`) -/

/-- A request with its path, query and body decoded; of one that an extractor refuses, the
rejection. -/
inductive Route where
  | refused (rejection : ApiError)
  | listDevices
  | getDevice (id : Uuid)
  | updateDevice (id : Uuid) (body : Api.UpdateDeviceRequest)
  | deleteDevice (id : Uuid)
  | getTelemetry (id : Uuid) (params : Api.TelemetryQuery)
  | requestInventory (id : Uuid)
  | requestTelemetry (id : Uuid)
  | createPolicy (body : CreatePolicyRequest)
  | listPolicies
  | getPolicy (id : Uuid)
  | updatePolicy (id : Uuid) (body : UpdatePolicyRequest)
  | deletePolicy (id : Uuid)
  | assignPolicy (id : Uuid) (body : AssignPolicyRequest)
  | unassignPolicy (id : Uuid) (body : AssignPolicyRequest)
  | createJob (body : Api.CreateJobRequest)
  | listJobs (params : Api.ListJobsQuery)
  | getJob (id : Uuid)
  | cancelJob (id : Uuid)
  | createGroup (body : CreateGroupRequest)
  | listGroups
  | getGroup (id : Uuid)
  | deleteGroup (id : Uuid)
  | listMembers (id : Uuid)
  | addMember (id : Uuid) (body : Api.AddMemberRequest)
  | removeMember (id device : Uuid)
  | listDeviceSoftware (device : Uuid)
  | devicePatchStatus (device : Uuid)
  | fleetPatchSummary
  | fleetCompliance
  | deviceCompliance (device : Uuid)
  | getSettings
  | serverStatus
  | openShell (device : Uuid)
  | closeShell (session : Uuid)
  | sendInput (session : Uuid) (body : Api.ShellInputBody)
  | streamShell (session : Uuid)
  | createRule (body : CreateRuleRequest)
  | listRules
  | getRule (id : Uuid)
  | updateRule (id : Uuid) (body : UpdateRuleRequest)
  | deleteRule (id : Uuid)
  | listEvents (params : Api.ListEventsQuery)
  | resolveEvent (id : Uuid)
  | createEnrollmentToken

/-- The answer of a route is the JSON of what its handler gives. -/
def Route.handler (context : ApiContext) (auth : AuthUser) : Route → ApiHandler Unit
  | .refused rejection => throw rejection
  | .listDevices => discard Api.listDevices
  | .getDevice id => discard (Api.getDevice id)
  | .updateDevice id body => discard (Api.updateDevice auth id body)
  | .deleteDevice id => Api.deleteDevice auth id
  | .getTelemetry id params => discard (Api.getTelemetry id params)
  | .requestInventory id => Api.requestInventory auth id
  | .requestTelemetry id => Api.requestTelemetry auth id
  | .createPolicy body => discard (Api.createPolicy auth body)
  | .listPolicies => discard Api.listPolicies
  | .getPolicy id => discard (Api.getPolicy id)
  | .updatePolicy id body => discard (Api.updatePolicy auth id body)
  | .deletePolicy id => Api.deletePolicy auth id
  | .assignPolicy id body => Api.assignPolicy auth id body
  | .unassignPolicy id body => Api.unassignPolicy auth id body
  | .createJob body => discard (Api.createJob context auth body)
  | .listJobs params => discard (Api.listJobs params)
  | .getJob id => discard (Api.getJob id)
  | .cancelJob id => Api.cancelJob auth id
  | .createGroup body => discard (Api.createGroup auth body)
  | .listGroups => discard Api.listGroups
  | .getGroup id => discard (Api.getGroup id)
  | .deleteGroup id => Api.deleteGroup auth id
  | .listMembers id => discard (Api.listMembers id)
  | .addMember id body => Api.addMember auth id body
  | .removeMember id device => Api.removeMember auth id device
  | .listDeviceSoftware device => discard (Api.listDeviceSoftware device)
  | .devicePatchStatus device => discard (Api.devicePatchStatus device)
  | .fleetPatchSummary => discard Api.fleetPatchSummary
  | .fleetCompliance => discard Api.fleetCompliance
  | .deviceCompliance device => discard (Api.deviceCompliance device)
  | .getSettings => Api.getSettings
  | .serverStatus => discard Api.serverStatus
  | .openShell device => discard (Api.openShell auth device)
  | .closeShell session => Api.closeShell auth session
  | .sendInput session body => Api.sendInput auth session body
  | .streamShell session => Api.streamShell auth session
  | .createRule body => discard (Api.createRule auth body)
  | .listRules => discard Api.listRules
  | .getRule id => discard (Api.getRule id)
  | .updateRule id body => discard (Api.updateRule auth id body)
  | .deleteRule id => Api.deleteRule auth id
  | .listEvents params => discard (Api.listEvents params)
  | .resolveEvent id => Api.resolveEvent auth id
  | .createEnrollmentToken => discard (Api.createEnrollmentToken context auth)

end OsfmEdm
