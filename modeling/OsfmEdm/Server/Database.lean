import OsfmEdm.Common.Protocol
import OsfmEdm.Library.Table

/-!
The tables the server's agent and job code reads and writes (`migrations/`, after 016).
A nullable column is an `Option`; `now` is what `now()` gives. Columns that no modelled
statement reads or writes are left out.
-/

namespace OsfmEdm

open JsonText

inductive DeviceStatus where
  | online
  | offline
  | stale
deriving DecidableEq

structure DeviceRow where
  status : DeviceStatus
  lastSeen : Option Nat
  agentVersion : Option String
  authTokenHash : Option String
deriving DecidableEq

structure CertificateRow where
  revoked : Bool
  revokedAt : Option Nat
deriving DecidableEq

/-- The values `jobs_status_check` admits. -/
inductive JobStatus where
  | pending
  | dispatched
  | running
  | completed
  | done
  | failed
  | cancelled
deriving DecidableEq

structure JobRow where
  deviceId : Uuid
  payload : Json
  status : JobStatus
  exitCode : Option Int32
  createdBy : Option Uuid
  finishedAt : Option Nat

structure JobLogRow where
  jobId : Uuid
  line : String
  stream : String
deriving DecidableEq

structure MetricsRow where
  deviceId : Uuid
  time : Nat
  cpuPct : Option ℚ
  ramUsedMb : Option Int64
  ramTotalMb : Option Int64
  diskUsedGb : Option ℚ
  diskTotalGb : Option ℚ
  uptimeSecs : Option Int64
deriving DecidableEq

structure KernelEventRow where
  deviceId : Uuid
  time : Nat
  eventType : String
  payload : SystemEvent
deriving DecidableEq

structure ComplianceRow where
  compliant : Bool
  detail : ComplianceReport
  reportedAt : Nat
deriving DecidableEq

structure SoftwareRow where
  version : Option String
  publisher : Option String
  installDate : Option String
deriving DecidableEq

structure PatchRow where
  title : Option String
  severity : String
  status : String
deriving DecidableEq

structure AlertRuleRow where
  name : String
  metric : Option String
  operator : Option String
  threshold : Option ℚ
  severity : Option String
  enabled : Bool
deriving DecidableEq

structure AlertEventRow where
  ruleId : Uuid
  deviceId : Option Uuid
  severity : String
  triggeredAt : Nat
  resolvedAt : Option Nat
deriving DecidableEq

structure PolicyRow where
  name : String
  rules : Json
  enabled : Bool

structure PolicyAssignmentRow where
  policyId : Uuid
  deviceId : Option Uuid
  groupId : Option Uuid
deriving DecidableEq

structure GroupMemberRow where
  groupId : Uuid
  deviceId : Uuid
deriving DecidableEq

structure DeviceGroupRow where
  name : String
  description : Option String
deriving DecidableEq

structure Database where
  now : Nat
  devices : Table Uuid DeviceRow
  certificates : Table Uuid CertificateRow
  jobs : Table Uuid JobRow
  jobLogs : List JobLogRow
  deviceMetrics : List MetricsRow
  kernelEvents : List KernelEventRow
  /-- Keyed by device and policy. -/
  complianceReports : Table (Uuid × Uuid) ComplianceRow
  /-- Keyed by device and name. -/
  installedSoftware : Table (Uuid × String) SoftwareRow
  /-- Keyed by device and patch. -/
  patches : Table (Uuid × String) PatchRow
  alertRules : Table Uuid AlertRuleRow
  alertEvents : List AlertEventRow
  policies : Table Uuid PolicyRow
  policyAssignments : List PolicyAssignmentRow
  groupMembers : List GroupMemberRow
  deviceGroups : Table Uuid DeviceGroupRow

namespace Database

/-- A database with devices only. -/
def ofDevices (devices : Table Uuid DeviceRow) : Database where
  now := 0
  devices
  certificates := .empty
  jobs := .empty
  jobLogs := []
  deviceMetrics := []
  kernelEvents := []
  complianceReports := .empty
  installedSoftware := .empty
  patches := .empty
  alertRules := .empty
  alertEvents := []
  policies := .empty
  policyAssignments := []
  groupMembers := []
  deviceGroups := .empty

def deviceExists (db : Database) (device : Uuid) : Bool := db.devices.contains device

/-- The status of a job's row. -/
def jobStatus (db : Database) (job : Uuid) : Option JobStatus := (db.jobs.find? job).map (·.status)

/-- `UPDATE jobs SET … WHERE id = $1`. -/
def updateJob (db : Database) (job : Uuid) (change : JobRow → JobRow) : Database :=
  { db with jobs := db.jobs.update job change }

/-- `UPDATE devices SET … WHERE id = $1`. -/
def updateDevice (db : Database) (device : Uuid) (change : DeviceRow → DeviceRow) : Database :=
  { db with devices := db.devices.update device change }

/-- `INSERT INTO jobs (device_id, payload, status, created_by) VALUES ($1, $2, 'pending', $3)`. -/
def insertJob (db : Database) (job device : Uuid) (payload : Json) (createdBy : Option Uuid) :
    Option Database :=
  if db.deviceExists device then
    (db.jobs.insert job
      { deviceId := device, payload, status := .pending, exitCode := none, createdBy,
        finishedAt := none }).map
      fun jobs => { db with jobs }
  else none

def markDispatched (db : Database) (job : Uuid) : Database :=
  db.updateJob job fun row => { row with status := .dispatched }

def markCancelled (db : Database) (job : Uuid) : Database :=
  db.updateJob job fun row => { row with status := .cancelled, finishedAt := some db.now }

/-- The status a job gets from its exit code. -/
def outcome (exitCode : Int32) : JobStatus := if exitCode = 0 then .completed else .failed

def markCompleted (db : Database) (job : Uuid) (exitCode : Int32) : Database :=
  db.updateJob job fun row =>
    { row with
      status := outcome exitCode
      exitCode := some exitCode
      finishedAt := some db.now }

/-- `SELECT id, payload FROM jobs WHERE device_id = $1 AND status = 'pending' ORDER BY created_at`.
Rows stand in the order of their insertion. -/
def pendingJobs (db : Database) (device : Uuid) : List (Uuid × Json) :=
  (db.jobs.rows.filter fun row => row.2.deviceId = device ∧ row.2.status = .pending).map
    fun row => (row.1, row.2.payload)

def markOnline (db : Database) (device : Uuid) : Database :=
  db.updateDevice device fun row => { row with status := .online, lastSeen := some db.now }

def markOffline (db : Database) (device : Uuid) : Database :=
  db.updateDevice device fun row => { row with status := .offline }

def dropCredential (db : Database) (device : Uuid) : Database :=
  db.updateDevice device fun row => { row with status := .offline, authTokenHash := none }

def revokeCertificates (db : Database) (device : Uuid) : Database :=
  { db with
    certificates := db.certificates.update device fun _ =>
      { revoked := true, revokedAt := some db.now } }

/-- `INSERT INTO devices` of an enrollment, under a generated id. -/
def enrollDevice (db : Database) (device : Uuid) (tokenHash : String) : Database :=
  match db.devices.insert device
      { status := .offline
        lastSeen := none
        agentVersion := none
        authTokenHash := some tokenHash } with
  | some devices => { db with devices }
  | none => db

theorem insertJob_some {db stored : Database} {job device : Uuid} {payload : Json}
    {createdBy : Option Uuid} (inserted : db.insertJob job device payload createdBy = some stored) :
    ∃ jobs, db.jobs.insert job ⟨device, payload, .pending, none, createdBy, none⟩ = some jobs ∧
      { db with jobs } = stored := by
  simp only [insertJob] at inserted
  split at inserted
  · simpa using inserted
  · cases inserted

theorem find?_insertJob (db : Database) (id device : Uuid) (payload : Json)
    (createdBy : Option Uuid) (job : Uuid) :
    ((db.insertJob id device payload createdBy).getD db).jobs.find? job = db.jobs.find? job ∨
      job = id ∧ db.jobs.find? job = none ∧
        ((db.insertJob id device payload createdBy).getD db).jobs.find? job =
          some ⟨device, payload, .pending, none, createdBy, none⟩ := by
  cases inserted : db.insertJob id device payload createdBy with
  | none => exact .inl rfl
  | some stored =>
      obtain ⟨jobs, done, rfl⟩ := insertJob_some inserted
      have row := Table.find?_insert done job
      by_cases same : job = id
      · subst same
        exact .inr ⟨rfl, Table.insert_absent done, by simpa using row⟩
      · rw [if_neg same] at row
        exact .inl row

theorem mem_pendingJobs (db : Database) (device job : Uuid) (payload : Json) :
    (job, payload) ∈ db.pendingJobs device ↔
      ∃ row, db.jobs.find? job = some row ∧ row.deviceId = device ∧ row.status = .pending ∧
        row.payload = payload := by
  simp only [pendingJobs, List.mem_map, List.mem_filter, decide_eq_true_eq, Prod.mk.injEq,
    Table.find?_eq_some]
  constructor
  · rintro ⟨⟨key, row⟩, ⟨member, owned, pending⟩, sameKey, samePayload⟩
    subst sameKey
    exact ⟨row, member, owned, pending, samePayload⟩
  · rintro ⟨row, member, owned, pending, samePayload⟩
    exact ⟨(job, row), ⟨member, owned, pending⟩, rfl, samePayload⟩

end Database

end OsfmEdm
