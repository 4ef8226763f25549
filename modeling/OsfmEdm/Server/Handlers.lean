import OsfmEdm.Alerts.Step
import OsfmEdm.Auth.Step
import OsfmEdm.Enrollment.Step
import OsfmEdm.Library.Resumption
import OsfmEdm.Policies.Step
import OsfmEdm.Server.Signing
import OsfmEdm.Shell.Step

/-!
The state behind all routes, and the steps their handlers are made of: SQL statements, sends to
agents, and accesses to the shared maps.
-/

namespace OsfmEdm

open JsonText Resumption

/-- The tables the routes use. `hostnames` is a column of the devices that the other programs leave
out. -/
structure ApiTables where
  db : Database
  users : Table Uuid UserRow
  hostnames : Table Uuid String
  enrollmentTokens : Table String EnrollmentTokenRow

/-- A session that `open_shell` has bound to the user of its request. -/
structure OpenedShell where
  opener : AuthUser
  session : Uuid
  device : Uuid
deriving DecidableEq

/-- `opened` only grows, and no step reads it. -/
structure ApiServer where
  app : AppState
  users : Table Uuid UserRow
  hostnames : Table Uuid String
  enrollmentTokens : Table String EnrollmentTokenRow
  enqueued : List (Uuid × ServerMessage)
  opened : List OpenedShell

/-- `finds` is the row that has the id of a request, by its place in the table. -/
inductive ApiChoice where
  | proceeds
  | fails
  | generates (id : Uuid)
  | finds (place : Nat)
deriving DecidableEq

/-- What the handlers use beside the state. -/
structure ApiContext where
  crypto : Crypto
  jobSigner : Option (JobSigner crypto)
  decodeError : Json → String
  hexSha256 : String → String

namespace ApiTables

def withDb (t : ApiTables) (db : Database) : ApiTables := { t with db }

def updateDb (t : ApiTables) (change : Database → Database) : ApiTables := t.withDb (change t.db)

/-- `INSERT INTO enrollment_tokens (token, created_by, expires_at)`. -/
def insertToken (t : ApiTables) (tokenHash : String) (createdBy : Uuid) : Option ApiTables :=
  (t.enrollmentTokens.insert tokenHash
    { createdBy := some createdBy, used := false, usedAt := none, usedBy := none,
      expiresAt := t.db.now + hours 24 }).map
    fun enrollmentTokens => { t with enrollmentTokens }

end ApiTables

namespace ApiServer

def tables (s : ApiServer) : ApiTables where
  db := s.app.db
  users := s.users
  hostnames := s.hostnames
  enrollmentTokens := s.enrollmentTokens

def withTables (s : ApiServer) (t : ApiTables) : ApiServer :=
  { s with
    app := { s.app with db := t.db }
    users := t.users
    hostnames := t.hostnames
    enrollmentTokens := t.enrollmentTokens }

def enqueue (s : ApiServer) (device : Uuid) (message : ServerMessage) : ApiServer :=
  { s with enqueued := s.enqueued ++ [(device, message)] }

/-- `shell_sessions.insert` at the end of `open_shell`. -/
def bindSession (s : ApiServer) (auth : AuthUser) (session device : Uuid) : ApiServer :=
  { s with
    app := s.app.insertSession session { ownerId := auth.userId, deviceId := device }
    opened := { opener := auth, session, device } :: s.opened }

def removeSession (s : ApiServer) (session : Uuid) : ApiServer :=
  { s with app := s.app.removeSession session }

/-- A server that has just started. -/
def start (t : ApiTables) : ApiServer where
  app := .ofDatabase t.db
  users := t.users
  hostnames := t.hostnames
  enrollmentTokens := t.enrollmentTokens
  enqueued := []
  opened := []

@[simp] theorem withTables_tables (s : ApiServer) : s.withTables s.tables = s := rfl

end ApiServer

abbrev ApiHandler := Fallible ApiServer ApiChoice ApiError

namespace ApiHandler

variable {α β : Type}

/-- One SQL statement, with what the database chooses for it; the database may refuse it. -/
def sql (chosen : ApiChoice → Option β) (run : β → ApiTables → Option (ApiTables × α)) :
    ApiHandler α :=
  ExceptT.mk (.step
    (fun s choice =>
      match chosen choice with
      | some value => some (((run value s.tables).map fun done => s.withTables done.1).getD s)
      | none => if choice = .fails then some s else none)
    (fun s choice =>
      match (chosen choice).bind (run · s.tables) with
      | some (_, value) => .done (.ok value)
      | none => .done (.error .database)))

def statement (run : ApiTables → Option (ApiTables × α)) : ApiHandler α :=
  sql (fun choice => if choice = .proceeds then some () else none) fun _ => run

def query (read : ApiTables → α) : ApiHandler α := statement fun t => some (t, read t)

def execute (change : ApiTables → ApiTables) : ApiHandler Unit :=
  statement fun t => some (change t, ())

/-- An `INSERT` that generates an id. -/
def insertion (run : Uuid → ApiTables → Option ApiTables) : ApiHandler Uuid :=
  sql
    (fun choice =>
      match choice with
      | .generates id => some id
      | _ => none)
    fun id t => (run id t).map fun t => (t, id)

/-- A statement on the row that has an id; there may be none. -/
def located (run : Option Nat → ApiTables → ApiTables × α) : ApiHandler α :=
  sql
    (fun choice =>
      match choice with
      | .proceeds => some none
      | .finds place => some (some place)
      | _ => none)
    fun place t => some (run place t)

/-- An access to the shared maps, which may end the handler. -/
def access (change : ApiServer → ApiServer) (read : ApiServer → Except ApiError α) :
    ApiHandler α :=
  ExceptT.mk (.step (fun s choice => if choice = .proceeds then some (change s) else none)
    fun s _ => .done (read s))

/-- `Uuid::new_v4`. -/
def generate : ApiHandler Uuid :=
  ExceptT.mk (.step
    (fun s choice =>
      match choice with
      | .generates _ => some s
      | _ => none)
    (fun _ choice =>
      match choice with
      | .generates id => .done (.ok id)
      | _ => .done (.error .database)))

/-- `send_to_agent`: false without an entry, and where the receiver of the entry is gone. -/
def sendToAgent (device : Uuid) (message : ServerMessage) : ApiHandler Bool :=
  ExceptT.mk (.step
    (fun s choice =>
      match s.app.channelOf device, choice with
      | some _, .proceeds => some (s.enqueue device message)
      | none, .fails | some _, .fails => some s
      | _, _ => none)
    (fun _ choice => .done (.ok (choice = .proceeds))))

/-- `unwrap_or_default` and its like: a failure gives the value. -/
def recover (value : α) (code : ApiHandler α) : ApiHandler α := tryCatch code fun _ => pure value

def check (checked : Except ApiError Unit) : ApiHandler Unit := ExceptT.mk (pure checked)

def require (condition : Bool) (error : ApiError) : ApiHandler Unit :=
  if condition then pure () else throw error

def orThrow (error : ApiError) : Option α → ApiHandler α
  | some value => pure value
  | none => throw error

end ApiHandler

end OsfmEdm
