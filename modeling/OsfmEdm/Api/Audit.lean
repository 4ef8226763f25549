import OsfmEdm.Api.Step

/-!
The audit layer around the API (`middleware/audit.rs`) and the extraction of the user that a request
acts as (`middleware/auth.rs`). Requests are interleaved with each other and with the writes of
their audit entries, which nothing waits for.
-/

namespace OsfmEdm

open Interleaving Resumption

inductive Method where
  | get
  | head
  | post
  | patch
  | put
  | delete
deriving DecidableEq

namespace Method

def text : Method → String
  | .get => "GET"
  | .head => "HEAD"
  | .post => "POST"
  | .patch => "PATCH"
  | .put => "PUT"
  | .delete => "DELETE"

/-- `should_audit`. -/
def audited : Method → Bool
  | .post | .patch | .put | .delete => true
  | .get | .head => false

end Method

/-- The method of the route; the router answers `HEAD` with the handler of `GET`. -/
def Route.servedBy (method : Method) : Route → Bool
  | .refused _ => true
  | .listDevices | .getDevice _ | .getTelemetry .. | .listPolicies | .getPolicy _ | .listJobs _
  | .getJob _ | .listGroups | .getGroup _ | .listMembers _ | .listDeviceSoftware _
  | .devicePatchStatus _ | .fleetPatchSummary | .fleetCompliance | .deviceCompliance _
  | .getSettings | .serverStatus | .streamShell _ | .listRules | .getRule _ | .listEvents _ =>
      method = .get || method = .head
  | .updateDevice .. | .updatePolicy .. | .updateRule .. => method = .patch
  | .deleteDevice _ | .deletePolicy _ | .deleteGroup _ | .removeMember .. | .closeShell _
  | .deleteRule _ => method = .delete
  | .requestInventory _ | .requestTelemetry _ | .createPolicy _ | .assignPolicy ..
  | .unassignPolicy .. | .createJob _ | .cancelJob _ | .createGroup _ | .addMember .. | .openShell _
  | .sendInput .. | .createRule _ | .resolveEvent _ | .createEnrollmentToken => method = .post

/-- A header value, as text where `to_str` gives it. -/
abbrev HeaderValue := Option String

/-- A request to one of the routes. -/
structure HttpRequest where
  method : Method
  path : String
  authorization : Option HeaderValue
  peer : Option String
  route : Route
  routed : route.servedBy method = true

namespace ApiError

def statusCode : ApiError → Nat
  | .notFound _ => 404
  | .badRequest _ => 400
  | .unauthorized _ => 401
  | .forbidden _ => 403
  | .conflict _ => 409
  | .rateLimited _ => 429
  | .internal _ | .database | .bcrypt => 500

end ApiError

def Route.successCode : Route → Nat
  | .createPolicy _ | .assignPolicy .. | .createJob _ | .createGroup _ | .addMember ..
  | .createRule _ | .createEnrollmentToken => 201
  | _ => 200

def Route.statusOf (route : Route) : Except ApiError Unit → Nat
  | .ok () => route.successCode
  | .error error => error.statusCode

/-! ## The user of a request -/

/-- `decode::<Claims>` with the secret of the configuration, at a time: the subject, or why the
token is not accepted. -/
abbrev DecodeToken := Nat → String → Except String Uuid

def bearerScheme : List Char := "Bearer ".toList

/-- `extract_bearer_token`. -/
def extractBearerToken : Option HeaderValue → Except ApiError String
  | none => .error (.unauthorized "Missing Authorization header")
  | some none => .error (.unauthorized "Invalid Authorization header encoding")
  | some (some header) =>
      if bearerScheme.isPrefixOf header.toList then .ok (String.ofList (header.toList.drop 7))
      else .error (.unauthorized "Authorization header must use Bearer scheme")

/-- `from_request_parts` up to the lookup of the user. -/
def subjectOf (decode : DecodeToken) (now : Nat) (authorization : Option HeaderValue) :
    Except ApiError Uuid :=
  match extractBearerToken authorization with
  | .error error => .error error
  | .ok token =>
      match decode now token with
      | .error error => .error (.unauthorized ("Invalid token: " ++ error))
      | .ok sub => .ok sub

/-- `extract_user_id_from_request`, which never fails the request. -/
def extractUserIdFromRequest (decode : DecodeToken) (now : Nat)
    (authorization : Option HeaderValue) : Option Uuid :=
  match authorization with
  | some (some header) =>
      if bearerScheme.isPrefixOf header.toList then
        (decode now (String.ofList (header.toList.drop 7))).toOption
      else none
  | _ => none

/-! ## The layer -/

/-- A row of `audit_log`; `detail` holds the status. -/
structure AuditRow where
  userId : Option Uuid
  action : String
  detail : Nat
  ipAddress : Option String
deriving DecidableEq

/-- `lost` notes the entries whose `INSERT` failed. -/
structure AuditServer where
  api : ApiServer
  clock : Nat
  auditLog : List AuditRow
  lost : List AuditRow

/-- What `audit_layer` keeps of a request while its handler runs. -/
structure AuditLayer where
  request : HttpRequest
  userId : Option Uuid

namespace AuditLayer

def shouldAudit (layer : AuditLayer) : Bool := layer.request.method.audited

def row (layer : AuditLayer) (status : Nat) : AuditRow where
  userId := layer.userId
  action := layer.request.method.text ++ " " ++ layer.request.path
  detail := status
  ipAddress := layer.request.peer

end AuditLayer

/-- `extracts` looks for the user of a request, `handles` runs its handler, `writes` is the task
that inserts an entry. A request whose client is gone stays where it is. -/
inductive AuditTask where
  | arrives (request : HttpRequest)
  | extracts (layer : AuditLayer)
  | handles (layer : AuditLayer) (auth : AuthUser)
      (code : Proc ApiServer ApiChoice (Except ApiError Unit))
  | writes (row : AuditRow)
  | responded (layer : AuditLayer) (status : Nat)
  | elsewhere (activity : Activity)
  | tick

namespace AuditServer

/-- The end of `audit_layer`. -/
def respond (layer : AuditLayer) (status : Nat) : List AuditTask :=
  if layer.shouldAudit then [.responded layer status, .writes (layer.row status)]
  else [.responded layer status]

/-- The foreign key of `audit_log`. -/
def admitsRow (s : AuditServer) (row : AuditRow) : Bool := row.userId.all s.api.users.contains

variable (context : ApiContext) (decode : DecodeToken)

def turn (s : AuditServer) (choice : ApiChoice) :
    AuditTask → Option (AuditServer × List AuditTask)
  | .arrives request =>
      some (s, [.extracts
        { request, userId := extractUserIdFromRequest decode s.clock request.authorization }])
  | .extracts layer =>
      match subjectOf decode s.clock layer.request.authorization, choice with
      | .error error, _ => some (s, respond layer error.statusCode)
      | .ok _, .fails => some (s, respond layer ApiError.database.statusCode)
      | .ok user, .proceeds =>
          match s.api.authenticate user with
          | .ok auth =>
              some (s, [.handles layer auth (layer.request.route.handler context auth).run])
          | .error error => some (s, respond layer error.statusCode)
      | _, _ => none
  | .handles layer _ (.done answer) =>
      some (s, respond layer (layer.request.route.statusOf answer))
  | .handles layer auth code =>
      (code.advance s.api choice).map fun (api, rest) =>
        ({ s with api }, [.handles layer auth rest])
  | .writes row =>
      match choice with
      | .proceeds =>
          if s.admitsRow row then some ({ s with auditLog := row :: s.auditLog }, [])
          else some ({ s with lost := row :: s.lost }, [])
      | .fails => some ({ s with lost := row :: s.lost }, [])
      | _ => none
  | .responded .. => none
  | .elsewhere activity => some ({ s with api := activity.change s.api }, [])
  | .tick => some ({ s with clock := s.clock + 1 }, [])

def start (tables : ApiTables) : AuditServer where
  api := .start tables
  clock := 0
  auditLog := []
  lost := []

end AuditServer

def AuditTask.request : AuditTask → Bool
  | .arrives _ | .elsewhere _ | .tick => true
  | _ => false

def auditProgram (context : ApiContext) (decode : DecodeToken) :
    Program AuditServer AuditTask ApiChoice where
  request := AuditTask.request
  step s task choice := s.turn context decode choice task

end OsfmEdm
