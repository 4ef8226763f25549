import OsfmEdm.Library.Interleaving
import OsfmEdm.Library.Table
import OsfmEdm.Server.Api

/-!
Enrollment (`api/enroll.rs`): tokens that an admin creates and requests that present them. A
step is one SQL statement or the issue of a certificate.
-/

namespace OsfmEdm

open Interleaving

structure EnrollmentTokenRow where
  createdBy : Option Uuid
  used : Bool
  usedAt : Option Nat
  usedBy : Option Uuid
  expiresAt : Nat
deriving DecidableEq

/-- `enrolledBy` is no column: it notes the hash of the token whose request inserted the row. -/
structure EnrolledDeviceRow where
  hostname : String
  os : String
  osVersion : Option String
  arch : Option String
  authTokenHash : Option String
  enrolledBy : Option String
deriving DecidableEq

structure DeviceCertificateRow where
  fingerprint : String
  pem : String
  expiresAt : Nat
  revoked : Bool
deriving DecidableEq

/-- A token row is known by its hash, a certificate row by its device: both are unique. -/
structure EnrollServer where
  now : Nat
  caInitialized : Bool
  enrollmentTokens : Table String EnrollmentTokenRow
  devices : Table Uuid EnrolledDeviceRow
  certificates : Table Uuid DeviceCertificateRow

structure EnrollRequest where
  token : String
  hostname : String
  os : String
  osVersion : Option String
  arch : Option String
deriving DecidableEq

structure EnrollResponse where
  deviceId : Uuid
  certPem : String
  keyPem : String
  deviceToken : String
deriving DecidableEq

/-- `issue_device_cert` with the fingerprint of what it gives. -/
structure IssuedCert where
  certPem : String
  keyPem : String
  fingerprint : String
deriving DecidableEq

/-- `enroll_device`. A request that fails after its INSERT is `abandoned`. -/
inductive EnrollDevice where
  | selectToken
  | insertDevice
  | issueCert (device : Uuid) (deviceToken : String)
  | insertCertificate (device : Uuid) (deviceToken : String) (issued : IssuedCert)
  | markUsed (device : Uuid) (deviceToken : String) (issued : IssuedCert)
  | enrolled (response : EnrollResponse)
  | refused (error : ApiError)
  | abandoned (device : Uuid) (error : ApiError)
deriving DecidableEq

inductive EnrollTask where
  | createToken (auth : AuthUser) (answer : Option (Except ApiError String))
  | enroll (body : EnrollRequest) (phase : EnrollDevice)
  | clock
deriving DecidableEq

inductive EnrollChoice where
  | proceeds
  | fails
  | generatesToken (token : String)
  | generatesDevice (device : Uuid) (deviceToken : String)
  | issues (issued : IssuedCert)
  | cannotIssue (error : String)
deriving DecidableEq

/-- Nanoseconds in a number of days. -/
def days (count : Nat) : Nat := count * 86400 * 10 ^ 9

def hours (count : Nat) : Nat := count * 3600 * 10 ^ 9

namespace EnrollServer

/-- `INSERT INTO enrollment_tokens (token, created_by, expires_at)`. -/
def insertToken (s : EnrollServer) (tokenHash : String) (createdBy : Uuid) : Option EnrollServer :=
  (s.enrollmentTokens.insert tokenHash
    { createdBy := some createdBy, used := false, usedAt := none, usedBy := none,
      expiresAt := s.now + hours 24 }).map
    fun enrollmentTokens => { s with enrollmentTokens }

/-- `INSERT INTO devices … RETURNING id`. -/
def insertDevice (s : EnrollServer) (device : Uuid) (body : EnrollRequest)
    (deviceTokenHash tokenHash : String) : Option EnrollServer :=
  (s.devices.insert device
    { hostname := body.hostname
      os := body.os
      osVersion := body.osVersion
      arch := body.arch
      authTokenHash := some deviceTokenHash
      enrolledBy := some tokenHash }).map
    fun devices => { s with devices }

/-- `INSERT INTO certificates`: the fingerprint is unique as well. -/
def insertCertificate (s : EnrollServer) (device : Uuid) (issued : IssuedCert) :
    Option EnrollServer :=
  if s.certificates.rows.any fun row => row.2.fingerprint = issued.fingerprint then none
  else
    (s.certificates.insert device
      { fingerprint := issued.fingerprint
        pem := issued.certPem
        expiresAt := s.now + days 365
        revoked := false }).map
      fun certificates => { s with certificates }

/-- `UPDATE enrollment_tokens SET used = true, used_at = now(), used_by = $1 WHERE id = $2`. -/
def markUsed (s : EnrollServer) (tokenHash : String) (device : Uuid) : EnrollServer :=
  { s with
    enrollmentTokens := s.enrollmentTokens.update tokenHash fun row =>
      { row with used := true, usedAt := some s.now, usedBy := some device } }

variable (hexSha256 : String → String)

def createToken (s : EnrollServer) (auth : AuthUser) (choice : EnrollChoice) :
    Option (EnrollServer × List EnrollTask) :=
  match auth.requireAdmin, choice with
  | .error error, _ => some (s, [.createToken auth (some (.error error))])
  | .ok (), .generatesToken token =>
      match s.insertToken (hexSha256 token) auth.userId with
      | some s => some (s, [.createToken auth (some (.ok token))])
      | none => some (s, [.createToken auth (some (.error .database))])
  | .ok (), .fails => some (s, [.createToken auth (some (.error .database))])
  | _, _ => none

def enrollDevice (s : EnrollServer) (body : EnrollRequest) (choice : EnrollChoice) :
    EnrollDevice → Option (EnrollServer × EnrollDevice)
  | .selectToken =>
      if body.os ∉ ["windows", "linux", "macos"] then
        some (s, .refused (.badRequest "os must be one of: windows, linux, macos"))
      else
        match choice with
        | .proceeds =>
            match s.enrollmentTokens.find? (hexSha256 body.token) with
            | none => some (s, .refused (.badRequest "Invalid enrollment token"))
            | some row =>
                if row.used then
                  some (s, .refused (.conflict "Enrollment token has already been used"))
                else if row.expiresAt < s.now then
                  some (s, .refused (.badRequest "Enrollment token has expired"))
                else some (s, .insertDevice)
        | .fails => some (s, .refused .database)
        | _ => none
  | .insertDevice =>
      match choice with
      | .generatesDevice device deviceToken =>
          (s.insertDevice device body (hexSha256 deviceToken) (hexSha256 body.token)).map
            fun s => (s, .issueCert device deviceToken)
      | .fails => some (s, .refused .database)
      | _ => none
  | .issueCert device deviceToken =>
      if !s.caInitialized then some (s, .abandoned device (.internal "PKI not initialized"))
      else
        match choice with
        | .issues issued => some (s, .insertCertificate device deviceToken issued)
        | .cannotIssue error =>
            some (s, .abandoned device (.internal ("Failed to issue device cert: " ++ error)))
        | _ => none
  | .insertCertificate device deviceToken issued =>
      match choice with
      | .proceeds =>
          match s.insertCertificate device issued with
          | some s => some (s, .markUsed device deviceToken issued)
          | none => some (s, .abandoned device .database)
      | .fails => some (s, .abandoned device .database)
      | _ => none
  | .markUsed device deviceToken issued =>
      match choice with
      | .proceeds =>
          some (s.markUsed (hexSha256 body.token) device,
            .enrolled { deviceId := device, certPem := issued.certPem, keyPem := issued.keyPem,
                        deviceToken })
      | .fails => some (s, .abandoned device .database)
      | _ => none
  | .enrolled _ | .refused _ | .abandoned .. => none

def turn (s : EnrollServer) (choice : EnrollChoice) :
    EnrollTask → Option (EnrollServer × List EnrollTask)
  | .createToken auth none => s.createToken hexSha256 auth choice
  | .createToken _ (some _) => none
  | .enroll body phase =>
      (s.enrollDevice hexSha256 body choice phase).map fun (s, phase) => (s, [.enroll body phase])
  | .clock => some ({ s with now := s.now + 1 }, [])

end EnrollServer

def EnrollTask.request : EnrollTask → Bool
  | .createToken _ none | .enroll _ .selectToken | .clock => true
  | _ => false

def enrollProgram (hexSha256 : String → String) : Program EnrollServer EnrollTask EnrollChoice where
  request := EnrollTask.request
  step s task choice := s.turn hexSha256 choice task

end OsfmEdm
