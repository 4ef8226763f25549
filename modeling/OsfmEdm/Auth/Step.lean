import OsfmEdm.Auth.Cookies
import OsfmEdm.Library.Interleaving
import OsfmEdm.Library.SlidingWindow
import OsfmEdm.Library.Table

/-!
Login with its throttle and its second factor, refresh, logout and the setup of a second factor
(`api/auth.rs`). A step ends where a handler awaits, and after each check that takes time.
-/

namespace OsfmEdm

open Interleaving

def MAX_LOGIN_ATTEMPTS : Nat := 5

/-- Nanoseconds. -/
def LOGIN_WINDOW : Nat := 5 * 60 * 10 ^ 9

structure UserRow where
  username : String
  passwordHash : String
  totpSecret : Option String
  totpEnabled : Bool
  role : String
  lastLogin : Option Nat
deriving DecidableEq

structure RefreshTokenRow where
  userId : Uuid
  expiresAt : Nat
  revoked : Bool
deriving DecidableEq

structure LoginRequest where
  username : String
  password : String
  totpCode : Option String
deriving DecidableEq

/-- What an access token says. -/
structure Claims where
  sub : Uuid
  username : String
  role : String
  exp : Nat
  iat : Nat
deriving DecidableEq

structure MfaSetupResponse where
  secret : String
  otpauthUrl : String
deriving DecidableEq

/-- The crates behind the handlers: bcrypt, SHA-256 in hexadecimal, and TOTP, which is made of a
secret, an issuer and an account name. -/
structure AuthCrates where
  toLowercase : String → String
  bcryptVerify : String → String → Except String Bool
  sha256Hex : String → String
  decodeSecret : String → Except String (List UInt8)
  encodeSecret : List UInt8 → String
  totpNew : List UInt8 → Option String → String → Except String Unit
  checkCurrent : List UInt8 → Nat → String → Except String Bool
  getUrl : List UInt8 → Option String → String → String

/-- What has happened: an attempt passed the throttle, and the throttle was cleared; a login
inserted a token; a logout was done; a code was accepted for a secret, and a second factor
enabled. No step but the making of a token reads it. -/
inductive AuthEvent where
  | admitted (key : String) (time : Nat)
  | cleared (key : String) (time : Nat)
  | issued (token : String) (user : Uuid) (time : Nat)
  | loggedOut (headers : CookieHeaders)
  | proved (user : Uuid) (secret : String)
  | enabled (user : Uuid)
deriving DecidableEq

/-- A refresh token is known by its hash, which is unique. -/
structure AuthServer where
  now : Nat
  users : Table Uuid UserRow
  refreshTokens : Table String RefreshTokenRow
  loginAttempts : String → List Nat
  history : List AuthEvent

/-! ## Tasks -/

inductive Login where
  | attempt
  | lookUp
  | password (id : Uuid) (user : UserRow)
  | secondFactor (id : Uuid) (user : UserRow)
  | clear (id : Uuid) (user : UserRow)
  | issue (id : Uuid) (user : UserRow)
  | touch (id : Uuid) (token : String) (claims : Claims)
  | loggedIn (token : String) (claims : Claims)
  | refused (error : ApiError)
deriving DecidableEq

/-- A token that was selected when so much had happened. -/
structure Selected where
  token : String
  row : RefreshTokenRow
  began : Nat
deriving DecidableEq

inductive Refresh where
  | select
  | check (selected : Selected)
  | lookUp (selected : Selected) (checkedAt : Nat)
  | refreshed (selected : Selected) (checkedAt : Nat) (claims : Claims)
  | refused (error : ApiError)
deriving DecidableEq

inductive Logout where
  | revoke
  | loggedOut
  | refused (error : ApiError)
deriving DecidableEq

inductive MfaSetup where
  | generate
  | store (response : MfaSetupResponse)
  | offered (response : MfaSetupResponse)
  | refused (error : ApiError)
deriving DecidableEq

inductive MfaVerify where
  | select
  | check (secret : String)
  | enable (secret : String)
  | enabled
  | refused (error : ApiError)
deriving DecidableEq

inductive AuthTask where
  | login (body : LoginRequest) (phase : Login)
  | refresh (headers : CookieHeaders) (phase : Refresh)
  | logout (headers : CookieHeaders) (phase : Logout)
  | mfaSetup (auth : AuthUser) (phase : MfaSetup)
  | mfaVerify (auth : AuthUser) (code : String) (phase : MfaVerify)
  | removeUser (user : Uuid)
  | clock (elapsed : Nat)
deriving DecidableEq

inductive AuthChoice where
  | proceeds
  | fails
  | generatesToken (token : String)
  | generatesSecret (secret : List UInt8)
deriving DecidableEq

/-! ## Steps -/

/-- `record_failed_attempt`: the map after it, and whether the attempt is rejected. -/
def recordFailedAttempt (crates : AuthCrates) (map : String → List Nat) (username : String)
    (now : Nat) : (String → List Nat) × Bool :=
  let key := crates.toLowercase username
  let entry := SlidingWindow.prune LOGIN_WINDOW now (map key)
  if MAX_LOGIN_ATTEMPTS ≤ entry.length then (Function.update map key entry, true)
  else
    let entry := entry ++ [now]
    (Function.update map key entry, decide (MAX_LOGIN_ATTEMPTS < entry.length))

def clearAttempts (crates : AuthCrates) (map : String → List Nat) (username : String) :
    String → List Nat :=
  Function.update map (crates.toLowercase username) []

/-- The check of a code, as `login` and `mfa_verify` make it. -/
def checkTotp (crates : AuthCrates) (now : Nat) (secret code : String) : Except ApiError Bool := do
  let bytes ← (crates.decodeSecret secret).mapError fun e =>
    .internal ("Invalid TOTP secret: " ++ e)
  (crates.totpNew bytes none "OSFM-EDM").mapError fun e => .internal ("TOTP creation error: " ++ e)
  (crates.checkCurrent bytes now code).mapError fun e => .internal ("TOTP check error: " ++ e)

/-- The second factor of a login; nothing to check where it is not enabled. -/
def checkSecondFactor (crates : AuthCrates) (now : Nat) (user : UserRow) (code : Option String) :
    Except ApiError Unit :=
  if user.totpEnabled then
    match user.totpSecret with
    | none => .error (.internal "TOTP enabled but no secret configured")
    | some secret => do
        if ← checkTotp crates now secret (code.getD "") then .ok ()
        else .error (.unauthorized "Invalid TOTP code")
  else .ok ()

def Claims.of (id : Uuid) (user : UserRow) (now : Nat) : Claims where
  sub := id
  username := user.username
  role := user.role
  exp := now / 10 ^ 9 + 15 * 60
  iat := now / 10 ^ 9

namespace AuthServer

def record (s : AuthServer) (event : AuthEvent) : AuthServer :=
  { s with history := s.history ++ [event] }

def userNamed (s : AuthServer) (username : String) : Option (Uuid × UserRow) :=
  s.users.rows.find? fun row => row.2.username = username

/-- Nanoseconds in seven days. -/
def REFRESH_EXPIRY : Nat := 7 * 24 * 60 * 60 * 10 ^ 9

/-- `INSERT INTO refresh_tokens (user_id, token_hash, expires_at)`: the column keeps microseconds. -/
def insertRefreshToken (s : AuthServer) (user : Uuid) (hash : String) : Option AuthServer :=
  if s.users.contains user then
    (s.refreshTokens.insert hash
      { userId := user
        expiresAt := (s.now + REFRESH_EXPIRY) / 1000 * 1000
        revoked := false }).map
      fun refreshTokens => { s with refreshTokens }
  else none

def revokeRefreshToken (s : AuthServer) (hash : String) : AuthServer :=
  { s with refreshTokens := s.refreshTokens.update hash fun row => { row with revoked := true } }

def updateUser (s : AuthServer) (user : Uuid) (change : UserRow → UserRow) : AuthServer :=
  { s with users := s.users.update user change }

/-- `DELETE FROM users WHERE id = $1`, with the refresh tokens of the user. -/
def removeUser (s : AuthServer) (user : Uuid) : AuthServer :=
  { s with
    users := s.users.keep fun key _ => key ≠ user
    refreshTokens := s.refreshTokens.keep fun _ row => row.userId ≠ user }

/-- A token nobody has come with before, as a version 4 id is. -/
def isNewToken (s : AuthServer) (token : String) : Bool :=
  s.history.all fun
    | .loggedOut headers => logoutCookie headers ≠ some token
    | _ => true

variable (crates : AuthCrates)

def login (s : AuthServer) (body : LoginRequest) (choice : AuthChoice) :
    Login → Option (AuthServer × List AuthTask)
  | .attempt =>
      match recordFailedAttempt crates s.loginAttempts body.username s.now with
      | (loginAttempts, true) =>
          some ({ s with loginAttempts }, [.login body (.refused (.rateLimited
            ("Too many login attempts for '" ++ body.username ++
              "' — try again in a few minutes")))])
      | (loginAttempts, false) =>
          some ({ s with loginAttempts }.record
            (.admitted (crates.toLowercase body.username) s.now), [.login body .lookUp])
  | .lookUp =>
      match choice with
      | .proceeds =>
          match s.userNamed body.username with
          | some (id, user) => some (s, [.login body (.password id user)])
          | none => some (s, [.login body (.refused (.unauthorized "Invalid credentials"))])
      | .fails => some (s, [.login body (.refused .database)])
      | _ => none
  | .password id user =>
      match crates.bcryptVerify body.password user.passwordHash with
      | .error e =>
          some (s, [.login body (.refused (.internal ("Password verification error: " ++ e)))])
      | .ok false => some (s, [.login body (.refused (.unauthorized "Invalid credentials"))])
      | .ok true => some (s, [.login body (.secondFactor id user)])
  | .secondFactor id user =>
      match checkSecondFactor crates s.now user body.totpCode with
      | .error error => some (s, [.login body (.refused error)])
      | .ok () => some (s, [.login body (.clear id user)])
  | .clear id user =>
      some ({ s with loginAttempts := clearAttempts crates s.loginAttempts body.username }.record
        (.cleared (crates.toLowercase body.username) s.now), [.login body (.issue id user)])
  | .issue id user =>
      match choice with
      | .generatesToken token =>
          if s.isNewToken token then
            match s.insertRefreshToken id (crates.sha256Hex token) with
            | some stored =>
                some (stored.record (.issued token id s.now),
                  [.login body (.touch id token (.of id user s.now))])
            | none => some (s, [.login body (.refused .database)])
          else none
      | .fails => some (s, [.login body (.refused .database)])
      | _ => none
  | .touch id token claims =>
      match choice with
      | .proceeds =>
          some (s.updateUser id fun user => { user with lastLogin := some s.now },
            [.login body (.loggedIn token claims)])
      | .fails => some (s, [.login body (.refused .database)])
      | _ => none
  | .loggedIn .. | .refused _ => none

def refresh (s : AuthServer) (headers : CookieHeaders) (choice : AuthChoice) :
    Refresh → Option (AuthServer × List AuthTask)
  | .select =>
      match refreshCookie headers, choice with
      | .error error, _ => some (s, [.refresh headers (.refused error)])
      | .ok token, .proceeds =>
          match s.refreshTokens.find? (crates.sha256Hex token) with
          | some row =>
              some (s, [.refresh headers (.check { token, row, began := s.history.length })])
          | none =>
              some (s, [.refresh headers (.refused (.unauthorized "Invalid refresh token"))])
      | .ok _, .fails => some (s, [.refresh headers (.refused .database)])
      | _, _ => none
  | .check selected =>
      if selected.row.revoked then
        some (s, [.refresh headers (.refused (.unauthorized "Refresh token has been revoked"))])
      else if selected.row.expiresAt < s.now then
        some (s, [.refresh headers (.refused (.unauthorized "Refresh token has expired"))])
      else some (s, [.refresh headers (.lookUp selected s.now)])
  | .lookUp selected checkedAt =>
      match choice with
      | .proceeds =>
          match s.users.find? selected.row.userId with
          | some user =>
              some (s, [.refresh headers
                (.refreshed selected checkedAt (.of selected.row.userId user s.now))])
          | none => some (s, [.refresh headers (.refused (.unauthorized "User not found"))])
      | .fails => some (s, [.refresh headers (.refused .database)])
      | _ => none
  | .refreshed .. | .refused _ => none

def logout (s : AuthServer) (headers : CookieHeaders) (choice : AuthChoice) :
    Logout → Option (AuthServer × List AuthTask)
  | .revoke =>
      match logoutCookie headers, choice with
      | none, _ => some (s.record (.loggedOut headers), [.logout headers .loggedOut])
      | some token, .proceeds =>
          some ((s.revokeRefreshToken (crates.sha256Hex token)).record (.loggedOut headers),
            [.logout headers .loggedOut])
      | some _, .fails => some (s, [.logout headers (.refused .database)])
      | _, _ => none
  | .loggedOut | .refused _ => none

def mfaSetup (s : AuthServer) (auth : AuthUser) (choice : AuthChoice) :
    MfaSetup → Option (AuthServer × List AuthTask)
  | .generate =>
      match choice with
      | .generatesSecret secret =>
          match crates.totpNew secret (some auth.username) "OSFM-EDM" with
          | .error e =>
              some (s, [.mfaSetup auth (.refused (.internal ("TOTP creation error: " ++ e)))])
          | .ok () =>
              some (s, [.mfaSetup auth (.store
                { secret := crates.encodeSecret secret
                  otpauthUrl := crates.getUrl secret (some auth.username) "OSFM-EDM" })])
      | _ => none
  | .store response =>
      match choice with
      | .proceeds =>
          some (s.updateUser auth.userId fun user => { user with totpSecret := some response.secret },
            [.mfaSetup auth (.offered response)])
      | .fails => some (s, [.mfaSetup auth (.refused .database)])
      | _ => none
  | .offered _ | .refused _ => none

def mfaVerify (s : AuthServer) (auth : AuthUser) (code : String) (choice : AuthChoice) :
    MfaVerify → Option (AuthServer × List AuthTask)
  | .select =>
      match choice with
      | .proceeds =>
          match s.users.find? auth.userId with
          | none => some (s, [.mfaVerify auth code (.refused (.notFound "User not found"))])
          | some user =>
              match user.totpSecret with
              | none =>
                  some (s, [.mfaVerify auth code (.refused
                    (.badRequest "MFA not set up — call /mfa/setup first"))])
              | some secret => some (s, [.mfaVerify auth code (.check secret)])
      | .fails => some (s, [.mfaVerify auth code (.refused .database)])
      | _ => none
  | .check secret =>
      match checkTotp crates s.now secret code with
      | .error error => some (s, [.mfaVerify auth code (.refused error)])
      | .ok false => some (s, [.mfaVerify auth code (.refused (.badRequest "Invalid TOTP code"))])
      | .ok true =>
          some (s.record (.proved auth.userId secret), [.mfaVerify auth code (.enable secret)])
  | .enable _ =>
      match choice with
      | .proceeds =>
          some ((s.updateUser auth.userId fun user => { user with totpEnabled := true }).record
            (.enabled auth.userId), [.mfaVerify auth code .enabled])
      | .fails => some (s, [.mfaVerify auth code (.refused .database)])
      | _ => none
  | .enabled | .refused _ => none

def turn (s : AuthServer) (choice : AuthChoice) : AuthTask → Option (AuthServer × List AuthTask)
  | .login body phase => s.login crates body choice phase
  | .refresh headers phase => s.refresh crates headers choice phase
  | .logout headers phase => s.logout crates headers choice phase
  | .mfaSetup auth phase => s.mfaSetup crates auth choice phase
  | .mfaVerify auth code phase => s.mfaVerify crates auth code choice phase
  | .removeUser user => some (s.removeUser user, [])
  | .clock elapsed => some ({ s with now := s.now + elapsed }, [])

end AuthServer

def AuthTask.request : AuthTask → Bool
  | .login _ .attempt | .refresh _ .select | .logout _ .revoke | .mfaSetup _ .generate
  | .mfaVerify _ _ .select | .removeUser _ | .clock _ => true
  | _ => false

def authProgram (crates : AuthCrates) : Program AuthServer AuthTask AuthChoice where
  request := AuthTask.request
  step s task choice := s.turn crates choice task

/-! ## One account -/

def samplePasswordHash : String := "$2a$05$CCCCCCCCCCCCCCCCCCCCC.E5YPO9kmyuRGyh0XouQYb4YMJKvyOeW"

def sampleToken : String := "6f1a2a4e-5c0b-4d4e-9a51-0f6d3b8f2c11"

def sampleSecret : String := "GEZDGNBVGY3TQOJQGEZDGNBVGY3TQOJQ"

def sampleSecretBytes : List UInt8 :=
  [49, 50, 51, 52, 53, 54, 55, 56, 57, 48, 49, 50, 51, 52, 53, 54, 55, 56, 57, 48]

def otherSecret : String := "AAAAAAAAAAAAAAAAAAAAAAAAAAAAAAAA"

/-- The crates on one password, one token and two secrets. The code of the first secret for the
second period of thirty seconds is also good in the periods beside it. -/
def sampleCrates : AuthCrates where
  toLowercase := String.toLower
  bcryptVerify password hash := .ok (password = "U*U" ∧ hash = samplePasswordHash)
  sha256Hex token :=
    if token = sampleToken then "8c04938cfc2fbd2b5108b312b425338b28604bd043f087b7f00a9414ed708557"
    else ""
  decodeSecret secret :=
    if secret = sampleSecret then .ok sampleSecretBytes
    else if secret = otherSecret then .ok (List.replicate 20 0)
    else .error "Could not decode base32 secret."
  encodeSecret secret :=
    if secret = sampleSecretBytes then sampleSecret
    else if secret = List.replicate 20 0 then otherSecret
    else ""
  totpNew secret _ _ := if 16 ≤ secret.length then .ok () else .error "secret size"
  checkCurrent secret now code :=
    .ok (secret = sampleSecretBytes ∧ now / (30 * 10 ^ 9) ≤ 2 ∧ code = "287082")
  getUrl _ _ _ := "otpauth://totp/OSFM-EDM"

def sampleUser : UserRow where
  username := "admin"
  passwordHash := samplePasswordHash
  totpSecret := none
  totpEnabled := false
  role := "admin"
  lastLogin := none

/-- A server that has just started. -/
def sampleAuth (user : UserRow) : Config AuthServer AuthTask where
  shared :=
    { now := 0
      users := ⟨[(Uuid.small 1, user)], by simp⟩
      refreshTokens := .empty
      loginAttempts := fun _ => []
      history := [] }
  tasks := []

end OsfmEdm
