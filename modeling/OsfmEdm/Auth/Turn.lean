import OsfmEdm.Auth.Step

/-!
What one step of the auth routes can do.
-/

namespace OsfmEdm

variable {crates : AuthCrates}

def AuthTask.isRefused : AuthTask → Bool
  | .login _ (.refused _) | .refresh _ (.refused _) | .logout _ (.refused _)
  | .mfaSetup _ (.refused _) | .mfaVerify _ _ (.refused _) => true
  | _ => false

variable (crates) in
/-- A step by the task, what the state becomes and what the task becomes. -/
inductive AuthTurn (s : AuthServer) (choice : AuthChoice) : AuthTask → AuthServer → List AuthTask → Prop where
  | refused {task next : AuthTask} (ended : next.isRefused = true) : AuthTurn s choice task s [next]
  | rejected {body : LoginRequest} {loginAttempts : String → List Nat} {error : ApiError}
      (recorded : recordFailedAttempt crates s.loginAttempts body.username s.now =
        (loginAttempts, true)) :
      AuthTurn s choice (.login body .attempt) { s with loginAttempts } [.login body (.refused error)]
  | admitted {body : LoginRequest} {loginAttempts : String → List Nat}
      (recorded : recordFailedAttempt crates s.loginAttempts body.username s.now =
        (loginAttempts, false)) :
      AuthTurn s choice (.login body .attempt)
        ({ s with loginAttempts }.record (.admitted (crates.toLowercase body.username) s.now))
        [.login body .lookUp]
  | lookedUp {body : LoginRequest} {id : Uuid} {user : UserRow}
      (found : s.userNamed body.username = some (id, user)) :
      AuthTurn s choice (.login body .lookUp) s [.login body (.password id user)]
  | passwordAccepted {body : LoginRequest} {id : Uuid} {user : UserRow}
      (valid : crates.bcryptVerify body.password user.passwordHash = .ok true) :
      AuthTurn s choice (.login body (.password id user)) s [.login body (.secondFactor id user)]
  | secondFactorAccepted {body : LoginRequest} {id : Uuid} {user : UserRow}
      (valid : checkSecondFactor crates s.now user body.totpCode = .ok ()) :
      AuthTurn s choice (.login body (.secondFactor id user)) s [.login body (.clear id user)]
  | cleared {body : LoginRequest} {id : Uuid} {user : UserRow} :
      AuthTurn s choice (.login body (.clear id user))
        ({ s with loginAttempts := clearAttempts crates s.loginAttempts body.username }.record
          (.cleared (crates.toLowercase body.username) s.now))
        [.login body (.issue id user)]
  | issued {body : LoginRequest} {id : Uuid} {user : UserRow} {token : String}
      {stored : AuthServer} (chosen : choice = .generatesToken token) (unseen : s.isNewToken token = true)
      (inserted : s.insertRefreshToken id (crates.sha256Hex token) = some stored) :
      AuthTurn s choice (.login body (.issue id user)) (stored.record (.issued token id s.now))
        [.login body (.touch id token (.of id user s.now))]
  | touched {body : LoginRequest} {id : Uuid} {token : String} {claims : Claims} :
      AuthTurn s choice (.login body (.touch id token claims))
        (s.updateUser id fun user => { user with lastLogin := some s.now })
        [.login body (.loggedIn token claims)]
  | selected {headers : CookieHeaders} {token : String} {row : RefreshTokenRow}
      (cookie : refreshCookie headers = .ok token)
      (found : s.refreshTokens.find? (crates.sha256Hex token) = some row) :
      AuthTurn s choice (.refresh headers .select) s
        [.refresh headers (.check { token, row, began := s.history.length })]
  | checked {headers : CookieHeaders} {selected : Selected}
      (unrevoked : selected.row.revoked = false) (fresh : s.now ≤ selected.row.expiresAt) :
      AuthTurn s choice (.refresh headers (.check selected)) s [.refresh headers (.lookUp selected s.now)]
  | refreshed {headers : CookieHeaders} {selected : Selected} {checkedAt : Nat} {user : UserRow}
      (found : s.users.find? selected.row.userId = some user) :
      AuthTurn s choice (.refresh headers (.lookUp selected checkedAt)) s
        [.refresh headers (.refreshed selected checkedAt (.of selected.row.userId user s.now))]
  | leftNothing {headers : CookieHeaders} (none : logoutCookie headers = none) :
      AuthTurn s choice (.logout headers .revoke) (s.record (.loggedOut headers))
        [.logout headers .loggedOut]
  | revoked {headers : CookieHeaders} {token : String}
      (cookie : logoutCookie headers = some token) :
      AuthTurn s choice (.logout headers .revoke)
        ((s.revokeRefreshToken (crates.sha256Hex token)).record (.loggedOut headers))
        [.logout headers .loggedOut]
  | generated {auth : AuthUser} {response : MfaSetupResponse} :
      AuthTurn s choice (.mfaSetup auth .generate) s [.mfaSetup auth (.store response)]
  | stored {auth : AuthUser} {response : MfaSetupResponse} (chosen : choice = .proceeds) :
      AuthTurn s choice (.mfaSetup auth (.store response))
        (s.updateUser auth.userId fun user => { user with totpSecret := some response.secret })
        [.mfaSetup auth (.offered response)]
  | secretSelected {auth : AuthUser} {code secret : String} {user : UserRow}
      (found : s.users.find? auth.userId = some user) (stored : user.totpSecret = some secret) :
      AuthTurn s choice (.mfaVerify auth code .select) s [.mfaVerify auth code (.check secret)]
  | proved {auth : AuthUser} {code secret : String}
      (valid : checkTotp crates s.now secret code = .ok true) :
      AuthTurn s choice (.mfaVerify auth code (.check secret)) (s.record (.proved auth.userId secret))
        [.mfaVerify auth code (.enable secret)]
  | enabled {auth : AuthUser} {code secret : String} (chosen : choice = .proceeds) :
      AuthTurn s choice (.mfaVerify auth code (.enable secret))
        ((s.updateUser auth.userId fun user => { user with totpEnabled := true }).record
          (.enabled auth.userId))
        [.mfaVerify auth code .enabled]
  | userRemoved {user : Uuid} : AuthTurn s choice (.removeUser user) (s.removeUser user) []
  | tick {elapsed : Nat} : AuthTurn s choice (.clock elapsed) { s with now := s.now + elapsed } []

theorem insertRefreshToken_frame {s stored : AuthServer} {user : Uuid} {hash : String}
    (done : s.insertRefreshToken user hash = some stored) :
    ∃ refreshTokens, stored = { s with refreshTokens } := by
  unfold AuthServer.insertRefreshToken at done
  split at done
  · obtain ⟨refreshTokens, _, rfl⟩ := Option.map_eq_some_iff.mp done
    exact ⟨refreshTokens, rfl⟩
  · cases done

section

variable {s s' : AuthServer} {choice : AuthChoice} {new : List AuthTask}

theorem login_cases {body : LoginRequest} {phase : Login}
    (moved : s.login crates body choice phase = some (s', new)) :
    AuthTurn crates s choice (.login body phase) s' new := by
  cases phase with
  | attempt =>
      simp only [AuthServer.login] at moved
      split at moved <;> cases moved
      · rename_i recorded
        exact .rejected recorded
      · rename_i recorded
        exact .admitted recorded
  | lookUp =>
      cases choice <;> simp only [AuthServer.login] at moved
      case proceeds =>
        split at moved <;> cases moved
        · rename_i found
          exact .lookedUp found
        · exact .refused rfl
      case fails =>
        cases moved
        exact .refused rfl
      all_goals cases moved
  | password id user =>
      simp only [AuthServer.login] at moved
      split at moved <;> cases moved
      · exact .refused rfl
      · exact .refused rfl
      · rename_i valid
        exact .passwordAccepted valid
  | secondFactor id user =>
      simp only [AuthServer.login] at moved
      split at moved <;> cases moved
      · exact .refused rfl
      · rename_i valid
        exact .secondFactorAccepted valid
  | clear id user =>
      cases moved
      exact .cleared
  | issue id user =>
      cases choice <;> simp only [AuthServer.login] at moved
      case generatesToken token =>
        split at moved
        · rename_i unseen
          split at moved <;> cases moved
          · rename_i inserted
            exact .issued rfl unseen inserted
          · exact .refused rfl
        · cases moved
      case fails =>
        cases moved
        exact .refused rfl
      all_goals cases moved
  | touch id token claims =>
      cases choice <;> simp only [AuthServer.login] at moved
      case proceeds =>
        cases moved
        exact .touched
      case fails =>
        cases moved
        exact .refused rfl
      all_goals cases moved
  | loggedIn token claims => cases moved
  | refused error => cases moved

theorem refresh_cases {headers : CookieHeaders} {phase : Refresh}
    (moved : s.refresh crates headers choice phase = some (s', new)) :
    AuthTurn crates s choice (.refresh headers phase) s' new := by
  cases phase with
  | select =>
      simp only [AuthServer.refresh] at moved
      split at moved
      · cases moved
        exact .refused rfl
      · rename_i cookie
        split at moved <;> cases moved
        · rename_i found
          exact .selected cookie found
        · exact .refused rfl
      · cases moved
        exact .refused rfl
      · cases moved
  | check selected =>
      simp only [AuthServer.refresh] at moved
      split at moved
      · cases moved
        exact .refused rfl
      · rename_i unrevoked
        split at moved <;> cases moved
        · exact .refused rfl
        · rename_i fresh
          exact .checked (by simpa using unrevoked) (by omega)
  | lookUp selected checkedAt =>
      cases choice <;> simp only [AuthServer.refresh] at moved
      case proceeds =>
        split at moved <;> cases moved
        · rename_i found
          exact .refreshed found
        · exact .refused rfl
      case fails =>
        cases moved
        exact .refused rfl
      all_goals cases moved
  | refreshed selected checkedAt claims => cases moved
  | refused error => cases moved

theorem logout_cases {headers : CookieHeaders} {phase : Logout}
    (moved : s.logout crates headers choice phase = some (s', new)) :
    AuthTurn crates s choice (.logout headers phase) s' new := by
  cases phase with
  | revoke =>
      simp only [AuthServer.logout] at moved
      split at moved <;> cases moved
      · rename_i none
        exact .leftNothing none
      · rename_i cookie
        exact .revoked cookie
      · exact .refused rfl
  | loggedOut => cases moved
  | refused error => cases moved

theorem mfaSetup_cases {auth : AuthUser} {phase : MfaSetup}
    (moved : s.mfaSetup crates auth choice phase = some (s', new)) :
    AuthTurn crates s choice (.mfaSetup auth phase) s' new := by
  cases phase with
  | generate =>
      cases choice <;> simp only [AuthServer.mfaSetup] at moved
      case generatesSecret secret =>
        split at moved <;> cases moved
        · exact .refused rfl
        · exact .generated
      all_goals cases moved
  | store response =>
      cases choice <;> simp only [AuthServer.mfaSetup] at moved
      case proceeds =>
        cases moved
        exact .stored rfl
      case fails =>
        cases moved
        exact .refused rfl
      all_goals cases moved
  | offered response => cases moved
  | refused error => cases moved

theorem mfaVerify_cases {auth : AuthUser} {code : String} {phase : MfaVerify}
    (moved : s.mfaVerify crates auth code choice phase = some (s', new)) :
    AuthTurn crates s choice (.mfaVerify auth code phase) s' new := by
  cases phase with
  | select =>
      cases choice <;> simp only [AuthServer.mfaVerify] at moved
      case proceeds =>
        split at moved
        · cases moved
          exact .refused rfl
        · rename_i found
          split at moved <;> cases moved
          · exact .refused rfl
          · rename_i stored
            exact .secretSelected found stored
      case fails =>
        cases moved
        exact .refused rfl
      all_goals cases moved
  | check secret =>
      simp only [AuthServer.mfaVerify] at moved
      split at moved <;> cases moved
      · exact .refused rfl
      · exact .refused rfl
      · rename_i valid
        exact .proved valid
  | enable secret =>
      cases choice <;> simp only [AuthServer.mfaVerify] at moved
      case proceeds =>
        cases moved
        exact .enabled rfl
      case fails =>
        cases moved
        exact .refused rfl
      all_goals cases moved
  | enabled => cases moved
  | refused error => cases moved

theorem auth_cases {task : AuthTask} (moved : s.turn crates choice task = some (s', new)) :
    AuthTurn crates s choice task s' new := by
  cases task with
  | login body phase => exact login_cases moved
  | refresh headers phase => exact refresh_cases moved
  | logout headers phase => exact logout_cases moved
  | mfaSetup auth phase => exact mfaSetup_cases moved
  | mfaVerify auth code phase => exact mfaVerify_cases moved
  | removeUser user =>
      cases moved
      exact .userRemoved
  | clock elapsed =>
      cases moved
      exact .tick

theorem AuthTurn.grows {task : AuthTask}
    (turn : AuthTurn crates s choice task s' new) : ∃ events, s'.history = s.history ++ events := by
  cases turn with
  | issued _ _ inserted =>
      obtain ⟨refreshTokens, rfl⟩ := insertRefreshToken_frame inserted
      exact ⟨_, rfl⟩
  | admitted => exact ⟨_, rfl⟩
  | cleared => exact ⟨_, rfl⟩
  | leftNothing => exact ⟨_, rfl⟩
  | revoked => exact ⟨_, rfl⟩
  | proved => exact ⟨_, rfl⟩
  | enabled => exact ⟨_, rfl⟩
  | _ => exact ⟨[], (List.append_nil _).symm⟩

end

end OsfmEdm
