import OsfmEdm.Auth.Turn

/-!
The login throttle: however logins and other requests interleave, a key passes it at most five
times in a window without a successful login.
-/

namespace OsfmEdm

open Interleaving

namespace AuthServer

/-- When attempts on a key passed the throttle. -/
def admittedTimes (s : AuthServer) (key : String) : List Nat :=
  s.history.filterMap fun
    | .admitted own time => if own = key then some time else none
    | _ => none

/-- When a successful login cleared a key. -/
def clearedTimes (s : AuthServer) (key : String) : List Nat :=
  s.history.filterMap fun
    | .cleared own time => if own = key then some time else none
    | _ => none

end AuthServer

variable (crates : AuthCrates)

/-- The password and, where it is enabled, the second factor of the user were accepted. -/
structure CredentialsAccepted (body : LoginRequest) (user : UserRow) : Prop where
  username : user.username = body.username
  password : crates.bcryptVerify body.password user.passwordHash = .ok true
  secondFactor : user.totpEnabled = true → ∃ secret time, user.totpSecret = some secret ∧
    checkTotp crates time secret (body.totpCode.getD "") = .ok true

/-- A login past the throttle. -/
def AuthTask.passing (key : String) : AuthTask → Nat
  | .login body phase =>
      match phase with
      | .attempt | .refused _ => 0
      | _ => if crates.toLowercase body.username = key then 1 else 0
  | _ => 0

/-- What a task may do to the kept attempts of a key: an attempt on it, or a login on it whose
credentials were accepted and that clears it. -/
inductive TouchesAttempts (task : AuthTask) (key : String) (after : List Nat) : Prop where
  | attempt (body : LoginRequest) (own : crates.toLowercase body.username = key)
      (same : task = .login body .attempt)
  | clear (body : LoginRequest) (id : Uuid) (user : UserRow)
      (own : crates.toLowercase body.username = key) (same : task = .login body (.clear id user))
      (accepted : CredentialsAccepted crates body user) (none : after = [])

/-- The throttle of every key. -/
structure LoginsThrottled (config : Config AuthServer AuthTask) : Prop where
  bounded : ∀ key start,
    (∀ time ∈ config.shared.clearedTimes key, ¬(start ≤ time ∧ time < start + LOGIN_WINDOW)) →
    SlidingWindow.within LOGIN_WINDOW start (config.shared.admittedTimes key) ≤ MAX_LOGIN_ATTEMPTS
  passed : ∀ key, total (AuthTask.passing crates key) config.tasks ≤
    (config.shared.admittedTimes key).length
  touched : ∀ task ∈ config.tasks, ∀ choice after new,
    (authProgram crates).step config.shared task choice = some (after, new) → ∀ key,
      after.loginAttempts key ≠ config.shared.loginAttempts key →
        TouchesAttempts crates task key (after.loginAttempts key)
  admits : ∀ username,
    (∀ time ∈ config.shared.admittedTimes (crates.toLowercase username),
      time + LOGIN_WINDOW ≤ config.shared.now) →
    (recordFailedAttempt crates config.shared.loginAttempts username config.shared.now).2 = false

/-- A server that has just started, on any users and refresh tokens. -/
structure ThrottleStart (config : Config AuthServer AuthTask) : Prop where
  tasks : config.tasks = []
  attempts : ∀ key, config.shared.loginAttempts key = []
  history : config.shared.history = []

/-- The limiter of every key, with what happened to the key. -/
def AuthServer.Tracked (s : AuthServer) : Prop :=
  ∀ key, SlidingWindow.Tracks LOGIN_WINDOW MAX_LOGIN_ATTEMPTS s.now (s.loginAttempts key)
    (s.admittedTimes key) (s.clearedTimes key)

/-- What a login knows of the user it goes on with. -/
def AuthTask.Checked : AuthTask → Prop
  | .login body (.password _ user) => user.username = body.username
  | .login body (.secondFactor _ user) => user.username = body.username ∧
      crates.bcryptVerify body.password user.passwordHash = .ok true
  | .login body (.clear _ user) => CredentialsAccepted crates body user
  | _ => True

variable {crates} {choice : AuthChoice}

/-! ## One attempt -/

theorem recordFailedAttempt_rejects {map after : String → List Nat} {username : String} {now : Nat}
    (recorded : recordFailedAttempt crates map username now = (after, true)) :
    after = Function.update map (crates.toLowercase username)
      (SlidingWindow.prune LOGIN_WINDOW now (map (crates.toLowercase username))) := by
  simp only [recordFailedAttempt] at recorded
  split at recorded
  · exact (congrArg Prod.fst recorded).symm
  · rename_i room
    have full := congrArg Prod.snd recorded
    simp only [List.length_append, List.length_singleton, decide_eq_true_eq] at full
    omega

theorem recordFailedAttempt_admits {map after : String → List Nat} {username : String} {now : Nat}
    (recorded : recordFailedAttempt crates map username now = (after, false)) :
    after = Function.update map (crates.toLowercase username)
        (SlidingWindow.prune LOGIN_WINDOW now (map (crates.toLowercase username)) ++ [now]) ∧
      (SlidingWindow.prune LOGIN_WINDOW now (map (crates.toLowercase username))).length <
        MAX_LOGIN_ATTEMPTS := by
  simp only [recordFailedAttempt] at recorded
  split at recorded
  · cases congrArg Prod.snd recorded
  · rename_i room
    exact ⟨(congrArg Prod.fst recorded).symm, by omega⟩

theorem recordFailedAttempt_of_admits {map : String → List Nat} {username : String} {now : Nat}
    (admits : SlidingWindow.admits LOGIN_WINDOW MAX_LOGIN_ATTEMPTS now
      (map (crates.toLowercase username)) = true) :
    (recordFailedAttempt crates map username now).2 = false := by
  have room := of_decide_eq_true admits
  simp only [recordFailedAttempt]
  rw [if_neg (by omega)]
  simp only [List.length_append, List.length_singleton, decide_eq_false_iff_not]
  omega

theorem checkSecondFactor_ok {now : Nat} {user : UserRow} {code : Option String}
    (valid : checkSecondFactor crates now user code = .ok ()) (enabled : user.totpEnabled = true) :
    ∃ secret time, user.totpSecret = some secret ∧
      checkTotp crates time secret (code.getD "") = .ok true := by
  simp only [checkSecondFactor, enabled, if_true] at valid
  split at valid
  · cases valid
  · rename_i secret stored
    simp only [bind, Except.bind] at valid
    split at valid
    · cases valid
    · rename_i accepted checked
      split at valid
      · rename_i yes
        subst yes
        exact ⟨secret, now, stored, checked⟩
      · cases valid

/-! ## Steps -/

section

variable (s : AuthServer) (event : AuthEvent) (key : String)

@[simp] theorem record_now : (s.record event).now = s.now := rfl

@[simp] theorem record_loginAttempts : (s.record event).loginAttempts = s.loginAttempts := rfl

@[simp] theorem admittedTimes_attempts (loginAttempts : String → List Nat) :
    { s with loginAttempts }.admittedTimes key = s.admittedTimes key := rfl

@[simp] theorem admittedTimes_refreshTokens (refreshTokens : Table String RefreshTokenRow) :
    { s with refreshTokens }.admittedTimes key = s.admittedTimes key := rfl

@[simp] theorem admittedTimes_revokeRefreshToken (hash : String) :
    (s.revokeRefreshToken hash).admittedTimes key = s.admittedTimes key := rfl

@[simp] theorem admittedTimes_updateUser (user : Uuid) (change : UserRow → UserRow) :
    (s.updateUser user change).admittedTimes key = s.admittedTimes key := rfl

@[simp] theorem clearedTimes_attempts (loginAttempts : String → List Nat) :
    { s with loginAttempts }.clearedTimes key = s.clearedTimes key := rfl

@[simp] theorem admittedTimes_record :
    (s.record event).admittedTimes key = s.admittedTimes key ++
      (match event with
        | .admitted own time => if own = key then [time] else []
        | _ => []) := by
  cases event with
  | admitted own time =>
      by_cases same : own = key <;> simp [AuthServer.admittedTimes, AuthServer.record, same]
  | _ => simp [AuthServer.admittedTimes, AuthServer.record]

@[simp] theorem clearedTimes_record :
    (s.record event).clearedTimes key = s.clearedTimes key ++
      (match event with
        | .cleared own time => if own = key then [time] else []
        | _ => []) := by
  cases event with
  | cleared own time =>
      by_cases same : own = key <;> simp [AuthServer.clearedTimes, AuthServer.record, same]
  | _ => simp [AuthServer.clearedTimes, AuthServer.record]

end

theorem AuthServer.Tracked.record {s : AuthServer} {event : AuthEvent} (tracked : s.Tracked)
    (other : ∀ key, (s.record event).admittedTimes key = s.admittedTimes key ∧
      (s.record event).clearedTimes key = s.clearedTimes key) : (s.record event).Tracked := by
  intro key
  rw [(other key).1, (other key).2]
  exact tracked key

theorem AuthTurn.tracked {s s' : AuthServer} {task : AuthTask} {new : List AuthTask}
    (turn : AuthTurn crates s choice task s' new) (tracked : s.Tracked) : s'.Tracked := by
  cases turn with
  | @rejected body loginAttempts error recorded =>
      intro key
      rw [recordFailedAttempt_rejects recorded]
      by_cases own : key = crates.toLowercase body.username
      · subst own
        simpa using (tracked (crates.toLowercase body.username)).prune
      · simpa [own] using tracked key
  | @admitted body loginAttempts recorded =>
      obtain ⟨rfl, room⟩ := recordFailedAttempt_admits recorded
      intro key
      by_cases own : key = crates.toLowercase body.username
      · subst own
        simpa using (tracked (crates.toLowercase body.username)).prune.allow room
      · simpa [own, Ne.symm own] using tracked key
  | @cleared body id user =>
      intro key
      by_cases own : key = crates.toLowercase body.username
      · subst own
        simpa [clearAttempts] using
          (tracked (crates.toLowercase body.username)).clear
      · simpa [clearAttempts, own, Ne.symm own] using tracked key
  | issued _ _ inserted =>
      obtain ⟨refreshTokens, rfl⟩ := insertRefreshToken_frame inserted
      exact AuthServer.Tracked.record tracked (by simp)
  | tick => exact fun key => (tracked key).tick (Nat.le_add_right _ _)
  | leftNothing => exact AuthServer.Tracked.record tracked (by simp)
  | revoked => exact AuthServer.Tracked.record tracked (by simp)
  | proved => exact AuthServer.Tracked.record tracked (by simp)
  | enabled => exact AuthServer.Tracked.record tracked (by simp)
  | _ => exact tracked

theorem passing_refused {next : AuthTask} (ended : next.isRefused = true) (key : String) :
    next.passing crates key = 0 := by
  cases next with
  | login body phase => cases phase <;> first | rfl | cases ended
  | _ => rfl

/-- A login passes the throttle with an admission of its own. -/
theorem AuthTurn.passes {s s' : AuthServer} {task : AuthTask} {new : List AuthTask}
    (turn : AuthTurn crates s choice task s' new) (key : String) :
    total (AuthTask.passing crates key) new + (s.admittedTimes key).length ≤
      task.passing crates key + (s'.admittedTimes key).length := by
  cases turn with
  | refused ended =>
      simp only [total_cons, total_nil, passing_refused ended]
      omega
  | rejected => simp [AuthTask.passing]
  | @admitted body loginAttempts recorded =>
      by_cases own : crates.toLowercase body.username = key
      · simp only [AuthTask.passing, own, total_cons, total_nil, admittedTimes_record,
          admittedTimes_attempts, if_true, List.length_append, List.length_singleton]
        omega
      · simp [AuthTask.passing, own]
  | issued _ _ inserted =>
      obtain ⟨refreshTokens, rfl⟩ := insertRefreshToken_frame inserted
      simp [AuthTask.passing]
  | userRemoved => exact Nat.le_refl _
  | tick => exact Nat.le_refl _
  | _ => simp [AuthTask.passing]

/-- A login goes on only with a user whose credentials it has checked so far. -/
theorem AuthTurn.checks {s s' : AuthServer} {task : AuthTask} {new : List AuthTask}
    (turn : AuthTurn crates s choice task s' new) (checked : task.Checked crates) :
    ∀ next ∈ new, next.Checked crates := by
  cases turn with
  | refused ended =>
      rename_i next
      intro own member
      rw [List.mem_singleton.mp member]
      cases next with
      | login body phase => cases phase <;> trivial
      | _ => trivial
  | lookedUp found =>
      intro own member
      rw [List.mem_singleton.mp member]
      unfold AuthServer.userNamed at found
      simpa [AuthTask.Checked] using List.find?_some found
  | passwordAccepted valid =>
      intro own member
      rw [List.mem_singleton.mp member]
      exact ⟨checked, valid⟩
  | secondFactorAccepted valid =>
      intro own member
      rw [List.mem_singleton.mp member]
      exact ⟨checked.1, checked.2, fun enabled => checkSecondFactor_ok valid enabled⟩
  | userRemoved => simp
  | tick => simp
  | _ => simp [AuthTask.Checked]

theorem AuthTurn.touches {s s' : AuthServer} {task : AuthTask} {new : List AuthTask}
    (turn : AuthTurn crates s choice task s' new) (checked : task.Checked crates) (key : String)
    (changed : s'.loginAttempts key ≠ s.loginAttempts key) :
    TouchesAttempts crates task key (s'.loginAttempts key) := by
  cases turn with
  | @rejected body loginAttempts error recorded =>
      by_cases own : crates.toLowercase body.username = key
      · exact .attempt body own rfl
      · simp [recordFailedAttempt_rejects recorded, Ne.symm own] at changed
  | @admitted body loginAttempts recorded =>
      by_cases own : crates.toLowercase body.username = key
      · exact .attempt body own rfl
      · simp [(recordFailedAttempt_admits recorded).1, Ne.symm own] at changed
  | @cleared body id user =>
      by_cases own : crates.toLowercase body.username = key
      · exact .clear body id user own rfl checked (by simp [clearAttempts, own])
      · simp [clearAttempts, Ne.symm own] at changed
  | issued _ _ inserted =>
      obtain ⟨refreshTokens, rfl⟩ := insertRefreshToken_frame inserted
      exact absurd rfl changed
  | _ => exact absurd rfl changed

/-! ## Runs -/

theorem logins_throttled {start config : Config AuthServer AuthTask} (started : ThrottleStart start)
    (reached : Reach (authProgram crates) Guard.any start config) : LoginsThrottled crates config := by
  have outline : Outline (authProgram crates) Guard.any AuthServer.Tracked
      fun _ task => task.Checked crates := by
    constructor
    · intro shared task _ request
      cases task with
      | login body phase => cases phase <;> trivial
      | _ => trivial
    · intro shared others task choice shared' new tracked checked _ _ moved
      exact ⟨(auth_cases moved).tracked tracked, (auth_cases moved).checks checked⟩
    · intro shared others task choice shared' new _ _ _ _ other _ checked
      exact checked
  have initial : Annotated AuthServer.Tracked (fun _ task => task.Checked crates) start := by
    constructor
    · intro key
      have admitted : start.shared.admittedTimes key = [] := by
        simp [AuthServer.admittedTimes, started.history]
      have cleared : start.shared.clearedTimes key = [] := by
        simp [AuthServer.clearedTimes, started.history]
      rw [started.attempts, admitted, cleared]
      exact SlidingWindow.tracks_nil _
    · simp [started.tasks]
  have holds := outline.holds initial reached
  constructor
  · exact fun key => (holds.shared key).bounded
  · intro key
    have counted := reached.at_most (fun _ => 0) (fun s => (s.admittedTimes key).length)
      (AuthTask.passing crates key) (by simp [started.tasks])
      (by
        intro task request
        cases task with
        | login body phase => cases phase <;> first | rfl | cases request
        | _ => rfl)
      fun shared others task choice shared' new _ moved => by
        have passes := (auth_cases moved).passes key
        omega
    omega
  · intro task member choice after new moved key changed
    exact (auth_cases moved).touches (holds.tasks task member) key changed
  · intro username passed
    exact recordFailedAttempt_of_admits
      ((holds.shared _).admits_of_passed (by decide) passed)

/-! ## A guessed password -/

def guess (username password : String) : AuthTask :=
  .login { username, password, totpCode := none } .attempt

/-- Six guesses, of which the throttle rejects the last; after a window, a login. -/
def guesses : List (Label AuthTask AuthChoice) :=
  (List.range 6).flatMap (fun index =>
    [.arrive (guess "Admin" "password"), .run index .proceeds]) ++
  [.arrive (.clock LOGIN_WINDOW), .run 6 .proceeds, .arrive (guess "admin" "U*U"),
    .run 6 .proceeds, .run 6 .proceeds, .run 6 .proceeds, .run 6 .proceeds, .run 6 .proceeds]

theorem logins_throttled_guesses : ∃ config,
    Reach (authProgram sampleCrates) Guard.any (sampleAuth sampleUser) config ∧
      config.shared.admittedTimes "admin" = [0, 0, 0, 0, 0, LOGIN_WINDOW] ∧
      config.shared.clearedTimes "admin" = [LOGIN_WINDOW] ∧
      LoginsThrottled sampleCrates config := by
  have started : ThrottleStart (sampleAuth sampleUser) := ⟨rfl, fun _ => rfl, rfl⟩
  obtain ⟨config, reached, seen⟩ := Reach.of_observed (authProgram sampleCrates) Guard.any
    (sampleAuth sampleUser) guesses
    (fun config => (config.shared.admittedTimes "admin", config.shared.clearedTimes "admin"))
    ([0, 0, 0, 0, 0, LOGIN_WINDOW], [LOGIN_WINDOW]) (by decide +kernel)
  simp only [Prod.mk.injEq] at seen
  exact ⟨config, reached, seen.1, seen.2, logins_throttled started reached⟩

end OsfmEdm
