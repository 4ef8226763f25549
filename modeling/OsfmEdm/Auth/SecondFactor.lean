import OsfmEdm.Auth.Turn

/-!
An enabled second factor was proved, as long as no setup overwrites the secret of an account that
has it enabled, and none comes between the check of a code and the enabling.
-/

namespace OsfmEdm

open Interleaving

/-- A setup stores its secret only while the account has no second factor enabled; a verification
enables it only while the stored secret is still the one it checked, or one for which another
verification accepted a code. -/
def keepsProvedSecret : Guard AuthServer AuthTask AuthChoice := fun s _ task choice =>
  match task, choice with
  | .mfaSetup auth (.store _), .proceeds =>
      (s.users.find? auth.userId).all fun user => !user.totpEnabled
  | .mfaVerify auth _ (.enable secret), .proceeds =>
      (s.users.find? auth.userId).all fun user =>
        user.totpSecret.any fun stored =>
          stored = secret ∨ .proved auth.userId stored ∈ s.history
  | _, _ => True

instance : ∀ s others task choice, Decidable (keepsProvedSecret s others task choice) := by
  intro s others task choice
  unfold keepsProvedSecret
  split <;> infer_instance

/-- Where a second factor is enabled, a code was accepted for the stored secret. -/
def SecondFactorsProved (s : AuthServer) : Prop :=
  ∀ id user, s.users.find? id = some user → user.totpEnabled = true →
    ∃ secret, user.totpSecret = some secret ∧ .proved id secret ∈ s.history

structure SecondFactorStart (config : Config AuthServer AuthTask) : Prop where
  tasks : config.tasks = []
  proved : SecondFactorsProved config.shared

/-- What has happened in between. -/
def AuthServer.since (earlier later : AuthServer) : List AuthEvent :=
  later.history.drop earlier.history.length

/-- An enabled second factor was proved; and without a successful verification in between, a login
accepts the codes it did, at any time. -/
structure SecondFactorsHold (crates : AuthCrates) (earlier later : Config AuthServer AuthTask) :
    Prop where
  proved : SecondFactorsProved later.shared
  unchanged : ∀ id before after, earlier.shared.users.find? id = some before →
    later.shared.users.find? id = some after →
    .enabled id ∉ earlier.shared.since later.shared →
    ∀ time code, checkSecondFactor crates time after code = checkSecondFactor crates time before code

/-- A verification that enables a second factor has accepted a code for the secret it read. -/
def AuthTask.HasProved (s : AuthServer) : AuthTask → Prop
  | .mfaVerify auth _ (.enable secret) => .proved auth.userId secret ∈ s.history
  | _ => True

/-- The second factor of an account between two states: enabled as before, and with the same
secret where it is. -/
def SameSecondFactor (before after : UserRow) : Prop :=
  after.totpEnabled = before.totpEnabled ∧
    (before.totpEnabled = true → after.totpSecret = before.totpSecret)

variable {crates : AuthCrates} {s s' : AuthServer} {others new : List AuthTask} {task : AuthTask}
  {choice : AuthChoice}

theorem checkSecondFactor_same {before after : UserRow} (same : SameSecondFactor before after)
    (time : Nat) (code : Option String) :
    checkSecondFactor crates time after code = checkSecondFactor crates time before code := by
  simp only [checkSecondFactor, same.1]
  split
  · rename_i enabled
    rw [same.2 enabled]
  · rfl

/-! ## Steps -/

/-- What a step does to the second factor of an account. -/
inductive AccountStep (s s' : AuthServer) (id : Uuid) (before after : UserRow) : Prop where
  | same (enabled : after.totpEnabled = before.totpEnabled)
      (secret : after.totpSecret = before.totpSecret)
  | stored (off : before.totpEnabled = false) (enabled : after.totpEnabled = before.totpEnabled)
  | enabled (event : s'.history = s.history ++ [.enabled id])
      (secret : after.totpSecret = before.totpSecret)
      (proved : ∃ secret, before.totpSecret = some secret ∧ .proved id secret ∈ s.history)

theorem AuthTurn.account (turn : AuthTurn crates s choice task s' new)
    (meets : keepsProvedSecret s others task choice) (checked : task.HasProved s) {id : Uuid}
    {after : UserRow} (found : s'.users.find? id = some after) :
    ∃ before, s.users.find? id = some before ∧ AccountStep s s' id before after := by
  cases turn with
  | issued _ _ inserted =>
      obtain ⟨refreshTokens, rfl⟩ := insertRefreshToken_frame inserted
      exact ⟨after, found, .same rfl rfl⟩
  | @touched body own token claims =>
      simp only [AuthServer.updateUser, Table.find?_update] at found
      split at found
      · obtain ⟨before, present, rfl⟩ := Option.map_eq_some_iff.mp found
        exact ⟨before, present, .same rfl rfl⟩
      · exact ⟨after, found, .same rfl rfl⟩
  | @stored auth response chosen =>
      subst chosen
      simp only [AuthServer.updateUser, Table.find?_update] at found
      split at found
      · rename_i same
        subst same
        obtain ⟨before, present, rfl⟩ := Option.map_eq_some_iff.mp found
        have off : before.totpEnabled = false := by
          simpa [keepsProvedSecret, present] using meets
        exact ⟨before, present, .stored off rfl⟩
      · exact ⟨after, found, .same rfl rfl⟩
  | @enabled auth code secret chosen =>
      subst chosen
      simp only [AuthServer.updateUser, AuthServer.record, Table.find?_update] at found
      split at found
      · rename_i same
        subst same
        obtain ⟨before, present, rfl⟩ := Option.map_eq_some_iff.mp found
        refine ⟨before, present, .enabled rfl rfl ?_⟩
        simp only [keepsProvedSecret, present, Option.all_some, Option.any_eq_true,
          decide_eq_true_eq] at meets
        obtain ⟨held, stored, own | other⟩ := meets
        · exact ⟨held, stored, own ▸ checked⟩
        · exact ⟨held, stored, other⟩
      · exact ⟨after, found, .same rfl rfl⟩
  | @userRemoved user =>
      simp only [AuthServer.removeUser, Table.find?_keep] at found
      exact ⟨after, (Option.filter_eq_some_iff.mp found).1, .same rfl rfl⟩
  | _ => exact ⟨after, found, .same rfl rfl⟩

theorem AuthTurn.hasProved (turn : AuthTurn crates s choice task s' new) :
    ∀ next ∈ new, next.HasProved s' := by
  cases turn with
  | refused ended =>
      rename_i next
      intro own member
      rw [List.mem_singleton.mp member]
      cases next with
      | mfaVerify auth code phase => cases phase <;> trivial
      | _ => trivial
  | proved valid =>
      intro own member
      rw [List.mem_singleton.mp member]
      exact List.mem_append_right _ (List.mem_singleton_self _)
  | userRemoved => simp
  | tick => simp
  | _ => simp [AuthTask.HasProved]

theorem AuthTurn.secondFactors (turn : AuthTurn crates s choice task s' new)
    (meets : keepsProvedSecret s others task choice) (checked : task.HasProved s)
    (proved : SecondFactorsProved s) : SecondFactorsProved s' := by
  intro id after found enabled
  obtain ⟨events, grows⟩ := turn.grows
  obtain ⟨before, present, step⟩ := turn.account meets checked found
  have older {secret : String} (old : .proved id secret ∈ s.history) :
      .proved id secret ∈ s'.history := grows ▸ List.mem_append_left _ old
  cases step with
  | same on secret =>
      obtain ⟨held, stored, known⟩ := proved id before present (on ▸ enabled)
      exact ⟨held, secret.trans stored, older known⟩
  | stored off on =>
      rw [on, off] at enabled
      cases enabled
  | enabled _ secret known =>
      obtain ⟨held, stored, accepted⟩ := known
      exact ⟨held, secret.trans stored, older accepted⟩

/-! ## Runs -/

theorem second_factors_proved {start config : Config AuthServer AuthTask}
    (started : SecondFactorStart start)
    (reached : Reach (authProgram crates) keepsProvedSecret start config) :
    Annotated SecondFactorsProved AuthTask.HasProved config := by
  have outline : Outline (authProgram crates) keepsProvedSecret SecondFactorsProved
      AuthTask.HasProved := by
    constructor
    · intro shared task _ request
      cases task with
      | mfaVerify auth code phase => cases phase <;> trivial
      | _ => trivial
    · intro shared others task choice shared' new proved checked _ meets moved
      have turn := auth_cases moved
      exact ⟨turn.secondFactors meets checked proved, turn.hasProved⟩
    · intro shared others task choice shared' new _ _ _ moved other _ checked
      obtain ⟨events, grows⟩ := (auth_cases moved).grows
      cases other with
      | mfaVerify auth code phase =>
          cases phase with
          | enable secret =>
              have older : .proved auth.userId secret ∈ shared'.history := by
                rw [grows]
                exact List.mem_append_left _ checked
              exact older
          | _ => trivial
      | _ => trivial
  exact outline.holds ⟨started.proved, by simp [started.tasks]⟩ reached

/-- The accounts since an earlier state: without an enabling, their second factors are the same. -/
structure AccountsKept (earlier later : AuthServer) : Prop where
  grows : ∃ events, later.history = earlier.history ++ events
  kept : ∀ id after, later.users.find? id = some after → ∃ before,
    earlier.users.find? id = some before ∧
      (.enabled id ∉ earlier.since later → SameSecondFactor before after)

theorem since_append {earlier later last : AuthServer} {events added : List AuthEvent}
    (grows : later.history = earlier.history ++ events)
    (adds : last.history = later.history ++ added) :
    earlier.since last = earlier.since later ++ added := by
  simp [AuthServer.since, grows, adds, List.append_assoc]

theorem AccountsKept.step {earlier : AuthServer} (kept : AccountsKept earlier s)
    (turn : AuthTurn crates s choice task s' new)
    (meets : keepsProvedSecret s others task choice) (checked : task.HasProved s) :
    AccountsKept earlier s' := by
  obtain ⟨events, grows⟩ := kept.grows
  obtain ⟨added, adds⟩ := turn.grows
  refine ⟨⟨events ++ added, by rw [adds, grows, List.append_assoc]⟩, ?_⟩
  intro id after found
  obtain ⟨middle, present, step⟩ := turn.account meets checked found
  obtain ⟨before, first, same⟩ := kept.kept id middle present
  refine ⟨before, first, fun unchanged => ?_⟩
  rw [since_append grows adds, List.mem_append, not_or] at unchanged
  obtain ⟨on, secret⟩ := same unchanged.1
  cases step with
  | same on' secret' =>
      exact ⟨on'.trans on, fun enabled => secret'.trans (secret enabled)⟩
  | stored off on' =>
      refine ⟨on'.trans on, fun enabled => ?_⟩
      rw [on, enabled] at off
      cases off
  | enabled event _ _ =>
      have new : added = [.enabled id] := List.append_cancel_left (adds.symm.trans event)
      exact absurd (by simp [new]) unchanged.2

theorem second_factors_hold {start earlier later : Config AuthServer AuthTask}
    (started : SecondFactorStart start)
    (first : Reach (authProgram crates) keepsProvedSecret start earlier)
    (second : Reach (authProgram crates) keepsProvedSecret earlier later) :
    SecondFactorsHold crates earlier later := by
  have kept : AccountsKept earlier.shared later.shared := by
    refine second.carry (fun config => AccountsKept earlier.shared config.shared) ?_ ?_ ?_
    · exact ⟨⟨[], (List.append_nil _).symm⟩, fun id after found =>
        ⟨after, found, fun _ => ⟨rfl, fun _ => rfl⟩⟩⟩
    · intro shared tasks task _ kept _
      exact kept
    · intro shared shared' before after new task choice reached kept meets moved
      have holds := second_factors_proved started (first.trans reached)
      exact kept.step (auth_cases moved) meets (holds.tasks task (by simp))
  refine ⟨(second_factors_proved started (first.trans second)).shared, ?_⟩
  intro id before after present found unchanged time code
  obtain ⟨own, held, same⟩ := kept.kept id after found
  rw [present] at held
  cases held
  exact checkSecondFactor_same (same unchanged) time code

/-! ## One account -/

def sampleAuthUser : AuthUser where
  userId := Uuid.small 1
  username := "admin"
  role := "admin"

def setsUp (secret : List UInt8) (index : Nat) : List (Label AuthTask AuthChoice) :=
  [.arrive (.mfaSetup sampleAuthUser .generate), .run index (.generatesSecret secret),
    .run index .proceeds]

/-- A setup and the verification of its secret. -/
def enrolls : List (Label AuthTask AuthChoice) :=
  setsUp sampleSecretBytes 0 ++
    [.arrive (.mfaVerify sampleAuthUser "287082" .select), .run 1 .proceeds, .run 1 .proceeds,
      .run 1 .proceeds]

/-- A login up to the check of its code. -/
def entersCode : List (Label AuthTask AuthChoice) :=
  [.arrive (.login { username := "admin", password := "U*U", totpCode := some "287082" } .attempt),
    .run 2 .proceeds, .run 2 .proceeds, .run 2 .proceeds, .run 2 .proceeds]

/-- Whether the second factor of the account is enabled, its secret, and whether that was proved. -/
def secondFactorOf (config : Config AuthServer AuthTask) : Option (Bool × Option String × Bool) :=
  (config.shared.users.find? (Uuid.small 1)).map fun user =>
    (user.totpEnabled, user.totpSecret,
      user.totpSecret.any fun secret => .proved (Uuid.small 1) secret ∈ config.shared.history)

theorem sampleAuth_secondFactors : SecondFactorStart (sampleAuth sampleUser) where
  tasks := rfl
  proved id user found enabled := by
    simp only [sampleAuth, Table.find?_eq_some, List.mem_singleton, Prod.mk.injEq] at found
    rw [found.2] at enabled
    cases enabled

theorem second_factors_hold_enrolled : ∃ earlier later,
    Reach (authProgram sampleCrates) keepsProvedSecret (sampleAuth sampleUser) earlier ∧
      Reach (authProgram sampleCrates) keepsProvedSecret earlier later ∧
      secondFactorOf earlier = some (true, some sampleSecret, true) ∧
      secondFactorOf later = some (true, some sampleSecret, true) ∧
      SecondFactorsHold sampleCrates earlier later := by
  obtain ⟨earlier, later, first, second, before, after⟩ := Reach.of_observed_twice
    (authProgram sampleCrates) keepsProvedSecret (sampleAuth sampleUser) enrolls entersCode
    secondFactorOf (some (true, some sampleSecret, true)) (some (true, some sampleSecret, true))
    (by decide +kernel)
  exact ⟨earlier, later, first, second, before, after,
    second_factors_hold sampleAuth_secondFactors first second⟩

/-- The second setup overwrites the secret that was proved. -/
theorem second_factor_overwritten : ¬ ∀ (crates : AuthCrates)
    (start earlier later : Config AuthServer AuthTask), SecondFactorStart start →
    Reach (authProgram crates) Guard.any start earlier →
      Reach (authProgram crates) Guard.any earlier later →
        SecondFactorsHold crates earlier later := by
  intro hold
  obtain ⟨earlier, later, first, second, _, after⟩ := Reach.of_observed_twice
    (authProgram sampleCrates) Guard.any (sampleAuth sampleUser) enrolls
    (setsUp (List.replicate 20 0) 2) secondFactorOf (some (true, some sampleSecret, true))
    (some (true, some otherSecret, false)) (by decide +kernel)
  have proved := (hold _ _ _ _ sampleAuth_secondFactors first second).proved
  obtain ⟨user, found, seen⟩ := Option.map_eq_some_iff.mp after
  simp only [Prod.mk.injEq] at seen
  obtain ⟨secret, stored, known⟩ := proved _ user found seen.1
  simp [stored, known] at seen

end OsfmEdm
