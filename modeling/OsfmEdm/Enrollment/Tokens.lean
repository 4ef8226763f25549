import OsfmEdm.Enrollment.Step

/-!
An enrollment token makes one device as long as a request inserts its device only while the
token is unused and no other request of the token has inserted one.
-/

namespace OsfmEdm

open Interleaving

variable {hexSha256 : String → String}

/-- One for a token that is marked used. -/
def EnrollServer.used (s : EnrollServer) (tokenHash : String) : Nat :=
  ((s.enrollmentTokens.find? tokenHash).any (·.used)).toNat

/-- The devices rows that requests with the token have inserted. -/
def EnrollServer.devicesOf (s : EnrollServer) (tokenHash : String) : Nat :=
  s.devices.rows.countP fun row => row.2.enrolledBy = some tokenHash

def EnrollDevice.inserted : EnrollDevice → Bool
  | .issueCert .. | .insertCertificate .. | .markUsed .. | .abandoned .. => true
  | _ => false

def EnrollDevice.succeeded : EnrollDevice → Bool
  | .enrolled _ => true
  | _ => false

variable (hexSha256) in
/-- One for a request that has inserted its device and not marked the token. -/
def EnrollTask.holding (tokenHash : String) : EnrollTask → Nat
  | .enroll body phase => if hexSha256 body.token = tokenHash ∧ phase.inserted then 1 else 0
  | _ => 0

variable (hexSha256) in
/-- One for a request that has succeeded. -/
def EnrollTask.succeeding (tokenHash : String) : EnrollTask → Nat
  | .enroll body phase => if hexSha256 body.token = tokenHash ∧ phase.succeeded then 1 else 0
  | _ => 0

variable (hexSha256) in
/-- A request inserts its device only while its token is still unused and no other request of
the token has inserted a device without marking the token. -/
def insertsAlone : Guard EnrollServer EnrollTask EnrollChoice := fun s others task _ =>
  match task with
  | .enroll body .insertDevice =>
      (s.enrollmentTokens.find? (hexSha256 body.token)).any (!·.used) = true ∧
        ∀ other ∈ others, other.holding hexSha256 (hexSha256 body.token) = 0
  | _ => True

instance : ∀ s others task choice, Decidable (insertsAlone hexSha256 s others task choice) := by
  intro s others task choice
  unfold insertsAlone
  split <;> infer_instance

/-- A server that starts on its database, where a token that has made a device is used. -/
structure EnrollStart (config : Config EnrollServer EnrollTask) : Prop where
  tasks : config.tasks = []
  devices : ∀ tokenHash, config.shared.devicesOf tokenHash ≤ config.shared.used tokenHash

/-- A token is used for one device, and one request succeeds with it. -/
structure TokensOnce (hexSha256 : String → String) (config : Config EnrollServer EnrollTask) :
    Prop where
  devices : ∀ tokenHash, config.shared.devicesOf tokenHash ≤ 1
  succeeded : ∀ tokenHash, total (EnrollTask.succeeding hexSha256 tokenHash) config.tasks ≤ 1

/-! ## Statements -/

section

variable {s s' : EnrollServer} (tokenHash : String)

theorem devicesOf_insert {device : Uuid} {body : EnrollRequest} {deviceTokenHash own : String}
    (done : s.insertDevice device body deviceTokenHash own = some s') :
    s'.devicesOf tokenHash = s.devicesOf tokenHash + (if own = tokenHash then 1 else 0) ∧
      s'.enrollmentTokens = s.enrollmentTokens := by
  obtain ⟨devices, inserted, rfl⟩ := Option.map_eq_some_iff.mp done
  unfold Table.insert at inserted
  split at inserted <;> cases inserted
  simp [EnrollServer.devicesOf, List.countP_append, List.countP_singleton]

theorem insertCertificate_frame {device : Uuid} {issued : IssuedCert}
    (done : s.insertCertificate device issued = some s') :
    s'.devices = s.devices ∧ s'.enrollmentTokens = s.enrollmentTokens := by
  unfold EnrollServer.insertCertificate at done
  split at done
  · cases done
  · obtain ⟨certificates, _, rfl⟩ := Option.map_eq_some_iff.mp done
    exact ⟨rfl, rfl⟩

theorem used_insertToken {own : String} {createdBy : Uuid}
    (done : s.insertToken own createdBy = some s') :
    s'.used tokenHash = s.used tokenHash ∧ s'.devices = s.devices ∧
      (s.enrollmentTokens.contains tokenHash → s'.enrollmentTokens.contains tokenHash) := by
  obtain ⟨enrollmentTokens, inserted, rfl⟩ := Option.map_eq_some_iff.mp done
  have absent := Table.insert_absent inserted
  simp only [EnrollServer.used, Table.contains, Table.find?_insert inserted, true_and]
  by_cases same : tokenHash = own
  · simp [same, absent]
  · simp [same]

theorem contains_markUsed (own : String) (device : Uuid) :
    (s.markUsed own device).enrollmentTokens.contains tokenHash =
      s.enrollmentTokens.contains tokenHash := by
  simp only [EnrollServer.markUsed, Table.contains, Table.find?_update]
  split <;> simp

theorem used_markUsed {tokenHash : String} (known : s.enrollmentTokens.contains tokenHash)
    (device : Uuid) : (s.markUsed tokenHash device).used tokenHash = 1 := by
  obtain ⟨row, found⟩ := Option.isSome_iff_exists.mp known
  simp [EnrollServer.used, EnrollServer.markUsed, found]

theorem used_markUsed_other {own : String} (other : own ≠ tokenHash) (device : Uuid) :
    (s.markUsed own device).used tokenHash = s.used tokenHash := by
  simp [EnrollServer.used, EnrollServer.markUsed, Ne.symm other]

end

/-! ## Steps -/

/-- What one step does to a token. -/
inductive TokenStep (hexSha256 : String → String) (tokenHash : String) (s s' : EnrollServer)
    (task : EnrollTask) (new : List EnrollTask) : Prop where
  | inserted (own : ∃ body, task = .enroll body .insertDevice ∧ hexSha256 body.token = tokenHash)
      (devices : s'.devicesOf tokenHash = s.devicesOf tokenHash + 1)
      (tokens : s'.enrollmentTokens = s.enrollmentTokens)
      (holding : total (EnrollTask.holding hexSha256 tokenHash) new = 1)
      (succeeding : total (EnrollTask.succeeding hexSha256 tokenHash) new = 0)
  | marked (devices : s'.devicesOf tokenHash = s.devicesOf tokenHash)
      (known : s'.enrollmentTokens.contains tokenHash = s.enrollmentTokens.contains tokenHash)
      (used : s.enrollmentTokens.contains tokenHash → s'.used tokenHash = 1)
      (held : task.holding hexSha256 tokenHash = 1)
      (holding : total (EnrollTask.holding hexSha256 tokenHash) new = 0)
      (succeeding : total (EnrollTask.succeeding hexSha256 tokenHash) new = 1)
  | same (devices : s'.devicesOf tokenHash = s.devicesOf tokenHash)
      (known : s.enrollmentTokens.contains tokenHash → s'.enrollmentTokens.contains tokenHash)
      (used : s'.used tokenHash = s.used tokenHash)
      (holding : total (EnrollTask.holding hexSha256 tokenHash) new =
        task.holding hexSha256 tokenHash)
      (succeeding : total (EnrollTask.succeeding hexSha256 tokenHash) new =
        task.succeeding hexSha256 tokenHash)

variable {s s' : EnrollServer} {choice : EnrollChoice} {task : EnrollTask} {new : List EnrollTask}

theorem TokenStep.quiet {tokenHash : String} {body : EnrollRequest} {phase next : EnrollDevice}
    (devices : s'.devices = s.devices) (tokens : s'.enrollmentTokens = s.enrollmentTokens)
    (inserted : next.inserted = phase.inserted) (succeeded : next.succeeded = phase.succeeded) :
    TokenStep hexSha256 tokenHash s s' (.enroll body phase) [.enroll body next] :=
  .same (by rw [EnrollServer.devicesOf, devices, EnrollServer.devicesOf])
    (by rw [tokens]; exact id) (by rw [EnrollServer.used, tokens, EnrollServer.used])
    (by simp [EnrollTask.holding, inserted]) (by simp [EnrollTask.succeeding, succeeded])

theorem EnrollServer.turn_token (moved : s.turn hexSha256 choice task = some (s', new))
    (tokenHash : String) : TokenStep hexSha256 tokenHash s s' task new := by
  cases task with
  | createToken auth answer =>
      cases answer with
      | some answer => cases moved
      | none =>
          simp only [turn, createToken] at moved
          split at moved
          · cases moved
            exact .same rfl id rfl rfl rfl
          · split at moved
            · rename_i stored
              cases moved
              obtain ⟨used, devices, known⟩ := used_insertToken tokenHash stored
              exact .same (by rw [devicesOf, devices, devicesOf]) known used rfl rfl
            · cases moved
              exact .same rfl id rfl rfl rfl
          · cases moved
            exact .same rfl id rfl rfl rfl
          · cases moved
  | enroll body phase =>
      obtain ⟨⟨s', next⟩, stepped, same⟩ := Option.map_eq_some_iff.mp moved
      cases same
      cases phase with
      | selectToken =>
          simp only [enrollDevice] at stepped
          repeat' split at stepped
          all_goals
            cases stepped
            try exact .quiet rfl rfl rfl rfl
      | insertDevice =>
          simp only [enrollDevice] at stepped
          split at stepped
          · obtain ⟨s', stored, same⟩ := Option.map_eq_some_iff.mp stepped
            cases same
            obtain ⟨devices, tokens⟩ := devicesOf_insert tokenHash stored
            by_cases own : hexSha256 body.token = tokenHash
            · exact .inserted ⟨body, rfl, own⟩ (by rw [devices, if_pos own]) tokens
                (by simp [EnrollTask.holding, own, EnrollDevice.inserted])
                (by simp [EnrollTask.succeeding, EnrollDevice.succeeded])
            · exact .same (by rw [devices, if_neg own, Nat.add_zero]) (by rw [tokens]; exact id)
                (by rw [used, tokens, used]) (by simp [EnrollTask.holding, own])
                (by simp [EnrollTask.succeeding, own])
          · cases stepped
            exact .quiet rfl rfl rfl rfl
          · cases stepped
      | issueCert device deviceToken =>
          simp only [enrollDevice] at stepped
          repeat' split at stepped
          all_goals
            cases stepped
            try exact .quiet rfl rfl rfl rfl
      | insertCertificate device deviceToken issued =>
          simp only [enrollDevice] at stepped
          split at stepped
          · split at stepped
            · rename_i stored
              cases stepped
              obtain ⟨devices, tokens⟩ := insertCertificate_frame stored
              exact .quiet devices tokens rfl rfl
            · cases stepped
              exact .quiet rfl rfl rfl rfl
          · cases stepped
            exact .quiet rfl rfl rfl rfl
          · cases stepped
      | markUsed device deviceToken issued =>
          simp only [enrollDevice] at stepped
          split at stepped
          · cases stepped
            have known : _ = s.enrollmentTokens.contains tokenHash :=
              contains_markUsed tokenHash (hexSha256 body.token) device
            by_cases own : hexSha256 body.token = tokenHash
            · refine .marked rfl known ?_ ?_ ?_ ?_
              · intro present
                rw [own]
                exact used_markUsed present device
              · simp [EnrollTask.holding, own, EnrollDevice.inserted]
              · simp [EnrollTask.holding, EnrollDevice.inserted]
              · simp [EnrollTask.succeeding, own, EnrollDevice.succeeded]
            · exact .same rfl (by rw [known]; exact id)
                (used_markUsed_other tokenHash own device) (by simp [EnrollTask.holding, own])
                (by simp [EnrollTask.succeeding, own])
          · cases stepped
            exact .quiet rfl rfl rfl rfl
          · cases stepped
      | enrolled | refused | abandoned => cases stepped
  | clock =>
      cases moved
      exact .same rfl id rfl rfl rfl

/-! ## Tokens -/

/-- What a token has been used for, with the requests that are at it. -/
structure TokenHeld (hexSha256 : String → String) (tokenHash : String) (s : EnrollServer)
    (tasks : List EnrollTask) : Prop where
  alone : s.used tokenHash + total (EnrollTask.holding hexSha256 tokenHash) tasks ≤ 1
  devices : s.devicesOf tokenHash ≤
    s.used tokenHash + total (EnrollTask.holding hexSha256 tokenHash) tasks
  succeeded : total (EnrollTask.succeeding hexSha256 tokenHash) tasks ≤ s.used tokenHash
  known : 0 < total (EnrollTask.holding hexSha256 tokenHash) tasks →
    s.enrollmentTokens.contains tokenHash

theorem EnrollServer.used_le (s : EnrollServer) (tokenHash : String) : s.used tokenHash ≤ 1 :=
  Bool.toNat_le _

theorem TokenHeld.step {before after : List EnrollTask} {tokenHash : String}
    (held : TokenHeld hexSha256 tokenHash s (before ++ task :: after))
    (step : TokenStep hexSha256 tokenHash s s' task new)
    (alone : insertsAlone hexSha256 s (before ++ after) task choice) :
    TokenHeld hexSha256 tokenHash s' (before ++ new ++ after) := by
  obtain ⟨limit, devices, succeeded, known⟩ := held
  simp only [total_append, total_cons] at limit devices succeeded known
  cases step with
  | inserted own made tokens holding succeeding =>
      obtain ⟨body, rfl, rfl⟩ := own
      obtain ⟨unused, empty⟩ := alone
      obtain ⟨row, found, fresh⟩ := (Option.any_eq_true _ _).mp unused
      have zero : s.used (hexSha256 body.token) = 0 := by
        simpa [EnrollServer.used, found] using fresh
      have same : s'.used (hexSha256 body.token) = 0 := by
        rw [← zero, EnrollServer.used, tokens, EnrollServer.used]
      have others := total_eq_zero empty
      have idle : (EnrollTask.enroll body .insertDevice).holding hexSha256
          (hexSha256 body.token) = 0 := by simp [EnrollTask.holding, EnrollDevice.inserted]
      simp only [total_append] at others
      refine ⟨?_, ?_, ?_, ?_⟩
      · simp only [total_append]
        omega
      · simp only [total_append]
        omega
      · simp only [total_append]
        omega
      · intro _
        rw [tokens, Table.contains, found]
        rfl
  | marked made there used held holding succeeding =>
      have used := used (known (by omega))
      refine ⟨?_, ?_, ?_, ?_⟩
      · simp only [total_append]
        omega
      · simp only [total_append]
        omega
      · simp only [total_append]
        omega
      · intro more
        rw [there]
        exact known (by omega)
  | same made there used holding succeeding =>
      refine ⟨?_, ?_, ?_, ?_⟩
      · simp only [total_append]
        omega
      · simp only [total_append]
        omega
      · simp only [total_append]
        omega
      · intro more
        simp only [total_append] at more
        exact there (known (by omega))

theorem tokens_once {start config : Config EnrollServer EnrollTask} (started : EnrollStart start)
    (reached : Reach (enrollProgram hexSha256) (insertsAlone hexSha256) start config) :
    TokensOnce hexSha256 config := by
  have held (tokenHash : String) : TokenHeld hexSha256 tokenHash config.shared config.tasks := by
    refine reached.invariant (fun config => TokenHeld hexSha256 tokenHash config.shared config.tasks)
      ?_ ?_ ?_
    · have made := started.devices tokenHash
      have limit := start.shared.used_le tokenHash
      refine ⟨?_, ?_, ?_, ?_⟩ <;> simp only [started.tasks, total_nil] <;> omega
    · intro s tasks task held request
      have idle : task.holding hexSha256 tokenHash = 0 ∧
          task.succeeding hexSha256 tokenHash = 0 := by
        cases task with
        | enroll body phase =>
            cases phase with
            | selectToken =>
                simp [EnrollTask.holding, EnrollTask.succeeding, EnrollDevice.inserted,
                  EnrollDevice.succeeded]
            | _ => cases request
        | _ => exact ⟨rfl, rfl⟩
      obtain ⟨limit, devices, succeeded, known⟩ := held
      refine ⟨?_, ?_, ?_, ?_⟩ <;> simpa [idle]
    · intro s s' before after new task choice held alone moved
      exact held.step (EnrollServer.turn_token moved tokenHash) alone
  constructor
  · intro tokenHash
    have holds := held tokenHash
    exact holds.devices.trans holds.alone
  · intro tokenHash
    exact (held tokenHash).succeeded.trans (config.shared.used_le tokenHash)

/-! ## A token -/

/-- A token that is valid and unused. -/
def sampleEnroll : Config EnrollServer EnrollTask where
  shared :=
    { now := 0
      caInitialized := true
      enrollmentTokens := ⟨[("token",
        { createdBy := none, used := false, usedAt := none, usedBy := none,
          expiresAt := hours 24 })], by simp⟩
      devices := .empty
      certificates := .empty }
  tasks := []

theorem sampleEnroll_start : EnrollStart sampleEnroll where
  tasks := rfl
  devices _ := Nat.zero_le _

def laptop : EnrollRequest where
  token := "token"
  hostname := "laptop"
  os := "linux"
  osVersion := none
  arch := none

def laptopCert (fingerprint : String) : IssuedCert where
  certPem := "cert"
  keyPem := "key"
  fingerprint

/-- What a request does from its INSERT on. -/
def enrolling (index : Nat) (device : Uuid) (fingerprint : String) :
    List (Label EnrollTask EnrollChoice) :=
  [.run index (.generatesDevice device "secret"), .run index (.issues (laptopCert fingerprint)),
    .run index .proceeds, .run index .proceeds]

/-- Two requests, the second after the first. -/
def enrolledInTurn : List (Label EnrollTask EnrollChoice) :=
  [.arrive (.enroll laptop .selectToken), .run 0 .proceeds] ++ enrolling 0 (Uuid.small 1) "first" ++
    [.arrive (.enroll laptop .selectToken), .run 1 .proceeds]

/-- Two requests that both read the token as unused. -/
def enrolledAtOnce : List (Label EnrollTask EnrollChoice) :=
  [.arrive (.enroll laptop .selectToken), .arrive (.enroll laptop .selectToken), .run 0 .proceeds,
    .run 1 .proceeds] ++
    enrolling 0 (Uuid.small 1) "first" ++ enrolling 1 (Uuid.small 2) "second"

theorem tokens_once_in_turn : ∃ config,
    Reach (enrollProgram id) (insertsAlone id) sampleEnroll config ∧
      config.shared.devicesOf "token" = 1 ∧ TokensOnce id config := by
  obtain ⟨config, reached, seen⟩ := Reach.of_observed (enrollProgram id) (insertsAlone id)
    sampleEnroll enrolledInTurn (fun config => config.shared.devicesOf "token") 1
    (by decide +kernel)
  exact ⟨config, reached, seen, tokens_once sampleEnroll_start reached⟩

theorem token_used_twice : ¬ ∀ (start config : Config EnrollServer EnrollTask), EnrollStart start →
    Reach (enrollProgram id) Guard.any start config → TokensOnce id config := by
  intro once
  obtain ⟨config, reached, seen⟩ := Reach.of_observed (enrollProgram id) Guard.any sampleEnroll
    enrolledAtOnce (fun config => config.shared.devicesOf "token") 2 (by decide +kernel)
  have one := (once _ _ sampleEnroll_start reached).devices "token"
  omega

end OsfmEdm
