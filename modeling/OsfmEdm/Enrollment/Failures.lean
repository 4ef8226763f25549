import OsfmEdm.Enrollment.Tokens

/-!
What an enrollment that fails leaves in the tables. A request is followed through its own steps,
whatever the others do between them.
-/

namespace OsfmEdm

open Interleaving

/-- The tables an enrollment writes. -/
def EnrollServer.tables (s : EnrollServer) :
    Table Uuid EnrolledDeviceRow × Table Uuid DeviceCertificateRow ×
      Table String EnrollmentTokenRow :=
  (s.devices, s.certificates, s.enrollmentTokens)

def EnrollDevice.response : EnrollDevice → Option (Except ApiError EnrollResponse)
  | .enrolled response => some (.ok response)
  | .refused error | .abandoned _ error => some (.error error)
  | _ => none

abbrev EnrollStride := Stride EnrollServer EnrollChoice

/-- The steps after the INSERT of a device all succeed: the CA is there and issues a certificate,
the database takes its row, and the token is marked. -/
def Completes (device : Uuid) : List EnrollStride → Prop
  | [issue, store, mark] =>
      issue.before.caInitialized = true ∧
        (∃ issued, issue.choice = .issues issued ∧
          store.before.insertCertificate device issued ≠ none) ∧
        store.choice = .proceeds ∧ mark.choice = .proceeds
  | _ => False

/-- The INSERT of the device goes through, and a later step fails. -/
def FailsAfterInsert : List EnrollStride → Prop
  | _ :: insert :: rest =>
      ∃ device deviceToken, insert.choice = .generatesDevice device deviceToken ∧
        ¬ Completes device rest
  | _ => False

/-! ## Steps -/

variable {hexSha256 : String → String} {body : EnrollRequest}

inductive EnrollTurn (hexSha256 : String → String) (body : EnrollRequest) (s : EnrollServer) :
    EnrollDevice → EnrollChoice → EnrollServer → EnrollDevice → Prop where
  | rejected {choice error} : EnrollTurn hexSha256 body s .selectToken choice s (.refused error)
  | verified {choice} : EnrollTurn hexSha256 body s .selectToken choice s .insertDevice
  | notInserted : EnrollTurn hexSha256 body s .insertDevice .fails s (.refused .database)
  | inserted {device deviceToken s'}
      (done : s.insertDevice device body (hexSha256 deviceToken) (hexSha256 body.token) = some s') :
      EnrollTurn hexSha256 body s .insertDevice (.generatesDevice device deviceToken) s'
        (.issueCert device deviceToken)
  | notIssued {device deviceToken choice error}
      (fails : s.caInitialized = false ∨ ∃ error, choice = .cannotIssue error) :
      EnrollTurn hexSha256 body s (.issueCert device deviceToken) choice s
        (.abandoned device error)
  | issued {device deviceToken issued} (initialized : s.caInitialized = true) :
      EnrollTurn hexSha256 body s (.issueCert device deviceToken) (.issues issued) s
        (.insertCertificate device deviceToken issued)
  | notStored {device deviceToken issued choice}
      (fails : choice = .fails ∨ s.insertCertificate device issued = none) :
      EnrollTurn hexSha256 body s (.insertCertificate device deviceToken issued) choice s
        (.abandoned device .database)
  | stored {device deviceToken issued s'} (done : s.insertCertificate device issued = some s') :
      EnrollTurn hexSha256 body s (.insertCertificate device deviceToken issued) .proceeds s'
        (.markUsed device deviceToken issued)
  | notMarked {device deviceToken issued} :
      EnrollTurn hexSha256 body s (.markUsed device deviceToken issued) .fails s
        (.abandoned device .database)
  | marked {device deviceToken issued response} :
      EnrollTurn hexSha256 body s (.markUsed device deviceToken issued) .proceeds
        (s.markUsed (hexSha256 body.token) device) (.enrolled response)

theorem EnrollServer.enrollDevice_turn {s s' : EnrollServer} {phase next : EnrollDevice}
    {choice : EnrollChoice} (moved : s.enrollDevice hexSha256 body choice phase = some (s', next)) :
    EnrollTurn hexSha256 body s phase choice s' next := by
  cases phase with
  | selectToken =>
      simp only [enrollDevice] at moved
      repeat' split at moved
      all_goals
        cases moved
        try constructor
  | insertDevice =>
      simp only [enrollDevice] at moved
      split at moved
      · obtain ⟨stored, done, same⟩ := Option.map_eq_some_iff.mp moved
        cases same
        exact .inserted done
      · cases moved
        exact .notInserted
      · cases moved
  | issueCert device deviceToken =>
      simp only [enrollDevice] at moved
      split at moved
      · rename_i missing
        cases moved
        exact .notIssued (.inl (by simpa using missing))
      · rename_i present
        split at moved
        · cases moved
          exact .issued (by simpa using present)
        · rename_i error
          cases moved
          exact .notIssued (.inr ⟨error, rfl⟩)
        · cases moved
  | insertCertificate device deviceToken issued =>
      simp only [enrollDevice] at moved
      split at moved
      · split at moved
        · rename_i done
          cases moved
          exact .stored done
        · rename_i refused
          cases moved
          exact .notStored (.inr refused)
      · cases moved
        exact .notStored (.inl rfl)
      · cases moved
  | markUsed device deviceToken issued =>
      simp only [enrollDevice] at moved
      split at moved
      · cases moved
        exact .marked
      · cases moved
        exact .notMarked
      · cases moved
  | enrolled _ | refused _ | abandoned _ _ => cases moved

/-- The steps of a request from a phase of it to its answer. -/
def Answers (hexSha256 : String → String) (body : EnrollRequest) (phase : EnrollDevice)
    (strides : List EnrollStride) (answer : Except ApiError EnrollResponse) : Prop :=
  ∃ last, Follows (enrollProgram hexSha256) (.enroll body phase) strides (.enroll body last) ∧
    last.response = some answer

variable {phase : EnrollDevice} {strides : List EnrollStride}
  {answer own : Except ApiError EnrollResponse}

theorem answers_step (answers : Answers hexSha256 body phase strides answer)
    (unfinished : phase.response = none) :
    ∃ s choice s' next rest, strides = ⟨s, choice, s'⟩ :: rest ∧
      EnrollTurn hexSha256 body s phase choice s' next ∧
      Answers hexSha256 body next rest answer := by
  obtain ⟨last, followed, responded⟩ := answers
  cases followed with
  | here =>
      rw [unfinished] at responded
      cases responded
  | step moved rest =>
      obtain ⟨⟨s', next⟩, stepped, same⟩ := Option.map_eq_some_iff.mp moved
      cases same
      exact ⟨_, _, _, next, _, rfl, EnrollServer.enrollDevice_turn stepped, last, rest, responded⟩

theorem answers_done (answers : Answers hexSha256 body phase strides answer)
    (finished : phase.response = some own) : strides = [] ∧ answer = own := by
  obtain ⟨last, followed, responded⟩ := answers
  cases followed with
  | here =>
      rw [finished] at responded
      exact ⟨rfl, (Option.some.inj responded).symm⟩
  | step moved rest =>
      obtain ⟨⟨s', next⟩, stepped, same⟩ := Option.map_eq_some_iff.mp moved
      cases phase with
      | enrolled _ | refused _ | abandoned _ _ => cases stepped
      | _ => cases finished

/-! ## From the INSERT on -/

theorem marked_answers {device : Uuid} {deviceToken : String} {issued : IssuedCert}
    (answers : Answers hexSha256 body (.markUsed device deviceToken issued) strides answer) :
    ∃ mark, strides = [mark] ∧ ((∃ error, answer = .error error) ↔ mark.choice ≠ .proceeds) := by
  obtain ⟨s, choice, s', next, rest, rfl, turn, answers⟩ := answers_step answers rfl
  cases turn with
  | notMarked =>
      obtain ⟨rfl, rfl⟩ := answers_done answers rfl
      exact ⟨_, rfl, by simp⟩
  | marked =>
      obtain ⟨rfl, rfl⟩ := answers_done answers rfl
      exact ⟨_, rfl, by simp⟩

theorem inserted_answers {device : Uuid} {deviceToken : String}
    (answers : Answers hexSha256 body (.issueCert device deviceToken) strides answer) :
    (∃ error, answer = .error error) ↔ ¬ Completes device strides := by
  obtain ⟨s, choice, s', next, rest, rfl, turn, answers⟩ := answers_step answers rfl
  cases turn with
  | notIssued fails =>
      obtain ⟨rfl, rfl⟩ := answers_done answers rfl
      simp [Completes]
  | issued initialized =>
      obtain ⟨s, choice, s', next, rest, rfl, turn, answers⟩ := answers_step answers rfl
      cases turn with
      | notStored fails =>
          obtain ⟨rfl, rfl⟩ := answers_done answers rfl
          simp [Completes]
      | stored done =>
          obtain ⟨mark, rfl, failed⟩ := marked_answers answers
          rw [failed]
          simp [Completes, initialized, done]

theorem insertDevice_changes {s s' : EnrollServer} {device : Uuid}
    {deviceTokenHash tokenHash : String}
    (done : s.insertDevice device body deviceTokenHash tokenHash = some s') :
    s'.tables ≠ s.tables := by
  obtain ⟨devices, inserted, rfl⟩ := Option.map_eq_some_iff.mp done
  intro same
  have devicesSame : devices = s.devices := congrArg Prod.fst same
  have present := Table.find?_insert inserted device
  rw [if_pos rfl, devicesSame, Table.insert_absent inserted] at present
  cases present

theorem failsAfterInsert_inserted {look : EnrollStride} {s s' : EnrollServer} {device : Uuid}
    {deviceToken : String} {rest : List EnrollStride} :
    FailsAfterInsert (look :: ⟨s, .generatesDevice device deviceToken, s'⟩ :: rest) ↔
      ¬ Completes device rest := by
  constructor
  · rintro ⟨other, otherToken, same, fails⟩
    cases same
    exact fails
  · intro fails
    exact ⟨device, deviceToken, rfl, fails⟩

/-- An enrollment that is answered with an error has left the tables as it found them at each of
its statements, unless it fails after its INSERT of the device. -/
theorem failed_enrollment_iff
    (answers : Answers hexSha256 body .selectToken strides answer) :
    ((∃ error, answer = .error error) →
        ∀ stride ∈ strides, stride.after.tables = stride.before.tables) ↔
      ¬ FailsAfterInsert strides := by
  obtain ⟨s, choice, s', next, rest, rfl, turn, answers⟩ := answers_step answers rfl
  cases turn with
  | rejected =>
      obtain ⟨rfl, rfl⟩ := answers_done answers rfl
      simp [FailsAfterInsert]
  | verified =>
      obtain ⟨s, choice, s', next, rest, rfl, turn, answers⟩ := answers_step answers rfl
      cases turn with
      | notInserted =>
          obtain ⟨rfl, rfl⟩ := answers_done answers rfl
          simp [FailsAfterInsert]
      | @inserted device deviceToken s' done =>
          rw [failsAfterInsert_inserted, ← inserted_answers answers]
          constructor
          · intro kept failed
            exact insertDevice_changes done
              (kept failed _ (List.mem_cons_of_mem _ List.mem_cons_self))
          · intro succeeded failed
            exact absurd failed succeeded

/-! ## Requests that fail -/

/-- The token has expired. -/
theorem failed_enrollment_expired : ∃ strides error,
    Answers id laptop .selectToken strides (.error error) ∧
      ∀ stride ∈ strides, stride.after.tables = stride.before.tables := by
  obtain ⟨strides, last, followed, seen⟩ := Follows.of_observed (enrollProgram id)
    { sampleEnroll.shared with now := hours 25 } (.enroll laptop .selectToken) [.proceeds]
    (fun strides last => (strides.length, last))
    (1, .enroll laptop (.refused (.badRequest "Enrollment token has expired"))) (by decide +kernel)
  obtain ⟨single, rfl⟩ := Prod.mk.inj seen
  have answers : Answers id laptop .selectToken strides
      (.error (.badRequest "Enrollment token has expired")) := ⟨_, followed, rfl⟩
  obtain ⟨stride, rfl⟩ := List.length_eq_one_iff.mp single
  exact ⟨_, _, answers, (failed_enrollment_iff answers).mpr (fun fails => fails) ⟨_, rfl⟩⟩

/-- Without a CA the device is inserted before the request fails. -/
theorem failed_enrollment_leaves_device : ¬ ∀ strides answer,
    Answers id laptop .selectToken strides answer → (∃ error, answer = .error error) →
      ∀ stride ∈ strides, stride.after.tables = stride.before.tables := by
  intro leavesNothing
  obtain ⟨strides, last, followed, seen⟩ := Follows.of_observed (enrollProgram id)
    { sampleEnroll.shared with caInitialized := false } (.enroll laptop .selectToken)
    [.proceeds, .generatesDevice (Uuid.small 1) "secret", .proceeds]
    (fun strides last => (strides.map fun stride =>
      (stride.before.devices.rows.length, stride.after.devices.rows.length), last))
    ([(0, 0), (0, 1), (1, 1)],
      .enroll laptop (.abandoned (Uuid.small 1) (.internal "PKI not initialized")))
    (by decide +kernel)
  obtain ⟨counts, rfl⟩ := Prod.mk.inj seen
  have kept := leavesNothing strides (.error (.internal "PKI not initialized"))
    ⟨_, followed, rfl⟩ ⟨_, rfl⟩
  have inserted : (0, 1) ∈ strides.map fun stride =>
      (stride.before.devices.rows.length, stride.after.devices.rows.length) := by
    rw [counts]
    decide
  obtain ⟨stride, member, lengths⟩ := List.mem_map.mp inserted
  have devices : stride.after.devices = stride.before.devices := congrArg Prod.fst (kept stride member)
  rw [devices] at lengths
  have different := Prod.mk.inj lengths
  omega

end OsfmEdm
