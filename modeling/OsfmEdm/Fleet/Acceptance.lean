import OsfmEdm.Fleet.Orders

/-!
What a rejected `create_job` leaves behind: of one request, followed through its own steps whatever
the others do between them, and in the pending jobs of whole runs.
-/

namespace OsfmEdm

open Interleaving JsonText

def CreateJob.answer : CreateJob → Option (Except ApiError Uuid)
  | .created job => some (.ok job)
  | .refused error => some (.error error)
  | _ => none

abbrev FleetStride := Stride Fleet Choice

/-- The steps of a `create_job` from a phase of it to its answer. -/
def CreateAnswers (deployment : Deployment) (auth : AuthUser) (device : Uuid) (payload : Json)
    (phase : CreateJob) (strides : List FleetStride) (answer : Except ApiError Uuid) : Prop :=
  ∃ last, Follows (program deployment) (.createJob auth device payload phase) strides
    (.createJob auth device payload last) ∧ last.answer = some answer

/-- The INSERT, which is the second step, goes through. -/
def InsertsJob : List FleetStride → Prop
  | _ :: insert :: _ => ∃ job, insert.choice = .generates job
  | _ => False

/-- No step writes to the jobs table or sends to an agent. -/
def LeavesNoJob (strides : List FleetStride) : Prop :=
  ∀ stride ∈ strides, stride.after.app.db.jobs = stride.before.app.db.jobs ∧
    stride.after.channels = stride.before.channels

/-- Jobs are inserted with payloads that can be dispatched. -/
def insertsDecodable : Guard Fleet Task Choice := fun _ _ task choice =>
  match task, choice with
  | .createJob _ _ payload .insert, .generates _ => (JobPayload.codec.decode payload).isSome = true
  | _, _ => True

instance (s : Fleet) (others : List Task) (task : Task) (choice : Choice) :
    Decidable (insertsDecodable s others task choice) := by
  unfold insertsDecodable
  split <;> infer_instance

/-- Every pending job is one that `dispatch_pending_jobs` can send. -/
def PendingDecodable (s : Fleet) : Prop :=
  ∀ device, ∀ entry ∈ s.app.db.pendingJobs device, (JobPayload.codec.decode entry.2).isSome = true

namespace Fleet

variable {deployment : Deployment} {s s' : Fleet} {auth : AuthUser} {device : Uuid}
  {payload : Json} {phase : CreateJob} {strides : List FleetStride} {answer own : Except ApiError Uuid}

/-! ## One request -/

theorem createAnswers_step
    (answers : CreateAnswers deployment auth device payload phase strides answer)
    (unfinished : phase.answer = none) :
    ∃ s choice effect next rest, strides = ⟨s, choice, s.apply effect⟩ :: rest ∧
      s.createJob deployment auth device payload choice phase =
        some (effect, [.createJob auth device payload next]) ∧
      CreateAnswers deployment auth device payload next rest answer := by
  obtain ⟨last, followed, answered⟩ := answers
  cases followed with
  | here =>
      rw [unfinished] at answered
      cases answered
  | @step s _ _ _ _ choice _ moved rest =>
      obtain ⟨⟨effect, new⟩, turned, same⟩ := Option.map_eq_some_iff.mp moved
      cases same
      have turn := createJob_turn (show s.createJob deployment auth device payload choice phase =
        some (effect, _) from turned)
      cases turn <;> exact ⟨s, _, _, _, _, rfl, turned, last, rest, answered⟩

theorem createAnswers_done
    (answers : CreateAnswers deployment auth device payload phase strides answer)
    (finished : phase.answer = some own) : strides = [] ∧ answer = own := by
  obtain ⟨last, followed, answered⟩ := answers
  cases followed with
  | here =>
      rw [finished] at answered
      exact ⟨rfl, (Option.some.inj answered).symm⟩
  | step moved rest =>
      obtain ⟨⟨effect, new⟩, turned, same⟩ := Option.map_eq_some_iff.mp moved
      cases phase with
      | created _ | refused _ => cases turned
      | _ => cases finished

theorem dispatch_answers {job : Uuid}
    (answers : CreateAnswers deployment auth device payload (.dispatch job) strides answer) :
    (∃ error, answer = .error error) ↔ JobPayload.codec.decode payload = none := by
  obtain ⟨s, choice, effect, next, rest, rfl, moved, answers⟩ := createAnswers_step answers rfl
  simp only [createJob] at moved
  split at moved
  · rename_i invalid
    cases moved
    obtain ⟨rfl, rfl⟩ := createAnswers_done answers rfl
    simp [invalid]
  · rename_i decoded valid
    obtain ⟨sent, sends, same⟩ := send_sends moved
    cases sent with
    | none =>
        cases same
        obtain ⟨rfl, rfl⟩ := createAnswers_done answers rfl
        simp [valid]
    | some serial =>
        cases same
        obtain ⟨s, choice, effect, next, rest, rfl, moved, answers⟩ :=
          createAnswers_step answers rfl
        simp only [createJob] at moved
        rcases statement_cases moved with ⟨_, _, same⟩ | ⟨_, _, same⟩
        all_goals
          cases same
          obtain ⟨rfl, rfl⟩ := createAnswers_done answers rfl
          simp [valid]

theorem insertJob_changes {job : Uuid} {createdBy : Uuid} {db : Database}
    (inserted : s.app.db.insertJob job device payload (some createdBy) = some db) :
    (s.apply (.insertJob job device payload createdBy)).app.db.jobs ≠ s.app.db.jobs := by
  intro same
  simp only [apply, updateDb, inserted, Option.getD_some] at same
  obtain ⟨jobs, done, rfl⟩ := Database.insertJob_some inserted
  have present := Table.find?_insert done job
  have jobsSame : jobs = s.app.db.jobs := same
  rw [if_pos rfl, jobsSame, Table.insert_absent done] at present
  cases present

/-- A `create_job` that is answered with an error leaves no job just when its payload decodes, or
its INSERT did not go through. -/
theorem createJob_leaves_iff
    (answers : CreateAnswers deployment auth device payload .verifyDevice strides answer) :
    ((∃ error, answer = .error error) → LeavesNoJob strides) ↔
      (JobPayload.codec.decode payload).isSome = true ∨ ¬ InsertsJob strides := by
  obtain ⟨s, choice, effect, next, rest, rfl, moved, answers⟩ := createAnswers_step answers rfl
  have turn := createJob_turn moved
  cases turn with
  | createRefused =>
      obtain ⟨rfl, rfl⟩ := createAnswers_done answers rfl
      simp [LeavesNoJob, InsertsJob, apply]
  | createVerified =>
      obtain ⟨s, choice, effect, next, rest, rfl, moved, answers⟩ := createAnswers_step answers rfl
      have turn := createJob_turn moved
      cases turn with
      | createRefused =>
          obtain ⟨rfl, rfl⟩ := createAnswers_done answers rfl
          have refused : ∀ job, choice ≠ .generates job := by
            intro job generated
            rw [generated] at moved
            simp only [createJob] at moved
            split at moved <;> cases moved
          simp [LeavesNoJob, InsertsJob, apply, refused]
      | @createInserted _ _ _ job db inserted =>
          have writes := insertJob_changes inserted
          rw [dispatch_answers answers]
          constructor
          · intro leaves
            refine .inl (Option.isSome_iff_ne_none.mpr fun invalid => writes ?_)
            exact (leaves invalid _ (List.mem_cons_of_mem _ List.mem_cons_self)).1
          · rintro (valid | notInserted) invalid
            · rw [invalid] at valid
              cases valid
            · exact absurd ⟨job, rfl⟩ notInserted

/-! ## Whole runs -/

variable {task : Task} {choice : Choice} {effect : Effect} {new : List Task}

theorem Turn.inserts {job createdBy : Uuid}
    (turn : Turn deployment s task choice (.insertJob job device payload createdBy) new) :
    ∃ auth, task = .createJob auth device payload .insert ∧ choice = .generates job := by
  generalize same : Effect.insertJob job device payload createdBy = effect at turn
  cases turn with
  | @createInserted auth =>
      cases same
      exact ⟨auth, rfl, rfl⟩
  | createSent _ sends | cancelSent sends | jobSent _ sends | policiesSent sends
  | inventoryRequested sends | pushed _ sends => cases sends <;> cases same
  | handlerOnline done => cases done <;> cases same
  | _ => cases same

theorem jobOrder_appears {job : Uuid} (absent : s.jobOrder job = none) {order : Uuid × Json}
    (found : (s.apply effect).jobOrder job = some order) :
    ∃ createdBy, effect = .insertJob job order.1 order.2 createdBy := by
  have gone : s.app.db.jobs.find? job = none := by simpa [jobOrder] using absent
  by_cases untouched : effect.touchesJobs = false
  · rw [jobOrder, jobs_apply s untouched, gone] at found
    cases found
  have updated (written : Uuid) (change : JobRow → JobRow) :
      (s.app.db.updateJob written change).jobs.find? job = none := by
    simp [Database.updateJob, gone]
  cases effect with
  | insertJob id device payload createdBy =>
      simp only [jobOrder, apply, updateDb] at found
      rcases s.app.db.find?_insertJob id device payload (some createdBy) job with
        same | ⟨own, _, row⟩
      · rw [same, gone] at found
        cases found
      · rw [row] at found
        cases found
        exact ⟨createdBy, by rw [own]⟩
  | markDispatched written | markCancelled written =>
      simp only [jobOrder, apply, updateDb, Database.markDispatched, Database.markCancelled,
        updated] at found
      cases found
  | act device action fails =>
      cases action
      case completeJob written exitCode =>
          cases fails with
          | true => simp [jobOrder, apply, Action.perform, Action.isStatement, gone] at found
          | false =>
              simp only [jobOrder, apply, Action.perform, Action.isStatement, Bool.false_and,
                Bool.false_eq_true, if_false, Action.apply, Database.markCompleted, updated] at found
              cases found
      all_goals exact absurd rfl untouched
  | _ => exact absurd rfl untouched

/-- Every job has a payload that can be dispatched. -/
def OrdersDecodable (s : Fleet) : Prop :=
  ∀ job order, s.jobOrder job = some order → (JobPayload.codec.decode order.2).isSome = true

theorem Turn.ordersDecodable (turn : Turn deployment s task choice effect new)
    (decodable : OrdersDecodable s) {others : List Task}
    (meets : insertsDecodable s others task choice) : OrdersDecodable (s.apply effect) := by
  intro job order found
  cases old : s.jobOrder job with
  | some earlier =>
      have kept := jobOrder_apply old effect
      rw [found] at kept
      cases kept
      exact decodable job order old
  | none =>
      obtain ⟨createdBy, rfl⟩ := jobOrder_appears old found
      obtain ⟨auth, rfl, rfl⟩ := turn.inserts
      exact meets

theorem pendingDecodable_of_orders (decodable : OrdersDecodable s) : PendingDecodable s := by
  intro device ⟨job, payload⟩ member
  obtain ⟨row, found, _, _, same⟩ := (Database.mem_pendingJobs _ _ _ _).mp member
  rw [← same]
  exact decodable job (row.deviceId, row.payload) (by simp [jobOrder, found])

theorem ordersDecodable_reached {start config : Config Fleet Task} (started : Start start)
    (reached : Reach (program deployment) insertsDecodable start config) :
    OrdersDecodable config.shared := by
  refine reached.invariant (fun config => OrdersDecodable config.shared) ?_ ?_ ?_
  · intro job order found
    simp [jobOrder, started.jobs job] at found
  · exact fun _ _ _ decodable _ => decodable
  · intro s s' before after new task choice decodable meets moved
    obtain ⟨effect, turn, rfl⟩ := program_step moved
    exact turn.ordersDecodable decodable meets

end Fleet

/-- A `create_job` that is answered with an error leaves no job just when its payload decodes or its
INSERT did not go through; where jobs are inserted with payloads that decode, every pending job can
be dispatched. -/
theorem rejected_jobs_iff (deployment : Deployment) :
    (∀ auth device payload strides answer,
      CreateAnswers deployment auth device payload .verifyDevice strides answer →
        (((∃ error, answer = .error error) → LeavesNoJob strides) ↔
          (JobPayload.codec.decode payload).isSome = true ∨ ¬ InsertsJob strides)) ∧
      ∀ start config, Start start → Reach (program deployment) insertsDecodable start config →
        PendingDecodable config.shared :=
  ⟨fun _ _ _ _ _ answers => Fleet.createJob_leaves_iff answers, fun _ _ started reached =>
    Fleet.pendingDecodable_of_orders (Fleet.ordersDecodable_reached started reached)⟩

/-! ## Jobs of one device -/

/-- A job for an unknown device is refused; one that is accepted stays pending while the device is
offline. -/
theorem rejected_jobs_unknown_device :
    (∃ strides error, CreateAnswers sampleDeployment sampleAdmin (Uuid.small 2)
      (JobPayload.codec.encode .collectInventory) .verifyDevice strides (.error error) ∧
        LeavesNoJob strides) ∧
      ∃ config, Reach (program sampleDeployment) insertsDecodable sampleStart config ∧
        config.shared.jobStatus (Uuid.small 9) = some .pending ∧ PendingDecodable config.shared := by
  obtain ⟨requests, runs⟩ := rejected_jobs_iff sampleDeployment
  constructor
  · have answers : CreateAnswers sampleDeployment sampleAdmin (Uuid.small 2)
        (JobPayload.codec.encode .collectInventory) .verifyDevice
        [⟨sampleStart.shared, .proceeds, sampleStart.shared⟩]
        (.error (.notFound ("Device " ++ (Uuid.small 2).text ++ " not found"))) :=
      ⟨_, .step rfl .here, rfl⟩
    exact ⟨_, _, answers, (requests _ _ _ _ _ answers).mpr (.inr fun inserts => inserts) ⟨_, rfl⟩⟩
  · obtain ⟨config, reached, pending⟩ := Reach.of_observed (program sampleDeployment)
      insertsDecodable sampleStart
      [.arrive (.createJob sampleAdmin (Uuid.small 1) (JobPayload.codec.encode .collectInventory)
          .verifyDevice),
        .run 0 .proceeds, .run 0 (.generates (Uuid.small 9)), .run 0 .proceeds]
      (fun config => config.shared.jobStatus (Uuid.small 9)) (some .pending) (by decide +kernel)
    exact ⟨config, reached, pending, runs _ _ sampleStart_start reached⟩

/-- Job 9 with a payload that is no job. -/
def insertedNull : Fleet :=
  sampleStart.shared.apply (.insertJob (Uuid.small 9) (Uuid.small 1) .null sampleAdmin.userId)

/-- The job of a payload that is no job is refused after its INSERT, and stays pending. -/
theorem rejected_job_stays :
    (¬ ∀ strides answer, CreateAnswers sampleDeployment sampleAdmin (Uuid.small 1) .null
      .verifyDevice strides answer → (∃ error, answer = .error error) → LeavesNoJob strides) ∧
      ¬ ∀ config, Reach (program sampleDeployment) Guard.any sampleStart config →
        PendingDecodable config.shared := by
  constructor
  · intro leaves
    have answers : CreateAnswers sampleDeployment sampleAdmin (Uuid.small 1) .null .verifyDevice
        [⟨sampleStart.shared, .proceeds, sampleStart.shared⟩,
          ⟨sampleStart.shared, .generates (Uuid.small 9), insertedNull⟩,
          ⟨insertedNull, .proceeds, insertedNull⟩]
        (.error (.badRequest "Invalid job payload: missing field")) :=
      ⟨_, .step rfl (.step rfl (.step rfl .here)), rfl⟩
    have kept := leaves _ _ answers ⟨_, rfl⟩ _ (List.mem_cons_of_mem _ List.mem_cons_self)
    exact Fleet.insertJob_changes rfl kept.1
  · intro decodable
    obtain ⟨config, reached, pending⟩ := Reach.of_observed (program sampleDeployment) Guard.any
      sampleStart
      [.arrive (.createJob sampleAdmin (Uuid.small 1) .null .verifyDevice), .run 0 .proceeds,
        .run 0 (.generates (Uuid.small 9)), .run 0 .proceeds]
      (fun config => (config.shared.app.db.pendingJobs (Uuid.small 1)).map fun entry =>
        (JobPayload.codec.decode entry.2).isSome) [false] (by decide +kernel)
    have stuck : false ∈ (config.shared.app.db.pendingJobs (Uuid.small 1)).map fun entry =>
        (JobPayload.codec.decode entry.2).isSome := by
      rw [pending]
      exact List.mem_cons_self
    obtain ⟨entry, member, invalid⟩ := List.mem_map.mp stuck
    have valid := decodable config reached (Uuid.small 1) entry member
    rw [invalid] at valid
    cases valid

end OsfmEdm
