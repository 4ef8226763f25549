import OsfmEdm.Fleet.Turn

/-!
The statuses of jobs. Four tasks write them without looking: the two that mark a job
dispatched, the one that cancels it and the one that stores an agent's report. A finished
job keeps its status in the runs where no such write is in flight when the job ends.
-/

namespace OsfmEdm

open Interleaving JsonText

/-! ## The tasks that write statuses -/

namespace Task

/-- The job a task has sent and will mark dispatched. -/
def marking : Task → Option Uuid
  | .createJob _ _ _ (.mark job) | .onConnect _ (.mark job _) => some job
  | _ => none

/-- The device, job and payload a task dispatches next. -/
def dispatching : Task → Option (Uuid × Uuid × Json)
  | .createJob _ device payload (.dispatch job) => some (device, job, payload)
  | .onConnect device (.jobs ((job, payload) :: _)) => some (device, job, payload)
  | _ => none

/-- The job a `cancel_job` has looked up and will mark cancelled. -/
def cancelling : Task → Option Uuid
  | .cancelJob _ job (.revoke _) | .cancelJob _ job (.mark ..) => some job
  | _ => none

/-- The job whose report the hub stores next, and its exit code. -/
def completing : Task → Option (Uuid × Int32)
  | .handler _ _ (.processing _ (.completeJob job exitCode :: _)) => some (job, exitCode)
  | _ => none

/-- The job a `cancel_job` marks next. -/
def markingCancelled : Task → Option Uuid
  | .cancelJob _ job (.mark ..) => some job
  | _ => none

end Task

/-- The status an effect writes into the row of a job. -/
def Effect.writesStatus : Effect → Option (Uuid × JobStatus)
  | .markDispatched job => some (job, .dispatched)
  | .markCancelled job => some (job, .cancelled)
  | .act _ (.completeJob job exitCode) false => some (job, Database.outcome exitCode)
  | _ => .none

namespace Fleet

def jobStatus (s : Fleet) (job : Uuid) : Option JobStatus := s.app.db.jobStatus job

theorem jobStatus_updateJob (db : Database) (job other : Uuid) (change : JobRow → JobRow)
    (status : JobStatus) (writes : ∀ row, (change row).status = status) :
    (db.updateJob job change).jobStatus other =
      if job = other then (db.jobStatus other).map fun _ => status else db.jobStatus other := by
  simp only [Database.jobStatus, Database.updateJob, Table.find?_update]
  by_cases same : other = job
  · subst same
    cases db.jobs.find? other <;> simp [writes]
  · have different : ¬ job = other := fun eq => same eq.symm
    simp [same, different]

theorem jobStatus_apply {s : Fleet} {job : Uuid} {status : JobStatus}
    (old : s.jobStatus job = some status) (effect : Effect) :
    (s.apply effect).jobStatus job =
      match effect.writesStatus with
      | some (written, new) => if written = job then some new else some status
      | none => some status := by
  by_cases untouched : effect.touchesJobs = false
  · have same := jobs_apply s untouched
    have silent : effect.writesStatus = none := by
      cases effect with
      | act device action fails => cases action <;> simp_all [Effect.touchesJobs, Effect.writesStatus]
      | _ => simp_all [Effect.touchesJobs, Effect.writesStatus]
    simpa [silent, jobStatus, Database.jobStatus, same] using old
  · cases effect with
    | insertJob id device payload createdBy =>
        rcases s.app.db.find?_insertJob id device payload (some createdBy) job with
          same | ⟨_, absent, _⟩
        · simpa [Effect.writesStatus, jobStatus, Database.jobStatus, apply, updateDb, same]
            using old
        · rw [jobStatus, Database.jobStatus, absent] at old
          cases old
    | markDispatched written =>
        have updated := jobStatus_updateJob s.app.db written job
          (fun row => { row with status := .dispatched }) .dispatched fun _ => rfl
        have known : s.app.db.jobStatus job = some status := old
        rw [known] at updated
        exact updated
    | markCancelled written =>
        have updated := jobStatus_updateJob s.app.db written job
          (fun row => { row with status := .cancelled, finishedAt := some s.app.db.now })
          .cancelled fun _ => rfl
        have known : s.app.db.jobStatus job = some status := old
        rw [known] at updated
        exact updated
    | act device action fails =>
        cases action
        case completeJob written exitCode =>
            have known : s.app.db.jobStatus job = some status := old
            by_cases failed : fails = true
            · subst failed
              exact old
            · rw [Bool.not_eq_true] at failed
              subst failed
              have updated := jobStatus_updateJob s.app.db written job
                (fun row =>
                  { row with
                    status := Database.outcome exitCode
                    exitCode := some exitCode
                    finishedAt := some s.app.db.now })
                (Database.outcome exitCode) fun _ => rfl
              rw [known] at updated
              exact updated
        all_goals exact absurd rfl untouched
    | _ => exact absurd rfl untouched

theorem jobStatus_appears {s : Fleet} {job : Uuid} (absent : s.jobStatus job = none)
    (effect : Effect) {status : JobStatus} (found : (s.apply effect).jobStatus job = some status) :
    status = .pending := by
  have gone : s.app.db.jobs.find? job = none := by
    simpa [jobStatus, Database.jobStatus] using absent
  by_cases untouched : effect.touchesJobs = false
  · rw [jobStatus, Database.jobStatus, jobs_apply s untouched, gone] at found
    cases found
  have updated (written : Uuid) (change : JobRow → JobRow)
      (found : (s.app.db.updateJob written change).jobStatus job = some status) :
      status = .pending := by
    simp [Database.jobStatus, Database.updateJob, gone] at found
  cases effect with
  | insertJob id device payload createdBy =>
      simp only [jobStatus, Database.jobStatus, apply, updateDb] at found
      rcases s.app.db.find?_insertJob id device payload (some createdBy) job with
        same | ⟨_, _, row⟩
      · rw [same, gone] at found
        cases found
      · rw [row] at found
        exact (Option.some.inj found).symm
  | markDispatched written => exact updated _ _ found
  | markCancelled written => exact updated _ _ found
  | act device action fails =>
      cases action
      case completeJob written exitCode =>
          by_cases failed : fails = true
          · subst failed
            simp [jobStatus, apply, Action.perform, Action.isStatement, Database.jobStatus,
              gone] at found
          · rw [Bool.not_eq_true] at failed
            subst failed
            exact updated _ _ found
      all_goals exact absurd rfl untouched
  | _ => exact absurd rfl untouched

/-! ## Where the writes come from -/

variable {deployment : Deployment} {s : Fleet} {task : Task} {choice : Choice} {effect : Effect}
  {new : List Task}

theorem Turn.writer (turn : Turn deployment s task choice effect new) {job : Uuid}
    {status : JobStatus} (writes : effect.writesStatus = some (job, status)) :
    choice = .proceeds ∧
      ((status = .dispatched ∧ task.marking = some job) ∨
        (status = .cancelled ∧ task.markingCancelled = some job) ∨
        ∃ exitCode, task.completing = some (job, exitCode) ∧
          status = Database.outcome exitCode) := by
  cases turn with
  | createMarked | jobMarked =>
      cases writes
      exact ⟨rfl, .inl ⟨rfl, rfl⟩⟩
  | cancelMarked =>
      cases writes
      exact ⟨rfl, .inr (.inl ⟨rfl, rfl⟩)⟩
  | @handlerActs _ _ _ action _ fails =>
      cases action
      case completeJob written exitCode =>
          by_cases failed : fails = true
          · subst failed
            cases writes
          · rw [Bool.not_eq_true] at failed
            subst failed
            cases writes
            exact ⟨rfl, .inr (.inr ⟨exitCode, rfl, rfl⟩)⟩
      all_goals cases writes
  | handlerOnline done => cases done <;> cases writes
  | createSent _ sends | cancelSent sends | jobSent _ sends | policiesSent sends
  | inventoryRequested sends | pushed _ sends => cases sends <;> cases writes
  | _ => cases writes

theorem Turn.marks (turn : Turn deployment s task choice effect new) {after : Task}
    (member : after ∈ new) {job : Uuid} (marking : after.marking = some job) :
    ∃ device payload decoded channel, task.dispatching = some (device, job, payload) ∧
      JobPayload.codec.decode payload = some decoded ∧
      s.openChannel device = some (some channel) ∧
      effect = .enqueue channel
        (.dispatchJob job decoded (signJob deployment.jobSigner job decoded)) := by
  cases turn with
  | createSent valid sends =>
      rw [List.mem_singleton.mp member] at marking
      cases sends with
      | sent opened =>
          cases marking
          exact ⟨_, _, _, _, rfl, valid, opened, rfl⟩
      | unsent closed => cases marking
  | jobSent valid sends =>
      rw [List.mem_singleton.mp member] at marking
      cases sends with
      | sent opened =>
          cases marking
          exact ⟨_, _, _, _, rfl, valid, opened, rfl⟩
      | unsent closed => cases marking
  | handlerOnline done =>
      simp only [List.mem_cons, List.not_mem_nil, or_false] at member
      rcases member with rfl | rfl | rfl <;> cases marking
  | policiesSelected policies =>
      rw [List.mem_singleton.mp member] at marking
      split at marking <;> cases marking
  | executorStarts done =>
      rw [List.mem_singleton.mp member] at marking
      cases marking
  | @agentHandles _ _ _ _ reaction inbound reacts =>
      cases reaction
      case execute | reject =>
          rw [List.mem_singleton.mp member] at marking
          cases marking
      all_goals cases member
  | _ =>
      first
        | cases member
          done
        | rw [List.mem_singleton.mp member] at marking
          cases marking

theorem Turn.cancels (turn : Turn deployment s task choice effect new) {after : Task}
    (member : after ∈ new) {job : Uuid} (cancelling : after.cancelling = some job) :
    task.cancelling = some job ∧ effect.writesStatus = none ∨
      effect = .none ∧ ∃ status, s.jobStatus job = some status ∧ status.terminal = false := by
  cases turn with
  | cancelFound found unfinished =>
      rw [List.mem_singleton.mp member] at cancelling
      cases cancelling
      exact .inr ⟨rfl, _, by simp [jobStatus, Database.jobStatus, found], unfinished⟩
  | cancelSent sends =>
      rw [List.mem_singleton.mp member] at cancelling
      cases cancelling
      cases sends <;> exact .inl ⟨rfl, rfl⟩
  | createSent valid sends | jobSent valid sends =>
      rw [List.mem_singleton.mp member] at cancelling
      cases cancelling
  | handlerOnline done =>
      simp only [List.mem_cons, List.not_mem_nil, or_false] at member
      rcases member with rfl | rfl | rfl <;> cases cancelling
  | policiesSelected policies =>
      rw [List.mem_singleton.mp member] at cancelling
      cases cancelling
  | executorStarts done =>
      rw [List.mem_singleton.mp member] at cancelling
      cases cancelling
  | @agentHandles _ _ _ _ reaction inbound reacts =>
      cases reaction
      case execute | reject =>
          rw [List.mem_singleton.mp member] at cancelling
          cases cancelling
      all_goals cases member
  | _ =>
      first
        | cases member
          done
        | rw [List.mem_singleton.mp member] at cancelling
          cases cancelling

end Fleet

/-! ## When finished jobs keep their status -/

/-- The condition on each step: a report is stored, and a cancel is stored, while no other task is
between sending the job and marking it dispatched; a report is stored while no cancel of the job
is between its look and its mark; a report on a finished job repeats its outcome; and a job
is sent while it is unfinished. -/
structure StatusesInOrder (s : Fleet) (others : List Task) (task : Task) (choice : Choice) :
    Prop where
  report : ∀ report ∈ task.completing, choice = .proceeds →
    (∀ other ∈ others, other.marking ≠ some report.1 ∧ other.cancelling ≠ some report.1) ∧
      ∀ status ∈ s.jobStatus report.1, status.terminal = true →
        status = Database.outcome report.2
  cancel : ∀ job ∈ task.markingCancelled, choice = .proceeds →
    ∀ other ∈ others, other.marking ≠ some job
  dispatch : ∀ job ∈ task.dispatching, (JobPayload.codec.decode job.2.2).isSome →
    (s.openChannel job.1).join.isSome → ∀ status ∈ s.jobStatus job.2.1, status.terminal = false

instance (s : Fleet) (others : List Task) (task : Task) (choice : Choice) :
    Decidable (StatusesInOrder s others task choice) :=
  decidable_of_iff (_ ∧ _ ∧ _)
    ⟨fun ⟨report, cancel, dispatch⟩ => ⟨report, cancel, dispatch⟩,
      fun ⟨report, cancel, dispatch⟩ => ⟨report, cancel, dispatch⟩⟩

namespace Fleet

/-- A task about to mark a job finds it unfinished, a task about to cancel it finds it
unfinished or cancelled. -/
structure WritesAhead (s : Fleet) (task : Task) : Prop where
  marking : ∀ job status, task.marking = some job → s.jobStatus job = some status →
    status.terminal = false
  cancelling : ∀ job status, task.cancelling = some job → s.jobStatus job = some status →
    status.terminal = true → status = .cancelled

theorem writesAhead_idle (s : Fleet) {task : Task} (marking : task.marking = none)
    (cancelling : task.cancelling = none) : WritesAhead s task where
  marking _ _ marks := by
    rw [marking] at marks
    cases marks
  cancelling _ _ cancels := by
    rw [cancelling] at cancels
    cases cancels

variable {deployment : Deployment} {s : Fleet} {task : Task} {choice : Choice} {effect : Effect}
  {new : List Task}

theorem markingCancelled_cancelling {task : Task} {job : Uuid}
    (marks : task.markingCancelled = some job) : task.cancelling = some job := by
  cases task with
  | cancelJob auth id phase =>
      cases phase
      case mark device sent => exact marks
      all_goals cases marks
  | _ => cases marks

theorem Turn.keeps_finished (turn : Turn deployment s task choice effect new)
    {others : List Task} (inOrder : StatusesInOrder s others task choice)
    (ahead : WritesAhead s task) {job : Uuid} {status : JobStatus}
    (found : s.jobStatus job = some status) (finished : status.terminal = true) :
    (s.apply effect).jobStatus job = some status := by
  rw [jobStatus_apply found]
  cases writes : effect.writesStatus with
  | none => rfl
  | some write =>
      obtain ⟨written, value⟩ := write
      by_cases same : written = job
      · subst same
        have kept : value = status := by
          obtain ⟨proceeds, origin⟩ := turn.writer writes
          rcases origin with ⟨_, marking⟩ | ⟨rfl, cancelling⟩ | ⟨exitCode, completing, rfl⟩
          · rw [ahead.marking written status marking found] at finished
            cases finished
          · exact (ahead.cancelling written status (markingCancelled_cancelling cancelling) found
              finished).symm
          · exact ((inOrder.report (written, exitCode) completing proceeds).2 status found
              finished).symm
        simp [kept]
      · simp [same]

theorem Turn.status_from (turn : Turn deployment s task choice effect new) {job : Uuid}
    {status : JobStatus} (found : (s.apply effect).jobStatus job = some status) :
    s.jobStatus job = some status ∨ (s.jobStatus job = none ∧ status = .pending) ∨
      choice = .proceeds ∧
        (status = .dispatched ∧ task.marking = some job ∨
          status = .cancelled ∧ task.markingCancelled = some job ∨
            ∃ exitCode, task.completing = some (job, exitCode) ∧
              status = Database.outcome exitCode) := by
  cases old : s.jobStatus job with
  | none => exact .inr (.inl ⟨rfl, jobStatus_appears old effect found⟩)
  | some before =>
      rw [jobStatus_apply old] at found
      cases writes : effect.writesStatus with
      | none =>
          rw [writes] at found
          exact .inl found
      | some write =>
          obtain ⟨written, value⟩ := write
          simp only [writes] at found
          split at found
          · rename_i same
            subst same
            cases found
            exact .inr (.inr (turn.writer writes))
          · exact .inl found

theorem Turn.finishes (turn : Turn deployment s task choice effect new) {job : Uuid}
    {status : JobStatus} (found : (s.apply effect).jobStatus job = some status)
    (finished : status.terminal = true) :
    s.jobStatus job = some status ∨ choice = .proceeds ∧
      (status = .cancelled ∧ task.markingCancelled = some job ∨
        ∃ exitCode, task.completing = some (job, exitCode)) := by
  rcases turn.status_from found with old | ⟨_, rfl⟩ | ⟨proceeds, origin⟩
  · exact .inl old
  · cases finished
  · rcases origin with ⟨rfl, _⟩ | cancelled | ⟨exitCode, completing, _⟩
    · cases finished
    · exact .inr ⟨proceeds, .inl cancelled⟩
    · exact .inr ⟨proceeds, .inr ⟨exitCode, completing⟩⟩

theorem Turn.writesAhead_stable (turn : Turn deployment s task choice effect new)
    {others : List Task} (inOrder : StatusesInOrder s others task choice) {other : Task}
    (member : other ∈ others) (ahead : WritesAhead s other) :
    WritesAhead (s.apply effect) other where
  marking job status marking found := by
    by_contra unfinished
    have finished : status.terminal = true := by simpa using unfinished
    rcases turn.finishes found finished with before | ⟨proceeds, ⟨_, cancels⟩ | ⟨_, completes⟩⟩
    · exact unfinished (ahead.marking job status marking before)
    · exact inOrder.cancel job cancels proceeds other member marking
    · exact ((inOrder.report (job, _) completes proceeds).1 other member).1 marking
  cancelling job status cancelling found finished := by
    rcases turn.finishes found finished with before | ⟨proceeds, ⟨same, _⟩ | ⟨_, completes⟩⟩
    · exact ahead.cancelling job status cancelling before finished
    · exact same
    · exact absurd cancelling ((inOrder.report (job, _) completes proceeds).1 other member).2

theorem Turn.writesAhead_new (turn : Turn deployment s task choice effect new)
    {others : List Task} (inOrder : StatusesInOrder s others task choice)
    (ahead : WritesAhead s task) {after : Task} (member : after ∈ new) :
    WritesAhead (s.apply effect) after where
  marking job status marking found := by
    obtain ⟨device, payload, decoded, channel, dispatching, valid, opened, rfl⟩ :=
      turn.marks member marking
    cases old : s.jobStatus job with
    | none =>
        rw [jobStatus_appears old _ found]
        rfl
    | some before =>
        rw [jobStatus_apply old] at found
        cases found
        exact inOrder.dispatch (device, job, payload) dispatching (by simp [valid])
          (by simp [opened]) status old
  cancelling job status cancelling found finished := by
    rcases turn.cancels member cancelling with ⟨cancels, silent⟩ | ⟨rfl, before, old, unfinished⟩
    · cases old : s.jobStatus job with
      | none =>
          rw [jobStatus_appears old _ found] at finished
          cases finished
      | some before =>
          rw [jobStatus_apply old, silent] at found
          cases found
          exact ahead.cancelling job status cancels old finished
    · change s.jobStatus job = some status at found
      rw [old] at found
      cases found
      rw [unfinished] at finished
      cases finished

theorem request_idle {task : Task} (request : task.request = true) :
    task.marking = none ∧ task.cancelling = none := by
  cases task with
  | createJob _ _ _ phase => cases phase <;> simp_all [Task.request, Task.marking, Task.cancelling]
  | cancelJob _ _ phase => cases phase <;> simp_all [Task.request, Task.marking, Task.cancelling]
  | onConnect _ _ => cases request
  | _ => exact ⟨rfl, rfl⟩

theorem writesAhead_outline (deployment : Deployment) :
    Outline (program deployment) StatusesInOrder (fun _ => True) WritesAhead where
  arrive s task _ request := by
    obtain ⟨marking, cancelling⟩ := request_idle request
    exact writesAhead_idle s marking cancelling
  step s others task choice s' new _ ahead _ inOrder moved := by
    obtain ⟨effect, turn, rfl⟩ := program_step moved
    exact ⟨trivial, fun after member => turn.writesAhead_new inOrder ahead member⟩
  stable s others task choice s' new _ _ inOrder moved other member ahead := by
    obtain ⟨effect, turn, rfl⟩ := program_step moved
    exact turn.writesAhead_stable inOrder member ahead

end Fleet

/-- In every run whose writes are in order, a job that is completed, failed or cancelled keeps
that status. -/
theorem finished_absorbing (deployment : Deployment) {start middle last : Config Fleet Task}
    (started : Start start)
    (before : Reach (program deployment) StatusesInOrder start middle)
    (after : Reach (program deployment) StatusesInOrder middle last) {job : Uuid}
    {status : JobStatus} (found : middle.shared.jobStatus job = some status)
    (finished : status.terminal = true) : last.shared.jobStatus job = some status := by
  have initial : Annotated (fun _ => True) Fleet.WritesAhead start :=
    ⟨trivial, by simp [started.tasks]⟩
  have outline := Fleet.writesAhead_outline deployment
  have ahead := outline.holds initial before
  refine outline.carry ahead (fun config => config.shared.jobStatus job = some status) found ?_ ?_
    after
  · intro s tasks task _ kept _
    exact kept
  · intro s s' front back new task choice holds kept inOrder moved
    obtain ⟨effect, turn, rfl⟩ := program_step moved
    exact turn.keeps_finished inOrder (holds.tasks task (by simp)) kept finished

/-- A job for a device without a connection is created and cancelled. -/
def cancelWhileOffline : List (Label Task Choice) :=
  [.arrive (.createJob sampleAdmin (Uuid.small 1) (JobPayload.codec.encode .collectInventory)
      .verifyDevice),
    .run 0 .proceeds, .run 0 (.generates (Uuid.small 9)), .run 0 .proceeds,
    .arrive (.cancelJob sampleAdmin (Uuid.small 9) .lookUp),
    .run 1 .proceeds, .run 1 .proceeds, .run 1 .proceeds]

theorem finished_absorbing_cancelled : ∃ last, Reach (program sampleDeployment) StatusesInOrder
    sampleStart last ∧ last.shared.jobStatus (Uuid.small 9) = some .cancelled := by
  obtain ⟨middle, last, before, after, found, _⟩ := Reach.of_observed_twice
    (program sampleDeployment) StatusesInOrder sampleStart cancelWhileOffline
    [.arrive .clock, .run 2 .proceeds] (fun config => config.shared.jobStatus (Uuid.small 9))
    (some .cancelled) (some .cancelled) (by decide +kernel)
  exact ⟨last, before.trans after,
    finished_absorbing sampleDeployment sampleStart_start before after found rfl⟩

/-- The device connects; what it gets on connect stays in its channel. -/
def connect : List (Label Task Choice) :=
  [.arrive (.wsHandler (Uuid.small 1) (some "token")), .run 0 .proceeds, .run 0 .proceeds,
    .run 0 .proceeds, .run 0 .proceeds, .run 1 .proceeds, .run 1 .proceeds, .run 1 .proceeds]

/-- The connected device runs a job, and the job is cancelled. -/
def cancelWhileRunning : List (Label Task Choice) :=
  connect ++
    [.arrive (.createJob sampleAdmin (Uuid.small 1)
        (JobPayload.codec.encode (.runScript .bash "sleep 60")) .verifyDevice),
      .run 3 .proceeds, .run 3 (.generates (Uuid.small 9)), .run 3 .proceeds, .run 3 .proceeds,
      -- the write task and the agent take the dispatch, and the child starts
      .run 2 .proceeds, .run 2 .proceeds, .arrive (.agentReceives 0), .run 4 .proceeds,
      .arrive (.agentHandles (Uuid.small 1)), .run 4 .proceeds, .run 4 .proceeds, .run 4 .proceeds,
      .arrive (.cancelJob sampleAdmin (Uuid.small 9) .lookUp), .run 5 .proceeds, .run 5 .proceeds,
      .run 5 .proceeds]

/-- The agent handles the `RevokeJob`, and the hub stores the report of the killed run. -/
def reportOfKill : List (Label Task Choice) :=
  [.run 2 .proceeds, .run 2 .proceeds, .arrive (.agentReceives 0), .run 6 .proceeds,
    .arrive (.agentHandles (Uuid.small 1)), .run 6 .proceeds, .run 4 .killed, .run 4 .proceeds,
    .run 4 .proceeds, .arrive (.agentFlushes (Uuid.small 1) 0), .run 5 .proceeds, .run 0 .proceeds,
    .run 0 .proceeds]

/-- A cancelled job becomes failed when its killed run reports. -/
theorem finished_not_absorbing : ¬ ∀ (start middle last : Config Fleet Task) (job : Uuid)
    (status : JobStatus), Start start → Reach (program sampleDeployment) Guard.any start middle →
      Reach (program sampleDeployment) Guard.any middle last → status.terminal = true →
      middle.shared.jobStatus job = some status → last.shared.jobStatus job = some status := by
  intro absorbing
  obtain ⟨middle, last, before, after, cancelled, failed⟩ := Reach.of_observed_twice
    (program sampleDeployment) Guard.any sampleStart cancelWhileRunning reportOfKill
    (fun config => config.shared.jobStatus (Uuid.small 9)) (some .cancelled) (some .failed)
    (by decide +kernel)
  have kept := absorbing _ _ _ _ _ sampleStart_start before after rfl cancelled
  rw [failed] at kept
  cases kept

end OsfmEdm
