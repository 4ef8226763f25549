import OsfmEdm.Fleet.Handling
import OsfmEdm.Fleet.Statuses

/-!
Dispatching jobs. A pending row is read, sent and only then marked, by `create_job` and by the
pass of every connection. A job that no two of them have in hand at a time is sent at most
once, and executed at most once.
-/

namespace OsfmEdm

open Interleaving JsonText

/-! ## Jobs in hand -/

namespace Task

/-- How often a task will still send a job. -/
def unsent (job : Uuid) : Task → Nat
  | .createJob _ _ _ (.dispatch id) => if id = job then 1 else 0
  | .onConnect _ (.jobs rest) | .onConnect _ (.mark _ rest) => rest.countP (·.1 = job)
  | _ => 0

/-- Whether a task has sent a job and will mark it. -/
def unmarked (job : Uuid) (task : Task) : Nat := if task.marking = some job then 1 else 0

/-- The device whose pending jobs a pass reads next. -/
def selecting : Task → Option Uuid
  | .onConnect device .selectJobs => some device
  | _ => none

end Task

/-- The job a message dispatches. -/
def Envelope.job? (envelope : Envelope) : Option Uuid :=
  match envelope.message with
  | .dispatchJob job _ _ => some job
  | _ => none

def Envelope.dispatches (job : Uuid) (envelope : Envelope) : Bool := envelope.job? = some job

def Event.isExecuted (device job : Uuid) : Event → Bool
  | .executed owner id => owner = device ∧ id = job
  | _ => false

/-- Whether an effect puts a dispatch of a job into a channel. -/
def Effect.dispatches (job : Uuid) : Effect → Bool
  | .enqueue _ (.dispatchJob id _ _) => id = job
  | _ => false

namespace Fleet

def executedCount (s : Fleet) (device job : Uuid) : Nat :=
  s.history.countP (Event.isExecuted device job)

theorem sentCount_apply (s : Fleet) (device job : Uuid) (effect : Effect) :
    (s.apply effect).sentCount device (Envelope.dispatches job) ≤
      s.sentCount device (Envelope.dispatches job) + if effect.dispatches job then 1 else 0 := by
  rw [sentCount, sentCount, history_events, List.countP_append]
  apply Nat.add_le_add_left
  by_cases enqueues : ∃ channel message, effect = .enqueue channel message
  · obtain ⟨channel, message, rfl⟩ := enqueues
    simp only [events]
    split
    · cases message with
      | dispatchJob id payload signature =>
          simp only [List.countP_singleton, Event.isSent, Envelope.dispatches, Envelope.job?,
            Effect.dispatches, Option.some.injEq, decide_eq_true_eq]
          split
          · rename_i counted
            simp [counted.2]
          · omega
      | _ => simp [Event.isSent, Envelope.dispatches, Envelope.job?]
    · simp
  · have none : (s.events effect).countP (Event.isSent device (Envelope.dispatches job)) = 0 := by
      rw [List.countP_eq_zero]
      intro event recorded
      cases s.recorded_of_mem recorded with
      | sent => exact absurd ⟨_, _, rfl⟩ enqueues
      | _ => simp [Event.isSent]
    omega

theorem sentCount_le (s : Fleet) (device : Uuid) (kind : Envelope → Bool) (effect : Effect) :
    s.sentCount device kind ≤ (s.apply effect).sentCount device kind := by
  rw [sentCount, sentCount, history_events, List.countP_append]
  exact Nat.le_add_right _ _

theorem pending_apply {s : Fleet} {job : Uuid} {status : JobStatus}
    (old : s.jobStatus job = some status) {effect : Effect}
    (pending : (s.apply effect).jobStatus job = some .pending) : status = .pending := by
  rw [jobStatus_apply old] at pending
  cases writes : effect.writesStatus with
  | none =>
      rw [writes] at pending
      cases pending
      rfl
  | some write =>
      obtain ⟨written, value⟩ := write
      simp only [writes] at pending
      split at pending
      · cases pending
        cases effect with
        | act device action fails =>
            cases action
            case completeJob id exitCode =>
                cases fails
                · simp only [Effect.writesStatus, Option.some.injEq, Prod.mk.injEq,
                    Database.outcome] at writes
                  split at writes <;> cases writes.2
                · cases writes
            all_goals cases writes
        | _ => cases writes
      · cases pending
        rfl

theorem absent_apply {s : Fleet} {job : Uuid} {effect : Effect}
    (absent : (s.apply effect).jobStatus job = none) : s.jobStatus job = none := by
  cases old : s.jobStatus job with
  | none => rfl
  | some status =>
      rw [jobStatus_apply old] at absent
      split at absent
      · split at absent <;> cases absent
      · cases absent

theorem pendingJobs_count (db : Database) (device job : Uuid) :
    (db.pendingJobs device).countP (·.1 = job) ≤ 1 := by
  have nodup : ((db.pendingJobs device).map Prod.fst).Nodup := by
    refine List.Nodup.sublist ?_ db.jobs.unique
    simp only [Database.pendingJobs, List.map_map]
    exact List.filter_sublist.map Prod.fst
  have counted : (db.pendingJobs device).countP (·.1 = job) =
      ((db.pendingJobs device).map Prod.fst).count job := by
    rw [List.count, List.countP_map]
    rfl
  rw [counted]
  exact List.nodup_iff_count_le_one.mp nodup job

theorem pendingJobs_pending {s : Fleet} {device job : Uuid} {payload : Json}
    (read : (job, payload) ∈ s.app.db.pendingJobs device) : s.jobStatus job = some .pending := by
  obtain ⟨row, found, _, pending, _⟩ := (Database.mem_pendingJobs _ _ _ _).mp read
  simp [jobStatus, Database.jobStatus, found, pending]

/-! ## What a step does with a job -/

variable {deployment : Deployment} {s : Fleet} {task : Task} {choice : Choice} {effect : Effect}
  {new : List Task}

/-- The steps of a dispatch: the row is inserted or read, the message is sent, the row is
marked or not; any other step leaves the job in the hands it is in. -/
inductive DispatchStep (job : Uuid) (s : Fleet) (task : Task) (choice : Choice) (effect : Effect)
    (new : List Task) : Prop where
  | idle (unsent : total (Task.unsent job) new ≤ task.unsent job)
      (unmarked : total (Task.unmarked job) new = task.unmarked job)
      (quiet : effect.dispatches job = false)
  | inserted (absent : s.jobStatus job = none) (unsent : total (Task.unsent job) new = 1)
      (unmarked : total (Task.unmarked job) new = 0) (quiet : effect.dispatches job = false)
      (appears : (s.apply effect).jobStatus job ≠ none)
  | selected {device : Uuid} {payload : Json} (selecting : task.selecting = some device)
      (proceeds : choice = .proceeds) (read : (job, payload) ∈ s.app.db.pendingJobs device)
      (unsent : total (Task.unsent job) new ≤ 1) (unmarked : total (Task.unmarked job) new = 0)
      (idle : task.unmarked job = 0) (quiet : effect = .none)
  | sent (unsent : total (Task.unsent job) new + 1 = task.unsent job)
      (unmarked : total (Task.unmarked job) new = 1)
  | marked (unsent : total (Task.unsent job) new = task.unsent job)
      (marking : task.marking = some job) (unmarked : total (Task.unmarked job) new = 0)
      (marks : effect = .markDispatched job)
  | lost (unsent : total (Task.unsent job) new = task.unsent job)
      (marking : task.marking = some job) (fails : choice = .fails) (quiet : effect = .none)

theorem unmarked_zero {job : Uuid} {task : Task} (idle : task.marking = none) :
    task.unmarked job = 0 := by
  simp [Task.unmarked, idle]

theorem DispatchStep.drops {job : Uuid} {next : Task} (marking : task.marking = none)
    (unsent : next.unsent job = 0) (idle : next.marking = none)
    (quiet : effect.dispatches job = false) : DispatchStep job s task choice effect [next] :=
  .idle (by simp [unsent]) (by simp [unmarked_zero marking, unmarked_zero idle]) quiet

theorem DispatchStep.ends {job : Uuid} (marking : task.marking = none)
    (quiet : effect.dispatches job = false) : DispatchStep job s task choice effect [] :=
  .idle (Nat.zero_le _) (by simp [unmarked_zero marking]) quiet

theorem Sends.quiet {device : Uuid} {message : ServerMessage} {sent : Option Nat}
    (sends : Sends s device message effect sent) {job : Uuid}
    (other : message.concernsJob = false ∨ ∃ id, message = .revokeJob id) :
    effect.dispatches job = false := by
  cases sends with
  | unsent closed => rfl
  | sent opened =>
      cases message with
      | dispatchJob id payload signature =>
          rcases other with other | ⟨_, other⟩ <;> cases other
      | _ => rfl

theorem dispatchStep_send {job id : Uuid} {device : Uuid} {decoded : JobPayload}
    {signature : String} {sent : Option Nat} {after : Task}
    (sends : Sends s device (.dispatchJob id decoded signature) effect sent)
    (marking : task.marking = none)
    (unsent : after.unsent job + (if id = job then 1 else 0) = task.unsent job)
    (next : after.marking = if sent.isSome then some id else none) :
    DispatchStep job s task choice effect [after] := by
  cases sends with
  | unsent closed =>
      exact .idle (by simp only [total_cons, total_nil]; omega)
        (by simp [unmarked_zero marking, unmarked_zero next]) rfl
  | @sent channel opened =>
      by_cases own : id = job
      · rw [if_pos own] at unsent
        exact .sent unsent (by simp [Task.unmarked, next, own])
      · rw [if_neg own] at unsent
        exact .idle (by simp only [total_cons, total_nil]; omega)
          (by simp [Task.unmarked, marking, next, own]) (by simp [Effect.dispatches, own])

theorem dispatchStep_mark {job id : Uuid} {after : Task} (marking : task.marking = some id)
    (unsent : after.unsent job = task.unsent job) (next : after.marking = none) :
    DispatchStep job s task choice (.markDispatched id) [after] := by
  by_cases own : id = job
  · subst own
    exact .marked (by simp [unsent]) marking (by simp [unmarked_zero next]) rfl
  · exact .idle (by simp [unsent]) (by simp [Task.unmarked, marking, next, own]) rfl

theorem dispatchStep_lose {job id : Uuid} {after : Task} (marking : task.marking = some id)
    (unsent : after.unsent job = task.unsent job) (next : after.marking = none) :
    DispatchStep job s task .fails .none [after] := by
  by_cases own : id = job
  · subst own
    exact .lost (by simp [unsent]) marking rfl rfl
  · exact .idle (by simp [unsent]) (by simp [Task.unmarked, marking, next, own]) rfl

theorem Turn.dispatchStep (turn : Turn deployment s task choice effect new) (job : Uuid) :
    DispatchStep job s task choice effect new := by
  cases turn with
  | @createRefused _ _ _ phase _ _ early =>
      cases phase with
      | mark id => exact absurd rfl (early id)
      | _ => exact .drops rfl rfl rfl rfl
  | @createInserted auth device payload id db inserted =>
      by_cases own : id = job
      · subst own
        obtain ⟨jobs, done, rfl⟩ := Database.insertJob_some inserted
        refine .inserted ?_ (by simp [Task.unsent]) (by simp [Task.unmarked, Task.marking]) rfl ?_
        · simp [jobStatus, Database.jobStatus, Table.insert_absent done]
        · simp [jobStatus, Database.jobStatus, apply, updateDb, inserted, Table.find?_insert done]
      · exact .drops rfl (by simp [Task.unsent, own]) rfl rfl
  | @createSent auth device payload id _ decoded _ sent valid sends =>
      refine dispatchStep_send sends rfl ?_ ?_
      · cases sent <;> simp [Task.unsent]
      · cases sent <;> rfl
  | createMarked => exact dispatchStep_mark rfl rfl rfl
  | createUnmarked => exact dispatchStep_lose rfl rfl rfl
  | cancelSent sends => exact .drops rfl rfl rfl (sends.quiet (.inr ⟨_, rfl⟩))
  | handlerOnline done =>
      refine .idle ?_ ?_ ?_
      · simp [Task.unsent]
      · simp [Task.unmarked, Task.marking]
      · cases done <;> rfl
  | @jobsSelected device =>
      have once := pendingJobs_count s.app.db device job
      by_cases read : 0 < (s.app.db.pendingJobs device).countP (·.1 = job)
      · obtain ⟨⟨id, payload⟩, member, same⟩ := List.countP_pos_iff.mp read
        have own : id = job := by simpa using same
        subst own
        exact .selected rfl rfl member (by simpa [Task.unsent] using once) rfl rfl rfl
      · exact .drops rfl (by simp only [Task.unsent]; omega) rfl rfl
  | @jobSkipped device id payload rest _ =>
      refine .idle ?_ (by simp [Task.unmarked, Task.marking]) rfl
      simp only [total_cons, total_nil, Task.unsent, List.countP_cons]
      omega
  | @jobSent device id payload rest _ decoded _ sent valid sends =>
      refine dispatchStep_send sends rfl ?_ ?_
      · cases sent <;> simp [Task.unsent, List.countP_cons]
      · cases sent <;> rfl
  | jobMarked => exact dispatchStep_mark rfl rfl rfl
  | jobUnmarked => exact dispatchStep_lose rfl rfl rfl
  | policiesSelected policies =>
      split
      · exact .drops rfl rfl rfl rfl
      · exact .drops rfl rfl rfl rfl
  | policiesSent sends => exact .drops rfl rfl rfl (sends.quiet (.inl rfl))
  | inventoryRequested sends => exact .ends rfl (sends.quiet (.inl rfl))
  | pushed plain sends => exact .ends rfl (sends.quiet (.inl plain))
  | @agentHandles device envelope rest _ reaction inbound reacts =>
      cases reaction with
      | execute id payload => exact .drops rfl rfl rfl rfl
      | reject id reason => exact .drops rfl rfl rfl rfl
      | cancel id => exact .ends rfl rfl
      | other => exact .ends rfl rfl
  | upgradeRejected | enrolled | handlerGone | handlerEnds | writerEnds | agentReceives
  | agentLeaves | agentEmits | agentFlushes | executorReports | rejectionReports | ticks =>
      exact .ends rfl rfl
  | _ => exact .drops rfl rfl rfl rfl

theorem executed_dispatches {crypto : Crypto} {serverPubkey : String} {envelope : Envelope}
    {reaction : Reaction} (device owner job : Uuid)
    (reacts : handleServerMessage crypto serverPubkey envelope.message = reaction) :
    (reactionEvent owner envelope.serial reaction).countP (Event.isExecuted device job) ≤
      if owner = device ∧ envelope.dispatches job then 1 else 0 := by
  cases reaction with
  | execute id payload =>
      obtain ⟨signature, same, _⟩ := handleServerMessage_execute reacts
      simp [reactionEvent, Event.isExecuted, Envelope.dispatches, Envelope.job?, same]
  | _ => simp [reactionEvent, Event.isExecuted]

end Fleet

/-! ## When a job is executed once -/

/-- The condition on each step: a pass reads no pending job that another task still has in hand,
and the mark of a sent job does not fail. -/
structure TakenOnce (s : Fleet) (others : List Task) (task : Task) (choice : Choice) : Prop where
  reads : ∀ device ∈ task.selecting, choice = .proceeds →
    ∀ entry ∈ s.app.db.pendingJobs device, ∀ other ∈ others,
      other.unsent entry.1 = 0 ∧ other.unmarked entry.1 = 0
  marks : task.marking.isSome → choice ≠ .fails

instance (s : Fleet) (others : List Task) (task : Task) (choice : Choice) :
    Decidable (TakenOnce s others task choice) :=
  decidable_of_iff (_ ∧ _) ⟨fun ⟨reads, marks⟩ => ⟨reads, marks⟩, fun ⟨reads, marks⟩ => ⟨reads, marks⟩⟩

namespace Fleet

/-- At most one task has the job in hand; once it is sent, none will send it again and its row
is marked or about to be. -/
structure InHand (device job : Uuid) (s : Fleet) (tasks : List Task) : Prop where
  alone : total (Task.unsent job) tasks + total (Task.unmarked job) tasks ≤ 1
  absent : s.jobStatus job = none → total (Task.unsent job) tasks = 0 ∧
    total (Task.unmarked job) tasks = 0 ∧ s.sentCount device (Envelope.dispatches job) = 0
  once : s.sentCount device (Envelope.dispatches job) ≤ 1
  settled : 0 < s.sentCount device (Envelope.dispatches job) →
    total (Task.unsent job) tasks = 0 ∧
      (total (Task.unmarked job) tasks = 1 ∨ s.jobStatus job ≠ some .pending)

theorem InHand.step {device job : Uuid} {before after : List Task}
    (held : InHand device job s (before ++ task :: after))
    (taken : TakenOnce s (before ++ after) task choice)
    (turn : Turn deployment s task choice effect new) :
    InHand device job (s.apply effect) (before ++ new ++ after) := by
  obtain ⟨alone, absent, once, settled⟩ := held
  have counted := sentCount_apply s device job effect
  have stays : s.jobStatus job ≠ none → (s.apply effect).jobStatus job ≠ none :=
    fun present gone => present (absent_apply gone)
  simp only [total_append, total_cons] at alone absent settled
  cases turn.dispatchStep job with
  | idle unsent unmarked quiet =>
      rw [quiet, if_neg nofun] at counted
      refine ⟨by simp only [total_append]; omega, ?_, by omega, ?_⟩
      · intro gone
        have empty := absent (absent_apply gone)
        simp only [total_append]
        omega
      · intro sent
        have before := settled (by omega)
        simp only [total_append]
        refine ⟨by omega, ?_⟩
        rcases before.2 with marking | marked
        · left
          omega
        · right
          intro pending
          cases old : s.jobStatus job with
          | none =>
              have empty := absent old
              omega
          | some status =>
              rw [pending_apply old pending] at old
              exact marked old
  | inserted missing unsent unmarked quiet appears =>
      rw [quiet, if_neg nofun] at counted
      have empty := absent missing
      refine ⟨by simp only [total_append]; omega, fun gone => absurd gone appears, by omega, ?_⟩
      intro sent
      omega
  | @selected owner payload selecting proceeds read unsent unmarked idle quiet =>
      subst quiet
      have pending := pendingJobs_pending read
      have free := taken.reads owner selecting proceeds (job, payload) read
      have unsentOthers : total (Task.unsent job) (before ++ after) = 0 :=
        total_eq_zero fun other member => (free other member).1
      have unmarkedOthers : total (Task.unmarked job) (before ++ after) = 0 :=
        total_eq_zero fun other member => (free other member).2
      simp only [total_append] at unsentOthers unmarkedOthers
      have silent : s.sentCount device (Envelope.dispatches job) = 0 := by
        by_contra sent
        rcases (settled (Nat.pos_of_ne_zero sent)).2 with marking | marked
        · omega
        · exact marked pending
      refine ⟨by simp only [total_append]; omega, ?_, once, ?_⟩
      · intro gone
        rw [show s.jobStatus job = none from gone] at pending
        cases pending
      · intro sent
        exact absurd sent (by simp [apply, silent])
  | sent unsent unmarked =>
      have present : s.jobStatus job ≠ none := by
        intro gone
        have empty := absent gone
        omega
      have silent : s.sentCount device (Envelope.dispatches job) = 0 := by
        by_contra sent
        have before := settled (Nat.pos_of_ne_zero sent)
        omega
      refine ⟨by simp only [total_append]; omega, fun gone => absurd gone (stays present), ?_, ?_⟩
      · split at counted <;> omega
      · intro sent
        simp only [total_append]
        exact ⟨by omega, .inl (by omega)⟩
  | marked unsent marking unmarked marks =>
      subst marks
      have own : task.unmarked job = 1 := by simp [Task.unmarked, marking]
      have present : s.jobStatus job ≠ none := by
        intro gone
        have empty := absent gone
        omega
      rw [show (Effect.markDispatched job).dispatches job = false from rfl, if_neg nofun] at counted
      refine ⟨by simp only [total_append]; omega, fun gone => absurd gone (stays present), by omega, ?_⟩
      intro sent
      simp only [total_append]
      refine ⟨by omega, .inr ?_⟩
      intro pending
      obtain ⟨status, old⟩ := Option.ne_none_iff_exists'.mp present
      rw [jobStatus_apply old] at pending
      simp [Effect.writesStatus] at pending
  | lost _ marking fails _ => exact absurd fails (taken.marks (by simp [marking]))

theorem request_unsent {task : Task} (request : task.request = true) (job : Uuid) :
    task.unsent job = 0 ∧ task.unmarked job = 0 := by
  refine ⟨?_, unmarked_zero (request_idle request).1⟩
  cases task with
  | createJob _ _ _ phase => cases phase <;> first | rfl | cases request
  | onConnect => cases request
  | _ => rfl

end Fleet

/-- In every run in which no two tasks have a job in hand at a time, an agent executes each job at
most once. -/
theorem executed_at_most_once (deployment : Deployment) {start config : Config Fleet Task}
    (started : Start start) (reached : Reach (program deployment) TakenOnce start config)
    (device job : Uuid) : config.shared.executedCount device job ≤ 1 := by
  have held : Fleet.InHand device job config.shared config.tasks := by
    refine reached.invariant (fun config => Fleet.InHand device job config.shared config.tasks)
      ?_ ?_ ?_
    · constructor <;> simp [started.tasks, started.history, Fleet.sentCount]
    · intro s tasks task held request
      obtain ⟨unsent, unmarked⟩ := Fleet.request_unsent request job
      obtain ⟨alone, absent, once, settled⟩ := held
      constructor <;> simpa [unsent, unmarked]
    · intro s s' before after new task choice held taken moved
      obtain ⟨effect, turn, rfl⟩ := program_step moved
      exact held.step taken turn
  have used := handled_received deployment started reached device (Envelope.dispatches job)
    (Event.isExecuted device job) (fun event executed => by cases event <;> simp_all [Event.isExecuted, Event.ofAgent])
    fun owner envelope reaction reacts => Fleet.executed_dispatches device owner job reacts
  have balanced := messages_balanced deployment started reached device (Envelope.dispatches job)
  have once := held.once
  simp only [Fleet.Balanced] at balanced
  simp only [Fleet.executedCount]
  omega

/-- A job sent by `create_job` to the connected device, and run there. -/
def runOnce : List (Label Task Choice) :=
  connect ++
    [.arrive (.createJob sampleAdmin (Uuid.small 1) (JobPayload.codec.encode .collectInventory)
        .verifyDevice),
      .run 3 .proceeds, .run 3 (.generates (Uuid.small 9)), .run 3 .proceeds, .run 3 .proceeds,
      .run 2 .proceeds, .run 2 .proceeds, .arrive (.agentReceives 0), .run 4 .proceeds,
      .arrive (.agentHandles (Uuid.small 1)), .run 4 .proceeds]

theorem executed_at_most_once_runs : ∃ last, Reach (program sampleDeployment) TakenOnce
    sampleStart last ∧ last.shared.executedCount (Uuid.small 1) (Uuid.small 9) = 1 := by
  obtain ⟨last, reached, ran⟩ := Reach.of_observed (program sampleDeployment) TakenOnce sampleStart
    runOnce (fun config => config.shared.executedCount (Uuid.small 1) (Uuid.small 9)) 1
    (by decide +kernel)
  have once := executed_at_most_once sampleDeployment sampleStart_start reached (Uuid.small 1)
    (Uuid.small 9)
  exact ⟨last, reached, Nat.le_antisymm once (Nat.le_of_eq ran.symm)⟩

/-- The pass of a fresh connection reads the job that `create_job` has inserted and not yet
marked, and both send it. -/
def sentTwice : List (Label Task Choice) :=
  [.arrive (.wsHandler (Uuid.small 1) (some "token")), .run 0 .proceeds, .run 0 .proceeds,
    .run 0 .proceeds, .run 0 .proceeds,
    .arrive (.createJob sampleAdmin (Uuid.small 1) (JobPayload.codec.encode .collectInventory)
      .verifyDevice),
    .run 3 .proceeds, .run 3 (.generates (Uuid.small 9)),
    .run 1 .proceeds, .run 3 .proceeds, .run 1 .proceeds,
    .run 2 .proceeds, .run 2 .proceeds, .run 2 .proceeds, .run 2 .proceeds,
    .arrive (.agentReceives 0), .run 4 .proceeds, .arrive (.agentReceives 0), .run 4 .proceeds,
    .arrive (.agentHandles (Uuid.small 1)), .run 4 .proceeds,
    .arrive (.agentHandles (Uuid.small 1)), .run 5 .proceeds]

/-- A job sent by `create_job` and by a pass is executed twice. -/
theorem executed_twice : ¬ ∀ (start config : Config Fleet Task) (device job : Uuid), Start start →
    Reach (program sampleDeployment) Guard.any start config →
      config.shared.executedCount device job ≤ 1 := by
  intro once
  obtain ⟨last, reached, twice⟩ := Reach.of_observed (program sampleDeployment) Guard.any
    sampleStart sentTwice (fun config => config.shared.executedCount (Uuid.small 1) (Uuid.small 9))
    2 (by decide +kernel)
  have bound := once _ _ (Uuid.small 1) (Uuid.small 9) sampleStart_start reached
  omega

end OsfmEdm
