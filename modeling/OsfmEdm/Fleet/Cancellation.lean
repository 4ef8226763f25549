import OsfmEdm.Fleet.Dispatch
import OsfmEdm.Fleet.Orders

/-!
Cancelling jobs. `cancel_job` sends a `RevokeJob` and then marks the row; the agent takes the
job's kill channel out of its registry. A task that has the job in hand sends it all the
same, and a run that has not registered yet is not stopped. Where neither happens, a
cancelled job does not run.
-/

namespace OsfmEdm

open Interleaving JsonText

/-! ## Runs of a job on the agent -/

namespace Execution

/-- Whether a run has no process any more and starts none. -/
def ended : Execution → Bool
  | .exited _ | .reporting _ => true
  | _ => false

/-- Whether a run waits for its process, which its kill channel can end, or has ended. -/
def waits : Execution → Bool
  | .waiting _ | .exited _ | .reporting _ => true
  | _ => false

/-- Whether a run has ended or its kill channel, which is not the registered one, is closed. -/
def stopped (entry : Option Nat) : Execution → Bool
  | .waiting channel => entry ≠ some channel
  | .exited _ | .reporting _ => true
  | _ => false

end Execution

namespace Task

/-- How far the task is with the device's run of the job. -/
def executes (device job : Uuid) : Task → Option Execution
  | .executor owner id _ phase => if owner = device ∧ id = job then some phase else none
  | _ => none

/-- The job and device whose `RevokeJob` a `cancel_job` sends next. -/
def revoking : Task → Option (Uuid × Uuid)
  | .cancelJob _ job (.revoke device) => some (job, device)
  | _ => none

/-- The job and device of a `cancel_job` that has sent its `RevokeJob`, with its number. -/
def sealing : Task → Option (Uuid × Uuid × Option Nat)
  | .cancelJob _ job (.mark device sent) | .cancelJob _ job (.cancelled device sent) =>
      some (job, device, sent)
  | _ => none

/-- The job and device of a `cancel_job` that has returned success, with the number of its
`RevokeJob`. -/
def returned : Task → Option (Uuid × Uuid × Option Nat)
  | .cancelJob _ job (.cancelled device sent) => some (job, device, sent)
  | _ => none

/-- The device whose agent handles its next message. -/
def handling : Task → Option Uuid
  | .agentHandles device => some device
  | _ => none

end Task

/-- The job a message revokes. -/
def Envelope.revokes? (envelope : Envelope) : Option Uuid :=
  match envelope.message with
  | .revokeJob job => some job
  | _ => none

/-- Whether an agent has handled a numbered `RevokeJob` of the job. -/
def Event.revokes (device job : Uuid) (serial : Nat) : Event → Bool
  | .revoked owner id number => owner = device ∧ id = job ∧ number = serial
  | _ => false

def Event.isRevoked (device : Uuid) (serial : Nat) : Event → Bool
  | .revoked owner _ number => owner = device ∧ number = serial
  | _ => false

namespace Fleet

/-- The dispatches of a job the device's agent has still to handle. -/
def incoming (s : Fleet) (device job : Uuid) (tasks : List Task) : Nat :=
  s.inFlight device (Envelope.dispatches job) tasks +
    (s.agents device).inbound.countP (Envelope.dispatches job)

/-- No dispatch of the job is on its way, and its runs have ended or are told to. -/
structure Quiet (device job : Uuid) (s : Fleet) (tasks : List Task) : Prop where
  incoming : s.incoming device job tasks = 0
  stopped : ∀ task ∈ tasks, ∀ phase ∈ task.executes device job,
    phase.stopped ((s.agents device).registry job) = true

variable {deployment : Deployment} {s : Fleet} {task : Task} {choice : Choice} {effect : Effect}
  {new before after : List Task} {device job : Uuid}

theorem Turn.executes (turn : Turn deployment s task choice effect new) {next : Task}
    (member : next ∈ new) {phase : Execution} (runs : next.executes device job = some phase) :
    (∃ old, task.executes device job = some old ∧
      (phase.ended = true ∨ old = .spawned ∨ ∃ channel, old = .registered channel)) ∨
      ∃ payload serial, effect = .handle device (.execute job payload) serial := by
  cases next with
  | executor owner id payload phase =>
      simp only [Task.executes] at runs
      split at runs
      · rename_i own
        obtain ⟨rfl, rfl⟩ := own
        cases runs
        rcases turn.executor_from member with ⟨old, rfl, comes⟩ | ⟨serial, rfl⟩
        · refine .inl ⟨old, by simp [Task.executes], ?_⟩
          rcases comes with rfl | ⟨channel, rfl⟩ | ⟨exitCode, rfl | rfl⟩
          · exact .inr (.inl rfl)
          · exact .inr (.inr ⟨channel, rfl⟩)
          · exact .inl rfl
          · exact .inl rfl
        · exact .inr ⟨payload, serial, rfl⟩
      · cases runs
  | _ => cases runs

theorem Turn.registersKill (turn : Turn deployment s task choice (.registerKill device job) new) :
    task.executes device job = some .spawned := by
  obtain ⟨payload, rfl⟩ := turn.sourced
  simp [Task.executes]

theorem registry_apply (effect : Effect) (device job : Uuid) :
    ((s.apply effect).agents device).registry job = (s.agents device).registry job ∨
      ((s.apply effect).agents device).registry job = none ∨ effect = .registerKill device job := by
  by_cases untouched : effect.touchesAgents = false
  · rw [agents_apply s untouched]
    exact .inl rfl
  cases effect with
  | receive socket =>
      left
      simp only [apply]
      split
      · rename_i owner envelope rest _ _ _
        by_cases own : device = owner
        · subst own
          simp [updateAgent, updateSocket, record]
        · simp [updateAgent, updateSocket, record, own]
      · rfl
  | emit owner | flush owner =>
      left
      by_cases own : device = owner
      · subst own
        simp [apply, updateAgent, updateSocket]
      · simp [apply, updateAgent, updateSocket, own]
  | handle owner reaction serial =>
      by_cases own : device = owner
      · subst own
        cases reaction with
        | cancel id =>
            by_cases same : job = id
            · simp [apply, updateAgent, record, reactionRegistry, same]
            · simp [apply, updateAgent, record, reactionRegistry, same]
        | _ => simp [apply, updateAgent, record, reactionRegistry]
      · simp [apply, updateAgent, record, own]
  | registerKill owner id =>
      by_cases own : device = owner
      · subst own
        by_cases same : job = id
        · subst same
          exact .inr (.inr rfl)
        · simp [apply, updateAgent, same]
      · simp [apply, updateAgent, own]
  | removeKill owner id =>
      by_cases own : device = owner
      · subst own
        by_cases same : job = id <;> simp [apply, updateAgent, same]
      · simp [apply, updateAgent, own]
  | _ => exact absurd rfl untouched

theorem inbound_count_le (s : Fleet) (device : Uuid) (kind : Envelope → Bool) (effect : Effect) :
    ((s.apply effect).agents device).inbound.countP kind ≤
      (s.agents device).inbound.countP kind +
        (s.events effect).countP (Event.isReceived device kind) := by
  by_cases receives : ∃ socket, effect = .receive socket
  · obtain ⟨socket, rfl⟩ := receives
    exact Nat.le_of_eq (receive_inbound socket device kind)
  by_cases handles : ∃ owner reaction serial, effect = .handle owner reaction serial
  · obtain ⟨owner, reaction, serial, rfl⟩ := handles
    rw [handle_inbound]
    split
    · cases (s.agents device).inbound with
      | nil => simp
      | cons envelope rest =>
          rw [List.tail_cons, List.countP_cons]
          omega
    · omega
  · rw [inbound_apply s (fun socket same => receives ⟨socket, same⟩)
      (fun owner reaction serial same => handles ⟨owner, reaction, serial, same⟩)]
    exact Nat.le_add_right _ _

theorem Turn.dispatches_unsent (turn : Turn deployment s task choice effect new)
    (dispatches : effect.dispatches job = true) : 0 < task.unsent job := by
  cases turn.dispatchStep job with
  | sent unsent unmarked => omega
  | idle _ _ quiet | inserted _ _ _ quiet =>
      rw [quiet] at dispatches
      cases dispatches
  | selected _ _ _ _ _ _ quiet | lost _ _ _ quiet =>
      rw [quiet] at dispatches
      cases dispatches
  | marked _ _ _ marks =>
      rw [marks] at dispatches
      cases dispatches

theorem Turn.silent (turn : Turn deployment s task choice effect new)
    (unsent : task.unsent job = 0) : effect.dispatches job = false := by
  cases dispatches : effect.dispatches job with
  | false => rfl
  | true =>
      have positive := turn.dispatches_unsent dispatches
      omega

theorem Turn.sends_none (turn : Turn deployment s task choice effect new)
    (unsent : task.unsent job = 0) (device : Uuid) :
    (s.apply effect).sentCount device (Envelope.dispatches job) =
      s.sentCount device (Envelope.dispatches job) := by
  have silent := turn.silent unsent
  have most := sentCount_apply s device job effect
  have least := sentCount_le s device (Envelope.dispatches job) effect
  simp only [silent, Bool.false_eq_true, if_false] at most
  omega

theorem incoming_le (turn : Turn deployment s task choice effect new) (wired : Wired s task)
    (balanced : Balanced device (Envelope.dispatches job) s (before ++ task :: after))
    (unsent : effect.dispatches job = false) :
    (s.apply effect).incoming device job (before ++ new ++ after) ≤
      s.incoming device job (before ++ task :: after) := by
  have balanced' := turn.balanced wired balanced
  have sent := sentCount_apply s device job effect
  have inbound := inbound_count_le s device (Envelope.dispatches job) effect
  simp only [unsent, Bool.false_eq_true, if_false] at sent
  simp only [Balanced, receivedCount, discardedCount] at balanced
  simp only [Balanced, receivedCount, discardedCount, history_events, List.countP_append]
    at balanced'
  simp only [incoming]
  omega

theorem Quiet.hands_none {tasks : List Task} {payload : JobPayload} {serial : Nat}
    (quiet : Quiet device job s tasks)
    (turn : Turn deployment s task choice (.handle device (.execute job payload) serial) new) :
    False := by
  obtain ⟨envelope, rest, inbound, _, reacts, _⟩ := turn.handles
  obtain ⟨signature, same, _⟩ := handleServerMessage_execute reacts
  have none := quiet.incoming
  simp [Fleet.incoming, inbound, Envelope.dispatches, Envelope.job?, same] at none

theorem Quiet.step (quiet : Quiet device job s (before ++ task :: after))
    (turn : Turn deployment s task choice effect new) (wired : Wired s task)
    (balanced : Balanced device (Envelope.dispatches job) s (before ++ task :: after))
    (unsent : task.unsent job = 0) :
    Quiet device job (s.apply effect) (before ++ new ++ after) := by
  have fewer := incoming_le turn wired balanced (turn.silent unsent)
  have own := quiet.stopped task (by simp)
  refine ⟨Nat.le_zero.mp (quiet.incoming ▸ fewer), ?_⟩
  intro next member phase runs
  rcases mem_stepped member with fresh | old
  · rcases turn.executes fresh runs with ⟨earlier, executes, ended⟩ | ⟨payload, serial, rfl⟩
    · rcases ended with ended | rfl | ⟨channel, rfl⟩
      · cases phase <;> first | rfl | cases ended
      · cases own _ executes
      · cases own _ executes
    · exact (quiet.hands_none turn).elim
  · have stopped := quiet.stopped next (mem_of_others task old) phase runs
    rcases registry_apply effect device job with same | gone | registers
    · rw [same]
      exact stopped
    · rw [gone]
      cases phase <;> first | rfl | exact stopped
    · subst registers
      have wrong := own _ turn.registersKill
      cases wrong

/-- A run that does not wait for a process any more. -/
structure Ended (device job : Uuid) (tasks : List Task) : Prop where
  ended : ∀ task ∈ tasks, ∀ phase ∈ task.executes device job, phase.ended = true

theorem Ended.step (ended : Ended device job (before ++ task :: after))
    (quiet : Quiet device job s (before ++ task :: after))
    (turn : Turn deployment s task choice effect new) :
    Ended device job (before ++ new ++ after) := by
  constructor
  intro next member phase runs
  rcases mem_stepped member with fresh | old
  · have own := ended.ended task (by simp)
    rcases turn.executes fresh runs with ⟨earlier, executes, done | rfl | ⟨channel, rfl⟩⟩ |
      ⟨payload, serial, rfl⟩
    · exact done
    · cases own _ executes
    · cases own _ executes
    · exact (quiet.hands_none turn).elim
  · exact ended.ended next (mem_of_others task old) phase runs

/-! ## Numbers of messages -/

/-- A message sent has a number that is given out. -/
def Numbered (s : Fleet) : Prop :=
  ∀ device envelope, Event.sent device envelope ∈ s.history → envelope.serial < s.serials

theorem numbered_apply (numbered : Numbered s) (effect : Effect) : Numbered (s.apply effect) := by
  intro device envelope sent
  have kept : s.serials ≤ (s.apply effect).serials := by
    cases effect with
    | enqueue | write | dropReceiver | receive | leave =>
        simp only [apply]
        repeat' split
        all_goals simp [record, updateChannel, updateSocket, updateAgent]
    | _ => exact Nat.le_refl _
  rw [history_events] at sent
  rcases List.mem_append.mp sent with old | recorded
  · exact Nat.lt_of_lt_of_le (numbered device envelope old) kept
  · cases s.recorded_of_mem recorded with
    | sent found => simp [apply, found]

end Fleet

theorem revoked_numbered (deployment : Deployment) {guard : Guard Fleet Task Choice}
    {start config : Config Fleet Task} (started : Start start)
    (reached : Reach (program deployment) guard start config) {device job : Uuid} {serial : Nat}
    (handled : Event.revoked device job serial ∈ config.shared.history) :
    serial < config.shared.serials := by
  have numbered : Fleet.Numbered config.shared := by
    refine reached.invariant (fun config => Fleet.Numbered config.shared) ?_ ?_ ?_
    · intro device envelope sent
      simp [started.history] at sent
    · intro s tasks task numbered _
      exact numbered
    · intro s s' before after new task choice numbered _ moved
      obtain ⟨effect, turn, rfl⟩ := program_step moved
      exact Fleet.numbered_apply numbered effect
  have used := handled_received deployment started reached device
    (fun envelope => decide (envelope.serial = serial)) (Event.isRevoked device serial)
    (fun event revoked => by cases event <;> simp_all [Event.isRevoked, Event.ofAgent])
    (fun owner envelope reaction _ => by
      cases reaction <;> simp [Fleet.reactionEvent, Event.isRevoked])
  have balanced := messages_balanced deployment started reached device
    (fun envelope => decide (envelope.serial = serial))
  have positive : 0 < config.shared.history.countP (Event.isRevoked device serial) :=
    List.countP_pos_iff.mpr ⟨_, handled, by simp [Event.isRevoked]⟩
  simp only [Fleet.Balanced] at balanced
  have sent : 0 < config.shared.sentCount device (fun envelope => decide (envelope.serial = serial)) := by
    omega
  obtain ⟨event, member, counted⟩ := List.countP_pos_iff.mp sent
  cases event with
  | sent owner envelope =>
      simp only [Event.isSent, decide_eq_true_eq] at counted
      exact counted.2 ▸ numbered owner envelope member
  | _ => cases counted

/-! ## When a cancelled job does not run -/

/-- The condition on each step. A `RevokeJob` is sent only while no task has the job in hand, and
where it cannot be sent no dispatch and no run of the job is left; no pass reads a job between
its `RevokeJob` and the mark, which does not fail; and the agent handles the `RevokeJob` only
when no dispatch of the job is left and its runs wait for their process. -/
structure CancelsInOrder (s : Fleet) (others : List Task) (task : Task) (choice : Choice) :
    Prop where
  held : ∀ target ∈ task.revoking, ∀ other ∈ others, other.unsent target.1 = 0
  unreached : ∀ target ∈ task.revoking, s.openChannel target.2 = some none →
    s.incoming target.2 target.1 others = 0 ∧
      ∀ other ∈ others, ∀ phase ∈ other.executes target.2 target.1,
        phase.stopped ((s.agents target.2).registry target.1) = true
  reads : ∀ device ∈ task.selecting, choice = .proceeds →
    ∀ entry ∈ s.app.db.pendingJobs device, ∀ other ∈ others,
      other.markingCancelled ≠ some entry.1
  marks : task.markingCancelled.isSome → choice ≠ .fails
  handles : ∀ device ∈ task.handling, ∀ envelope ∈ (s.agents device).inbound.head?,
    ∀ job ∈ envelope.revokes?, s.incoming device job others = 0 ∧
      ∀ other ∈ others, ∀ phase ∈ other.executes device job, phase.waits = true

instance (s : Fleet) (others : List Task) (task : Task) (choice : Choice) :
    Decidable (CancelsInOrder s others task choice) :=
  decidable_of_iff (_ ∧ _ ∧ _ ∧ _ ∧ _)
    ⟨fun ⟨held, unreached, reads, marks, handles⟩ => ⟨held, unreached, reads, marks, handles⟩,
      fun ⟨held, unreached, reads, marks, handles⟩ => ⟨held, unreached, reads, marks, handles⟩⟩

/-- The job and device a `cancel_job` has looked up. -/
def Task.target : Task → Option (Uuid × Uuid)
  | .cancelJob _ job (.revoke device) | .cancelJob _ job (.mark device _)
  | .cancelJob _ job (.cancelled device _) => some (job, device)
  | _ => none

namespace Fleet

variable {deployment : Deployment} {s : Fleet} {task : Task} {choice : Choice} {effect : Effect}
  {new before after : List Task} {device job : Uuid} {sent : Option Nat}

/-- A `cancel_job` works on a row. -/
def Targeted (s : Fleet) (task : Task) : Prop :=
  ∀ target ∈ task.target, (s.jobOrder target.1).isSome

theorem Turn.targets (turn : Turn deployment s task choice effect new) {next : Task}
    (member : next ∈ new) {target : Uuid × Uuid} (targets : next.target = some target) :
    task.target = some target ∨ (s.jobOrder target.1).isSome := by
  cases turn with
  | cancelFound found unfinished =>
      rw [List.mem_singleton.mp member] at targets
      cases targets
      exact .inr (by simp [jobOrder, found])
  | cancelSent | cancelMarked | cancelUnmarked =>
      rw [List.mem_singleton.mp member] at targets
      exact .inl targets
  | handlerOnline done =>
      simp only [List.mem_cons, List.not_mem_nil, or_false] at member
      rcases member with rfl | rfl | rfl <;> cases targets
  | @agentHandles _ _ _ _ reaction inbound reacts =>
      cases reaction
      case execute | reject =>
          rw [List.mem_singleton.mp member] at targets
          cases targets
      all_goals cases member
  | _ =>
      first
        | cases member
          done
        | rw [List.mem_singleton.mp member] at targets
          cases targets

theorem order_stays (present : (s.jobOrder job).isSome) (effect : Effect) :
    ((s.apply effect).jobOrder job).isSome := by
  obtain ⟨order, found⟩ := Option.isSome_iff_exists.mp present
  rw [jobOrder_apply found effect]
  rfl

theorem targeted_outline (deployment : Deployment) (guard : Guard Fleet Task Choice) :
    Outline (program deployment) guard (fun _ => True) Targeted where
  arrive s task _ request := by
    intro target member
    cases task with
    | cancelJob _ _ phase => cases phase <;> first | (cases member; done) | cases request
    | _ => cases member
  step s others task choice s' new _ targeted _ _ moved := by
    obtain ⟨effect, turn, rfl⟩ := program_step moved
    refine ⟨trivial, ?_⟩
    intro next member target targets
    rcases turn.targets member targets with old | found
    · exact order_stays (targeted target old) effect
    · exact order_stays found effect
  stable s others task choice s' new _ _ _ moved other _ targeted := by
    obtain ⟨effect, turn, rfl⟩ := program_step moved
    exact fun target member => order_stays (targeted target member) effect

theorem Turn.seals (turn : Turn deployment s task choice effect new) {next : Task}
    (member : next ∈ new) (seals : next.sealing = some (job, device, sent)) :
    task.sealing = some (job, device, sent) ∨ task.revoking = some (job, device) := by
  cases turn with
  | cancelSent sends =>
      rw [List.mem_singleton.mp member] at seals
      cases seals
      exact .inr rfl
  | cancelMarked | cancelUnmarked =>
      rw [List.mem_singleton.mp member] at seals
      exact .inl seals
  | handlerOnline done =>
      simp only [List.mem_cons, List.not_mem_nil, or_false] at member
      rcases member with rfl | rfl | rfl <;> cases seals
  | @agentHandles _ _ _ _ reaction inbound reacts =>
      cases reaction
      case execute | reject =>
          rw [List.mem_singleton.mp member] at seals
          cases seals
      all_goals cases member
  | _ =>
      first
        | cases member
          done
        | rw [List.mem_singleton.mp member] at seals
          cases seals

theorem Turn.revokes (turn : Turn deployment s task choice effect new)
    (revokes : task.revoking = some (job, device)) :
    ∃ auth sent, new = [.cancelJob auth job (.mark device sent)] ∧
      Sends s device (.revokeJob job) effect sent := by
  cases turn with
  | cancelSent sends =>
      cases revokes
      exact ⟨_, _, rfl, sends⟩
  | _ => cases revokes

theorem Turn.keeps_seal (turn : Turn deployment s task choice effect new)
    (seals : task.sealing = some (job, device, sent)) :
    ∃ next ∈ new, next.sealing = some (job, device, sent) := by
  cases turn with
  | cancelMarked | cancelUnmarked => exact ⟨_, List.mem_singleton.mpr rfl, seals⟩
  | _ => cases seals

/-- Whether a `cancel_job` of the job has sent its `RevokeJob`. -/
def SealedBy (job : Uuid) (tasks : List Task) : Prop :=
  ∃ task ∈ tasks, ∃ device sent, task.sealing = some (job, device, sent)

/-- Once a `cancel_job` has sent its `RevokeJob` no task will send the job, and the row is not
pending or about to be marked. -/
structure Sealing (job : Uuid) (s : Fleet) (tasks : List Task) : Prop where
  unsent : SealedBy job tasks → total (Task.unsent job) tasks = 0
  closed : SealedBy job tasks → s.jobStatus job = some .pending →
    ∃ task ∈ tasks, task.markingCancelled = some job

theorem sealedBy_row {tasks : List Task} (targeted : ∀ task ∈ tasks, Targeted s task)
    (sealedBy : SealedBy job tasks) : s.jobStatus job ≠ none := by
  obtain ⟨task, member, device, sent, seals⟩ := sealedBy
  have present : (s.jobOrder job).isSome := by
    cases task with
    | cancelJob _ id phase =>
        cases phase with
        | mark owner number | cancelled owner number =>
            cases seals
            exact targeted _ member _ rfl
        | _ => cases seals
    | _ => cases seals
  intro gone
  rw [jobOrder_none.mpr gone] at present
  cases present

theorem Turn.cancelled_status (turn : Turn deployment s task choice effect new)
    (marks : task.markingCancelled = some job) (succeeds : choice ≠ .fails) :
    (s.apply effect).jobStatus job ≠ some .pending := by
  cases turn with
  | cancelMarked =>
      cases marks
      intro pending
      cases old : s.jobStatus job with
      | none =>
          have appears := jobStatus_appears old (.markCancelled job) pending
          have absent : s.app.db.jobs.find? job = none := by
            simpa [jobStatus, Database.jobStatus] using old
          simp [jobStatus, Database.jobStatus, apply, updateDb, Database.markCancelled,
            Database.updateJob, absent] at pending
      | some status =>
          rw [jobStatus_apply old] at pending
          simp [Effect.writesStatus] at pending
  | cancelUnmarked => exact absurd rfl succeeds
  | _ => cases marks

theorem Turn.unsent_none (turn : Turn deployment s task choice effect new)
    (own : task.unsent job = 0) (present : s.jobStatus job ≠ none)
    (unread : ∀ device payload, task.selecting = some device → choice = .proceeds →
      (job, payload) ∉ s.app.db.pendingJobs device) : total (Task.unsent job) new = 0 := by
  cases turn.dispatchStep job with
  | idle unsent => omega
  | inserted absent => exact absurd absent present
  | selected selecting proceeds read => exact absurd read (unread _ _ selecting proceeds)
  | sent unsent => omega
  | marked unsent | lost unsent => omega

theorem Sealing.step (held : Sealing job s (before ++ task :: after))
    (turn : Turn deployment s task choice effect new)
    (inOrder : CancelsInOrder s (before ++ after) task choice)
    (targeted : ∀ other ∈ before ++ task :: after, Targeted s other) :
    Sealing job (s.apply effect) (before ++ new ++ after) := by
  -- either a cancel had sealed the job before, or this step sends its `RevokeJob`
  have origin (sealedBy : SealedBy job (before ++ new ++ after)) :
      SealedBy job (before ++ task :: after) ∨ ∃ device, task.revoking = some (job, device) := by
    obtain ⟨next, member, device, sent, seals⟩ := sealedBy
    rcases mem_stepped member with fresh | old
    · rcases turn.seals fresh seals with own | revokes
      · exact .inl ⟨task, by simp, device, sent, own⟩
      · exact .inr ⟨device, revokes⟩
    · exact .inl ⟨next, mem_of_others task old, device, sent, seals⟩
  constructor
  · intro sealedBy
    rcases origin sealedBy with sealedBy | ⟨device, revokes⟩
    · have unsent := held.unsent sealedBy
      simp only [total_append, total_cons] at unsent ⊢
      have fresh : total (Task.unsent job) new = 0 := by
        apply turn.unsent_none (by omega) (sealedBy_row targeted sealedBy)
        intro device payload selecting proceeds read
        obtain ⟨other, member, marks⟩ := held.closed sealedBy (pendingJobs_pending read)
        have apart : other ∈ before ++ after := by
          refine mem_others member ?_
          rintro rfl
          cases other <;> first | cases selecting | cases marks
        exact inOrder.reads device selecting proceeds _ read other apart marks
      omega
    · obtain ⟨auth, sent, rfl, sends⟩ := turn.revokes revokes
      have others : total (Task.unsent job) (before ++ after) = 0 :=
        total_eq_zero (inOrder.held _ revokes)
      simp only [total_append, total_cons, total_nil, Task.unsent] at others ⊢
      omega
  · intro sealedBy pending
    rcases origin sealedBy with sealedBy | ⟨device, revokes⟩
    · obtain ⟨status, old⟩ := Option.ne_none_iff_exists'.mp (sealedBy_row targeted sealedBy)
      have same := pending_apply old pending
      subst same
      obtain ⟨other, member, marks⟩ := held.closed sealedBy old
      by_cases own : other = task
      · subst own
        have succeeds := inOrder.marks (by simp [marks])
        exact absurd pending (turn.cancelled_status marks succeeds)
      · exact ⟨other, mem_other member own, marks⟩
    · obtain ⟨auth, sent, rfl, sends⟩ := turn.revokes revokes
      exact ⟨.cancelJob auth job (.mark device sent), by simp, rfl⟩

theorem Turn.stays_sealed (turn : Turn deployment s task choice effect new)
    (sealedBy : SealedBy job (before ++ task :: after)) : SealedBy job (before ++ new ++ after) := by
  obtain ⟨sealer, member, device, sent, seals⟩ := sealedBy
  by_cases own : sealer = task
  · obtain ⟨next, fresh, kept⟩ := turn.keeps_seal (own ▸ seals)
    exact ⟨next, by simp [fresh], device, sent, kept⟩
  · exact ⟨sealer, mem_other member own, device, sent, seals⟩

/-- The agent has handled the `RevokeJob` of a `cancel_job`, where it sent one. -/
def Answered (s : Fleet) (device job : Uuid) (sent : Option Nat) : Prop :=
  ∀ serial ∈ sent, Event.revoked device job serial ∈ s.history

theorem answered_of_recorded {serial : Nat}
    (recorded : s.history.any (Event.revokes device job serial) = true) :
    s.Answered device job (some serial) := by
  obtain ⟨event, member, revokes⟩ := List.any_eq_true.mp recorded
  intro number same
  cases same
  cases event with
  | revoked owner id number =>
      simp only [Event.revokes, decide_eq_true_eq] at revokes
      obtain ⟨rfl, rfl, rfl⟩ := revokes
      exact member
  | _ => cases revokes

theorem answered_before (answered : (s.apply effect).Answered device job sent)
    (unseen : ∀ serial, Event.revoked device job serial ∉ s.events effect) :
    s.Answered device job sent := by
  intro serial member
  have recorded := answered serial member
  rw [history_events] at recorded
  exact (List.mem_append.mp recorded).resolve_right (unseen serial)

theorem answered_from (answered : (s.apply effect).Answered device job sent) :
    s.Answered device job sent ∨ ∃ serial, effect = .handle device (.cancel job) serial := by
  by_cases handles : ∃ owner reaction serial, effect = .handle owner reaction serial
  · obtain ⟨owner, reaction, serial, rfl⟩ := handles
    cases reaction with
    | cancel id =>
        by_cases own : owner = device ∧ id = job
        · obtain ⟨rfl, rfl⟩ := own
          exact .inr ⟨serial, rfl⟩
        · refine .inl (answered_before answered fun number fresh => ?_)
          cases List.mem_singleton.mp fresh
          exact absurd ⟨rfl, rfl⟩ own
    | _ => exact .inl (answered_before answered fun number => by simp [events, reactionEvent])
  · refine .inl (answered_before answered fun number fresh => ?_)
    have other := events_other
      (fun owner reaction serial same => handles ⟨owner, reaction, serial, same⟩) fresh
    cases other

theorem Quiet.revoked {serial : Nat}
    (turn : Turn deployment s task choice (.handle device (.cancel job) serial) new)
    (inOrder : CancelsInOrder s (before ++ after) task choice) :
    Quiet device job (s.apply (.handle device (.cancel job) serial)) (before ++ new ++ after) := by
  obtain ⟨envelope, rest, inbound, rfl, reacts, rfl, rfl⟩ := turn.handles
  have revokes : envelope.revokes? = some job := by
    simp [Envelope.revokes?, handleServerMessage_cancel reacts]
  obtain ⟨incoming, waits⟩ := inOrder.handles device rfl envelope (by simp [inbound]) job revokes
  simp only [Reaction.spawns, List.append_nil]
  constructor
  · have fewer := inbound_count_le s device (Envelope.dispatches job)
      (.handle device (.cancel job) envelope.serial)
    have none : (s.events (.handle device (.cancel job) envelope.serial)).countP
        (Event.isReceived device (Envelope.dispatches job)) = 0 := by
      simp [events, reactionEvent, Event.isReceived]
    have same : (s.apply (.handle device (.cancel job) envelope.serial)).inFlight device
        (Envelope.dispatches job) (before ++ after) =
          s.inFlight device (Envelope.dispatches job) (before ++ after) := rfl
    simp only [Fleet.incoming] at incoming ⊢
    omega
  · intro run member phase runs
    have gone : ((s.apply (.handle device (.cancel job) envelope.serial)).agents device).registry
        job = none := by
      simp [apply, updateAgent, record, reactionRegistry]
    rw [gone]
    have waiting := waits run member phase runs
    cases phase <;> first | rfl | cases waiting

theorem Quiet.unreached {auth : AuthUser} (revokes : task.revoking = some (job, device))
    (closed : s.openChannel device = some none)
    (inOrder : CancelsInOrder s (before ++ after) task choice) :
    Quiet device job s (before ++ [.cancelJob auth job (.mark device none)] ++ after) := by
  obtain ⟨incoming, stopped⟩ := inOrder.unreached (job, device) revokes closed
  constructor
  · simp only [Fleet.incoming, inFlight, total_append, total_cons, total_nil, Task.carries]
      at incoming ⊢
    omega
  · intro run member phase runs
    simp only [List.mem_append, List.mem_singleton] at member
    rcases member with (early | rfl) | late
    · exact stopped run (by simp [early]) phase runs
    · cases runs
    · exact stopped run (by simp [late]) phase runs

/-- Once the `RevokeJob` of a `cancel_job` is handled, or could not be sent, the job is quiet. -/
def Stilled (job : Uuid) (s : Fleet) (tasks : List Task) : Prop :=
  ∀ task ∈ tasks, ∀ device sent, task.sealing = some (job, device, sent) →
    s.Answered device job sent → Quiet device job s tasks

theorem Stilled.step (held : Stilled job s (before ++ task :: after))
    (sealing : Sealing job s (before ++ task :: after))
    (turn : Turn deployment s task choice effect new)
    (inOrder : CancelsInOrder s (before ++ after) task choice) (wired : Wired s task)
    (balanced : ∀ device, Balanced device (Envelope.dispatches job) s (before ++ task :: after))
    (numbered : ∀ device serial, Event.revoked device job serial ∈ s.history →
      serial < s.serials) :
    Stilled job (s.apply effect) (before ++ new ++ after) := by
  intro next member device sent seals answered
  rcases answered_from answered with old | ⟨serial, rfl⟩
  · have sealedBefore (sealer : Task) (present : sealer ∈ before ++ task :: after)
        (sealed : sealer.sealing = some (job, device, sent)) :
        Quiet device job (s.apply effect) (before ++ new ++ after) := by
      have unsent := sealing.unsent ⟨sealer, present, device, sent, sealed⟩
      simp only [total_append, total_cons] at unsent
      exact (held sealer present device sent sealed old).step turn wired (balanced device) (by omega)
    rcases mem_stepped member with fresh | others
    · rcases turn.seals fresh seals with own | revokes
      · exact sealedBefore task (by simp) own
      · obtain ⟨auth, number, rfl, sends⟩ := turn.revokes revokes
        cases List.mem_singleton.mp fresh
        cases seals
        cases sends with
        | unsent closed => exact Quiet.unreached revokes closed inOrder
        | sent opened =>
            have bound := numbered device s.serials (old s.serials rfl)
            omega
    · exact sealedBefore next (mem_of_others task others) seals
  · exact Quiet.revoked turn inOrder

end Fleet

namespace Fleet

variable {s : Fleet} {task : Task} {tasks : List Task} {device job : Uuid}

theorem request_seals (request : task.request = true) : task.sealing = none := by
  cases task with
  | cancelJob _ _ phase => cases phase <;> first | rfl | cases request
  | _ => rfl

theorem sealing_arrives (held : Sealing job s tasks) (request : task.request = true) :
    Sealing job s (tasks ++ [task]) := by
  have before (sealedBy : SealedBy job (tasks ++ [task])) : SealedBy job tasks := by
    obtain ⟨sealer, member, device, sent, seals⟩ := sealedBy
    rcases List.mem_append.mp member with old | own
    · exact ⟨sealer, old, device, sent, seals⟩
    · rw [List.mem_singleton.mp own, request_seals request] at seals
      cases seals
  constructor
  · intro sealedBy
    simp [held.unsent (before sealedBy), (request_unsent request job).1]
  · intro sealedBy pending
    obtain ⟨other, member, marks⟩ := held.closed (before sealedBy) pending
    exact ⟨other, List.mem_append_left _ member, marks⟩

theorem quiet_arrives (quiet : Quiet device job s tasks) (request : task.request = true) :
    Quiet device job s (tasks ++ [task]) := by
  obtain ⟨incoming, stopped⟩ := quiet
  constructor
  · have none : task.carries device (Envelope.dispatches job) = 0 := by
      cases task with
      | writer => cases request
      | _ => rfl
    simpa [Fleet.incoming, inFlight, none] using incoming
  · intro run member phase runs
    rcases List.mem_append.mp member with old | own
    · exact stopped run old phase runs
    · rw [List.mem_singleton.mp own] at runs
      cases task with
      | executor => cases request
      | _ => cases runs

theorem ended_arrives (ended : Ended device job tasks) (request : task.request = true) :
    Ended device job (tasks ++ [task]) := by
  constructor
  intro run member phase runs
  rcases List.mem_append.mp member with old | own
  · exact ended.ended run old phase runs
  · rw [List.mem_singleton.mp own] at runs
    cases task with
    | executor => cases request
    | _ => cases runs

theorem stilled_arrives (held : Stilled job s tasks) (request : task.request = true) :
    Stilled job s (tasks ++ [task]) := by
  intro sealer member device sent seals answered
  rcases List.mem_append.mp member with old | own
  · exact quiet_arrives (held sealer old device sent seals answered) request
  · rw [List.mem_singleton.mp own, request_seals request] at seals
    cases seals

end Fleet

/-- In every run whose cancels are in order: after a `cancel_job` has returned success and its
`RevokeJob`, if it sent one, was handled, each run of the job has ended or is told to, and no
dispatch of the job is sent; and once no kill is outstanding no process of the job runs again. -/
theorem cancelled_stops (deployment : Deployment) {start middle last : Config Fleet Task}
    (started : Start start) (before : Reach (program deployment) CancelsInOrder start middle)
    (after : Reach (program deployment) CancelsInOrder middle last) {task : Task}
    {job device : Uuid} {sent : Option Nat} (member : task ∈ middle.tasks)
    (returned : task.returned = some (job, device, sent))
    (answered : middle.shared.Answered device job sent) :
    (∀ run ∈ last.tasks, ∀ phase ∈ run.executes device job,
      phase.stopped ((last.shared.agents device).registry job) = true) ∧
    last.shared.sentCount device (Envelope.dispatches job) =
      middle.shared.sentCount device (Envelope.dispatches job) ∧
    ((∀ run ∈ middle.tasks, ∀ channel, run.executes device job = some (.waiting channel) →
        (middle.shared.agents device).registry job = some channel) →
      ∀ run ∈ last.tasks, ∀ phase ∈ run.executes device job, phase.ended = true) := by
  have targeted {config : Config Fleet Task}
      (reached : Reach (program deployment) CancelsInOrder start config) :=
    ((Fleet.targeted_outline deployment _).holds ⟨trivial, by simp [started.tasks]⟩ reached).tasks
  have wired {config : Config Fleet Task}
      (reached : Reach (program deployment) CancelsInOrder start config) :=
    ((Fleet.wired_outline deployment _).holds (Fleet.wired_start started) reached).tasks
  have sealing {config : Config Fleet Task}
      (reached : Reach (program deployment) CancelsInOrder start config) :
      Fleet.Sealing job config.shared config.tasks := by
    refine reached.carry (fun config => Fleet.Sealing job config.shared config.tasks) ?_ ?_ ?_
    · constructor <;> rintro ⟨task, member, _⟩ <;> simp [started.tasks] at member
    · intro s tasks task reached held request
      exact Fleet.sealing_arrives held request
    · intro s s' front back new task choice reached held inOrder moved
      obtain ⟨effect, turn, rfl⟩ := program_step moved
      exact held.step turn inOrder (targeted reached)
  have stilled : Fleet.Stilled job middle.shared middle.tasks := by
    refine before.carry (fun config => Fleet.Stilled job config.shared config.tasks) ?_ ?_ ?_
    · intro task member
      simp [started.tasks] at member
    · intro s tasks task reached held request
      exact Fleet.stilled_arrives held request
    · intro s s' front back new task choice reached held inOrder moved
      obtain ⟨effect, turn, rfl⟩ := program_step moved
      exact held.step (sealing reached) turn inOrder (wired reached task (by simp))
        (fun device => messages_balanced deployment started reached device _)
        fun device serial handled => revoked_numbered deployment started reached handled
  have seals : task.sealing = some (job, device, sent) := by
    cases task with
    | cancelJob _ _ phase =>
        cases phase with
        | cancelled => exact returned
        | _ => cases returned
    | _ => cases returned
  have quiet := stilled task member device sent seals answered
  have sealedBy : Fleet.SealedBy job middle.tasks := ⟨task, member, device, sent, seals⟩
  have kept : Fleet.Quiet device job last.shared last.tasks ∧ Fleet.SealedBy job last.tasks ∧
      last.shared.sentCount device (Envelope.dispatches job) =
        middle.shared.sentCount device (Envelope.dispatches job) ∧
      (Fleet.Ended device job middle.tasks → Fleet.Ended device job last.tasks) := by
    refine after.carry (fun config => Fleet.Quiet device job config.shared config.tasks ∧
      Fleet.SealedBy job config.tasks ∧
      config.shared.sentCount device (Envelope.dispatches job) =
        middle.shared.sentCount device (Envelope.dispatches job) ∧
      (Fleet.Ended device job middle.tasks → Fleet.Ended device job config.tasks))
      ⟨quiet, sealedBy, rfl, fun ended => ended⟩ ?_ ?_
    · rintro s tasks task _ ⟨quiet, ⟨sealer, present, holds⟩, same, ended⟩ request
      exact ⟨Fleet.quiet_arrives quiet request,
        ⟨sealer, List.mem_append_left _ present, holds⟩, same,
        fun first => Fleet.ended_arrives (ended first) request⟩
    · rintro s s' front back new task choice reached ⟨quiet, sealedBy, same, ended⟩ inOrder moved
      obtain ⟨effect, turn, rfl⟩ := program_step moved
      have whole := before.trans reached
      have unsent := (sealing whole).unsent sealedBy
      simp only [total_append, total_cons] at unsent
      have balanced := messages_balanced deployment started whole device (Envelope.dispatches job)
      refine ⟨quiet.step turn (wired whole task (by simp)) balanced (by omega),
        turn.stays_sealed sealedBy, ?_, fun first => (ended first).step quiet turn⟩
      rw [← same]
      exact turn.sends_none (by omega) device
  obtain ⟨quietLast, _, same, ended⟩ := kept
  refine ⟨quietLast.stopped, same, ?_⟩
  intro settled
  have first : Fleet.Ended device job middle.tasks := by
    constructor
    intro run present phase runs
    have stopped := quiet.stopped run present phase runs
    cases phase with
    | waiting channel =>
        have registered := settled run present channel runs
        simp [Execution.stopped, registered] at stopped
    | exited | reporting => rfl
    | _ => cases stopped
  exact (ended first).ended

/-- The killed run of a cancelled job ends. -/
def killRun : List (Label Task Choice) :=
  [.run 2 .proceeds, .run 2 .proceeds, .arrive (.agentReceives 0), .run 6 .proceeds,
    .arrive (.agentHandles (Uuid.small 1)), .run 6 .proceeds, .run 4 .killed]

theorem cancelled_stops_killed : ∃ last, Reach (program sampleDeployment) CancelsInOrder
    sampleStart last ∧ ∀ run ∈ last.tasks,
      ∀ phase ∈ run.executes (Uuid.small 1) (Uuid.small 9),
        phase.stopped ((last.shared.agents (Uuid.small 1)).registry (Uuid.small 9)) = true := by
  obtain ⟨middle, last, before, after, seen, _⟩ := Reach.of_observed_twice
    (program sampleDeployment) CancelsInOrder sampleStart (cancelWhileRunning ++ killRun)
    [.arrive .clock, .run 6 .proceeds]
    (fun config => (config.tasks.any fun task =>
        task.returned = some (Uuid.small 9, Uuid.small 1, some 1),
      config.shared.history.any (Event.revokes (Uuid.small 1) (Uuid.small 9) 1)))
    (true, true) (true, true) (by decide +kernel)
  obtain ⟨found, recorded⟩ := Prod.mk.inj seen
  simp only [List.any_eq_true, decide_eq_true_eq] at found
  obtain ⟨task, member, returned⟩ := found
  have answered := Fleet.answered_of_recorded recorded
  exact ⟨last, before.trans after,
    (cancelled_stops sampleDeployment sampleStart_start before after member returned answered).1⟩

/-- The `RevokeJob` is handled between the dispatch and the registration of the spawned run. -/
def revokeBeforeRegistration : List (Label Task Choice) :=
  connect ++
    [.arrive (.createJob sampleAdmin (Uuid.small 1)
        (JobPayload.codec.encode (.runScript .bash "sleep 60")) .verifyDevice),
      .run 3 .proceeds, .run 3 (.generates (Uuid.small 9)), .run 3 .proceeds, .run 3 .proceeds,
      .run 2 .proceeds, .run 2 .proceeds, .arrive (.agentReceives 0), .run 4 .proceeds,
      .arrive (.agentHandles (Uuid.small 1)), .run 4 .proceeds,
      .arrive (.cancelJob sampleAdmin (Uuid.small 9) .lookUp), .run 5 .proceeds, .run 5 .proceeds,
      .run 5 .proceeds,
      .run 2 .proceeds, .run 2 .proceeds, .arrive (.agentReceives 0), .run 6 .proceeds,
      .arrive (.agentHandles (Uuid.small 1)), .run 6 .proceeds]

/-- Whether a run waits for its child, with its kill channel in the registry. -/
def Task.awaitsExit (s : Fleet) (device job : Uuid) (run : Task) : Bool :=
  match run.executes device job with
  | some (.waiting channel) => (s.agents device).registry job = some channel
  | _ => false

/-- A job whose `RevokeJob` came too early runs on. -/
theorem cancelled_runs : ¬ ∀ (start middle last : Config Fleet Task) (task : Task)
    (job device : Uuid) (sent : Option Nat), Start start →
      Reach (program sampleDeployment) Guard.any start middle → task ∈ middle.tasks →
        task.returned = some (job, device, sent) → middle.shared.Answered device job sent →
          Reach (program sampleDeployment) Guard.any middle last →
            ∀ run ∈ last.tasks, ∀ phase ∈ run.executes device job,
              phase.stopped ((last.shared.agents device).registry job) = true := by
  intro stops
  obtain ⟨middle, last, before, after, seen, running⟩ := Reach.of_observed_twice
    (program sampleDeployment) Guard.any sampleStart revokeBeforeRegistration
    [.run 4 .proceeds, .run 4 .proceeds]
    (fun config => (config.tasks.any fun task =>
        task.returned = some (Uuid.small 9, Uuid.small 1, some 1),
      config.shared.history.any (Event.revokes (Uuid.small 1) (Uuid.small 9) 1),
      config.tasks.any (Task.awaitsExit config.shared (Uuid.small 1) (Uuid.small 9))))
    (true, true, false) (true, true, true) (by decide +kernel)
  simp only [Prod.mk.injEq] at seen running
  obtain ⟨found, recorded, _⟩ := seen
  obtain ⟨task, member, returned⟩ := List.any_eq_true.mp found
  obtain ⟨run, present, waits⟩ := List.any_eq_true.mp running.2.2
  have answered := Fleet.answered_of_recorded recorded
  unfold Task.awaitsExit at waits
  split at waits
  · rename_i channel runs
    have stopped := stops _ _ _ _ _ _ _ sampleStart_start before member (by simpa using returned) answered after
      run present _ runs
    have registered : (last.shared.agents (Uuid.small 1)).registry (Uuid.small 9) = some channel := by
      simpa using waits
    simp [Execution.stopped, registered] at stopped
  · cases waits

end OsfmEdm
