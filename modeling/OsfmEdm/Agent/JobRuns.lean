import OsfmEdm.Agent.Executor

/-!
What a run of `execute_job` has sent when it returns, and what it leaves in the registry.
-/

namespace OsfmEdm

open Interleaving

def AgentMessage.completes : AgentMessage → Bool
  | .jobCompleted .. => true
  | _ => false

/-- One completion of the job, after everything else. -/
def Reported (job : Uuid) (messages : List AgentMessage) : Prop :=
  ∃ logs exitCode, messages = logs ++ [.jobCompleted job exitCode] ∧
    ∀ message ∈ logs, message.completes = false

structure Clean (record : ReturnedRun) : Prop where
  reported : Reported record.run.job record.run.sent
  removed : record.entry = none

def JobTask.job? : JobTask → Option Uuid
  | .run r => some r.job
  | _ => none

/-- A job is not started again while it runs. -/
def oneRunPerJob : Guard Jobs JobTask JobChoice := fun _ others task _ =>
  match task with
  | .dispatched job _ => ∀ other ∈ others, other.job? ≠ some job
  | _ => True

instance : ∀ s others task choice, Decidable (oneRunPerJob s others task choice) := by
  intro s others task choice
  unfold oneRunPerJob
  split <;> infer_instance

/-- Whether the run's own entry is still to be removed, or never will be. -/
def JobRun.keepsEntry (r : JobRun) : Bool :=
  match r.phase with
  | .joining _ => false
  | .reporting _ => r.spawnFailed
  | _ => true

def JobRun.SentSoFar (r : JobRun) : Prop :=
  match r.phase with
  | .dispatching => r.sent = [] ∧ r.stdout = .ended ∧ r.stderr = .ended
  | .reporting rest =>
      Reported r.job (r.sent ++ rest) ∧ r.stdout = .ended ∧ r.stderr = .ended
  | _ => ∀ message ∈ r.sent, message.completes = false

def JobPhase.reports : JobPhase → Bool
  | .reporting _ => true
  | _ => false

structure RunHolds (s : Jobs) (r : JobRun) : Prop where
  entry : s.registry r.job =
    if r.keepsEntry && !s.revoked r.job then some r.channel else none
  sent : r.SentSoFar
  spawned : r.phase.reports = false → r.spawnFailed = false

structure RecordHolds (record : ReturnedRun) : Prop where
  reported : Reported record.run.job record.run.sent
  entry : record.entry =
    if record.run.spawnFailed && !record.revoked then some record.run.channel else none

/-- What a step of a run leaves as it was for the other jobs. -/
structure Elsewhere (job : Uuid) (s s' : Jobs) : Prop where
  registry : ∀ other, other ≠ job → s'.registry other = s.registry other
  revoked : s'.revoked = s.revoked
  returned : s'.returned = s.returned

variable {platform : Platform} {s s' : Jobs} {r r' : JobRun} {choice : JobChoice}
  {new : List JobTask}

theorem Elsewhere.refl (job : Uuid) (s : Jobs) : Elsewhere job s s := ⟨fun _ _ => rfl, rfl, rfl⟩

theorem Elsewhere.remove (job : Uuid) (s : Jobs) : Elsewhere job s (s.remove job) :=
  ⟨fun other apart => by simp [Jobs.remove, apart], rfl, rfl⟩

theorem Jobs.post_eq {message : AgentMessage} (posted : s.post message = some s') :
    s' = { s with outbound := s.outbound ++ [message] } := by
  unfold Jobs.post at posted
  split at posted <;> cases posted
  rfl

theorem Jobs.post_kept {message : AgentMessage} (posted : s.post message = some s') :
    s'.registry = s.registry ∧ s'.revoked = s.revoked ∧ s'.returned = s.returned := by
  rw [Jobs.post_eq posted]
  exact ⟨rfl, rfl, rfl⟩

theorem Elsewhere.post {message : AgentMessage} (job : Uuid) (posted : s.post message = some s') :
    Elsewhere job s s' := by
  obtain ⟨registry, revoked, returned⟩ := Jobs.post_kept posted
  exact ⟨fun _ _ => by rw [registry], revoked, returned⟩

theorem pushFileWindows_reported (job : Uuid) (destination contentB64 : String)
    (outcome : FileOutcome) :
    Reported job (pushFileWindows job destination contentB64 outcome) := by
  have two : ∀ line stream exitCode,
      Reported job [.jobLog job line stream, .jobCompleted job exitCode] := by
    intro line stream exitCode
    exact ⟨[.jobLog job line stream], exitCode, rfl, by simp [AgentMessage.completes]⟩
  unfold pushFileWindows
  split
  · exact two ..
  · split
    · exact two ..
    · split
      · exact two ..
      · exact two ..

namespace JobRun

theorem dispatch_holds (moved : r.dispatch platform s choice = some (s', r'))
    (dispatching : r.phase = .dispatching) (holds : RunHolds s r) :
    Elsewhere r.job s s' ∧ r'.job = r.job ∧ RunHolds s' r' := by
  obtain ⟨entry, sent, spawned⟩ := holds
  have own := spawned (by simp [dispatching, JobPhase.reports])
  simp only [SentSoFar, dispatching] at sent
  simp only [keepsEntry, dispatching] at entry
  unfold dispatch at moved
  split at moved
  · cases moved
    exact ⟨.refl .., rfl, entry, by simp [SentSoFar, sent.1], fun _ => own⟩
  · rename_i error _
    cases moved
    refine ⟨.refl .., rfl, entry, ⟨⟨[.jobLog r.job ("Failed to spawn: " ++ error) "stderr"], -1,
      by simp [sent.1], by simp [AgentMessage.completes]⟩, sent.2⟩, by simp [JobPhase.reports]⟩
  · rename_i software patches _ _
    cases moved
    refine ⟨.remove .., rfl, by simp [Jobs.remove, keepsEntry, own],
      ⟨⟨[.inventoryReport software patches], 0, by simp [sent.1],
        by simp [AgentMessage.completes]⟩, sent.2⟩, fun _ => own⟩
  · cases moved
    refine ⟨.remove .., rfl, by simp [Jobs.remove, keepsEntry, own], ⟨?_, sent.2⟩, fun _ => own⟩
    simpa [sent.1] using pushFileWindows_reported ..
  · cases moved

theorem stream_holds {name : String} {line : Option String} {reader reader' : LogReader}
    {sent : List AgentMessage}
    (moved : s.stream r.job name line reader = some (s', reader', sent)) :
    Elsewhere r.job s s' ∧ s'.registry = s.registry ∧ reader ≠ .ended ∧
      ∀ message ∈ sent, message.completes = false := by
  cases reader with
  | reading =>
      simp only [Jobs.stream] at moved
      split at moved <;> cases moved <;> exact ⟨.refl .., rfl, by simp, by simp⟩
  | sending text =>
      obtain ⟨s'', posted, same⟩ := Option.map_eq_some_iff.mp moved
      cases same
      exact ⟨.post _ posted, (Jobs.post_kept posted).1, by simp, by simp [AgentMessage.completes]⟩
  | ended => cases moved

/-- While a reader has not ended the run is between the start of its child and its report. -/
theorem sends_logs {more : List AgentMessage} (sent : r.SentSoFar)
    (notEnded : r.stdout ≠ .ended ∨ r.stderr ≠ .ended)
    (logs : ∀ message ∈ more, message.completes = false) {r' : JobRun}
    (samePhase : r'.phase = r.phase) (sends : r'.sent = r.sent ++ more) : r'.SentSoFar := by
  have outside : ¬ (r.stdout = .ended ∧ r.stderr = .ended) := by
    rintro ⟨stdout, stderr⟩
    rcases notEnded with still | still
    · exact still stdout
    · exact still stderr
  have all : (∀ message ∈ r.sent, message.completes = false) →
      ∀ message ∈ r'.sent, message.completes = false := by
    intro before message member
    rw [sends] at member
    rcases List.mem_append.mp member with old | new
    · exact before message old
    · exact logs message new
  unfold SentSoFar at sent ⊢
  rw [samePhase]
  cases phase : r.phase with
  | dispatching | reporting =>
      rw [phase] at sent
      exact absurd sent.2 outside
  | waiting | exited | joining =>
      rw [phase] at sent
      exact all sent

theorem advance_holds (moved : r.advance platform s choice = some (s', new))
    (holds : RunHolds s r) :
    (Elsewhere r.job s s' ∧ ∃ r', new = [.run r'] ∧ r'.job = r.job ∧ RunHolds s' r') ∨
      (new = [] ∧ ∃ record, RecordHolds record ∧
        s' = { s with returned := s.returned ++ [record] }) := by
  obtain ⟨entry, sent, spawned⟩ := id holds
  unfold advance at moved
  split at moved
  · rename_i dispatching
    obtain ⟨⟨s'', r'⟩, dispatched, same⟩ := Option.map_eq_some_iff.mp moved
    cases same
    obtain ⟨elsewhere, job, holds'⟩ := dispatch_holds dispatched dispatching holds
    exact .inl ⟨elsewhere, r', rfl, job, holds'⟩
  · rename_i waiting
    obtain ⟨code, -, same⟩ := Option.map_eq_some_iff.mp moved
    cases same
    simp only [keepsEntry, SentSoFar, waiting] at entry sent
    exact .inl ⟨.refl .., _, rfl, rfl, entry, sent,
      fun _ => spawned (by simp [waiting, JobPhase.reports])⟩
  · rename_i code exited
    cases moved
    simp only [SentSoFar, exited] at sent
    exact .inl ⟨.remove .., _, rfl, rfl, by simp [Jobs.remove, keepsEntry], sent,
      fun _ => spawned (by simp [exited, JobPhase.reports])⟩
  · rename_i code joining
    split at moved
    · rename_i ended
      cases moved
      simp only [keepsEntry, SentSoFar, joining] at entry sent
      have own := spawned (by simp [joining, JobPhase.reports])
      exact .inl ⟨.refl .., _, rfl, rfl, by simpa [keepsEntry, own] using entry,
        ⟨⟨r.sent, code, rfl, sent⟩, ended⟩, fun _ => own⟩
    · cases moved
  · rename_i message rest reporting
    obtain ⟨s'', posted, same⟩ := Option.map_eq_some_iff.mp moved
    cases same
    obtain ⟨registry, revoked, -⟩ := Jobs.post_kept posted
    simp only [keepsEntry, SentSoFar, reporting] at entry sent
    refine .inl ⟨.post _ posted, _, rfl, rfl, ?_, ?_, by simp [JobPhase.reports]⟩
    · simpa only [keepsEntry, registry, revoked] using entry
    · simpa [SentSoFar] using sent
  · rename_i reporting
    cases moved
    simp only [keepsEntry, SentSoFar, reporting, List.append_nil] at entry sent
    exact .inr ⟨rfl, _, ⟨sent.1, entry⟩, rfl⟩

theorem turn_holds (moved : r.turn platform s choice = some (s', new)) (holds : RunHolds s r) :
    (Elsewhere r.job s s' ∧ ∃ r', new = [.run r'] ∧ r'.job = r.job ∧ RunHolds s' r') ∨
      (new = [] ∧ ∃ record, RecordHolds record ∧
        s' = { s with returned := s.returned ++ [record] }) := by
  unfold turn at moved
  split at moved
  · obtain ⟨⟨s'', stdout, more⟩, read, same⟩ := Option.map_eq_some_iff.mp moved
    cases same
    obtain ⟨elsewhere, registry, notEnded, logs⟩ := stream_holds read
    refine .inl ⟨elsewhere, _, rfl, rfl, ?_, sends_logs holds.sent (.inl notEnded) logs rfl rfl,
      holds.spawned⟩
    rw [registry, elsewhere.revoked]
    exact holds.entry
  · obtain ⟨⟨s'', stderr, more⟩, read, same⟩ := Option.map_eq_some_iff.mp moved
    cases same
    obtain ⟨elsewhere, registry, notEnded, logs⟩ := stream_holds read
    refine .inl ⟨elsewhere, _, rfl, rfl, ?_, sends_logs holds.sent (.inr notEnded) logs rfl rfl,
      holds.spawned⟩
    rw [registry, elsewhere.revoked]
    exact holds.entry
  · exact advance_holds moved holds

end JobRun

/-! ## Runs beside each other -/

structure RunsHold (config : Config Jobs JobTask) : Prop where
  apart : (selected JobTask.job? config.tasks).Nodup
  runs : ∀ r, .run r ∈ config.tasks → RunHolds config.shared r
  returned : ∀ record ∈ config.shared.returned, RecordHolds record

theorem RunHolds.elsewhere (holds : RunHolds s r)
    (registry : s'.registry r.job = s.registry r.job)
    (revoked : s'.revoked r.job = s.revoked r.job) : RunHolds s' r := by
  refine ⟨?_, holds.sent, holds.spawned⟩
  rw [registry, revoked]
  exact holds.entry

theorem RunHolds.cancel {job : Uuid} (holds : RunHolds s r) :
    RunHolds { s with
      registry := s.registry.remove job, revoked := Function.update s.revoked job true } r := by
  by_cases own : r.job = job
  · refine ⟨?_, holds.sent, holds.spawned⟩
    subst own
    simp
  · exact holds.elsewhere (by simp [own]) (by simp [own])

theorem RunHolds.register {job : Uuid} (holds : RunHolds s r) (apart : r.job ≠ job) :
    RunHolds { s with
      registry := s.registry.register job s.nextChannel
      nextChannel := s.nextChannel + 1
      revoked := Function.update s.revoked job false } r :=
  holds.elsewhere (by simp [apart]) (by simp [apart])

theorem started_holds (s : Jobs) (job : Uuid) (payload : JobPayload) :
    RunHolds { s with
      registry := s.registry.register job s.nextChannel
      nextChannel := s.nextChannel + 1
      revoked := Function.update s.revoked job false } (.started job payload s.nextChannel) :=
  ⟨by simp [JobRun.started, JobRun.keepsEntry], ⟨rfl, rfl, rfl⟩, fun _ => rfl⟩

theorem runsHold_reached {config : Config Jobs JobTask}
    (reached : Reach (jobProgram platform) oneRunPerJob jobStart config) : RunsHold config := by
  have initial : RunsHold jobStart := ⟨.nil, by simp [jobStart], by simp [jobStart]⟩
  refine reached.invariant RunsHold initial ?_ ?_
  · rintro s tasks task ⟨apart, runs, returned⟩ request
    have noRun : task.job? = none := by
      cases task <;> first | rfl | cases request
    refine ⟨by simpa [noRun] using apart, ?_, returned⟩
    intro r member
    rcases List.mem_append.mp member with old | new
    · exact runs r old
    · rw [← List.mem_singleton.mp new] at request
      cases request
  · rintro s s' before after new task choice ⟨apart, runs, returned⟩ alone moved
    have others : ∀ r, .run r ∈ before ++ after → RunHolds s r :=
      fun r member => runs r (mem_of_others task member)
    have jobOf : ∀ r, JobTask.run r ∈ before ++ after →
        r.job ∈ selected JobTask.job? (before ++ after) :=
      fun r member => mem_selected.mpr ⟨_, member, rfl⟩
    cases task with
    | run r =>
        have own := runs r (by simp)
        have jobs : r.job ∉ selected JobTask.job? (before ++ after) ∧
            (selected JobTask.job? (before ++ after)).Nodup := by
          simp only [selected_append, selected_cons, JobTask.job?, Option.toList_some,
            List.singleton_append, List.nodup_middle, List.nodup_cons] at apart
          simpa only [selected_append] using apart
        rcases JobRun.turn_holds moved own with
          ⟨elsewhere, r', rfl, job, holds⟩ | ⟨rfl, record, holds, rfl⟩
        · refine ⟨?_, ?_, by simpa only [elsewhere.returned] using returned⟩
          · simpa [JobTask.job?, job] using apart
          · intro other member
            by_cases same : other = r'
            · exact same ▸ holds
            · have old : .run other ∈ before ++ after := by simpa [same] using member
              have apartJob : other.job ≠ r.job := by
                intro equal
                exact jobs.1 (equal ▸ jobOf other old)
              exact (others other old).elsewhere (elsewhere.registry _ apartJob)
                (congrFun elsewhere.revoked _)
        · refine ⟨by simpa only [List.append_nil] using jobs.2, ?_, ?_⟩
          · intro other member
            exact (others other (by simpa using member)).elsewhere rfl rfl
          · intro found member
            rcases List.mem_append.mp member with old | new
            · exact returned found old
            · rw [List.mem_singleton.mp new]
              exact holds
    | dispatched job payload =>
        cases moved
        have fresh : job ∉ selected JobTask.job? (before ++ after) := by
          intro member
          obtain ⟨other, present, same⟩ := mem_selected.mp member
          exact alone other present same
        have apart' : (selected JobTask.job? (before ++ after)).Nodup := by
          simpa [JobTask.job?] using apart
        refine ⟨?_, ?_, returned⟩
        · simp only [selected_append, selected_cons, JobTask.job?, JobRun.started,
            Option.toList_some, List.singleton_append, List.append_assoc, List.nodup_middle, List.nodup_cons]
          simpa only [selected_append] using And.intro fresh apart'
        · intro other member
          by_cases same : other = .started job payload s.nextChannel
          · exact same ▸ started_holds s job payload
          · have old : .run other ∈ before ++ after := by simpa [same] using member
            exact (others other old).register fun equal => fresh (equal ▸ jobOf other old)
    | cancels job =>
        cases moved
        refine ⟨by simpa [JobTask.job?] using apart, ?_, returned⟩
        intro other member
        exact (others other (by simpa using member)).cancel
    | sends message =>
        obtain ⟨s'', posted, same⟩ := Option.map_eq_some_iff.mp moved
        cases same
        obtain ⟨registry, revoked, same⟩ := Jobs.post_kept posted
        refine ⟨by simpa [JobTask.job?] using apart, ?_, by simpa only [same] using returned⟩
        intro other member
        exact (others other (by simpa using member)).elsewhere (by rw [registry]) (by rw [revoked])
    | connectionTakes =>
        simp only [jobProgram, Jobs.turn] at moved
        split at moved <;> cases moved
        refine ⟨by simpa [JobTask.job?] using apart, ?_, returned⟩
        intro other member
        exact (others other (by simpa using member)).elsewhere rfl rfl

/-- A run that returns has reported once, after its logs; it leaves an entry just when its child
could not be spawned and nobody revoked the job. -/
theorem job_run_clean_iff {config : Config Jobs JobTask}
    (reached : Reach (jobProgram platform) oneRunPerJob jobStart config) {record : ReturnedRun}
    (ended : record ∈ config.shared.returned) :
    Clean record ↔ record.run.spawnFailed = false ∨ record.revoked = true := by
  obtain ⟨reported, entry⟩ := (runsHold_reached reached).returned record ended
  constructor
  · intro clean
    rw [clean.removed] at entry
    by_contra left
    simp_all
  · intro removed
    refine ⟨reported, ?_⟩
    rcases removed with spawned | revoked
    · simpa [spawned] using entry
    · simpa [revoked] using entry

/-- A script with one line of output. -/
def scriptRun : List (Label JobTask JobChoice) :=
  [.arrive (.dispatched (Uuid.small 9) (.runScript .bash "ls")), .run 0 .proceeds, .run 0 .proceeds,
    .run 0 (.stdout (some "a.txt")), .run 0 (.stdout none), .run 0 (.stdout none),
    .run 0 (.exits (some 0)), .run 0 (.stderr none), .run 0 .proceeds, .run 0 .proceeds,
    .run 0 .proceeds, .run 0 .proceeds]

def scriptReturned : ReturnedRun where
  run :=
    { JobRun.started (Uuid.small 9) (.runScript .bash "ls") 0 with
      phase := .reporting []
      sent := [.jobLog (Uuid.small 9) "a.txt" "stdout", .jobCompleted (Uuid.small 9) 0] }
  entry := none
  revoked := false

theorem job_run_clean_script : ∃ config,
    Reach (jobProgram .linux) oneRunPerJob jobStart config ∧
      scriptReturned ∈ config.shared.returned ∧ Clean scriptReturned := by
  obtain ⟨config, reached, seen⟩ := Reach.of_observed (jobProgram .linux) oneRunPerJob jobStart
    scriptRun (fun config => config.shared.returned) [scriptReturned] (by decide +kernel)
  have ended : scriptReturned ∈ config.shared.returned := by simp [seen]
  exact ⟨config, reached, ended, (job_run_clean_iff reached ended).mpr (.inl rfl)⟩

/-- A PowerShell script on a Linux host without PowerShell. -/
def spawnFailure : List (Label JobTask JobChoice) :=
  [.arrive (.dispatched (Uuid.small 9) (.runScript .powershell "Get-Date")), .run 0 .proceeds,
    .run 0 (.spawnFails "No such file or directory (os error 2)"), .run 0 .proceeds,
    .run 0 .proceeds, .run 0 .proceeds]

theorem failed_spawn_registered : ¬ ∀ platform config record,
    Reach (jobProgram platform) oneRunPerJob jobStart config →
      record ∈ config.shared.returned → Clean record := by
  intro clean
  obtain ⟨config, reached, seen⟩ := Reach.of_observed (jobProgram .linux) oneRunPerJob jobStart
    spawnFailure (fun config => config.shared.returned.map fun record => (record.entry, record.run.job))
    [(some 0, Uuid.small 9)] (by decide +kernel)
  obtain ⟨record, ended, same⟩ := List.map_eq_singleton_iff.mp seen
  have member : record ∈ config.shared.returned := by simp [ended]
  have removed := (clean .linux config record reached member).removed
  simp [removed] at same

end OsfmEdm
