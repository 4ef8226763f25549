import OsfmEdm.Agent.JobRuns

/-!
Which children of `execute_script` are killed by their kill channel, and whether somebody has
cancelled the job.
-/

namespace OsfmEdm

open Interleaving

/-- A child killed by its kill channel; `cancelled` when `cancel` was called for the job after the run
had registered. -/
structure JobKill where
  job : Uuid
  channel : Nat
  cancelled : Bool
deriving DecidableEq

/-- The jobs with a record of the calls of `cancel`, each with the number of kill channels there were,
and of the kills. -/
structure KillLog where
  jobs : Jobs
  cancels : List (Uuid × Nat)
  kills : List JobKill

/-- Whether `cancel` was called for a job after a channel was registered. -/
def KillLog.cancelled (s : KillLog) (job : Uuid) (channel : Nat) : Bool :=
  s.cancels.any fun cancel => cancel.1 = job && channel < cancel.2

def KillLog.cancelsAfter (s : KillLog) : JobTask → List (Uuid × Nat)
  | .cancels job => s.cancels ++ [(job, s.jobs.nextChannel)]
  | _ => s.cancels

def KillLog.killsAfter (s : KillLog) : JobTask → JobChoice → List JobKill
  | .run r, .killed =>
      if r.phase = .waiting then
        s.kills ++ [{ job := r.job, channel := r.channel, cancelled := s.cancelled r.job r.channel }]
      else s.kills
  | _, _ => s.kills

/-- The program of the jobs; the records change none of its steps. -/
def killProgram (platform : Platform) : Program KillLog JobTask JobChoice where
  request := JobTask.request
  step s task choice := (s.jobs.turn platform task choice).map fun (jobs, new) =>
    ({ jobs, cancels := s.cancelsAfter task, kills := s.killsAfter task choice }, new)

def killStart : Config KillLog JobTask where
  shared := { jobs := jobStart.shared, cancels := [], kills := [] }
  tasks := []

/-- A run that has not yet removed its entry. -/
def JobPhase.holding : JobPhase → Bool
  | .dispatching | .waiting | .exited _ => true
  | _ => false

def JobTask.holding? : JobTask → Option Uuid
  | .run r => if r.phase.holding then some r.job else none
  | _ => none

/-- A job is not started while a run of it is still to remove its entry. -/
def startsAfterRemoval : Guard KillLog JobTask JobChoice := fun _ others task _ =>
  match task with
  | .dispatched job _ => ∀ other ∈ others, other.holding? ≠ some job
  | _ => True

instance : ∀ s others task choice, Decidable (startsAfterRemoval s others task choice)
  | _, others, .dispatched job _, _ =>
      inferInstanceAs (Decidable (∀ other ∈ others, other.holding? ≠ some job))
  | _, _, .run _, _ | _, _, .cancels _, _ | _, _, .sends _, _ | _, _, .connectionTakes, _ =>
      inferInstanceAs (Decidable True)

/-- What a step of a run does to the registry. -/
structure RunMoves (s s' : Jobs) (r r' : JobRun) : Prop where
  job : r'.job = r.job
  channel : r'.channel = r.channel
  holding : r'.phase.holding = true → r.phase.holding = true
  registry : s'.registry = s.registry ∨
    r.phase.holding = true ∧ r'.phase.holding = false ∧ s'.registry = s.registry.remove r.job

variable {platform : Platform} {s s' : Jobs} {r r' : JobRun} {choice : JobChoice}
  {new : List JobTask}

theorem post_channels {message : AgentMessage} (posted : s.post message = some s') :
    s'.registry = s.registry ∧ s'.nextChannel = s.nextChannel := by
  rw [Jobs.post_eq posted]
  exact ⟨rfl, rfl⟩

theorem stream_channels {job : Uuid} {name : String} {line : Option String}
    {reader reader' : LogReader} {sent : List AgentMessage}
    (moved : s.stream job name line reader = some (s', reader', sent)) :
    s'.registry = s.registry ∧ s'.nextChannel = s.nextChannel := by
  cases reader with
  | reading =>
      simp only [Jobs.stream] at moved
      split at moved <;> cases moved <;> exact ⟨rfl, rfl⟩
  | sending text =>
      obtain ⟨s'', posted, same⟩ := Option.map_eq_some_iff.mp moved
      cases same
      exact post_channels posted
  | ended => cases moved

namespace JobRun

theorem dispatch_moves (moved : r.dispatch platform s choice = some (s', r'))
    (dispatching : r.phase = .dispatching) :
    s'.nextChannel = s.nextChannel ∧ RunMoves s s' r r' := by
  have holding : r.phase.holding = true := by simp [dispatching, JobPhase.holding]
  unfold dispatch at moved
  split at moved
  · cases moved
    exact ⟨rfl, rfl, rfl, fun _ => holding, .inl rfl⟩
  · cases moved
    exact ⟨rfl, rfl, rfl, nofun, .inl rfl⟩
  · cases moved
    exact ⟨rfl, rfl, rfl, nofun, .inr ⟨holding, rfl, rfl⟩⟩
  · cases moved
    exact ⟨rfl, rfl, rfl, nofun, .inr ⟨holding, rfl, rfl⟩⟩
  · cases moved

theorem advance_moves (moved : r.advance platform s choice = some (s', new)) :
    s'.nextChannel = s.nextChannel ∧
      ((∃ r', new = [.run r'] ∧ RunMoves s s' r r') ∨ new = [] ∧ s'.registry = s.registry) := by
  unfold advance at moved
  split at moved
  · rename_i dispatching
    obtain ⟨⟨s'', r'⟩, dispatched, same⟩ := Option.map_eq_some_iff.mp moved
    cases same
    obtain ⟨channels, moves⟩ := dispatch_moves dispatched dispatching
    exact ⟨channels, .inl ⟨r', rfl, moves⟩⟩
  · rename_i waiting
    obtain ⟨code, -, same⟩ := Option.map_eq_some_iff.mp moved
    cases same
    exact ⟨rfl, .inl ⟨_, rfl, rfl, rfl, fun _ => by simp [waiting, JobPhase.holding], .inl rfl⟩⟩
  · rename_i code exited
    cases moved
    exact ⟨rfl, .inl ⟨_, rfl, rfl, rfl, nofun,
      .inr ⟨by simp [exited, JobPhase.holding], rfl, rfl⟩⟩⟩
  · split at moved
    · cases moved
      exact ⟨rfl, .inl ⟨_, rfl, rfl, rfl, nofun, .inl rfl⟩⟩
    · cases moved
  · obtain ⟨s'', posted, same⟩ := Option.map_eq_some_iff.mp moved
    cases same
    obtain ⟨registry, channels⟩ := post_channels posted
    exact ⟨channels, .inl ⟨_, rfl, rfl, rfl, nofun, .inl registry⟩⟩
  · cases moved
    exact ⟨rfl, .inr ⟨rfl, rfl⟩⟩

theorem turn_moves (moved : r.turn platform s choice = some (s', new)) :
    s'.nextChannel = s.nextChannel ∧
      ((∃ r', new = [.run r'] ∧ RunMoves s s' r r') ∨ new = [] ∧ s'.registry = s.registry) := by
  unfold turn at moved
  split at moved
  · obtain ⟨⟨s'', stdout, more⟩, read, same⟩ := Option.map_eq_some_iff.mp moved
    cases same
    obtain ⟨registry, channels⟩ := stream_channels read
    exact ⟨channels, .inl ⟨_, rfl, rfl, rfl, id, .inl registry⟩⟩
  · obtain ⟨⟨s'', stderr, more⟩, read, same⟩ := Option.map_eq_some_iff.mp moved
    cases same
    obtain ⟨registry, channels⟩ := stream_channels read
    exact ⟨channels, .inl ⟨_, rfl, rfl, rfl, id, .inl registry⟩⟩
  · exact advance_moves moved

theorem killed_unregistered (waiting : r.phase = .waiting)
    (moved : r.turn platform s .killed = some (s', new)) : s.registry r.job ≠ some r.channel := by
  intro registered
  simp [turn, advance, waiting, select, registered] at moved

end JobRun

/-! ## Runs beside each other -/

/-- The registry holds the sender of a run, or somebody has cancelled the job. -/
def KillLog.Excused (k : KillLog) (r : JobRun) : Prop :=
  k.jobs.registry r.job = some r.channel ∨ k.cancelled r.job r.channel = true

structure KillsHold (config : Config KillLog JobTask) : Prop where
  apart : (selected JobTask.holding? config.tasks).Nodup
  own : ∀ r, .run r ∈ config.tasks → r.phase.holding = true → config.shared.Excused r
  numbered : ∀ r, .run r ∈ config.tasks → r.channel < config.shared.jobs.nextChannel
  kills : ∀ kill ∈ config.shared.kills, kill.cancelled = true

section

variable {k k' : KillLog} {before after tasks : List JobTask} {task : JobTask}

theorem KillLog.Excused.same (excused : k.Excused r)
    (registry : k'.jobs.registry r.job = k.jobs.registry r.job) (cancels : k'.cancels = k.cancels) :
    k'.Excused r := by
  unfold KillLog.Excused KillLog.cancelled at excused ⊢
  rwa [registry, cancels]

theorem KillsHold.others (holds : KillsHold ⟨k, before ++ task :: after⟩) :
    KillsHold ⟨k, before ++ after⟩ := by
  obtain ⟨apart, own, numbered, kills⟩ := holds
  refine ⟨?_, fun r member => own r (mem_of_others task member),
    fun r member => numbered r (mem_of_others task member), kills⟩
  simp only [selected_append, selected_cons] at apart ⊢
  exact apart.sublist (List.Sublist.append_left (List.sublist_append_right _ _) _)

theorem KillsHold.alone (holds : KillsHold ⟨k, before ++ .run r :: after⟩)
    (holding : r.phase.holding = true) : some r.job ∉ (before ++ after).map JobTask.holding? := by
  intro member
  obtain ⟨other, present, same⟩ := List.mem_map.mp member
  have apart := holds.apart
  simp only [selected_append, selected_cons, JobTask.holding?, holding, if_true,
    Option.toList_some, List.singleton_append, List.nodup_middle, List.nodup_cons] at apart
  refine apart.1 ?_
  rw [← selected_append]
  exact mem_selected.mpr ⟨other, present, same⟩

theorem KillsHold.change (holds : KillsHold ⟨k, tasks⟩)
    (channels : k.jobs.nextChannel ≤ k'.jobs.nextChannel)
    (excused : ∀ r, .run r ∈ tasks → r.phase.holding = true →
      r.channel < k.jobs.nextChannel → k.Excused r → k'.Excused r)
    (kills : ∀ kill ∈ k'.kills, kill.cancelled = true) : KillsHold ⟨k', tasks⟩ := by
  refine ⟨holds.apart, ?_, ?_, kills⟩
  · intro r member holding
    exact excused r member holding (holds.numbered r member) (holds.own r member holding)
  · intro r member
    exact (holds.numbered r member).trans_le channels

theorem KillsHold.insert (holds : KillsHold ⟨k, before ++ after⟩)
    (apart : r.phase.holding = true → some r.job ∉ (before ++ after).map JobTask.holding?)
    (own : r.phase.holding = true → k.Excused r) (numbered : r.channel < k.jobs.nextChannel) :
    KillsHold ⟨k, before ++ [.run r] ++ after⟩ := by
  have runs : ∀ other, .run other ∈ before ++ [.run r] ++ after →
      other = r ∨ .run other ∈ before ++ after := by
    intro other member
    simp only [List.append_assoc, List.singleton_append, List.mem_append, List.mem_cons,
      JobTask.run.injEq] at member ⊢
    tauto
  refine ⟨?_, ?_, ?_, holds.kills⟩
  · have rest := holds.apart
    by_cases holding : r.phase.holding = true
    · have fresh : r.job ∉ selected JobTask.holding? (before ++ after) := by
        intro member
        obtain ⟨other, present, same⟩ := mem_selected.mp member
        exact apart holding (List.mem_map.mpr ⟨other, present, same⟩)
      simp only [selected_append, selected_cons, JobTask.holding?, holding, if_true,
        Option.toList_some, List.singleton_append, List.append_assoc, List.nodup_middle,
        List.nodup_cons] at fresh rest ⊢
      exact ⟨fresh, rest⟩
    · simpa [JobTask.holding?, holding] using rest
  · intro other member holding
    rcases runs other member with rfl | old
    · exact own holding
    · exact holds.own other old holding
  · intro other member
    rcases runs other member with rfl | old
    · exact numbered
    · exact holds.numbered other old

theorem KillsHold.moves (holds : KillsHold ⟨k, before ++ .run r :: after⟩)
    (moves : RunMoves k.jobs k'.jobs r r') (channels : k'.jobs.nextChannel = k.jobs.nextChannel)
    (cancels : k'.cancels = k.cancels) (kills : ∀ kill ∈ k'.kills, kill.cancelled = true) :
    KillsHold ⟨k', before ++ [.run r'] ++ after⟩ := by
  have member : .run r ∈ before ++ .run r :: after := by simp
  refine (holds.others.change channels.ge ?_ kills).insert ?_ ?_ ?_
  · rintro other present holding - excused
    rcases moves.registry with same | ⟨removing, -, removed⟩
    · exact excused.same (by rw [same]) cancels
    -- the entry that goes is the run's own: a run of the same job would hold it too
    · have apart : other.job ≠ r.job := by
        intro equal
        refine holds.alone removing (List.mem_map.mpr ⟨.run other, present, ?_⟩)
        simp [JobTask.holding?, holding, equal]
      exact excused.same (by simp [removed, apart]) cancels
  · intro holding
    rw [moves.job]
    exact holds.alone (moves.holding holding)
  · intro holding
    have excused := holds.own r member (moves.holding holding)
    rcases moves.registry with same | ⟨-, removed, -⟩
    · have kept : k'.Excused r := excused.same (by rw [same]) cancels
      unfold KillLog.Excused at kept ⊢
      rwa [moves.job, moves.channel]
    · rw [removed] at holding
      cases holding
  · rw [moves.channel, channels]
    exact holds.numbered r member

theorem KillsHold.killed (holds : KillsHold ⟨k, before ++ .run r :: after⟩)
    {jobs : Jobs} (moved : r.turn platform k.jobs choice = some (jobs, new)) :
    ∀ kill ∈ k.killsAfter (.run r) choice, kill.cancelled = true := by
  unfold KillLog.killsAfter
  split
  · rename_i same
    cases same
    split
    · rename_i waiting
      intro kill member
      rcases List.mem_append.mp member with old | own
      · exact holds.kills kill old
      · rw [List.mem_singleton.mp own]
        have excused := holds.own r (by simp) (by simp [waiting, JobPhase.holding])
        exact excused.resolve_left (JobRun.killed_unregistered waiting moved)
    · exact holds.kills
  · exact holds.kills

end

theorem killsHold_reached {config : Config KillLog JobTask}
    (reached : Reach (killProgram platform) startsAfterRemoval killStart config) :
    KillsHold config := by
  have initial : KillsHold killStart :=
    ⟨.nil, by simp [killStart], by simp [killStart], by simp [killStart]⟩
  refine reached.invariant KillsHold initial ?_ ?_
  · rintro k tasks task ⟨apart, own, numbered, kills⟩ request
    have old : ∀ r, .run r ∈ tasks ++ [task] → .run r ∈ tasks := by
      intro r member
      rcases List.mem_append.mp member with old | new
      · exact old
      · rw [← List.mem_singleton.mp new] at request
        cases request
    have holding : task.holding? = none := by
      cases task <;> first | rfl | cases request
    exact ⟨by simpa [holding] using apart, fun r member => own r (old r member),
      fun r member => numbered r (old r member), kills⟩
  · rintro k k' before after new task choice holds alone moved
    obtain ⟨⟨jobs, more⟩, turned, same⟩ := Option.map_eq_some_iff.mp moved
    cases same
    have others := holds.others
    cases task with
    | run r =>
        have kills := holds.killed turned
        obtain ⟨channels, ⟨r', rfl, moves⟩ | ⟨rfl, registry⟩⟩ := JobRun.turn_moves turned
        · exact holds.moves moves channels rfl kills
        · rw [List.append_nil]
          refine others.change channels.ge ?_ kills
          intro other _ _ _ excused
          exact excused.same (by rw [registry]) rfl
    | dispatched job payload =>
        cases turned
        have fresh : some job ∉ (before ++ after).map JobTask.holding? := by
          intro member
          obtain ⟨other, present, same⟩ := List.mem_map.mp member
          exact alone other present same
        refine KillsHold.insert (r := .started job payload k.jobs.nextChannel)
          (others.change (Nat.le_succ _) ?_ holds.kills) (fun _ => fresh) ?_ ?_
        · intro other present holding _ excused
          have apart : other.job ≠ job := by
            rintro rfl
            exact fresh (List.mem_map.mpr ⟨.run other, present, by simp [JobTask.holding?, holding]⟩)
          exact excused.same (by simp [apart]) rfl
        · intro _
          exact .inl (by simp [JobRun.started])
        · simp [JobRun.started]
    | cancels job =>
        cases turned
        rw [List.append_nil]
        refine others.change le_rfl ?_ holds.kills
        intro other _ _ numbered excused
        by_cases same : other.job = job
        · exact .inr (by simp [KillLog.cancelsAfter, KillLog.cancelled, same, numbered])
        · rcases excused with registered | cancelled
          · exact .inl (by simpa [same] using registered)
          · refine .inr ?_
            simp only [KillLog.cancelsAfter, KillLog.cancelled, List.any_append] at cancelled ⊢
            rw [cancelled, Bool.true_or]
    | sends message =>
        obtain ⟨jobs', posted, same⟩ := Option.map_eq_some_iff.mp turned
        cases same
        obtain ⟨registry, channels⟩ := post_channels posted
        rw [List.append_nil]
        refine others.change channels.ge ?_ holds.kills
        intro other _ _ _ excused
        exact excused.same (by rw [registry]) rfl
    | connectionTakes =>
        simp only [Jobs.turn] at turned
        split at turned <;> cases turned
        rw [List.append_nil]
        exact others.change le_rfl (fun _ _ _ _ => id) holds.kills

/-- No child is killed by its kill channel unless somebody cancelled its job while it ran. -/
theorem kills_are_cancelled {config : Config KillLog JobTask}
    (reached : Reach (killProgram platform) startsAfterRemoval killStart config) {kill : JobKill}
    (killed : kill ∈ config.shared.kills) : kill.cancelled = true :=
  (killsHold_reached reached).kills kill killed

def sleepDispatched : JobTask := .dispatched (Uuid.small 9) (.runScript .bash "sleep 60")

/-- A script that is cancelled while it sleeps. -/
def cancelledScript : List (Label JobTask JobChoice) :=
  [.arrive sleepDispatched, .run 0 .proceeds, .run 0 .proceeds, .arrive (.cancels (Uuid.small 9)),
    .run 1 .proceeds, .run 0 .killed]

theorem kills_are_cancelled_script : ∃ config kill,
    Reach (killProgram .linux) startsAfterRemoval killStart config ∧
      kill ∈ config.shared.kills ∧ kill.job = Uuid.small 9 ∧ kill.cancelled = true := by
  obtain ⟨config, reached, seen⟩ := Reach.of_observed (killProgram .linux) startsAfterRemoval
    killStart cancelledScript (fun config => config.shared.kills.map JobKill.job) [Uuid.small 9]
    (by decide +kernel)
  obtain ⟨kill, kills, same⟩ := List.map_eq_singleton_iff.mp seen
  have killed : kill ∈ config.shared.kills := by simp [kills]
  exact ⟨config, kill, reached, killed, same, kills_are_cancelled reached killed⟩

/-- The script is dispatched again while it sleeps; nobody cancels it. -/
def dispatchedTwice : List (Label JobTask JobChoice) :=
  [.arrive sleepDispatched, .run 0 .proceeds, .run 0 .proceeds, .arrive sleepDispatched,
    .run 1 .proceeds, .run 0 .killed]

theorem dispatch_again_kills : ¬ ∀ platform config kill,
    Reach (killProgram platform) Guard.any killStart config →
      kill ∈ config.shared.kills → kill.cancelled = true := by
  intro cancelled
  obtain ⟨config, reached, seen⟩ := Reach.of_observed (killProgram .linux) Guard.any killStart
    dispatchedTwice (fun config => (config.shared.cancels, config.shared.kills))
    ([], [{ job := Uuid.small 9, channel := 0, cancelled := false }]) (by decide +kernel)
  have killed := congrArg Prod.snd seen
  simp only at killed
  have all := cancelled .linux config { job := Uuid.small 9, channel := 0, cancelled := false }
    reached (by simp [killed])
  cases all

end OsfmEdm
