import OsfmEdm.Fleet.Statuses

/-!
A job's row never changes its device or its payload, and a task that will send a job sends
that payload to that device.
-/

namespace OsfmEdm

open Interleaving JsonText

/-- The device, job and payload of each message a task will still dispatch. -/
def Task.orders : Task → List (Uuid × Uuid × Json)
  | .createJob _ device payload (.dispatch job) => [(device, job, payload)]
  | .onConnect device (.jobs rest) | .onConnect device (.mark _ rest) =>
      rest.map fun entry => (device, entry)
  | _ => []

namespace Fleet

/-- What the row of a job asks for: its device and its payload. -/
def jobOrder (s : Fleet) (job : Uuid) : Option (Uuid × Json) :=
  (s.app.db.jobs.find? job).map fun row => (row.deviceId, row.payload)

theorem jobOrder_none {s : Fleet} {job : Uuid} : s.jobOrder job = none ↔ s.jobStatus job = none := by
  simp [jobOrder, jobStatus, Database.jobStatus]

theorem jobOrder_updateJob (db : Database) (written job : Uuid) (change : JobRow → JobRow)
    (same : ∀ row, ((change row).deviceId, (change row).payload) = (row.deviceId, row.payload)) :
    ((db.updateJob written change).jobs.find? job).map (fun row => (row.deviceId, row.payload)) =
      (db.jobs.find? job).map fun row => (row.deviceId, row.payload) := by
  simp only [Database.updateJob, Table.find?_update]
  split
  · rw [Option.map_map]
    congr 1
    funext row
    exact same row
  · rfl

theorem jobOrder_apply {s : Fleet} {job : Uuid} {order : Uuid × Json}
    (found : s.jobOrder job = some order) (effect : Effect) :
    (s.apply effect).jobOrder job = some order := by
  by_cases untouched : effect.touchesJobs = false
  · rwa [jobOrder, jobs_apply s untouched]
  cases effect with
  | insertJob id device payload createdBy =>
      rcases s.app.db.find?_insertJob id device payload (some createdBy) job with
        same | ⟨_, absent, _⟩
      · simpa [jobOrder, apply, updateDb, same] using found
      · rw [jobOrder, absent] at found
        cases found
  | markDispatched id | markCancelled id =>
      refine (jobOrder_updateJob s.app.db id job _ ?_).trans found
      intro row
      rfl
  | act device action fails =>
      cases action
      case completeJob id exitCode =>
          cases fails
          · refine (jobOrder_updateJob s.app.db id job _ ?_).trans found
            intro row
            rfl
          · exact found
      all_goals exact absurd rfl untouched
  | _ => exact absurd rfl untouched

/-- What a task will send is what the rows of its jobs ask for. -/
def Ordered (s : Fleet) (task : Task) : Prop :=
  ∀ order ∈ task.orders, s.jobOrder order.2.1 = some (order.1, order.2.2)

variable {deployment : Deployment} {s : Fleet} {task : Task} {choice : Choice} {effect : Effect}
  {new : List Task}

theorem ordered_stable {other : Task} (ordered : Ordered s other) (effect : Effect) :
    Ordered (s.apply effect) other :=
  fun order member => jobOrder_apply (ordered order member) effect

theorem Turn.orders_new (turn : Turn deployment s task choice effect new) {after : Task}
    (member : after ∈ new) {order : Uuid × Uuid × Json} (sends : order ∈ after.orders) :
    order ∈ task.orders ∨ (s.apply effect).jobOrder order.2.1 = some (order.1, order.2.2) := by
  cases turn with
  | @createInserted auth device payload job db inserted =>
      rw [List.mem_singleton.mp member] at sends
      rw [List.mem_singleton.mp sends]
      right
      obtain ⟨jobs, done, rfl⟩ := Database.insertJob_some inserted
      simp [jobOrder, apply, updateDb, inserted, Table.find?_insert done]
  | @jobsSelected device =>
      rw [List.mem_singleton.mp member] at sends
      obtain ⟨⟨job, payload⟩, read, rfl⟩ := List.mem_map.mp sends
      obtain ⟨row, found, own, _, same⟩ := (Database.mem_pendingJobs _ _ _ _).mp read
      exact .inr (by simp [jobOrder, apply, found, own, same])
  | jobSkipped =>
      rw [List.mem_singleton.mp member] at sends
      exact .inl (List.mem_cons_of_mem _ sends)
  | @jobSent device job payload rest _ decoded _ sent valid sends' =>
      rw [List.mem_singleton.mp member] at sends
      left
      cases sent <;> exact List.mem_cons_of_mem _ sends
  | jobMarked | jobUnmarked =>
      rw [List.mem_singleton.mp member] at sends
      exact .inl sends
  | @createSent _ _ _ _ _ _ _ sent valid sends' =>
      rw [List.mem_singleton.mp member] at sends
      cases sent <;> cases sends
  | handlerOnline done =>
      simp only [List.mem_cons, List.not_mem_nil, or_false] at member
      rcases member with rfl | rfl | rfl <;> cases sends
  | policiesSelected policies =>
      rw [List.mem_singleton.mp member] at sends
      split at sends <;> cases sends
  | executorStarts done =>
      rw [List.mem_singleton.mp member] at sends
      cases sends
  | @agentHandles _ _ _ _ reaction inbound reacts =>
      cases reaction
      case execute | reject =>
          rw [List.mem_singleton.mp member] at sends
          cases sends
      all_goals cases member
  | _ =>
      first
        | cases member
          done
        | rw [List.mem_singleton.mp member] at sends
          cases sends

theorem ordered_outline (deployment : Deployment) (guard : Guard Fleet Task Choice) :
    Outline (program deployment) guard (fun _ => True) Ordered where
  arrive s task _ request := by
    intro order member
    cases task with
    | createJob _ _ _ phase => cases phase <;> first | (cases member; done) | cases request
    | onConnect => cases request
    | _ => cases member
  step s others task choice s' new _ ordered _ _ moved := by
    obtain ⟨effect, turn, rfl⟩ := program_step moved
    refine ⟨trivial, ?_⟩
    intro after member order sends
    rcases turn.orders_new member sends with old | found
    · exact jobOrder_apply (ordered order old) effect
    · exact found
  stable s others task choice s' new _ _ _ moved other _ ordered := by
    obtain ⟨effect, turn, rfl⟩ := program_step moved
    exact ordered_stable ordered effect

theorem ordered_start {start : Config Fleet Task} (started : Start start) :
    Annotated (fun _ => True) Ordered start := ⟨trivial, by simp [started.tasks]⟩

end Fleet

end OsfmEdm
