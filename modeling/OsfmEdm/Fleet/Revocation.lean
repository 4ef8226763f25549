import OsfmEdm.Fleet.Registry

/-!
Revoking a device. `delete_device` takes the token out, so no later upgrade is accepted, and
drops the entry; but a connection that was accepted before goes on. A device is cut off for
good where none of its connections is under way when the entry is dropped.
-/

namespace OsfmEdm

open Interleaving JsonText

/-- Whether a connection is between its authentication and the end of its read loop. -/
def Handler.admitted : Handler → Bool
  | .verifyDevice | .register | .markOnline _ | .reading _ | .processing .. => true
  | _ => false

namespace Task

def admitted (device : Uuid) (task : Task) : Bool :=
  match task.handler? with
  | some (owner, phase) => owner = device ∧ phase.admitted
  | none => false

/-- The device whose entry a `delete_device` drops next. -/
def disconnecting : Task → Option Uuid
  | .deleteDevice _ device .disconnect => some device
  | _ => none

/-- The device a `delete_device` has revoked. -/
def deleted : Task → Option Uuid
  | .deleteDevice _ device .revoked => some device
  | _ => none

/-- The device whose message a connection is processing. -/
def processes : Task → Option Uuid
  | .handler device _ (.processing _ (_ :: _)) => some device
  | _ => none

end Task

/-- A device that is cut off: its upgrades are rejected, it has no entry, and no step processes a
message of it. -/
structure CutOff (deployment : Deployment) (device : Uuid) (config : Config Fleet Task) : Prop where
  rejected : ∀ presented,
    authenticateAgent deployment.sha256 config.shared.app.db device presented = false
  entry : config.shared.app.channelOf device = none
  silent : ∀ task ∈ config.tasks, ∀ choice effect new,
    config.shared.turn deployment task choice = some (effect, new) →
      ∀ action fails, effect ≠ .act device action fails

/-- The condition on each step: a revocation drops the entry only when no connection of the device
is under way. -/
structure NoneUnderWay (_ : Fleet) (others : List Task) (task : Task) (_ : Choice) : Prop where
  disconnect : ∀ device ∈ task.disconnecting, ∀ other ∈ others, other.admitted device = false

instance (s : Fleet) (others : List Task) (task : Task) (choice : Choice) :
    Decidable (NoneUnderWay s others task choice) :=
  decidable_of_iff _ ⟨fun disconnect => ⟨disconnect⟩, fun ⟨disconnect⟩ => disconnect⟩

namespace Fleet

/-- Whether a revocation has dropped the device's entry. -/
def Cut (s : Fleet) (device : Uuid) : Prop :=
  ∃ registered, Event.cutOff device registered ∈ s.history

def Known (s : Fleet) (device : Uuid) : Prop :=
  ∃ row, s.app.db.devices.find? device = some row

def Tokenless (s : Fleet) (device : Uuid) : Prop :=
  ∃ row, s.app.db.devices.find? device = some row ∧ row.authTokenHash = none

variable {deployment : Deployment} {s : Fleet} {task : Task} {choice : Choice} {effect : Effect}
  {new : List Task} {device : Uuid}

theorem deviceRow_apply {row : DeviceRow} (found : s.app.db.devices.find? device = some row)
    (effect : Effect) :
    ∃ row', (s.apply effect).app.db.devices.find? device = some row' ∧
      (row.authTokenHash = none → row'.authTokenHash = none) := by
  by_cases untouched : effect.touchesDevices = false
  · exact ⟨row, by rw [devices_apply s untouched]; exact found, fun empty => empty⟩
  have updated (other : Uuid) (change : DeviceRow → DeviceRow)
      (kept : ∀ row, row.authTokenHash = none → (change row).authTokenHash = none) :
      ∃ row', (s.app.db.updateDevice other change).devices.find? device = some row' ∧
        (row.authTokenHash = none → row'.authTokenHash = none) := by
    simp only [Database.updateDevice, Table.find?_update, found]
    split
    · exact ⟨change row, rfl, kept row⟩
    · exact ⟨row, rfl, fun empty => empty⟩
  cases effect with
  | enrollDevice id tokenHash =>
      simp only [apply, updateDb, Database.enrollDevice]
      split
      · rename_i devices done
        have different : device ≠ id := by
          intro same
          rw [same, Table.insert_absent done] at found
          cases found
        have kept := Table.find?_insert done device
        rw [if_neg different] at kept
        exact ⟨row, kept.trans found, fun empty => empty⟩
      · exact ⟨row, found, fun empty => empty⟩
  | dropCredential id => exact updated id _ fun _ _ => rfl
  | markOnline id => exact updated id _ fun _ empty => empty
  | markOffline id => exact updated id _ fun _ empty => empty
  | act owner action fails =>
      cases action
      case heartbeat agentVersion =>
          cases fails
          · exact updated owner _ fun _ empty => empty
          · exact ⟨row, found, fun empty => empty⟩
      all_goals exact absurd rfl untouched
  | _ => exact absurd rfl untouched

theorem known_apply (known : s.Known device) (effect : Effect) :
    (s.apply effect).Known device := by
  obtain ⟨row, found⟩ := known
  obtain ⟨row', found', _⟩ := deviceRow_apply found effect
  exact ⟨row', found'⟩

theorem tokenless_apply (tokenless : s.Tokenless device) (effect : Effect) :
    (s.apply effect).Tokenless device := by
  obtain ⟨row, found, empty⟩ := tokenless
  obtain ⟨row', found', kept⟩ := deviceRow_apply found effect
  exact ⟨row', found', kept empty⟩

theorem tokenless_dropCredential (known : s.Known device) :
    (s.apply (.dropCredential device)).Tokenless device := by
  obtain ⟨row, found⟩ := known
  have updated : (s.apply (.dropCredential device)).app.db.devices.find? device = _ :=
    Table.find?_update s.app.db.devices device device _
  rw [if_pos rfl, found] at updated
  exact ⟨_, updated, rfl⟩

theorem rejected_of_tokenless (tokenless : s.Tokenless device) (presented : Option String) :
    authenticateAgent deployment.sha256 s.app.db device presented = false := by
  obtain ⟨row, found, empty⟩ := tokenless
  unfold authenticateAgent
  cases presented <;> simp [found, empty]

theorem cut_apply (cut : s.Cut device) (effect : Effect) : (s.apply effect).Cut device := by
  obtain ⟨registered, member⟩ := cut
  exact ⟨registered, by rw [history_events]; exact List.mem_append_left _ member⟩

theorem cut_from (cut : (s.apply effect).Cut device) : s.Cut device ∨ effect = .cutOff device := by
  obtain ⟨registered, member⟩ := cut
  rw [history_events] at member
  rcases List.mem_append.mp member with old | recorded
  · exact .inl ⟨registered, old⟩
  · right
    cases s.recorded_of_mem recorded with
    | cutOff => rfl

/-! ## What tasks know of revocations -/

/-- A device that is cut off has no token and no entry. -/
def Closed (s : Fleet) : Prop :=
  ∀ device, s.Cut device → s.Tokenless device ∧ s.app.channelOf device = none

/-- What `delete_device` has reached in each phase. -/
def Deleting (s : Fleet) (device : Uuid) : DeleteDevice → Prop
  | .certificates | .credential => s.Known device
  | .disconnect => s.Tokenless device
  | .revoked => s.Cut device
  | .verifyDevice | .refused _ => True

/-- A connection under way is of a device that is not cut off. -/
structure Watched (s : Fleet) (task : Task) : Prop where
  admitted : ∀ device, task.admitted device = true → ¬ s.Cut device
  deleting : ∀ auth device phase, task = .deleteDevice auth device phase → s.Deleting device phase

theorem deleting_apply {phase : DeleteDevice} (deleting : s.Deleting device phase)
    (effect : Effect) : (s.apply effect).Deleting device phase := by
  cases phase with
  | certificates | credential => exact known_apply deleting effect
  | disconnect => exact tokenless_apply deleting effect
  | revoked => exact cut_apply deleting effect
  | verifyDevice | refused => trivial

theorem Turn.cuts {owner : Uuid} (turn : Turn deployment s task choice (.cutOff owner) new) :
    task.disconnecting = some owner := by
  obtain ⟨auth, rfl⟩ := turn.sourced
  rfl

theorem Turn.acts {owner : Uuid} {action : Action} {fails : Bool}
    (turn : Turn deployment s task choice (.act owner action fails) new) :
    task.admitted owner = true := by
  obtain ⟨socket, channel, actions, rfl⟩ := turn.sourced
  simp [Task.admitted, Task.handler?, Handler.admitted]

theorem Turn.registers {owner : Uuid} (turn : Turn deployment s task choice (.register owner) new) :
    task.admitted owner = true := by
  obtain ⟨socket, rfl⟩ := turn.sourced
  simp [Task.admitted, Task.handler?, Handler.admitted]

theorem watched_stable (guarded : ∀ owner, effect = .cutOff owner → task.admitted owner = false)
    (watched : Watched s task) : Watched (s.apply effect) task where
  admitted device admitted cut := by
    rcases cut_from cut with old | rfl
    · exact watched.admitted device admitted old
    · rw [guarded device rfl] at admitted
      cases admitted
  deleting auth device phase same := deleting_apply (watched.deleting auth device phase same) effect

theorem watched_idle (idle : task.handler? = none)
    (other : ∀ auth device phase, task ≠ .deleteDevice auth device phase) : Watched s task where
  admitted device admitted := by simp [Task.admitted, idle] at admitted
  deleting auth device phase same := absurd same (other auth device phase)

theorem watched_handler {owner : Uuid} {socket : Nat} {phase next : Handler}
    (watched : Watched s (.handler owner socket phase)) (quiet : ∀ device, effect ≠ .cutOff device)
    (goes : next.admitted = true → phase.admitted = true) :
    Watched (s.apply effect) (.handler owner socket next) where
  admitted device admitted cut := by
    simp only [Task.admitted, Task.handler?, decide_eq_true_eq] at admitted
    rcases cut_from cut with old | wrong
    · apply watched.admitted device _ old
      simp [Task.admitted, Task.handler?, admitted.1, goes admitted.2]
    · exact quiet device wrong
  deleting _ _ _ same := by cases same

theorem watched_delete {auth : AuthUser} {phase : DeleteDevice}
    (deleting : (s.apply effect).Deleting device phase) :
    Watched (s.apply effect) (.deleteDevice auth device phase) where
  admitted owner admitted := by simp [Task.admitted, Task.handler?] at admitted
  deleting _ _ _ same := by
    cases same
    exact deleting

theorem Turn.watched_new (turn : Turn deployment s task choice effect new) (closed : Closed s)
    (watched : Watched s task) {after : Task} (member : after ∈ new) :
    Watched (s.apply effect) after := by
  cases turn with
  | deleteRefused =>
      rw [List.mem_singleton.mp member]
      exact watched_delete trivial
  | deleteVerified known =>
      rw [List.mem_singleton.mp member]
      exact watched_delete (Option.isSome_iff_exists.mp known)
  | deleteCertificates =>
      rw [List.mem_singleton.mp member]
      exact watched_delete (deleting_apply (watched.deleting _ _ .certificates rfl) _)
  | deleteCredential =>
      rw [List.mem_singleton.mp member]
      exact watched_delete (tokenless_dropCredential (watched.deleting _ _ .credential rfl))
  | deleteDisconnected =>
      rw [List.mem_singleton.mp member]
      apply watched_delete
      exact ⟨s.channels.length, List.mem_append_right _ (List.mem_singleton.mpr rfl)⟩
  | @upgradeAccepted owner presented authentic =>
      rw [List.mem_singleton.mp member]
      refine ⟨?_, by rintro _ _ _ ⟨⟩⟩
      intro device admitted cut
      simp only [Task.admitted, Task.handler?, decide_eq_true_eq] at admitted
      obtain ⟨rfl, _⟩ := admitted
      rcases cut_from cut with old | wrong
      · rw [rejected_of_tokenless (closed owner old).1] at authentic
        cases authentic
      · cases wrong
  | handlerVerified | handlerRegistered | handlerReads | handlerActs | handlerProcessed =>
      rw [List.mem_singleton.mp member]
      exact watched_handler watched (by rintro _ ⟨⟩) fun _ => rfl
  | handlerCloses | handlerUnregisters | handlerOffline | handlerStaysOnline =>
      rw [List.mem_singleton.mp member]
      exact watched_handler watched (by rintro _ ⟨⟩) (by rintro ⟨⟩)
  | handlerOnline done =>
      simp only [List.mem_cons, List.not_mem_nil, or_false] at member
      rcases member with rfl | rfl | rfl
      · apply watched_handler watched _ fun _ => rfl
        cases done <;> rintro _ ⟨⟩
      · exact watched_idle rfl (by rintro _ _ _ ⟨⟩)
      · exact watched_idle rfl (by rintro _ _ _ ⟨⟩)
  | @agentHandles _ _ _ _ reaction inbound reacts =>
      cases reaction
      case execute | reject =>
          rw [List.mem_singleton.mp member]
          exact watched_idle rfl (by rintro _ _ _ ⟨⟩)
      all_goals cases member
  | _ =>
      first
        | cases member
          done
        | rw [List.mem_singleton.mp member]
          exact watched_idle rfl (by rintro _ _ _ ⟨⟩)

theorem Turn.closed (turn : Turn deployment s task choice effect new) (closed : Closed s)
    (watched : Watched s task) : Closed (s.apply effect) := by
  intro device cut
  rcases cut_from cut with old | rfl
  · obtain ⟨tokenless, entry⟩ := closed device old
    refine ⟨tokenless_apply tokenless effect, ?_⟩
    by_cases untouched : effect.touchesEntries = false
    · rw [channelOf_apply s untouched]
      exact entry
    cases effect with
    | register owner =>
        have different : device ≠ owner := by
          intro same
          subst same
          exact watched.admitted device turn.registers old
        simpa [apply, different] using entry
    | disconnect owner | cutOff owner => simp [apply, record, entry]
    | _ => exact absurd rfl untouched
  · have tokenless : s.Tokenless device := by
      have disconnecting := turn.cuts
      cases task with
      | deleteDevice auth owner phase =>
          cases phase with
          | disconnect =>
              cases disconnecting
              exact watched.deleting _ _ .disconnect rfl
          | _ => cases disconnecting
      | _ => cases disconnecting
    exact ⟨tokenless_apply tokenless _, by simp [apply, record]⟩

theorem watched_outline (deployment : Deployment) :
    Outline (program deployment) NoneUnderWay Closed Watched where
  arrive s task _ request := by
    cases task with
    | handler => cases request
    | deleteDevice auth device phase =>
        refine ⟨nofun, ?_⟩
        intro _ _ _ same
        cases same
        cases phase <;> trivial
    | _ => exact watched_idle rfl nofun
  step s others task choice s' new closed watched _ _ moved := by
    obtain ⟨effect, turn, rfl⟩ := program_step moved
    exact ⟨turn.closed closed watched, fun after member => turn.watched_new closed watched member⟩
  stable s others task choice s' new _ _ alone moved other member watched := by
    obtain ⟨effect, turn, rfl⟩ := program_step moved
    apply watched_stable _ watched
    intro owner same
    subst same
    exact alone.disconnect owner turn.cuts other member

theorem cut_reached {deployment : Deployment} {guard : Guard Fleet Task Choice}
    {middle last : Config Fleet Task} (reached : Reach (program deployment) guard middle last)
    {device : Uuid} (cut : middle.shared.Cut device) : last.shared.Cut device := by
  refine reached.invariant (fun config => config.shared.Cut device) cut ?_ ?_
  · intro s tasks task cut _
    exact cut
  · intro s s' before after new task choice cut _ moved
    obtain ⟨effect, turn, rfl⟩ := program_step moved
    exact cut_apply cut effect

end Fleet

/-- In every run whose revocations find no connection of their device under way, a device that
`delete_device` has revoked is cut off from then on. -/
theorem revoked_cut_off (deployment : Deployment) {start middle last : Config Fleet Task}
    (started : Start start) (before : Reach (program deployment) NoneUnderWay start middle)
    (after : Reach (program deployment) NoneUnderWay middle last) {device : Uuid}
    (deleted : ∃ task ∈ middle.tasks, task.deleted = some device) :
    CutOff deployment device last := by
  have outline := Fleet.watched_outline deployment
  have initial : Annotated Fleet.Closed Fleet.Watched start := by
    refine ⟨?_, by simp [started.tasks]⟩
    rintro device ⟨registered, member⟩
    simp [started.history] at member
  have cut : middle.shared.Cut device := by
    obtain ⟨task, member, deleted⟩ := deleted
    have watched := (outline.holds initial before).tasks task member
    cases task with
    | deleteDevice auth owner phase =>
        cases phase with
        | revoked =>
            cases deleted
            exact watched.deleting _ _ .revoked rfl
        | _ => cases deleted
    | _ => cases deleted
  have held := outline.holds initial (before.trans after)
  have still := Fleet.cut_reached after cut
  obtain ⟨tokenless, entry⟩ := held.shared device still
  refine ⟨Fleet.rejected_of_tokenless tokenless, entry, ?_⟩
  intro task member choice effect new moved action fails same
  subst same
  exact (held.tasks task member).admitted device (Fleet.turn_of_step moved).acts still

/-- The device is revoked while it has no connection. -/
def deleteOffline : List (Label Task Choice) :=
  [.arrive (.deleteDevice sampleAdmin (Uuid.small 1) .verifyDevice),
    .run 0 .proceeds, .run 0 .proceeds, .run 0 .proceeds, .run 0 .proceeds]

theorem revoked_cut_off_offline : ∃ last, Reach (program sampleDeployment) NoneUnderWay sampleStart
    last ∧ CutOff sampleDeployment (Uuid.small 1) last := by
  obtain ⟨middle, last, before, after, deleted, _⟩ := Reach.of_observed_twice
    (program sampleDeployment) NoneUnderWay sampleStart deleteOffline
    [.arrive (.wsHandler (Uuid.small 1) (some "token")), .run 1 .proceeds]
    (fun config => config.tasks.any fun task => task.deleted = some (Uuid.small 1)) true true
    (by decide +kernel)
  exact ⟨last, before.trans after, revoked_cut_off sampleDeployment sampleStart_start before after
    (by simpa using deleted)⟩

/-- The device is revoked while it is connected. -/
def deleteConnected : List (Label Task Choice) :=
  connect ++
    [.arrive (.deleteDevice sampleAdmin (Uuid.small 1) .verifyDevice),
      .run 3 .proceeds, .run 3 .proceeds, .run 3 .proceeds, .run 3 .proceeds]

/-- Its agent sends a heartbeat, and the connection reads it. -/
def heartbeatAfter : List (Label Task Choice) :=
  [.arrive (.agentEmits (Uuid.small 1) (.heartbeat "1.0.0")), .run 4 .proceeds,
    .arrive (.agentFlushes (Uuid.small 1) 0), .run 4 .proceeds, .run 0 .proceeds]

/-- A revoked device that was connected still has its messages processed. -/
theorem revoked_heard : ¬ ∀ (start middle last : Config Fleet Task) (device : Uuid), Start start →
    Reach (program sampleDeployment) Guard.any start middle →
      Reach (program sampleDeployment) Guard.any middle last →
        (∃ task ∈ middle.tasks, task.deleted = some device) →
          CutOff sampleDeployment device last := by
  intro silenced
  obtain ⟨middle, last, before, after, deleted, heard⟩ := Reach.of_observed_twice
    (program sampleDeployment) Guard.any sampleStart deleteConnected heartbeatAfter
    (fun config => (config.tasks.any fun task => task.deleted = some (Uuid.small 1),
      config.tasks.any fun task => task.processes = some (Uuid.small 1)))
    (true, false) (true, true) (by decide +kernel)
  simp only [Prod.mk.injEq, List.any_eq_true, decide_eq_true_eq] at deleted heard
  have cut := silenced _ _ _ (Uuid.small 1) sampleStart_start before after deleted.1
  obtain ⟨task, member, processes⟩ := heard.2
  cases task with
  | handler owner socket phase =>
      cases phase with
      | processing channel actions =>
          cases actions with
          | nil => cases processes
          | cons action rest =>
              cases processes
              exact cut.silent _ member .proceeds _ _ rfl action false rfl
      | _ => cases processes
  | _ => cases processes

end OsfmEdm
