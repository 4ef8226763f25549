import OsfmEdm.Fleet.Conservation
import OsfmEdm.Fleet.Statuses

/-!
The registry of connections. Registration, status and cleanup are keyed by the device alone,
so the cleanup of one connection takes away the entry of another. Where connections end in
the order in which they were registered the entry follows the newest of them.
-/

namespace OsfmEdm

open Interleaving JsonText

/-! ## Connections of a device -/

namespace Handler

/-- The channel of a connection that is registered and has not left its read loop. -/
def live : Handler → Option Nat
  | .markOnline channel | .reading channel | .processing channel _ => some channel
  | _ => none

def inReadLoop : Handler → Option Nat
  | .reading channel | .processing channel _ => some channel
  | _ => none

/-- The channel of a connection that has not yet taken its entry out. -/
def entered : Handler → Option Nat
  | .markOnline channel | .reading channel | .processing channel _ | .unregister channel =>
      some channel
  | _ => none

/-- Whether a connection may have marked its device online and has not yet marked it offline. -/
def online : Handler → Bool
  | .reading _ | .processing .. | .unregister _ | .markOffline _ => true
  | _ => false

end Handler

namespace Task

/-- The device and phase of a connection's task. -/
def handler? : Task → Option (Uuid × Handler)
  | .handler device _ phase => some (device, phase)
  | _ => none

/-- What a view of the phases shows of a connection of the device. -/
def view {α : Type} (device : Uuid) (shows : Handler → Option α) (task : Task) : Option α :=
  match task.handler? with
  | some (owner, phase) => if owner = device then shows phase else none
  | none => none

def online (device : Uuid) (task : Task) : Bool :=
  match task.handler? with
  | some (owner, phase) => owner = device ∧ phase.online
  | none => false

/-- The connection whose read loop may end. -/
def reading : Task → Option (Uuid × Nat)
  | .handler device _ (.reading channel) => some (device, channel)
  | _ => none

def unregistering : Task → Option Uuid
  | .handler device _ (.unregister _) => some device
  | _ => none

def markingOffline : Task → Option Uuid
  | .handler device _ (.markOffline _) => some device
  | _ => none

end Task

/-- The channels of the device's live connections. -/
def liveChannels (device : Uuid) (tasks : List Task) : List Nat :=
  tasks.filterMap (Task.view device Handler.live)

/-- The channels of the device's connections that are in their read loop. -/
def readLoops (device : Uuid) (tasks : List Task) : List Nat :=
  tasks.filterMap (Task.view device Handler.inReadLoop)

namespace Fleet

/-- Whether the connection was registered when its device was revoked. -/
def revokedConnection (s : Fleet) (device : Uuid) (channel : Nat) : Bool :=
  s.history.any fun event =>
    match event with
    | .cutOff owner registered => owner = device ∧ channel < registered
    | _ => false

def deviceStatus (s : Fleet) (device : Uuid) : Option DeviceStatus :=
  (s.app.db.devices.find? device).map (·.status)

theorem revokedConnection_apply {s : Fleet} {device : Uuid} {channel : Nat} (effect : Effect)
    (kept : ∀ owner, effect ≠ .cutOff owner) :
    (s.apply effect).revokedConnection device channel = s.revokedConnection device channel := by
  rw [revokedConnection, revokedConnection, history_events, List.any_append]
  have silent : (s.events effect).any (fun event =>
      match event with
      | .cutOff owner registered => decide (owner = device ∧ channel < registered)
      | _ => false) = false := by
    rw [List.any_eq_false]
    intro event recorded
    cases s.recorded_of_mem recorded with
    | cutOff => exact absurd rfl (kept _)
    | _ => exact Bool.false_ne_true
  rw [silent, Bool.or_false]

theorem deviceStatus_updateDevice (db : Database) (device other : Uuid)
    (change : DeviceRow → DeviceRow) :
    ((db.updateDevice device change).devices.find? other).map (·.status) =
      if other = device then (db.devices.find? other).map fun row => (change row).status
      else (db.devices.find? other).map (·.status) := by
  simp only [Database.updateDevice, Table.find?_update]
  split
  · rw [Option.map_map]
    rfl
  · rfl

theorem online_apply {s : Fleet} {device : Uuid} {effect : Effect}
    (online : (s.apply effect).deviceStatus device = some .online) :
    s.deviceStatus device = some .online ∨ effect = .markOnline device ∨
      ∃ action fails, effect = .act device action fails := by
  have updated {other : Uuid} {change : DeviceRow → DeviceRow}
      (online : ((s.app.db.updateDevice other change).devices.find? device).map (·.status) =
        some .online) : s.deviceStatus device = some .online ∨
          device = other ∧ ∃ row, (change row).status = .online := by
    rw [deviceStatus_updateDevice] at online
    split at online
    · rename_i same
      obtain ⟨row, _, status⟩ := Option.map_eq_some_iff.mp online
      exact .inr ⟨same, row, status⟩
    · exact .inl online
  by_cases untouched : effect.touchesDevices = false
  · left
    rwa [deviceStatus, devices_apply s untouched] at online
  cases effect with
  | enrollDevice id tokenHash =>
      left
      simp only [deviceStatus, apply, updateDb, Database.enrollDevice] at online ⊢
      split at online
      · rename_i devices done
        rw [Table.find?_insert done] at online
        split at online
        · cases online
        · exact online
      · exact online
  | dropCredential id | markOffline id =>
      rcases updated online with old | ⟨_, _, wrong⟩
      · exact .inl old
      · cases wrong
  | markOnline id =>
      rcases updated online with old | ⟨rfl, _⟩
      · exact .inl old
      · exact .inr (.inl rfl)
  | act owner action fails =>
      cases action
      case heartbeat agentVersion =>
          cases fails
          · rcases updated online with old | ⟨rfl, _⟩
            · exact .inl old
            · exact .inr (.inr ⟨_, _, rfl⟩)
          · exact .inl online
      all_goals exact absurd rfl untouched
  | _ => exact absurd rfl untouched

variable {deployment : Deployment} {s : Fleet} {task : Task} {choice : Choice} {effect : Effect}
  {new before after : List Task} {device : Uuid}

/-- Any other task brings in connections that have not started yet, and leaves the registry to a
revocation. -/
theorem Turn.newcomers (turn : Turn deployment s task choice effect new)
    (idle : task.handler? = none) :
    (∀ next ∈ new, ∀ connection ∈ next.handler?, connection.2 = .verifyDevice) ∧
      (effect.touchesEntries = false ∨ ∃ device, effect = .cutOff device) ∧
      (∀ device, effect ≠ .markOnline device) ∧
      ∀ device action fails, effect ≠ .act device action fails := by
  cases turn with
  | createSent valid sends | cancelSent sends | jobSent valid sends | policiesSent sends
  | inventoryRequested sends | pushed plain sends =>
      refine ⟨?_, ?_, ?_, ?_⟩
      · intro next member connection handler
        first
          | cases member
            done
          | rw [List.mem_singleton.mp member] at handler
            cases handler
      all_goals cases sends <;> simp [Effect.touchesEntries]
  | upgradeAccepted authentic =>
      refine ⟨?_, .inl rfl, nofun, nofun⟩
      intro next member connection handler
      rw [List.mem_singleton.mp member] at handler
      cases handler
      rfl
  | @agentHandles _ _ _ _ reaction inbound reacts =>
      refine ⟨?_, .inl rfl, nofun, ?_⟩
      · intro next member connection handler
        cases reaction
        case execute | reject =>
            rw [List.mem_singleton.mp member] at handler
            cases handler
        all_goals cases member
      · intro device action fails same
        cases same
  | deleteDisconnected =>
      refine ⟨?_, .inr ⟨_, rfl⟩, nofun, nofun⟩
      intro next member connection handler
      rw [List.mem_singleton.mp member] at handler
      cases handler
  | handlerGone | handlerVerified | handlerRegistered | handlerOnline | handlerReads
  | handlerCloses | handlerActs | handlerProcessed | handlerUnregisters | handlerOffline
  | handlerStaysOnline | handlerEnds => cases idle
  | _ =>
      refine ⟨?_, .inl rfl, nofun, fun _ _ _ same => by cases same⟩
      intro next member connection handler
      first
        | cases member
          done
        | rw [List.mem_singleton.mp member] at handler
          cases handler

end Fleet

/-! ## When the entry follows the newest connection -/

/-- The condition on each step: the newest connection of a device leaves its read loop only when no
other unrevoked one is live; a connection takes the entry out only when no other unrevoked one
is live; and the mark of an ended connection does not fail. -/
structure RegistryInOrder (s : Fleet) (others : List Task) (task : Task) (choice : Choice) :
    Prop where
  closes : ∀ connection ∈ task.reading, choice = .closes →
    (∃ channel ∈ liveChannels connection.1 others, connection.2 < channel) ∨
      ∀ channel ∈ liveChannels connection.1 others, s.revokedConnection connection.1 channel = true
  unregisters : ∀ device ∈ task.unregistering, ∀ channel ∈ liveChannels device others,
    s.revokedConnection device channel = true
  offline : task.markingOffline.isSome → choice ≠ .fails

instance (s : Fleet) (others : List Task) (task : Task) (choice : Choice) :
    Decidable (RegistryInOrder s others task choice) :=
  decidable_of_iff (_ ∧ _ ∧ _)
    ⟨fun ⟨closes, unregisters, offline⟩ => ⟨closes, unregisters, offline⟩,
      fun ⟨closes, unregisters, offline⟩ => ⟨closes, unregisters, offline⟩⟩

namespace Fleet

/-- The entry of a device with an unrevoked live connection is the newest one's, an entry's
connection has not ended, and an online device has a connection that will mark it offline. -/
structure Registered (device : Uuid) (s : Fleet) (tasks : List Task) : Prop where
  follows : ∀ channel ∈ liveChannels device tasks, s.revokedConnection device channel = false →
    ∃ newest ∈ liveChannels device tasks, s.app.channelOf device = some newest ∧
      ∀ other ∈ liveChannels device tasks, other ≤ newest
  entered : ∀ channel, s.app.channelOf device = some channel →
    channel ∈ tasks.filterMap (Task.view device Handler.entered)
  online : s.deviceStatus device = some .online → ∃ task ∈ tasks, task.online device = true

variable {deployment : Deployment} {s s' : Fleet} {task : Task} {choice : Choice} {effect : Effect}
  {new before after : List Task} {device : Uuid}

theorem filterMap_replaced {α β : Type} {show? : α → Option β} {item : α} {new : List α}
    (same : new.filterMap show? = (show? item).toList) (before after : List α) :
    (before ++ new ++ after).filterMap show? = (before ++ item :: after).filterMap show? := by
  simp only [List.filterMap_append, List.filterMap_cons, same]
  cases show? item <;> simp

theorem exists_replaced {online : Task → Bool} (old : ∃ other ∈ before ++ task :: after, online other)
    (own : online task = true → ∃ next ∈ new, online next = true) :
    ∃ other ∈ before ++ new ++ after, online other = true := by
  obtain ⟨other, member, holds⟩ := old
  by_cases same : other = task
  · obtain ⟨next, fresh, holds⟩ := own (same ▸ holds)
    exact ⟨next, by simp [fresh], holds⟩
  · exact ⟨other, mem_other member same, holds⟩

theorem Registered.keep (held : Registered device s (before ++ task :: after))
    (live : liveChannels device new = (task.view device Handler.live).toList)
    (entered : new.filterMap (Task.view device Handler.entered) =
      (task.view device Handler.entered).toList)
    (online : task.online device = true → ∃ next ∈ new, next.online device = true)
    (entries : s'.app.channelOf device = s.app.channelOf device)
    (revoked : ∀ channel,
      s'.revokedConnection device channel = s.revokedConnection device channel)
    (status : s'.deviceStatus device = some .online →
      s.deviceStatus device = some .online ∨ ∃ next ∈ new, next.online device = true) :
    Registered device s' (before ++ new ++ after) where
  follows channel member unrevoked := by
    have same := filterMap_replaced live before after
    simp only [liveChannels] at member ⊢
    rw [same] at member ⊢
    rw [entries]
    exact held.follows channel member (by rw [← revoked]; exact unrevoked)
  entered channel entry := by
    rw [filterMap_replaced entered]
    exact held.entered channel (entries ▸ entry)
  online holds := by
    rcases status holds with old | ⟨next, member, shown⟩
    · exact exists_replaced (held.online old) online
    · exact ⟨next, by simp [member], shown⟩

/-- The handlers of other devices say nothing about a device. -/
theorem Registered.elsewhere {owner : Uuid} {socket : Nat} {phase next : Handler}
    (held : Registered device s (before ++ .handler owner socket phase :: after))
    (own : ¬ owner = device) (entries : s'.app.channelOf device = s.app.channelOf device)
    (revoked : ∀ channel,
      s'.revokedConnection device channel = s.revokedConnection device channel)
    (status : s'.deviceStatus device = some .online → s.deviceStatus device = some .online) :
    Registered device s' (before ++ [.handler owner socket next] ++ after) := by
  apply held.keep
  · simp [liveChannels, Task.view, Task.handler?, own]
  · simp [Task.view, Task.handler?, own]
  · simp [Task.online, Task.handler?, own]
  · exact entries
  · exact revoked
  · exact fun online => .inl (status online)

theorem live_bound {tasks : List Task} (wired : ∀ task ∈ tasks, Wired s task) :
    ∀ channel ∈ liveChannels device tasks, channel < s.channels.length := by
  intro channel member
  obtain ⟨task, present, shown⟩ := List.mem_filterMap.mp member
  cases task with
  | handler owner socket phase =>
      simp only [Task.view, Task.handler?] at shown
      split at shown
      · have own : phase.channel? = some channel := by
          cases phase <;> first | exact shown | cases shown
        have located := (wired _ present (owner, socket, phase.channel?) rfl).2 channel own
        obtain ⟨c, found, _⟩ := Option.map_eq_some_iff.mp located
        exact (List.getElem?_eq_some_iff.mp found).1
      · cases shown
  | _ => cases shown

theorem mem_liveChannels {channel : Nat} {middle : List Task} :
    channel ∈ liveChannels device (before ++ middle ++ after) ↔
      channel ∈ liveChannels device (before ++ after) ∨ channel ∈ liveChannels device middle := by
  simp only [liveChannels, List.filterMap_append, List.mem_append]
  tauto

theorem Registered.registers {owner : Uuid} {socket : Nat}
    (held : Registered device s (before ++ .handler owner socket .register :: after))
    (wired : ∀ task ∈ before ++ after, Wired s task) :
    Registered device (s.apply (.register owner))
      (before ++ [.handler owner socket (.markOnline s.channels.length)] ++ after) := by
  by_cases own : owner = device
  · subst own
    have entry : (s.apply (.register owner)).app.channelOf owner = some s.channels.length := by
      simp [apply]
    have fresh : liveChannels owner [.handler owner socket (.markOnline s.channels.length)] =
        [s.channels.length] := by
      simp [liveChannels, Task.view, Task.handler?, Handler.live]
    refine ⟨?_, ?_, ?_⟩
    · intro channel _ _
      refine ⟨s.channels.length, mem_liveChannels.mpr (.inr (by simp [fresh])), entry, ?_⟩
      intro other member
      rcases mem_liveChannels.mp member with old | same
      · exact Nat.le_of_lt (live_bound wired other old)
      · rw [fresh] at same
        exact Nat.le_of_eq (List.mem_singleton.mp same)
    · intro channel found
      rw [entry] at found
      cases found
      simp [List.filterMap_append, Task.view, Task.handler?, Handler.entered]
    · intro online
      exact exists_replaced (held.online online) fun wrong => by
        simp [Task.online, Task.handler?, Handler.online] at wrong
  · have other : ¬ device = owner := fun same => own same.symm
    refine held.elsewhere own ?_ ?_ id
    · simp [apply, other]
    · exact fun channel => revokedConnection_apply _ (by rintro _ ⟨⟩)

theorem Registered.closes {owner : Uuid} {socket channel : Nat}
    (held : Registered device s (before ++ .handler owner socket (.reading channel) :: after))
    (inOrder : RegistryInOrder s (before ++ after) (.handler owner socket (.reading channel)) .closes) :
    Registered device s (before ++ [.handler owner socket (.unregister channel)] ++ after) := by
  by_cases own : owner = device
  · subst own
    have gone : liveChannels owner [.handler owner socket (.unregister channel)] = [] := by
      simp [liveChannels, Task.view, Task.handler?, Handler.live]
    have was : liveChannels owner [.handler owner socket (.reading channel)] = [channel] := by
      simp [liveChannels, Task.view, Task.handler?, Handler.live]
    have live {other : Nat} : other ∈ liveChannels owner
        (before ++ .handler owner socket (.reading channel) :: after) ↔
          other ∈ liveChannels owner (before ++ after) ∨ other = channel := by
      have split : other ∈ liveChannels owner
          (before ++ [.handler owner socket (.reading channel)] ++ after) ↔ _ := mem_liveChannels
      simpa [was] using split
    have remaining {other : Nat} : other ∈ liveChannels owner
        (before ++ [.handler owner socket (.unregister channel)] ++ after) ↔
          other ∈ liveChannels owner (before ++ after) :=
      mem_liveChannels.trans (by simp [gone])
    refine ⟨?_, ?_, ?_⟩
    · intro other member unrevoked
      obtain ⟨newest, present, entry, bound⟩ :=
        held.follows other (live.mpr (.inl (remaining.mp member))) unrevoked
      rcases inOrder.closes (owner, channel) rfl rfl with ⟨later, stays, newer⟩ | revoked
      · have most := bound later (live.mpr (.inl stays))
        have there : newest ∈ liveChannels owner (before ++ after) := by
          rcases live.mp present with there | same
          · exact there
          · simp only at newer
            omega
        exact ⟨newest, remaining.mpr there, entry,
          fun other member => bound other (live.mpr (.inl (remaining.mp member)))⟩
      · rw [revoked other (remaining.mp member)] at unrevoked
        cases unrevoked
    · intro entry found
      rw [filterMap_replaced]
      · exact held.entered entry found
      · simp [Task.view, Task.handler?, Handler.entered]
    · intro online
      exact exists_replaced (held.online online) fun _ => ⟨_, List.mem_singleton.mpr rfl, by
        simp [Task.online, Task.handler?, Handler.online]⟩
  · exact held.elsewhere own rfl (fun channel => rfl) id

theorem Registered.unregisters {owner : Uuid} {socket channel : Nat}
    (held : Registered device s (before ++ .handler owner socket (.unregister channel) :: after))
    (inOrder : RegistryInOrder s (before ++ after) (.handler owner socket (.unregister channel))
      choice) :
    Registered device (s.apply (.disconnect owner))
      (before ++ [.handler owner socket (.markOffline channel)] ++ after) := by
  have shown : Task.online device (.handler owner socket (.unregister channel)) = true →
      ∃ next ∈ [Task.handler owner socket (.markOffline channel)], next.online device = true :=
    fun online => ⟨_, List.mem_singleton.mpr rfl, online⟩
  by_cases own : owner = device
  · subst own
    have entry : (s.apply (.disconnect owner)).app.channelOf owner = none := by simp [apply]
    refine ⟨?_, ?_, ?_⟩
    · intro channel member unrevoked
      rcases mem_liveChannels.mp member with old | wrong
      · have revoked := inOrder.unregisters owner rfl channel old
        have same : (s.apply (.disconnect owner)).revokedConnection owner channel =
          s.revokedConnection owner channel := rfl
        rw [same, revoked] at unrevoked
        cases unrevoked
      · simp [liveChannels, Task.view, Task.handler?, Handler.live] at wrong
    · intro channel found
      rw [entry] at found
      cases found
    · intro online
      exact exists_replaced (held.online online) shown
  · have other : ¬ device = owner := fun same => own same.symm
    exact held.elsewhere own (by simp [apply, other]) (fun channel => rfl) id

theorem offline_apply (s : Fleet) (device : Uuid) :
    (s.apply (.markOffline device)).deviceStatus device ≠ some .online := by
  have updated : (s.apply (.markOffline device)).deviceStatus device = _ :=
    deviceStatus_updateDevice s.app.db device device _
  intro online
  rw [updated, if_pos rfl] at online
  obtain ⟨row, _, wrong⟩ := Option.map_eq_some_iff.mp online
  cases wrong

theorem Registered.offline {owner : Uuid} {socket channel : Nat}
    (held : Registered device s (before ++ .handler owner socket (.markOffline channel) :: after)) :
    Registered device (s.apply (.markOffline owner))
      (before ++ [.handler owner socket (.abort channel)] ++ after) := by
  by_cases own : owner = device
  · subst own
    refine ⟨?_, ?_, fun online => absurd online (offline_apply s owner)⟩
    · have same : liveChannels owner [Task.handler owner socket (.abort channel)] =
          (Task.view owner Handler.live (.handler owner socket (.markOffline channel))).toList := by
        simp [liveChannels, Task.view, Task.handler?, Handler.live]
      have kept := filterMap_replaced same before after
      simp only [liveChannels, kept]
      exact held.follows
    · rw [filterMap_replaced]
      · exact held.entered
      · simp [Task.view, Task.handler?, Handler.entered]
  · refine held.elsewhere own rfl (fun channel => rfl) ?_
    intro online
    rcases online_apply online with old | wrong | ⟨_, _, wrong⟩
    · exact old
    · cases wrong
    · cases wrong

theorem view_stays {shows : Handler → Option Nat} {owner : Uuid} {socket : Nat}
    {phase next : Handler} (same : shows next = shows phase) {spawned : List Task}
    (others : ∀ task ∈ spawned, task.handler? = none) :
    (Task.handler owner socket next :: spawned).filterMap (Task.view device shows) =
      (Task.view device shows (.handler owner socket phase)).toList := by
  have rest : spawned.filterMap (Task.view device shows) = [] := by
    apply List.filterMap_eq_nil_iff.mpr
    intro task member
    simp [Task.view, others task member]
  have own : Task.view device shows (.handler owner socket next) =
      Task.view device shows (.handler owner socket phase) := by
    simp only [Task.view, Task.handler?, same]
  rw [List.filterMap_cons, rest, own]
  cases Task.view device shows (.handler owner socket phase) <;> rfl

theorem Registered.stays {owner : Uuid} {socket : Nat} {phase next : Handler} {spawned : List Task}
    (held : Registered device s (before ++ .handler owner socket phase :: after))
    (live : next.live = phase.live) (entered : next.entered = phase.entered)
    (online : phase.online = true → next.online = true)
    (others : ∀ task ∈ spawned, task.handler? = none)
    (entries : s'.app.channelOf device = s.app.channelOf device)
    (revoked : ∀ channel,
      s'.revokedConnection device channel = s.revokedConnection device channel)
    (status : s'.deviceStatus device = some .online →
      s.deviceStatus device = some .online ∨ owner = device ∧ next.online = true) :
    Registered device s' (before ++ .handler owner socket next :: spawned ++ after) := by
  have shown (own : owner = device) (on : next.online = true) :
      ∃ task ∈ Task.handler owner socket next :: spawned, task.online device = true :=
    ⟨_, List.mem_cons_self, by simp [Task.online, Task.handler?, own, on]⟩
  apply held.keep
  · exact view_stays live others
  · exact view_stays entered others
  · intro on
    simp only [Task.online, Task.handler?, decide_eq_true_eq] at on
    exact shown on.1 (online on.2)
  · exact entries
  · exact revoked
  · intro holds
    rcases status holds with old | ⟨own, on⟩
    · exact .inl old
    · exact .inr (shown own on)

theorem Registered.cutOff {owner : Uuid}
    (held : Registered device s (before ++ task :: after))
    (wired : ∀ task ∈ before ++ after, Wired s task) (idle : task.handler? = none)
    (live : liveChannels device new = [])
    (entered : new.filterMap (Task.view device Handler.entered) = []) :
    Registered device (s.apply (.cutOff owner)) (before ++ new ++ after) := by
  have online : task.online device = true → ∃ next ∈ new, next.online device = true := by
    intro wrong
    simp [Task.online, idle] at wrong
  by_cases own : owner = device
  · subst own
    refine ⟨?_, ?_, ?_⟩
    · intro channel member unrevoked
      rcases mem_liveChannels.mp member with old | wrong
      · have bound := live_bound wired channel old
        simp [revokedConnection, apply, record, bound] at unrevoked
      · rw [live] at wrong
        cases wrong
    · intro channel found
      simp [apply, record] at found
    · intro holds
      exact exists_replaced (held.online holds) online
  · have other : ¬ device = owner := fun same => own same.symm
    apply held.keep
    · simp [live, Task.view, idle]
    · simp [entered, Task.view, idle]
    · exact online
    · simp [apply, record, other]
    · intro channel
      simp [revokedConnection, apply, record, own]
    · exact .inl

theorem Registered.step (held : Registered device s (before ++ task :: after))
    (inOrder : RegistryInOrder s (before ++ after) task choice)
    (wired : ∀ task ∈ before ++ after, Wired s task)
    (turn : Turn deployment s task choice effect new) :
    Registered device (s.apply effect) (before ++ new ++ after) := by
  by_cases idle : task.handler? = none
  · obtain ⟨started, entries, starts, acts⟩ := turn.newcomers idle
    have none (shows : Handler → Option Nat) (fresh : shows .verifyDevice = none) :
        new.filterMap (Task.view device shows) = [] := by
      apply List.filterMap_eq_nil_iff.mpr
      intro next member
      cases handler : next.handler? with
      | none => simp [Task.view, handler]
      | some connection =>
          obtain ⟨owner, phase⟩ := connection
          have first : phase = .verifyDevice := started next member _ handler
          subst first
          simp [Task.view, handler, fresh]
    rcases entries with untouched | ⟨owner, rfl⟩
    · apply held.keep
      · simp [liveChannels, none Handler.live rfl, Task.view, idle]
      · simp [none Handler.entered rfl, Task.view, idle]
      · simp [Task.online, idle]
      · exact channelOf_apply s untouched device
      · intro channel
        apply revokedConnection_apply
        intro owner same
        subst same
        cases untouched
      · intro online
        rcases online_apply online with old | marks | ⟨action, fails, acted⟩
        · exact .inl old
        · exact absurd marks (starts device)
        · exact absurd acted (acts device action fails)
    · exact held.cutOff wired idle (none Handler.live rfl) (none Handler.entered rfl)
  · cases task with
    | handler owner socket phase =>
        cases turn with
        | handlerRegistered => exact held.registers wired
        | handlerCloses => exact held.closes inOrder
        | handlerUnregisters => exact held.unregisters inOrder
        | handlerOffline => exact held.offline
        | handlerStaysOnline => exact absurd rfl (inOrder.offline rfl)
        | @handlerOnline _ _ channel _ done =>
            refine held.stays rfl rfl ?_ ?_ ?_ ?_ ?_
            · exact fun _ => rfl
            · simp [Task.handler?]
            · cases done <;> rfl
            · cases done <;> exact fun channel => rfl
            · intro online
              cases done with
              | false => exact .inl online
              | true =>
                  rcases online_apply online with old | marks | ⟨_, _, wrong⟩
                  · exact .inl old
                  · cases marks
                    exact .inr ⟨rfl, rfl⟩
                  · cases wrong
        | @handlerActs _ _ channel action rest fails =>
            refine held.stays rfl rfl ?_ ?_ ?_ ?_ ?_
            · exact fun _ => rfl
            · simp
            · exact channelOf_apply s rfl device
            · exact fun channel => rfl
            · intro online
              rcases online_apply online with old | wrong | ⟨_, _, acted⟩
              · exact .inl old
              · cases wrong
              · cases acted
                exact .inr ⟨rfl, rfl⟩
        | handlerVerified =>
            refine held.stays rfl rfl nofun ?_ rfl (fun _ => rfl) .inl
            simp
        | handlerReads | handlerProcessed =>
            refine held.stays rfl rfl (fun _ => rfl) ?_ rfl (fun _ => rfl) .inl
            simp
        | handlerGone | handlerEnds =>
            apply held.keep
            · simp [liveChannels, Task.view, Task.handler?, Handler.live]
            · simp [Task.view, Task.handler?, Handler.entered]
            · simp [Task.online, Task.handler?, Handler.online]
            · rfl
            · exact fun channel => rfl
            · exact .inl
    | _ => exact absurd rfl idle

theorem liveChannels_of_readLoops {tasks : List Task} {channel : Nat}
    (member : channel ∈ readLoops device tasks) : channel ∈ liveChannels device tasks := by
  obtain ⟨task, present, shown⟩ := List.mem_filterMap.mp member
  refine List.mem_filterMap.mpr ⟨task, present, ?_⟩
  cases task with
  | handler owner socket phase =>
      simp only [Task.view, Task.handler?] at shown ⊢
      split at shown
      · rename_i own
        rw [if_pos own]
        cases phase <;> first | exact shown | cases shown
      · cases shown
  | _ => cases shown

theorem registered_start {start : Config Fleet Task} (started : Start start) (device : Uuid) :
    Registered device start.shared start.tasks where
  follows := by simp [liveChannels, started.tasks]
  entered channel entry := by simp [AppState.channelOf, started.entries device] at entry
  online status := by
    obtain ⟨row, found, online⟩ := Option.map_eq_some_iff.mp status
    exact absurd online (started.devices device row found)

theorem registered_arrives {tasks : List Task} (held : Registered device s tasks)
    (request : task.request = true) : Registered device s (tasks ++ [task]) := by
  have idle (shows : Handler → Option Nat) : Task.view device shows task = none := by
    cases task with
    | handler => cases request
    | _ => rfl
  obtain ⟨follows, entered, online⟩ := held
  refine ⟨?_, ?_, ?_⟩
  · simpa [liveChannels, idle] using follows
  · simpa [idle] using entered
  · intro status
    obtain ⟨other, member, shown⟩ := online status
    exact ⟨other, List.mem_append_left _ member, shown⟩

end Fleet

/-- In every run whose connections end in order, the entry of a device with an unrevoked connection
in its read loop is the one of the newest live connection; and a device whose connections have
all ended is online exactly if it has an entry. -/
theorem registry_follows (deployment : Deployment) {start config : Config Fleet Task}
    (started : Start start) (reached : Reach (program deployment) RegistryInOrder start config)
    (device : Uuid) :
    (∀ channel ∈ readLoops device config.tasks,
      config.shared.revokedConnection device channel = false →
        ∃ newest ∈ liveChannels device config.tasks,
          config.shared.app.channelOf device = some newest ∧
            ∀ other ∈ liveChannels device config.tasks, other ≤ newest) ∧
    ((∀ task ∈ config.tasks, ∀ connection ∈ task.handler?, connection.1 ≠ device) →
      (config.shared.deviceStatus device = some .online ↔
        (config.shared.app.channelOf device).isSome)) := by
  have held : Fleet.Registered device config.shared config.tasks := by
    refine reached.carry (fun config => Fleet.Registered device config.shared config.tasks)
      (Fleet.registered_start started device) ?_ ?_
    · intro s tasks task _ held request
      exact Fleet.registered_arrives held request
    · intro s s' before after new task choice reached held inOrder moved
      obtain ⟨effect, turn, rfl⟩ := program_step moved
      have wired := (Fleet.wired_outline deployment _).holds (Fleet.wired_start started) reached
      refine held.step inOrder ?_ turn
      exact fun other member => wired.tasks other (mem_of_others task member)
  constructor
  · intro channel member unrevoked
    exact held.follows channel (Fleet.liveChannels_of_readLoops member) unrevoked
  · intro ended
    have gone (task : Task) (member : task ∈ config.tasks) : ∀ connection ∈ task.handler?,
        connection.1 ≠ device := ended task member
    constructor
    · intro online
      obtain ⟨task, member, shown⟩ := held.online online
      cases handler : task.handler? with
      | none => simp [Task.online, handler] at shown
      | some connection =>
          have other := gone task member connection handler
          simp [Task.online, handler, other] at shown
    · intro entry
      obtain ⟨channel, found⟩ := Option.isSome_iff_exists.mp entry
      obtain ⟨task, member, shown⟩ := List.mem_filterMap.mp (held.entered channel found)
      cases handler : task.handler? with
      | none => simp [Task.view, handler] at shown
      | some connection =>
          have other := gone task member connection handler
          simp [Task.view, handler, other] at shown

/-- A connected device has the entry of its connection. -/
theorem registry_follows_connected : ∃ config,
    Reach (program sampleDeployment) RegistryInOrder sampleStart config ∧
      readLoops (Uuid.small 1) config.tasks = [0] ∧
      ∃ newest ∈ liveChannels (Uuid.small 1) config.tasks,
        config.shared.app.channelOf (Uuid.small 1) = some newest ∧
          ∀ other ∈ liveChannels (Uuid.small 1) config.tasks, other ≤ newest := by
  obtain ⟨config, reached, seen⟩ := Reach.of_observed (program sampleDeployment) RegistryInOrder
    sampleStart connect (fun config => (readLoops (Uuid.small 1) config.tasks,
      config.shared.revokedConnection (Uuid.small 1) 0)) ([0], false) (by decide +kernel)
  obtain ⟨reading, unrevoked⟩ := Prod.mk.inj seen
  refine ⟨config, reached, reading, ?_⟩
  exact (registry_follows sampleDeployment sampleStart_start reached (Uuid.small 1)).1 0
    (by simp [reading]) unrevoked

/-- The device connects again before its first connection ends, and the cleanup of the first takes
the entry of the second. -/
def reconnect : List (Label Task Choice) :=
  connect ++
    [.arrive (.wsHandler (Uuid.small 1) (some "token")), .run 3 .proceeds, .run 3 .proceeds,
      .run 3 .proceeds, .run 3 .proceeds, .run 0 .closes, .run 0 .proceeds]

theorem registry_loses : ¬ ∀ (start config : Config Fleet Task) (device : Uuid), Start start →
    Reach (program sampleDeployment) Guard.any start config →
      ∀ channel ∈ readLoops device config.tasks,
        config.shared.revokedConnection device channel = false →
          ∃ newest ∈ liveChannels device config.tasks,
            config.shared.app.channelOf device = some newest ∧
              ∀ other ∈ liveChannels device config.tasks, other ≤ newest := by
  intro follows
  obtain ⟨config, reached, seen⟩ := Reach.of_observed (program sampleDeployment) Guard.any
    sampleStart reconnect (fun config => (readLoops (Uuid.small 1) config.tasks,
      config.shared.revokedConnection (Uuid.small 1) 1,
      config.shared.app.channelOf (Uuid.small 1))) ([1], false, none) (by decide +kernel)
  simp only [Prod.mk.injEq] at seen
  obtain ⟨reading, unrevoked, missing⟩ := seen
  obtain ⟨newest, _, entry, _⟩ := follows _ _ (Uuid.small 1) sampleStart_start reached 1
    (by simp [reading]) unrevoked
  rw [missing] at entry
  cases entry

end OsfmEdm
