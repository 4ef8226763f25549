import OsfmEdm.Fleet.State

/-!
Which part of the fleet each effect touches; the other parts stay.
-/

namespace OsfmEdm

open JsonText

namespace Effect

def touchesApp : Effect → Bool
  | .tick | .enrollDevice .. | .insertJob .. | .markDispatched _ | .markCancelled _
  | .revokeCertificates _ | .dropCredential _ | .markOnline _ | .markOffline _ | .act ..
  | .register _ | .disconnect _ | .cutOff _ => true
  | _ => false

def touchesChannels : Effect → Bool
  | .register _ | .enqueue .. | .take _ | .abort _ | .dropReceiver .. => true
  | _ => false

def touchesSockets : Effect → Bool
  | .accept _ | .write .. | .readSocket _ | .receive _ | .leave _ | .flush .. => true
  | _ => false

def touchesAgents : Effect → Bool
  | .receive _ | .handle .. | .emit .. | .flush .. | .registerKill .. | .removeKill .. => true
  | _ => false

def touchesHistory : Effect → Bool
  | .enqueue .. | .write .. | .dropReceiver .. | .receive _ | .leave _ | .handle ..
  | .cutOff _ => true
  | _ => false

/-- The effects on the jobs table. -/
def touchesJobs : Effect → Bool
  | .insertJob .. | .markDispatched _ | .markCancelled _ => true
  | .act _ (.completeJob ..) _ => true
  | _ => false

/-- The effects on the devices table. -/
def touchesDevices : Effect → Bool
  | .enrollDevice .. | .dropCredential _ | .markOnline _ | .markOffline _ => true
  | .act _ (.heartbeat _) _ => true
  | _ => false

/-- The effects on the registry of connections. -/
def touchesEntries : Effect → Bool
  | .register _ | .disconnect _ | .cutOff _ => true
  | _ => false

end Effect

namespace Fleet

variable (s : Fleet)

theorem app_apply {effect : Effect} (untouched : effect.touchesApp = false) :
    (s.apply effect).app = s.app := by
  cases effect with
  | enqueue | write | dropReceiver | receive | leave =>
      simp only [apply]
      repeat' split
      all_goals rfl
  | none | accept | take | abort | readSocket | handle | emit | flush | registerKill
  | removeKill => rfl
  | _ => cases untouched

theorem channels_apply {effect : Effect} (untouched : effect.touchesChannels = false) :
    (s.apply effect).channels = s.channels := by
  cases effect with
  | write | receive | leave =>
      simp only [apply]
      repeat' split
      all_goals rfl
  | register | enqueue | take | abort | dropReceiver => cases untouched
  | _ => rfl

theorem sockets_apply {effect : Effect} (untouched : effect.touchesSockets = false) :
    (s.apply effect).sockets = s.sockets := by
  cases effect with
  | enqueue | dropReceiver =>
      simp only [apply]
      split <;> rfl
  | accept | write | readSocket | receive | leave | flush => cases untouched
  | _ => rfl

theorem agents_apply {effect : Effect} (untouched : effect.touchesAgents = false) :
    (s.apply effect).agents = s.agents := by
  cases effect with
  | enqueue | write | dropReceiver | leave =>
      simp only [apply]
      repeat' split
      all_goals rfl
  | receive | handle | emit | flush | registerKill | removeKill => cases untouched
  | _ => rfl

theorem history_apply {effect : Effect} (untouched : effect.touchesHistory = false) :
    (s.apply effect).history = s.history := by
  cases effect with
  | enqueue | write | dropReceiver | receive | leave | handle | cutOff => cases untouched
  | _ => rfl

/-- What an effect records. -/
def events : Effect → List Event
  | .enqueue channel message =>
      match s.channels[channel]? with
      | some c => [.sent c.device ⟨s.serials, message⟩]
      | none => []
  | .write socket envelope =>
      match s.sockets[socket]? with
      | some k => if k.agentOpen then [] else [.discarded k.device envelope]
      | none => []
  | .dropReceiver channel taken =>
      match s.channels[channel]? with
      | some c => (taken.toList ++ c.queue).map (.discarded c.device)
      | none => []
  | .receive socket =>
      match s.sockets[socket]? with
      | some { device, toAgent := envelope :: _, .. } => [.received device envelope]
      | _ => []
  | .leave socket =>
      match s.sockets[socket]? with
      | some k => k.toAgent.map (.discarded k.device)
      | none => []
  | .handle device reaction serial => reactionEvent device serial reaction
  | .cutOff device => [.cutOff device s.channels.length]
  | _ => []

/-- Which effect records which event. -/
inductive Recorded : Effect → Event → Prop where
  | sent {channel message c} (found : s.channels[channel]? = some c) :
      Recorded (.enqueue channel message) (.sent c.device ⟨s.serials, message⟩)
  | unread {socket envelope device} :
      Recorded (.write socket envelope) (.discarded device envelope)
  | dropped {channel taken device envelope} :
      Recorded (.dropReceiver channel taken) (.discarded device envelope)
  | received {socket device envelope} : Recorded (.receive socket) (.received device envelope)
  | left {socket device envelope} : Recorded (.leave socket) (.discarded device envelope)
  | executed {device job payload serial} :
      Recorded (.handle device (.execute job payload) serial) (.executed device job)
  | revoked {device job serial} :
      Recorded (.handle device (.cancel job) serial) (.revoked device job serial)
  | cutOff {device} : Recorded (.cutOff device) (.cutOff device s.channels.length)

theorem recorded_of_mem {effect : Effect} {event : Event} (member : event ∈ s.events effect) :
    s.Recorded effect event := by
  cases effect with
  | enqueue channel message =>
      simp only [events] at member
      split at member
      · rename_i c found
        cases List.mem_singleton.mp member
        exact .sent found
      · cases member
  | write socket envelope =>
      simp only [events] at member
      split at member
      · split at member
        · cases member
        · cases List.mem_singleton.mp member
          exact .unread
      · cases member
  | dropReceiver channel taken =>
      simp only [events] at member
      split at member
      · obtain ⟨envelope, _, rfl⟩ := List.mem_map.mp member
        exact .dropped
      · cases member
  | receive socket =>
      simp only [events] at member
      split at member
      · cases List.mem_singleton.mp member
        exact .received
      · cases member
  | leave socket =>
      simp only [events] at member
      split at member
      · obtain ⟨envelope, _, rfl⟩ := List.mem_map.mp member
        exact .left
      · cases member
  | handle device reaction serial =>
      cases reaction with
      | execute job payload =>
          cases List.mem_singleton.mp member
          exact .executed
      | cancel job =>
          cases List.mem_singleton.mp member
          exact .revoked
      | _ => cases member
  | cutOff device =>
      cases List.mem_singleton.mp member
      exact .cutOff
  | _ => cases member

theorem history_events (effect : Effect) :
    (s.apply effect).history = s.history ++ s.events effect := by
  cases effect with
  | enqueue channel | dropReceiver channel =>
      cases found : s.channels[channel]? <;>
        simp [apply, events, record, updateChannel, found]
  | write socket envelope =>
      cases found : s.sockets[socket]? with
      | none => simp [apply, events, found]
      | some k =>
          cases agentOpen : k.agentOpen <;>
            simp [apply, events, record, updateSocket, found, agentOpen]
  | leave socket =>
      cases found : s.sockets[socket]? <;>
        simp [apply, events, record, updateSocket, found]
  | receive socket =>
      cases found : s.sockets[socket]? with
      | none => simp [apply, events, found]
      | some k =>
          obtain ⟨device, toAgent, toServer, agentOpen⟩ := k
          cases toAgent <;>
            simp [apply, events, record, updateSocket, updateAgent, found]
  | handle | cutOff => rfl
  | _ => exact (List.append_nil _).symm

theorem inbound_apply {effect : Effect} (receives : ∀ socket, effect ≠ .receive socket)
    (handles : ∀ owner reaction serial, effect ≠ .handle owner reaction serial) (device : Uuid) :
    ((s.apply effect).agents device).inbound = (s.agents device).inbound := by
  by_cases untouched : effect.touchesAgents = false
  · rw [agents_apply s untouched]
  cases effect with
  | emit owner | registerKill owner | removeKill owner | flush owner =>
      by_cases own : device = owner
      · subst own
        simp [apply, updateAgent, updateSocket]
      · simp [apply, updateAgent, updateSocket, own]
  | receive socket => exact absurd rfl (receives socket)
  | handle owner reaction serial => exact absurd rfl (handles owner reaction serial)
  | _ => exact absurd rfl untouched

theorem jobs_perform (device : Uuid) (state : AppState) (fails : Bool) (action : Action)
    (untouched : (Effect.act device action fails).touchesJobs = false) :
    (action.perform device state fails).db.jobs = state.db.jobs := by
  generalize performed : action.perform device state fails = after
  cases performed ▸ action.left_perform device state fails with
  | completed => cases untouched
  | _ => rfl

theorem jobs_apply {effect : Effect} (untouched : effect.touchesJobs = false) :
    (s.apply effect).app.db.jobs = s.app.db.jobs := by
  by_cases app : effect.touchesApp = true
  · cases effect with
    | act device action fails => exact jobs_perform device s.app fails action untouched
    | enrollDevice device tokenHash =>
        simp only [apply, updateDb, Database.enrollDevice]
        split <;> rfl
    | insertJob | markDispatched | markCancelled => cases untouched
    | tick | revokeCertificates | dropCredential | markOnline | markOffline | register
    | disconnect | cutOff => rfl
    | _ => cases app
  · rw [app_apply s (by simpa using app)]

theorem devices_perform (device : Uuid) (state : AppState) (fails : Bool) (action : Action)
    (untouched : (Effect.act device action fails).touchesDevices = false) :
    (action.perform device state fails).db.devices = state.db.devices := by
  generalize performed : action.perform device state fails = after
  cases performed ▸ action.left_perform device state fails with
  | heartbeat => cases untouched
  | _ => rfl

theorem devices_apply {effect : Effect} (untouched : effect.touchesDevices = false) :
    (s.apply effect).app.db.devices = s.app.db.devices := by
  by_cases app : effect.touchesApp = true
  · cases effect with
    | act device action fails => exact devices_perform device s.app fails action untouched
    | insertJob job device payload createdBy =>
        simp only [apply, updateDb, Database.insertJob]
        split
        · cases s.app.db.jobs.insert job _ <;> rfl
        · rfl
    | enrollDevice | dropCredential | markOnline | markOffline => cases untouched
    | tick | markDispatched | markCancelled | revokeCertificates | register | disconnect
    | cutOff => rfl
    | _ => cases app
  · rw [app_apply s (by simpa using app)]

theorem entries_perform (device : Uuid) (state : AppState) (fails : Bool) (action : Action) :
    (action.perform device state fails).connectedAgents = state.connectedAgents := by
  generalize performed : action.perform device state fails = after
  cases performed ▸ action.left_perform device state fails <;> rfl

theorem entries_apply {effect : Effect} (untouched : effect.touchesEntries = false) :
    (s.apply effect).app.connectedAgents = s.app.connectedAgents := by
  by_cases app : effect.touchesApp = true
  · cases effect with
    | act device action fails => exact entries_perform device s.app fails action
    | register | disconnect | cutOff => cases untouched
    | tick | enrollDevice | insertJob | markDispatched | markCancelled | revokeCertificates
    | dropCredential | markOnline | markOffline => rfl
    | _ => cases app
  · rw [app_apply s (by simpa using app)]

theorem channelOf_apply {effect : Effect} (untouched : effect.touchesEntries = false)
    (device : Uuid) : (s.apply effect).app.channelOf device = s.app.channelOf device := by
  simp only [AppState.channelOf, entries_apply s untouched]

end Fleet

end OsfmEdm
