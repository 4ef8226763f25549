import OsfmEdm.Fleet.Turn

/-!
Connections keep to their device, and no message is lost or doubled unseen: what was sent to
a device is in a channel, in the hand of a write task or in a socket of that device, or its
agent has received it, or it was discarded with a connection.
-/

namespace OsfmEdm

open Interleaving JsonText

/-! ## Devices of channels and sockets -/

/-- The channel of a connection that has registered. -/
def Handler.channel? : Handler → Option Nat
  | .verifyDevice | .register => none
  | .markOnline channel | .reading channel | .processing channel _ | .unregister channel
  | .markOffline channel | .abort channel => some channel

/-- The device, socket and channel a task of a connection works on. -/
def Task.connection : Task → Option (Uuid × Nat × Option Nat)
  | .handler device socket phase => some (device, socket, phase.channel?)
  | .writer device socket channel _ => some (device, socket, some channel)
  | _ => none

namespace Fleet

def channelDevice (s : Fleet) (channel : Nat) : Option Uuid := (s.channels[channel]?).map (·.device)

def socketDevice (s : Fleet) (socket : Nat) : Option Uuid := (s.sockets[socket]?).map (·.device)

theorem map_modify_getElem? {α β : Type} (view : α → β) (change : α → α)
    (same : ∀ item, view (change item) = view item) (items : List α) (index other : Nat) :
    ((items.modify index change)[other]?).map view = (items[other]?).map view := by
  rw [List.getElem?_modify, Option.map_eq_map, Option.map_map]
  congr 1
  funext item
  simp only [Function.comp_apply]
  split
  · exact same item
  · rfl

theorem channelDevice_modified {s s' : Fleet} {channel other : Nat} {change : Channel → Channel}
    (channels : s'.channels = s.channels.modify channel change)
    (same : ∀ c, (change c).device = c.device) :
    s'.channelDevice other = s.channelDevice other := by
  rw [channelDevice, channels]
  exact map_modify_getElem? _ change same s.channels channel other

theorem socketDevice_modified {s s' : Fleet} {socket other : Nat} {change : Socket → Socket}
    (sockets : s'.sockets = s.sockets.modify socket change)
    (same : ∀ k, (change k).device = k.device) :
    s'.socketDevice other = s.socketDevice other := by
  rw [socketDevice, sockets]
  exact map_modify_getElem? _ change same s.sockets socket other

theorem channelDevice_apply {s : Fleet} {channel : Nat} {device : Uuid}
    (owned : s.channelDevice channel = some device) (effect : Effect) :
    (s.apply effect).channelDevice channel = some device := by
  by_cases untouched : effect.touchesChannels = false
  · rwa [channelDevice, channels_apply s untouched]
  cases effect with
  | register new =>
      simp only [channelDevice, apply, List.getElem?_append]
      obtain ⟨c, found, _⟩ := Option.map_eq_some_iff.mp owned
      rw [if_pos (List.getElem?_eq_some_iff.mp found).1]
      exact owned
  | take target | abort target =>
      rw [← owned]
      apply channelDevice_modified rfl
      intro c
      rfl
  | enqueue target _ | dropReceiver target _ =>
      rw [← owned]
      simp only [apply]
      split
      · apply channelDevice_modified rfl
        intro c
        rfl
      · rfl
  | _ => exact absurd rfl untouched

theorem socketDevice_apply {s : Fleet} {socket : Nat} {device : Uuid}
    (owned : s.socketDevice socket = some device) (effect : Effect) :
    (s.apply effect).socketDevice socket = some device := by
  by_cases untouched : effect.touchesSockets = false
  · rwa [socketDevice, sockets_apply s untouched]
  cases effect with
  | accept new =>
      simp only [socketDevice, apply, List.getElem?_append]
      obtain ⟨k, found, _⟩ := Option.map_eq_some_iff.mp owned
      rw [if_pos (List.getElem?_eq_some_iff.mp found).1]
      exact owned
  | readSocket target | flush _ target =>
      rw [← owned]
      apply socketDevice_modified rfl
      intro k
      rfl
  | write target _ | receive target | leave target =>
      rw [← owned]
      simp only [apply]
      repeat' split
      all_goals
        first
          | rfl
          | apply socketDevice_modified rfl
            intro k
            rfl
  | _ => exact absurd rfl untouched

/-- A registry entry leads to a channel of its device. -/
def EntriesWired (s : Fleet) : Prop :=
  ∀ device channel, s.app.channelOf device = some channel → s.channelDevice channel = some device

/-- A connection's socket and channel are its device's. -/
def Wired (s : Fleet) (task : Task) : Prop :=
  ∀ connection ∈ task.connection, s.socketDevice connection.2.1 = some connection.1 ∧
    ∀ channel ∈ connection.2.2, s.channelDevice channel = some connection.1

theorem entriesWired_apply {s : Fleet} (wired : EntriesWired s) (effect : Effect) :
    EntriesWired (s.apply effect) := by
  intro device channel entry
  by_cases untouched : effect.touchesEntries = false
  · rw [channelOf_apply s untouched] at entry
    exact channelDevice_apply (wired device channel entry) effect
  cases effect with
  | register new =>
      simp only [apply, AppState.channelOf_register] at entry
      split at entry
      · rename_i same
        cases entry
        simp [channelDevice, apply, same]
      · exact channelDevice_apply (wired device channel entry) _
  | disconnect gone | cutOff gone =>
      simp only [apply, record, AppState.channelOf_disconnectAgent] at entry
      split at entry
      · cases entry
      · exact wired device channel entry
  | _ => exact absurd rfl untouched

variable {deployment : Deployment} {s : Fleet} {task : Task} {choice : Choice} {effect : Effect}
  {new : List Task}

theorem Turn.connects (turn : Turn deployment s task choice effect new) {after : Task}
    (member : after ∈ new) {device : Uuid} {socket : Nat} {channel : Option Nat}
    (connection : after.connection = some (device, socket, channel)) :
    task.connection = some (device, socket, channel) ∨
      (task.connection = some (device, socket, none) ∧ effect = .register device ∧
        channel = some s.channels.length) ∨
      (effect = .accept device ∧ socket = s.sockets.length ∧ channel = none) := by
  cases turn with
  | upgradeAccepted authentic =>
      rw [List.mem_singleton.mp member] at connection
      cases connection
      exact .inr (.inr ⟨rfl, rfl, rfl⟩)
  | handlerRegistered =>
      rw [List.mem_singleton.mp member] at connection
      cases connection
      exact .inr (.inl ⟨rfl, rfl, rfl⟩)
  | handlerOnline done =>
      simp only [List.mem_cons, List.not_mem_nil, or_false] at member
      rcases member with rfl | rfl | rfl <;> cases connection
      · exact .inl rfl
      · exact .inl rfl
  | handlerVerified | handlerReads | handlerCloses | handlerActs | handlerProcessed
  | handlerUnregisters | handlerOffline | handlerStaysOnline | writerTakes | writerWrites =>
      rw [List.mem_singleton.mp member] at connection
      cases connection
      exact .inl rfl
  | @agentHandles _ _ _ _ reaction inbound reacts =>
      cases reaction
      case execute | reject =>
          rw [List.mem_singleton.mp member] at connection
          cases connection
      all_goals cases member
  | _ =>
      first
        | cases member
          done
        | rw [List.mem_singleton.mp member] at connection
          cases connection

theorem wired_stable {s : Fleet} {task : Task} (wired : Wired s task) (effect : Effect) :
    Wired (s.apply effect) task := by
  intro connection member
  obtain ⟨socket, channels⟩ := wired connection member
  exact ⟨socketDevice_apply socket effect,
    fun channel own => channelDevice_apply (channels channel own) effect⟩

theorem Turn.wired_new (turn : Turn deployment s task choice effect new) (wired : Wired s task)
    {after : Task} (member : after ∈ new) : Wired (s.apply effect) after := by
  rintro ⟨device, socket, channel⟩ connection
  rcases turn.connects member connection with old | ⟨old, rfl, rfl⟩ | ⟨rfl, rfl, rfl⟩
  · exact wired_stable wired effect _ old
  · obtain ⟨own, _⟩ := wired _ old
    refine ⟨socketDevice_apply own _, ?_⟩
    intro channel same
    cases same
    simp [channelDevice, apply]
  · refine ⟨by simp [socketDevice, apply], ?_⟩
    intro channel absent
    cases absent

theorem wired_outline (deployment : Deployment) (guard : Guard Fleet Task Choice) :
    Outline (program deployment) guard EntriesWired Wired where
  arrive s task _ request := by
    intro connection member
    cases task with
    | handler | writer => cases request
    | _ => cases member
  step s others task choice s' new entries wired _ _ moved := by
    obtain ⟨effect, turn, rfl⟩ := program_step moved
    exact ⟨entriesWired_apply entries effect, fun after member => turn.wired_new wired member⟩
  stable s others task choice s' new _ _ _ moved other _ wired := by
    obtain ⟨effect, turn, rfl⟩ := program_step moved
    exact wired_stable wired effect

theorem wired_start {start : Config Fleet Task} (started : Start start) :
    Annotated EntriesWired Wired start where
  shared device channel entry := by
    simp [AppState.channelOf, started.entries device] at entry
  tasks := by simp [started.tasks]

end Fleet

/-! ## Messages -/

section

variable (device : Uuid) (kind : Envelope → Bool)

def Channel.carries (c : Channel) : Nat := if c.device = device then c.queue.countP kind else 0

def Socket.carries (k : Socket) : Nat := if k.device = device then k.toAgent.countP kind else 0

def Task.carries : Task → Nat
  | .writer owner _ _ (some envelope) => if owner = device ∧ kind envelope then 1 else 0
  | _ => 0

def Event.isSent : Event → Bool
  | .sent owner envelope => owner = device ∧ kind envelope
  | _ => false

def Event.isReceived : Event → Bool
  | .received owner envelope => owner = device ∧ kind envelope
  | _ => false

def Event.isDiscarded : Event → Bool
  | .discarded owner envelope => owner = device ∧ kind envelope
  | _ => false

namespace Fleet

def sentCount (s : Fleet) : Nat := s.history.countP (Event.isSent device kind)

def receivedCount (s : Fleet) : Nat := s.history.countP (Event.isReceived device kind)

def discardedCount (s : Fleet) : Nat := s.history.countP (Event.isDiscarded device kind)

/-- The messages on their way to the device's agent. -/
def inFlight (s : Fleet) (tasks : List Task) : Nat :=
  total (Channel.carries device kind) s.channels + total (Socket.carries device kind) s.sockets +
    total (Task.carries device kind) tasks

/-- Every message sent is on its way, received or discarded. -/
def Balanced (s : Fleet) (tasks : List Task) : Prop :=
  s.sentCount device kind =
    s.inFlight device kind tasks + s.receivedCount device kind + s.discardedCount device kind

end Fleet

end

namespace Fleet

variable {deployment : Deployment} {s : Fleet} {task : Task} {choice : Choice} {effect : Effect}
  {new before after : List Task} {device : Uuid} {kind : Envelope → Bool}

theorem countP_discarded (owner : Uuid) (envelopes : List Envelope) (device : Uuid)
    (kind : Envelope → Bool) :
    (envelopes.map (Event.discarded owner)).countP (Event.isDiscarded device kind) =
      if owner = device then envelopes.countP kind else 0 := by
  rw [List.countP_map]
  by_cases own : owner = device
  · rw [if_pos own]
    congr 1
    funext envelope
    simp [Event.isDiscarded, own]
  · rw [if_neg own, List.countP_eq_zero]
    intro envelope _
    simp [Event.isDiscarded, own]

theorem countP_discarded_other (owner : Uuid) (envelopes : List Envelope) {count : Event → Bool}
    (other : ∀ envelope, count (.discarded owner envelope) = false) :
    (envelopes.map (Event.discarded owner)).countP count = 0 := by
  rw [List.countP_eq_zero]
  intro event member
  obtain ⟨envelope, _, rfl⟩ := List.mem_map.mp member
  simp [other]

theorem balanced_idle (balanced : Balanced device kind s (before ++ task :: after))
    (channels : total (Channel.carries device kind) (s.apply effect).channels =
      total (Channel.carries device kind) s.channels)
    (sockets : total (Socket.carries device kind) (s.apply effect).sockets =
      total (Socket.carries device kind) s.sockets)
    (history : (s.apply effect).history = s.history)
    (carries : total (Task.carries device kind) new = task.carries device kind) :
    Balanced device kind (s.apply effect) (before ++ new ++ after) := by
  simp only [Balanced, sentCount, receivedCount, discardedCount, inFlight, channels, sockets,
    history, total_append, total_cons] at balanced ⊢
  omega

theorem balanced_untouched (balanced : Balanced device kind s (before ++ task :: after))
    (channels : effect.touchesChannels = false) (sockets : effect.touchesSockets = false)
    (history : effect.touchesHistory = false)
    (carries : total (Task.carries device kind) new = task.carries device kind) :
    Balanced device kind (s.apply effect) (before ++ new ++ after) :=
  balanced_idle balanced (by rw [channels_apply s channels]) (by rw [sockets_apply s sockets])
    (history_apply s history) carries

theorem balanced_sends (balanced : Balanced device kind s (before ++ task :: after))
    {owner : Uuid} {message : ServerMessage} {sent : Option Nat}
    (sends : Sends s owner message effect sent)
    (carries : total (Task.carries device kind) new = task.carries device kind) :
    Balanced device kind (s.apply effect) (before ++ new ++ after) := by
  cases sends with
  | unsent closed => exact balanced_untouched balanced rfl rfl rfl carries
  | @sent channel opened =>
      obtain ⟨_, c, found, _⟩ := openChannel_some opened
      have moved := total_modify (Channel.carries device kind)
        (fun c => { c with queue := c.queue ++ [⟨s.serials, message⟩] }) found
      simp only [Balanced, sentCount, receivedCount, discardedCount, inFlight, total_append,
        total_cons, apply, found, updateChannel, record, List.countP_append, List.countP_singleton,
        Event.isSent, Event.isReceived, Event.isDiscarded, Channel.carries] at balanced moved ⊢
      by_cases own : c.device = device
      · simp only [own, if_true, true_and, decide_eq_true_eq, Bool.false_eq_true, if_false] at moved ⊢
        omega
      · simp only [own, if_false, false_and, decide_false, Bool.false_eq_true] at moved ⊢
        omega

theorem Turn.balanced (turn : Turn deployment s task choice effect new) (wired : Wired s task)
    (balanced : Balanced device kind s (before ++ task :: after)) :
    Balanced device kind (s.apply effect) (before ++ new ++ after) := by
  cases turn with
  | createSent valid sends | cancelSent sends | jobSent valid sends | policiesSent sends
  | inventoryRequested sends | pushed _ sends =>
      exact balanced_sends balanced sends rfl
  | upgradeAccepted authentic =>
      refine balanced_idle balanced rfl ?_ rfl rfl
      simp [apply, Socket.carries]
  | handlerRegistered =>
      refine balanced_idle balanced ?_ rfl rfl rfl
      simp [apply, Channel.carries]
  | @handlerReads _ socket _ _ _ _ found incoming =>
      refine balanced_idle balanced rfl ?_ rfl rfl
      apply total_modify_same
      intro item
      rfl
  | @handlerEnds _ _ channel _ =>
      refine balanced_idle balanced ?_ rfl rfl rfl
      apply total_modify_same
      intro item
      rfl
  | @agentFlushes _ socket _ =>
      refine balanced_idle balanced rfl ?_ rfl rfl
      apply total_modify_same
      intro item
      rfl
  | handlerOnline done => cases done <;> exact balanced_untouched balanced rfl rfl rfl rfl
  | deleteDisconnected =>
      simpa [Balanced, sentCount, receivedCount, discardedCount, inFlight, apply, record,
        Event.isSent, Event.isReceived, Event.isDiscarded, Task.carries] using balanced
  | @writerTakes owner socket channel c envelope rest found queued =>
      have channelOwned : c.device = owner := by
        have own := (wired (owner, socket, some channel) rfl).2 channel rfl
        simpa [channelDevice, found] using own
      have moved := total_modify (Channel.carries device kind)
        (fun c => { c with queue := c.queue.tail }) found
      simp only [Balanced, sentCount, receivedCount, discardedCount, inFlight, total_append,
        total_cons, total_nil, apply, updateChannel, Channel.carries, Task.carries, queued,
        channelOwned, List.tail_cons, List.countP_cons] at balanced moved ⊢
      by_cases own : owner = device
      · simp only [own, if_true, true_and] at moved ⊢
        omega
      · simp only [own, if_false, false_and] at moved ⊢
        omega
  | @writerWrites owner socket channel envelope =>
      have socketOwned := (wired (owner, socket, some channel) rfl).1
      obtain ⟨k, found, sameDevice⟩ := Option.map_eq_some_iff.mp socketOwned
      have moved := total_modify (Socket.carries device kind)
        (fun k => { k with toAgent := k.toAgent ++ [envelope] }) found
      by_cases agentOpen : k.agentOpen = true
      · simp only [Balanced, sentCount, receivedCount, discardedCount, inFlight, total_append,
          total_cons, total_nil, apply, found, agentOpen, if_true, updateSocket, Socket.carries,
          Task.carries, sameDevice, List.countP_append, List.countP_singleton] at balanced moved ⊢
        by_cases own : owner = device
        · simp only [own, if_true, true_and] at balanced moved ⊢
          omega
        · simp only [own, if_false, false_and] at balanced moved ⊢
          omega
      · simp only [Balanced, sentCount, receivedCount, discardedCount, inFlight, total_append,
          total_cons, total_nil, apply, found, agentOpen, if_false, record, Task.carries,
          sameDevice, List.countP_append, List.countP_singleton, Event.isSent, Event.isReceived,
          Event.isDiscarded, Bool.false_eq_true, decide_eq_true_eq] at balanced ⊢
        omega
  | @writerEnds owner socket channel taken _ stops =>
      have channelOwned := (wired (owner, socket, some channel) rfl).2 channel rfl
      obtain ⟨c, found, sameDevice⟩ := Option.map_eq_some_iff.mp channelOwned
      have moved := total_modify (Channel.carries device kind)
        (fun c => { c with queue := [], receiving := false }) found
      have discarded := countP_discarded owner (taken.toList ++ c.queue) device kind
      have sent : ((taken.toList ++ c.queue).map (Event.discarded owner)).countP
          (Event.isSent device kind) = 0 := countP_discarded_other _ _ fun _ => rfl
      have received : ((taken.toList ++ c.queue).map (Event.discarded owner)).countP
          (Event.isReceived device kind) = 0 := countP_discarded_other _ _ fun _ => rfl
      simp only [Balanced, sentCount, receivedCount, discardedCount, inFlight, total_append,
        total_cons, total_nil, apply, found, updateChannel, record, Channel.carries, sameDevice,
        List.countP_append, sent, received, discarded, List.countP_nil] at balanced moved ⊢
      by_cases own : owner = device
      · cases taken <;> simp [own, Task.carries] at balanced moved ⊢ <;> omega
      · cases taken <;> simp [own, Task.carries] at balanced moved ⊢ <;> omega
  | @agentReceives socket k envelope rest _ found incoming agentOpen =>
      have moved := total_modify (Socket.carries device kind)
        (fun k => { k with toAgent := rest }) found
      obtain ⟨owner, toAgent, toServer, _⟩ := k
      cases incoming
      cases agentOpen
      simp only [Balanced, sentCount, receivedCount, discardedCount, inFlight, total_append,
        total_cons, total_nil, apply, found, updateSocket, updateAgent, record, Socket.carries,
        Task.carries, List.countP_append, List.countP_nil, List.countP_cons, Event.isSent,
        Event.isReceived, Event.isDiscarded, Bool.false_eq_true, if_false, decide_eq_true_eq]
        at balanced moved ⊢
      by_cases own : owner = device
      · simp only [own, if_true, true_and] at balanced moved ⊢
        omega
      · simp only [own, if_false, false_and] at balanced moved ⊢
        omega
  | @agentLeaves socket _ =>
      cases found : s.sockets[socket]? with
      | none => simpa [apply, found, Task.carries, Balanced, inFlight] using balanced
      | some k =>
          have moved := total_modify (Socket.carries device kind)
            (fun k => { k with toAgent := [], agentOpen := false }) found
          have discarded := countP_discarded k.device k.toAgent device kind
          have sent : (k.toAgent.map (Event.discarded k.device)).countP
              (Event.isSent device kind) = 0 := countP_discarded_other _ _ fun _ => rfl
          have received : (k.toAgent.map (Event.discarded k.device)).countP
              (Event.isReceived device kind) = 0 := countP_discarded_other _ _ fun _ => rfl
          simp only [Balanced, sentCount, receivedCount, discardedCount, inFlight, total_append,
            total_cons, total_nil, apply, found, updateSocket, record, Socket.carries, Task.carries,
            List.countP_append, sent, received, discarded, List.countP_nil] at balanced moved ⊢
          by_cases own : k.device = device
          · simp only [own, if_true] at moved ⊢
            omega
          · simp only [own, if_false] at moved ⊢
            omega
  | @agentHandles owner envelope rest _ reaction inbound reacts =>
      have silent (count : Event → Bool) (executed : ∀ job, count (.executed owner job) = false)
          (revoked : ∀ job serial, count (.revoked owner job serial) = false) :
          (reactionEvent owner envelope.serial reaction).countP count = 0 := by
        cases reaction <;> simp [reactionEvent, executed, revoked]
      have sent := silent (Event.isSent device kind) (fun _ => rfl) fun _ _ => rfl
      have received := silent (Event.isReceived device kind) (fun _ => rfl) fun _ _ => rfl
      have discarded := silent (Event.isDiscarded device kind) (fun _ => rfl) fun _ _ => rfl
      have spawned : total (Task.carries device kind) (reaction.spawns owner) = 0 := by
        cases reaction <;> rfl
      simp only [Balanced, sentCount, receivedCount, discardedCount, inFlight, total_append,
        total_cons, apply, updateAgent, record, Task.carries, List.countP_append, sent, received,
        discarded, spawned] at balanced ⊢
      omega
  | _ => exact balanced_untouched balanced rfl rfl rfl rfl

end Fleet

/-- In every run, every message sent to a device is on its way to the agent, received by it, or
discarded with a connection, and only one of these. -/
theorem messages_balanced (deployment : Deployment) {guard : Guard Fleet Task Choice}
    {start config : Config Fleet Task} (started : Start start)
    (reached : Reach (program deployment) guard start config) (device : Uuid)
    (kind : Envelope → Bool) : config.shared.Balanced device kind config.tasks := by
  refine (Fleet.wired_outline deployment guard).carry (Fleet.wired_start started)
    (fun config => config.shared.Balanced device kind config.tasks) ?_ ?_ ?_ reached
  · simp [Fleet.Balanced, Fleet.sentCount, Fleet.receivedCount, Fleet.discardedCount,
      Fleet.inFlight, started.channels, started.sockets, started.tasks, started.history]
  · intro s tasks task _ balanced request
    have empty : task.carries device kind = 0 := by
      cases task with
      | writer => cases request
      | _ => rfl
    simpa [Fleet.Balanced, Fleet.inFlight, empty] using balanced
  · intro s s' front back new task choice wired balanced _ moved
    obtain ⟨effect, turn, rfl⟩ := program_step moved
    exact turn.balanced (wired.tasks task (by simp)) balanced

end OsfmEdm
