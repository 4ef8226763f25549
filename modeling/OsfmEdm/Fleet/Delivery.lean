import OsfmEdm.Fleet.Dispatch
import OsfmEdm.Fleet.Orders

/-!
Delivery of dispatched jobs. A job counts as sent as soon as its message is in a channel, and a
closing connection throws its messages away. Where no message of a job that is dispatched or
about to be marked so is thrown away, no dispatched job is lost.
-/

namespace OsfmEdm

open Interleaving JsonText

/-! ## Messages thrown away -/

namespace Fleet

/-- The messages a step throws away: what a write task holds when it ends or finds its socket
closed, and what is in a socket that the agent leaves. -/
def thrownAway (s : Fleet) (choice : Choice) : Task → List Envelope
  | .writer _ socket channel taken =>
      if choice = .proceeds then
        match s.sockets[socket]? with
        | some { agentOpen := false, .. } => taken.toList
        | _ => []
      else
        match s.channels[channel]? with
        | some c => taken.toList ++ c.queue
        | none => []
  | .agentLeaves socket =>
      match s.sockets[socket]? with
      | some k => k.toAgent
      | none => []
  | _ => []

variable {deployment : Deployment} {s : Fleet} {task : Task} {choice : Choice} {effect : Effect}
  {new : List Task}

theorem countP_discarded_le (owner : Uuid) (envelopes : List Envelope) (device : Uuid)
    (kind : Envelope → Bool) :
    (envelopes.map (Event.discarded owner)).countP (Event.isDiscarded device kind) ≤
      envelopes.countP kind := by
  rw [countP_discarded]
  split
  · exact Nat.le_refl _
  · exact Nat.zero_le _

theorem Turn.discards (turn : Turn deployment s task choice effect new) (device : Uuid)
    (kind : Envelope → Bool) :
    (s.events effect).countP (Event.isDiscarded device kind) ≤
      (s.thrownAway choice task).countP kind := by
  cases turn with
  | createSent _ sends | cancelSent sends | jobSent _ sends | policiesSent sends
  | inventoryRequested sends | pushed _ sends =>
      cases sends with
      | unsent => exact Nat.zero_le _
      | sent opened =>
          simp only [events]
          split <;> simp [Event.isDiscarded]
  | handlerOnline done => cases done <;> exact Nat.zero_le _
  | @writerWrites owner socket channel envelope =>
      simp only [events, thrownAway, if_true]
      cases found : s.sockets[socket]? with
      | none => exact Nat.zero_le _
      | some k =>
          obtain ⟨holder, toAgent, toServer, agentOpen⟩ := k
          cases agentOpen with
          | true => exact Nat.zero_le _
          | false => exact countP_discarded_le holder [envelope] device kind
  | @writerEnds owner socket channel taken _ stops =>
      simp only [events, thrownAway, stops, if_false]
      cases s.channels[channel]? with
      | none => exact Nat.zero_le _
      | some c => exact countP_discarded_le _ _ device kind
  | agentReceives found incoming agentOpen =>
      simp only [events]
      split
      · simp [Event.isDiscarded]
      · exact Nat.zero_le _
  | @agentLeaves socket _ =>
      simp only [events, thrownAway]
      cases s.sockets[socket]? with
      | none => exact Nat.zero_le _
      | some k => exact countP_discarded_le _ _ device kind
  | @agentHandles owner envelope rest _ reaction inbound reacts =>
      cases reaction <;> simp [events, reactionEvent, Event.isDiscarded]
  | _ => exact Nat.zero_le _

/-! ## Live connections -/

/-- A connection without a receiver has an empty queue, a socket the agent has left is empty. -/
structure Live (s : Fleet) : Prop where
  channels : ∀ c ∈ s.channels, c.queue ≠ [] → c.receiving = true
  sockets : ∀ k ∈ s.sockets, k.toAgent ≠ [] → k.agentOpen = true

theorem mem_modify {α : Type} {items : List α} {index : Nat} {change : α → α} {item : α}
    (member : item ∈ items.modify index change) :
    item ∈ items ∨ ∃ old, items[index]? = some old ∧ item = change old := by
  obtain ⟨position, found⟩ := List.mem_iff_getElem?.mp member
  rw [List.getElem?_modify] at found
  obtain ⟨old, present, same⟩ := Option.map_eq_some_iff.mp found
  split at same
  · rename_i here
    subst here
    exact .inr ⟨old, present, same.symm⟩
  · subst same
    exact .inl (List.mem_of_getElem? present)

theorem Live.modifyChannel {s' : Fleet} (live : Live s) {channel : Nat} {change : Channel → Channel}
    (channels : s'.channels = s.channels.modify channel change) (sockets : s'.sockets = s.sockets)
    (kept : ∀ c, s.channels[channel]? = some c → (change c).queue ≠ [] →
      (change c).receiving = true) : Live s' where
  channels c member := by
    rw [channels] at member
    rcases mem_modify member with old | ⟨before, found, rfl⟩
    · exact live.channels c old
    · exact kept before found
  sockets k member := live.sockets k (sockets ▸ member)

theorem Live.modifySocket {s' : Fleet} (live : Live s) {socket : Nat} {change : Socket → Socket}
    (sockets : s'.sockets = s.sockets.modify socket change) (channels : s'.channels = s.channels)
    (kept : ∀ k, s.sockets[socket]? = some k → (change k).toAgent ≠ [] →
      (change k).agentOpen = true) : Live s' where
  channels c member := live.channels c (channels ▸ member)
  sockets k member := by
    rw [sockets] at member
    rcases mem_modify member with old | ⟨before, found, rfl⟩
    · exact live.sockets k old
    · exact kept before found

theorem Live.untouched (live : Live s) (channels : effect.touchesChannels = false)
    (sockets : effect.touchesSockets = false) : Live (s.apply effect) where
  channels c member := live.channels c (channels_apply s channels ▸ member)
  sockets k member := live.sockets k (sockets_apply s sockets ▸ member)

theorem Turn.live (turn : Turn deployment s task choice effect new) (live : Live s) :
    Live (s.apply effect) := by
  have queued {channel : Nat} {c : Channel} (found : s.channels[channel]? = some c) :=
    live.channels c (List.mem_of_getElem? found)
  have waiting {socket : Nat} {k : Socket} (found : s.sockets[socket]? = some k) :=
    live.sockets k (List.mem_of_getElem? found)
  cases turn with
  | createSent _ sends | cancelSent sends | jobSent _ sends | policiesSent sends
  | inventoryRequested sends | pushed _ sends =>
      cases sends with
      | unsent => exact live
      | sent opened =>
          obtain ⟨_, c, found, receiving⟩ := openChannel_some opened
          simp only [apply, found]
          apply live.modifyChannel
          · rfl
          · rfl
          · intro c' same _
            cases found.symm.trans same
            exact receiving
  | upgradeAccepted =>
      refine ⟨live.channels, ?_⟩
      intro k member
      rcases List.mem_append.mp member with old | fresh
      · exact live.sockets k old
      · rw [List.mem_singleton.mp fresh]
        exact fun _ => rfl
  | handlerRegistered =>
      refine ⟨?_, live.sockets⟩
      intro c member
      rcases List.mem_append.mp member with old | fresh
      · exact live.channels c old
      · rw [List.mem_singleton.mp fresh]
        exact fun _ => rfl
  | handlerOnline done => cases done <;> exact live.untouched rfl rfl
  | handlerReads =>
      apply live.modifySocket
      · rfl
      · rfl
      · intro k found
        have kept := waiting found
        exact kept
  | handlerEnds =>
      apply live.modifyChannel
      · rfl
      · rfl
      · intro c found
        have kept := queued found
        exact kept
  | writerTakes found' incoming =>
      apply live.modifyChannel
      · rfl
      · rfl
      · intro c found rest
        apply queued found
        intro empty
        simp [empty] at rest
  | writerWrites =>
      simp only [apply]
      split
      · split
        · rename_i found agentOpen
          apply live.modifySocket
          · rfl
          · rfl
          · intro k' same _
            cases found.symm.trans same
            exact agentOpen
        · exact ⟨live.channels, live.sockets⟩
      · exact live
  | writerEnds =>
      simp only [apply]
      split
      · apply live.modifyChannel
        · rfl
        · rfl
        · intro c found rest
          exact absurd rfl rest
      · exact live
  | agentReceives found incoming agentOpen =>
      simp only [apply]
      split
      · apply live.modifySocket
        · rfl
        · rfl
        · intro k' same _
          cases found.symm.trans same
          exact agentOpen
      · exact live
  | agentLeaves =>
      simp only [apply]
      split
      · apply live.modifySocket
        · rfl
        · rfl
        · intro k found rest
          exact absurd rfl rest
      · exact live
  | agentFlushes =>
      apply live.modifySocket
      · rfl
      · rfl
      · intro k found
        have kept := waiting found
        exact kept
  | _ => exact live.untouched rfl rfl

end Fleet

/-- A dispatch of the job is in the queue of a connection of the device whose write task has its
receiver, in the hand of such a write task, or in a socket that the agent has open. -/
inductive Carried (device job : Uuid) (config : Config Fleet Task) : Prop where
  | queue {c : Channel} {envelope : Envelope} (channel : c ∈ config.shared.channels)
      (own : c.device = device) (receiving : c.receiving = true) (queued : envelope ∈ c.queue)
      (dispatches : envelope.job? = some job)
  | hand {socket channel : Nat} {envelope : Envelope}
      (writer : .writer device socket channel (some envelope) ∈ config.tasks)
      (dispatches : envelope.job? = some job)
  | socket {k : Socket} {envelope : Envelope} (socket : k ∈ config.shared.sockets)
      (own : k.device = device) (agentOpen : k.agentOpen = true) (incoming : envelope ∈ k.toAgent)
      (dispatches : envelope.job? = some job)

theorem carried_of_inFlight {device job : Uuid} {config : Config Fleet Task}
    (live : Fleet.Live config.shared)
    (positive : 0 < config.shared.inFlight device (Envelope.dispatches job) config.tasks) :
    Carried device job config := by
  have cases : 0 < total (Channel.carries device (Envelope.dispatches job)) config.shared.channels ∨
      0 < total (Task.carries device (Envelope.dispatches job)) config.tasks ∨
      0 < total (Socket.carries device (Envelope.dispatches job)) config.shared.sockets := by
    simp only [Fleet.inFlight] at positive
    omega
  rcases cases with queue | hand | socket
  · obtain ⟨c, member, carries⟩ := exists_of_total_pos queue
    unfold Channel.carries at carries
    split at carries
    · rename_i own
      obtain ⟨envelope, queued, dispatches⟩ := List.countP_pos_iff.mp carries
      exact .queue member own (live.channels c member (List.ne_nil_of_mem queued)) queued
        (by simpa [Envelope.dispatches] using dispatches)
    · cases carries
  · obtain ⟨task, member, carries⟩ := exists_of_total_pos hand
    unfold Task.carries at carries
    split at carries
    · rename_i owner socket channel envelope
      split at carries
      · rename_i own
        obtain ⟨rfl, dispatches⟩ := own
        exact .hand member (by simpa [Envelope.dispatches] using dispatches)
      · cases carries
    · cases carries
  · obtain ⟨k, member, carries⟩ := exists_of_total_pos socket
    unfold Socket.carries at carries
    split at carries
    · rename_i own
      obtain ⟨envelope, incoming, dispatches⟩ := List.countP_pos_iff.mp carries
      exact .socket member own (live.sockets k member (List.ne_nil_of_mem incoming)) incoming
        (by simpa [Envelope.dispatches] using dispatches)
    · cases carries

theorem inFlight_of_carried {device job : Uuid} {config : Config Fleet Task}
    (carried : Carried device job config) :
    0 < config.shared.inFlight device (Envelope.dispatches job) config.tasks := by
  have counted {envelope : Envelope} {envelopes : List Envelope} (member : envelope ∈ envelopes)
      (dispatches : envelope.job? = some job) :
      0 < envelopes.countP (Envelope.dispatches job) :=
    List.countP_pos_iff.mpr ⟨envelope, member, by simp [Envelope.dispatches, dispatches]⟩
  unfold Fleet.inFlight
  cases carried with
  | queue channel own receiving queued dispatches =>
      have positive : 0 < total (Channel.carries device (Envelope.dispatches job))
          config.shared.channels := total_pos channel
        (by simpa [Channel.carries, own] using counted queued dispatches)
      omega
  | hand writer dispatches =>
      have positive : 0 < total (Task.carries device (Envelope.dispatches job)) config.tasks :=
        total_pos writer (by simp [Task.carries, Envelope.dispatches, dispatches])
      omega
  | socket socket own agentOpen incoming dispatches =>
      have positive : 0 < total (Socket.carries device (Envelope.dispatches job))
          config.shared.sockets := total_pos socket
        (by simpa [Socket.carries, own] using counted incoming dispatches)
      omega

/-! ## When no dispatched job is lost -/

/-- The condition on each step: a message is thrown away only while its job is neither dispatched
nor about to be marked so, and a report is stored only once the job was received. -/
structure NothingLost (s : Fleet) (others : List Task) (task : Task) (choice : Choice) : Prop where
  discards : ∀ envelope ∈ s.thrownAway choice task, ∀ job ∈ envelope.job?,
    s.jobStatus job ≠ some .dispatched ∧ ∀ other ∈ others, other.marking ≠ some job
  reports : ∀ report ∈ task.completing, choice = .proceeds → ∀ order ∈ s.jobOrder report.1,
    0 < s.receivedCount order.1 (Envelope.dispatches report.1)

instance (s : Fleet) (others : List Task) (task : Task) (choice : Choice) :
    Decidable (NothingLost s others task choice) :=
  decidable_of_iff (_ ∧ _)
    ⟨fun ⟨discards, reports⟩ => ⟨discards, reports⟩, fun ⟨discards, reports⟩ => ⟨discards, reports⟩⟩

namespace Fleet

variable {deployment : Deployment} {s : Fleet} {task : Task} {choice : Choice} {effect : Effect}
  {new : List Task}

/-- Of a job that is dispatched or about to be marked so, some message was not thrown away; a job
that is reported on was received. -/
structure Kept (job : Uuid) (s : Fleet) (tasks : List Task) : Prop where
  absent : s.jobStatus job = none → total (Task.unmarked job) tasks = 0
  sent : ∀ order ∈ s.jobOrder job,
    s.jobStatus job = some .dispatched ∨ 0 < total (Task.unmarked job) tasks →
      s.discardedCount order.1 (Envelope.dispatches job) <
        s.sentCount order.1 (Envelope.dispatches job)
  finished : ∀ order ∈ s.jobOrder job, ∀ status ∈ s.jobStatus job,
    status = .pending ∨ status = .dispatched ∨ status = .cancelled ∨
      0 < s.receivedCount order.1 (Envelope.dispatches job)

theorem unmarked_one {job : Uuid} {task : Task} (marking : task.marking = some job) :
    task.unmarked job = 1 := by
  simp [Task.unmarked, marking]

theorem Turn.discards_none (turn : Turn deployment s task choice effect new) {others : List Task}
    (nothing : NothingLost s others task choice) {job : Uuid}
    (claimed : s.jobStatus job = some .dispatched ∨ ∃ other ∈ others, other.marking = some job)
    (device : Uuid) :
    (s.events effect).countP (Event.isDiscarded device (Envelope.dispatches job)) = 0 := by
  have bound := turn.discards device (Envelope.dispatches job)
  have none : (s.thrownAway choice task).countP (Envelope.dispatches job) = 0 := by
    rw [List.countP_eq_zero]
    intro envelope thrown dispatches
    have own : envelope.job? = some job := by simpa [Envelope.dispatches] using dispatches
    obtain ⟨undispatched, unmarked⟩ := nothing.discards envelope thrown job own
    rcases claimed with dispatched | ⟨other, member, marking⟩
    · exact undispatched dispatched
    · exact unmarked other member marking
  omega

theorem receivedCount_le (s : Fleet) (device : Uuid) (kind : Envelope → Bool) (effect : Effect) :
    s.receivedCount device kind ≤ (s.apply effect).receivedCount device kind := by
  rw [receivedCount, receivedCount, history_events, List.countP_append]
  exact Nat.le_add_right _ _

theorem discardedCount_apply (device : Uuid) (kind : Envelope → Bool) (effect : Effect) :
    (s.apply effect).discardedCount device kind =
      s.discardedCount device kind + (s.events effect).countP (Event.isDiscarded device kind) := by
  rw [discardedCount, discardedCount, history_events, List.countP_append]

theorem Turn.marks_sent (turn : Turn deployment s task choice effect new)
    (ordered : Ordered s task) (wired : EntriesWired s) {after : Task} (member : after ∈ new)
    {job : Uuid} (marking : after.marking = some job) :
    ∃ order, s.jobOrder job = some order ∧
      (s.apply effect).sentCount order.1 (Envelope.dispatches job) =
        s.sentCount order.1 (Envelope.dispatches job) + 1 ∧
      (s.apply effect).discardedCount order.1 (Envelope.dispatches job) =
        s.discardedCount order.1 (Envelope.dispatches job) := by
  obtain ⟨device, payload, decoded, channel, dispatching, _, opened, rfl⟩ :=
    turn.marks member marking
  have found : s.jobOrder job = some (device, payload) := by
    cases task with
    | createJob _ _ _ phase =>
        cases phase with
        | dispatch id =>
            cases dispatching
            exact ordered _ List.mem_cons_self
        | _ => cases dispatching
    | onConnect _ phase =>
        cases phase with
        | jobs rest =>
            cases rest with
            | nil => cases dispatching
            | cons entry rest =>
                cases dispatching
                exact ordered _ List.mem_cons_self
        | _ => cases dispatching
    | _ => cases dispatching
  obtain ⟨entry, c, located, _⟩ := openChannel_some opened
  have own : c.device = device := by
    have same := wired device channel entry
    simpa [channelDevice, located] using same
  refine ⟨(device, payload), found, ?_, ?_⟩
  · rw [sentCount, sentCount, history_events, List.countP_append]
    simp [events, located, Event.isSent, own, Envelope.dispatches, Envelope.job?]
  · rw [discardedCount_apply]
    simp [events, located, Event.isDiscarded]

theorem thrownAway_marking {job : Uuid} (marking : task.marking = some job) :
    s.thrownAway choice task = [] := by
  cases task with
  | createJob | onConnect => rfl
  | _ => cases marking

theorem exists_marking {job : Uuid} {tasks : List Task}
    (positive : 0 < total (Task.unmarked job) tasks) :
    ∃ task ∈ tasks, task.marking = some job := by
  obtain ⟨task, member, marks⟩ := exists_of_total_pos positive
  refine ⟨task, member, ?_⟩
  by_contra idle
  simp [Task.unmarked, idle] at marks

theorem Kept.row {job : Uuid} {tasks : List Task} (kept : Kept job s tasks)
    (claimed : s.jobStatus job = some .dispatched ∨ 0 < total (Task.unmarked job) tasks) :
    ∃ order, s.jobOrder job = some order := by
  rw [← Option.isSome_iff_exists, Option.isSome_iff_ne_none]
  intro gone
  have absent := jobOrder_none.mp gone
  rcases claimed with dispatched | marking
  · rw [absent] at dispatched
    cases dispatched
  · rw [kept.absent absent] at marking
    cases marking

theorem Kept.sent_stays {job : Uuid} {tasks : List Task} (kept : Kept job s tasks)
    (claimed : s.jobStatus job = some .dispatched ∨ 0 < total (Task.unmarked job) tasks)
    (none : ∀ device,
      (s.events effect).countP (Event.isDiscarded device (Envelope.dispatches job)) = 0)
    {order : Uuid × Json} (found : (s.apply effect).jobOrder job = some order) :
    (s.apply effect).discardedCount order.1 (Envelope.dispatches job) <
      (s.apply effect).sentCount order.1 (Envelope.dispatches job) := by
  obtain ⟨old, row⟩ := kept.row claimed
  have same : old = order := Option.some.inj ((jobOrder_apply row effect).symm.trans found)
  subst same
  have before := kept.sent old row claimed
  have more := sentCount_le s old.1 (Envelope.dispatches job) effect
  rw [discardedCount_apply, none]
  omega

theorem Kept.sent_step {job : Uuid} {before after : List Task}
    (kept : Kept job s (before ++ task :: after)) (turn : Turn deployment s task choice effect new)
    (nothing : NothingLost s (before ++ after) task choice)
    (unmarked : total (Task.unmarked job) new = 0)
    (claimed : (s.apply effect).jobStatus job = some .dispatched ∨
      0 < total (Task.unmarked job) (before ++ new ++ after))
    {order : Uuid × Json} (found : (s.apply effect).jobOrder job = some order) :
    (s.apply effect).discardedCount order.1 (Envelope.dispatches job) <
      (s.apply effect).sentCount order.1 (Envelope.dispatches job) := by
  rcases claimed with dispatched | others
  · rcases turn.status_from dispatched with old | ⟨_, wrong⟩ | ⟨_, origin⟩
    · exact kept.sent_stays (.inl old) (turn.discards_none nothing (.inl old)) found
    · cases wrong
    · rcases origin with ⟨_, marking⟩ | ⟨wrong, _⟩ | ⟨exitCode, _, wrong⟩
      · have own : 0 < total (Task.unmarked job) (before ++ task :: after) := by
          simp only [total_append, total_cons, unmarked_one marking]
          omega
        apply kept.sent_stays (.inr own) _ found
        intro device
        have bound := turn.discards device (Envelope.dispatches job)
        rw [thrownAway_marking marking] at bound
        exact Nat.le_zero.mp bound
      · cases wrong
      · unfold Database.outcome at wrong
        split at wrong <;> cases wrong
  · have positive : 0 < total (Task.unmarked job) (before ++ after) := by
      simp only [total_append] at others ⊢
      omega
    have own : 0 < total (Task.unmarked job) (before ++ task :: after) := by
      simp only [total_append, total_cons] at positive ⊢
      omega
    exact kept.sent_stays (.inr own)
      (turn.discards_none nothing (.inr (exists_marking positive))) found

theorem Kept.finished_step {job : Uuid} {tasks others : List Task} (kept : Kept job s tasks)
    (turn : Turn deployment s task choice effect new) (nothing : NothingLost s others task choice)
    {order : Uuid × Json} (found : (s.apply effect).jobOrder job = some order)
    {status : JobStatus} (holds : (s.apply effect).jobStatus job = some status) :
    status = .pending ∨ status = .dispatched ∨ status = .cancelled ∨
      0 < (s.apply effect).receivedCount order.1 (Envelope.dispatches job) := by
  have more := receivedCount_le s order.1 (Envelope.dispatches job) effect
  cases old : s.jobOrder job with
  | none =>
      left
      exact jobStatus_appears (jobOrder_none.mp old) effect holds
  | some row =>
      have same : row = order := Option.some.inj ((jobOrder_apply old effect).symm.trans found)
      subst same
      rcases turn.status_from holds with before | ⟨_, rfl⟩ | ⟨proceeds, origin⟩
      · rcases kept.finished row old status before with pending | dispatched | cancelled | received
        · exact .inl pending
        · exact .inr (.inl dispatched)
        · exact .inr (.inr (.inl cancelled))
        · exact .inr (.inr (.inr (Nat.lt_of_lt_of_le received more)))
      · exact .inl rfl
      · rcases origin with ⟨rfl, _⟩ | ⟨rfl, _⟩ | ⟨exitCode, completing, _⟩
        · exact .inr (.inl rfl)
        · exact .inr (.inr (.inl rfl))
        · have received := nothing.reports (job, exitCode) completing proceeds row old
          exact .inr (.inr (.inr (Nat.lt_of_lt_of_le received more)))

theorem Kept.step {job : Uuid} {before after : List Task}
    (kept : Kept job s (before ++ task :: after)) (turn : Turn deployment s task choice effect new)
    (nothing : NothingLost s (before ++ after) task choice) (ordered : Ordered s task)
    (wired : EntriesWired s)
    (balanced : ∀ device, Balanced device (Envelope.dispatches job) s (before ++ task :: after)) :
    Kept job (s.apply effect) (before ++ new ++ after) := by
  have finished (order : Uuid × Json) (found : (s.apply effect).jobOrder job = some order)
      (status : JobStatus) (holds : (s.apply effect).jobStatus job = some status) :=
    kept.finished_step turn nothing found holds
  by_cases marks : ∃ next ∈ new, next.marking = some job
  · obtain ⟨next, member, marking⟩ := marks
    obtain ⟨order, row, sent, discarded⟩ := turn.marks_sent ordered wired member marking
    have stays := jobOrder_apply row effect
    refine ⟨?_, ?_, finished⟩
    · intro gone
      rw [jobOrder_none.mpr gone] at stays
      cases stays
    · intro order' found _
      have same : order' = order := Option.some.inj (found.symm.trans stays)
      have account := balanced order.1
      simp only [Balanced] at account
      rw [same, sent, discarded]
      omega
  · have unmarked : total (Task.unmarked job) new = 0 := by
      apply total_eq_zero
      intro next member
      exact if_neg fun marking => marks ⟨next, member, marking⟩
    refine ⟨?_, ?_, finished⟩
    · intro gone
      have none := kept.absent (absent_apply gone)
      simp only [total_append, total_cons] at none ⊢
      omega
    · intro order found claimed
      exact kept.sent_step turn nothing unmarked claimed found

end Fleet

/-- In every run in which no message of a dispatched job is thrown away, a dispatched job has been
received or its message is on its way in a live connection; and a job whose messages were
thrown away is cancelled, or the next pass of its device reads it. -/
theorem dispatched_delivered (deployment : Deployment) {start config : Config Fleet Task}
    (started : Start start) (reached : Reach (program deployment) NothingLost start config)
    {job : Uuid} {row : JobRow} (found : config.shared.app.db.jobs.find? job = some row) :
    (row.status = .dispatched →
      0 < config.shared.receivedCount row.deviceId (Envelope.dispatches job) ∨
        Carried row.deviceId job config) ∧
    (0 < config.shared.discardedCount row.deviceId (Envelope.dispatches job) →
      config.shared.receivedCount row.deviceId (Envelope.dispatches job) = 0 →
      ¬ Carried row.deviceId job config →
        row.status = .cancelled ∨ (job, row.payload) ∈ config.shared.app.db.pendingJobs row.deviceId) := by
  have kept : Fleet.Kept job config.shared config.tasks := by
    refine reached.carry (fun config => Fleet.Kept job config.shared config.tasks) ?_ ?_ ?_
    · constructor <;> simp [started.tasks, Fleet.jobOrder, started.jobs]
    · intro s tasks task _ kept request
      obtain ⟨_, unmarked⟩ := Fleet.request_unsent request job
      have same : total (Task.unmarked job) (tasks ++ [task]) = total (Task.unmarked job) tasks := by
        simp [unmarked]
      exact ⟨same ▸ kept.absent, same ▸ kept.sent, kept.finished⟩
    · intro s s' before after new task choice reached kept nothing moved
      obtain ⟨effect, turn, rfl⟩ := program_step moved
      have wired := (Fleet.wired_outline deployment _).holds (Fleet.wired_start started) reached
      have ordered := (Fleet.ordered_outline deployment _).holds (Fleet.ordered_start started) reached
      exact kept.step turn nothing (ordered.tasks task (by simp)) wired.shared
        fun device => messages_balanced deployment started reached device _
  have live : Fleet.Live config.shared := by
    refine reached.invariant (fun config => Fleet.Live config.shared) ?_ ?_ ?_
    · constructor <;> simp [started.channels, started.sockets]
    · intro s tasks task live _
      exact live
    · intro s s' before after new task choice live _ moved
      obtain ⟨effect, turn, rfl⟩ := program_step moved
      exact turn.live live
  have order : config.shared.jobOrder job = some (row.deviceId, row.payload) := by
    simp [Fleet.jobOrder, found]
  have status : config.shared.jobStatus job = some row.status := by
    simp [Fleet.jobStatus, Database.jobStatus, found]
  have account := messages_balanced deployment started reached row.deviceId (Envelope.dispatches job)
  simp only [Fleet.Balanced] at account
  have onItsWay (dispatched : row.status = .dispatched)
      (unreceived : config.shared.receivedCount row.deviceId (Envelope.dispatches job) = 0) :
      Carried row.deviceId job config := by
    have sent := kept.sent (row.deviceId, row.payload) order (.inl (by rw [status, dispatched]))
    apply carried_of_inFlight live
    simp only at sent
    omega
  constructor
  · intro dispatched
    by_cases received : 0 < config.shared.receivedCount row.deviceId (Envelope.dispatches job)
    · exact .inl received
    · exact .inr (onItsWay dispatched (by omega))
  · intro _ unreceived nowhere
    rcases kept.finished _ order _ status with pending | dispatched | cancelled | received
    · exact .inr ((Database.mem_pendingJobs _ _ _ _).mpr ⟨row, found, rfl, pending, rfl⟩)
    · exact absurd (onItsWay dispatched unreceived) nowhere
    · exact .inl cancelled
    · exact absurd unreceived (Nat.ne_of_gt received)

/-- The connected device gets a job, and the job is marked. -/
def dispatchConnected : List (Label Task Choice) :=
  connect ++
    [.arrive (.createJob sampleAdmin (Uuid.small 1) (JobPayload.codec.encode .collectInventory)
        .verifyDevice),
      .run 3 .proceeds, .run 3 (.generates (Uuid.small 9)), .run 3 .proceeds, .run 3 .proceeds]

theorem dispatched_delivered_queued : ∃ config row,
    Reach (program sampleDeployment) NothingLost sampleStart config ∧
      config.shared.app.db.jobs.find? (Uuid.small 9) = some row ∧ row.status = .dispatched ∧
      (0 < config.shared.receivedCount row.deviceId (Envelope.dispatches (Uuid.small 9)) ∨
        Carried row.deviceId (Uuid.small 9) config) := by
  obtain ⟨config, reached, status⟩ := Reach.of_observed (program sampleDeployment) NothingLost
    sampleStart dispatchConnected (fun config => config.shared.jobStatus (Uuid.small 9))
    (some .dispatched) (by decide +kernel)
  obtain ⟨row, found, dispatched⟩ := Option.map_eq_some_iff.mp status
  exact ⟨config, row, reached, found, dispatched,
    (dispatched_delivered sampleDeployment sampleStart_start reached found).1 dispatched⟩

/-- The connection ends with the message still in its channel. -/
def closeConnection : List (Label Task Choice) :=
  [.run 0 .closes, .run 0 .proceeds, .run 0 .proceeds, .run 0 .proceeds, .run 1 .closes]

/-- A job stays dispatched whose message went down with a connection. -/
theorem dispatched_lost : ¬ ∀ (start config : Config Fleet Task) (job : Uuid) (row : JobRow),
    Start start → Reach (program sampleDeployment) Guard.any start config →
      config.shared.app.db.jobs.find? job = some row → row.status = .dispatched →
        0 < config.shared.receivedCount row.deviceId (Envelope.dispatches job) ∨
          Carried row.deviceId job config := by
  intro delivered
  obtain ⟨config, reached, seen⟩ := Reach.of_observed (program sampleDeployment) Guard.any
    sampleStart (dispatchConnected ++ closeConnection)
    (fun config => ((config.shared.app.db.jobs.find? (Uuid.small 9)).map fun row =>
      (row.deviceId, row.status),
      config.shared.receivedCount (Uuid.small 1) (Envelope.dispatches (Uuid.small 9)),
      config.shared.inFlight (Uuid.small 1) (Envelope.dispatches (Uuid.small 9)) config.tasks))
    (some (Uuid.small 1, .dispatched), 0, 0) (by decide +kernel)
  simp only [Prod.mk.injEq, Option.map_eq_some_iff] at seen
  obtain ⟨⟨row, found, own, dispatched⟩, unreceived, nowhere⟩ := seen
  rcases delivered _ _ _ row sampleStart_start reached found dispatched with received | carried
  · rw [own, unreceived] at received
    cases received
  · have somewhere := inFlight_of_carried carried
    rw [own, nowhere] at somewhere
    cases somewhere

end OsfmEdm
