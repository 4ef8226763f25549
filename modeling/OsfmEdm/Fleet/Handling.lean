import OsfmEdm.Fleet.Conservation

/-!
What agents do with the messages they have received: they handle them in order, and nothing an
agent does on a message happens without one.
-/

namespace OsfmEdm

open Interleaving JsonText

/-- Whether an event is something an agent does on a message. -/
def Event.ofAgent : Event → Bool
  | .executed .. | .revoked .. => true
  | _ => false

namespace Fleet

variable {deployment : Deployment} {s : Fleet} {task : Task} {choice : Choice} {effect : Effect}
  {new : List Task} {device : Uuid} {kind : Envelope → Bool} {uses : Event → Bool}

theorem Turn.handles {owner : Uuid} {reaction : Reaction} {serial : Nat}
    (turn : Turn deployment s task choice (.handle owner reaction serial) new) :
    ∃ envelope rest, (s.agents owner).inbound = envelope :: rest ∧ serial = envelope.serial ∧
      handleServerMessage deployment.crypto (deployment.serverPubkey owner) envelope.message =
        reaction ∧ task = .agentHandles owner ∧ new = reaction.spawns owner :=
  turn.sourced

theorem handle_inbound {owner device : Uuid} {reaction : Reaction} {serial : Nat} :
    ((s.apply (.handle owner reaction serial)).agents device).inbound =
      if device = owner then (s.agents device).inbound.tail else (s.agents device).inbound := by
  by_cases own : device = owner
  · subst own
    simp [apply, updateAgent, record]
  · simp [apply, updateAgent, record, own]

theorem receive_inbound (socket : Nat) (device : Uuid) (kind : Envelope → Bool) :
    ((s.apply (.receive socket)).agents device).inbound.countP kind =
      (s.agents device).inbound.countP kind +
        (s.events (.receive socket)).countP (Event.isReceived device kind) := by
  cases found : s.sockets[socket]? with
  | none => simp [apply, events, found]
  | some k =>
      obtain ⟨owner, toAgent, toServer, agentOpen⟩ := k
      cases toAgent with
      | nil => simp [apply, events, found]
      | cons envelope rest =>
          by_cases own : device = owner
          · subst own
            simp [apply, events, found, updateAgent, updateSocket, record, List.countP_singleton,
              Event.isReceived]
          · have other : ¬ owner = device := fun same => own same.symm
            simp [apply, events, found, updateAgent, updateSocket, record, Event.isReceived, own,
              other]

theorem events_other (handles : ∀ owner reaction serial, effect ≠ .handle owner reaction serial)
    {event : Event} (recorded : event ∈ s.events effect) : event.ofAgent = false := by
  cases s.recorded_of_mem recorded with
  | executed | revoked => exact absurd rfl (handles _ _ _)
  | _ => rfl

theorem events_ofAgent (agentOnly : ∀ event, uses event = true → event.ofAgent = true)
    (handles : ∀ owner reaction serial, effect ≠ .handle owner reaction serial) :
    (s.events effect).countP uses = 0 := by
  rw [List.countP_eq_zero]
  intro event recorded used
  have other := events_other handles recorded
  rw [agentOnly event used] at other
  cases other

/-- A step uses up a message only where the agent handles it, and brings one only where the agent
receives it. -/
theorem Turn.consumes (turn : Turn deployment s task choice effect new)
    (agentOnly : ∀ event, uses event = true → event.ofAgent = true)
    (spends : ∀ owner envelope reaction,
      handleServerMessage deployment.crypto (deployment.serverPubkey owner) envelope.message =
        reaction →
          (reactionEvent owner envelope.serial reaction).countP uses ≤
            if owner = device ∧ kind envelope then 1 else 0) :
    (s.events effect).countP uses + ((s.apply effect).agents device).inbound.countP kind ≤
      (s.agents device).inbound.countP kind +
        (s.events effect).countP (Event.isReceived device kind) := by
  by_cases receives : ∃ socket, effect = .receive socket
  · obtain ⟨socket, rfl⟩ := receives
    have used : (s.events (.receive socket)).countP uses = 0 :=
      events_ofAgent agentOnly fun _ _ _ same => by cases same
    rw [receive_inbound]
    omega
  by_cases handles : ∃ owner reaction serial, effect = .handle owner reaction serial
  · obtain ⟨owner, reaction, serial, rfl⟩ := handles
    obtain ⟨envelope, rest, inbound, rfl, reacts, _⟩ := turn.handles
    have used := spends owner envelope reaction reacts
    rw [handle_inbound]
    by_cases own : device = owner
    · subst own
      simp only [inbound, List.tail_cons, List.countP_cons, true_and, if_true] at used ⊢
      simp only [events]
      omega
    · have other : ¬ owner = device := fun same => own same.symm
      simp only [own, other, false_and, if_false] at used ⊢
      simp only [events]
      omega
  · have inbound := inbound_apply s (fun socket same => receives ⟨socket, same⟩)
      (fun owner reaction serial same => handles ⟨owner, reaction, serial, same⟩) device
    have used : (s.events effect).countP uses = 0 :=
      events_ofAgent agentOnly fun owner reaction serial same =>
        handles ⟨owner, reaction, serial, same⟩
    rw [inbound]
    omega

/-- Everything of a kind that the agent has done used up one message it has received. -/
def Consumed (device : Uuid) (kind : Envelope → Bool) (uses : Event → Bool) (s : Fleet) : Prop :=
  s.history.countP uses + (s.agents device).inbound.countP kind ≤ s.receivedCount device kind

theorem Turn.consumed (turn : Turn deployment s task choice effect new)
    (agentOnly : ∀ event, uses event = true → event.ofAgent = true)
    (spends : ∀ owner envelope reaction,
      handleServerMessage deployment.crypto (deployment.serverPubkey owner) envelope.message =
        reaction →
          (reactionEvent owner envelope.serial reaction).countP uses ≤
            if owner = device ∧ kind envelope then 1 else 0)
    (consumed : Consumed device kind uses s) : Consumed device kind uses (s.apply effect) := by
  have step := turn.consumes agentOnly spends
  have history := history_events s effect
  simp only [Consumed, receivedCount, history, List.countP_append] at consumed ⊢
  omega

end Fleet

/-- In every run, what an agent has done on messages of a kind is at most what it has received of
them. -/
theorem handled_received (deployment : Deployment) {guard : Guard Fleet Task Choice}
    {start config : Config Fleet Task} (started : Start start)
    (reached : Reach (program deployment) guard start config) (device : Uuid)
    (kind : Envelope → Bool) (uses : Event → Bool)
    (agentOnly : ∀ event, uses event = true → event.ofAgent = true)
    (spends : ∀ owner envelope reaction,
      handleServerMessage deployment.crypto (deployment.serverPubkey owner) envelope.message =
        reaction →
          (Fleet.reactionEvent owner envelope.serial reaction).countP uses ≤
            if owner = device ∧ kind envelope then 1 else 0) :
    config.shared.history.countP uses ≤ config.shared.receivedCount device kind := by
  have consumed : Fleet.Consumed device kind uses config.shared := by
    refine reached.invariant (fun config => Fleet.Consumed device kind uses config.shared) ?_ ?_ ?_
    · simp [Fleet.Consumed, started.history, started.agents]
    · intro s tasks task consumed _
      exact consumed
    · intro s s' before after new task choice consumed _ moved
      obtain ⟨effect, turn, rfl⟩ := program_step moved
      exact turn.consumed agentOnly spends consumed
  exact Nat.le_trans (Nat.le_add_right _ _) consumed

end OsfmEdm
