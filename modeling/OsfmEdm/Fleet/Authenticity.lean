import OsfmEdm.Fleet.Dispatch
import OsfmEdm.Fleet.Orders

/-!
The fleet under an attacker on the network, who reads every message, stops messages and hands
messages of its own to agents, but cannot sign. A job's signature covers its id and payload. It
does not cover the device, and the agent does not remember the jobs it has run: what keeps a
captured dispatch from running elsewhere or again is the network alone.
-/

namespace OsfmEdm

open Interleaving JsonText

/-! ## Signatures -/

/-- The signature that a text stands for. -/
def Crypto.signature? (crypto : Crypto) (text : String) : Option crypto.ed25519.Signature :=
  match crypto.base64.decode text with
  | .error _ => none
  | .ok bytes =>
      match crypto.ed25519.signatureFromSlice bytes with
      | .error _ => none
      | .ok signature => some signature

namespace Deployment

variable (deployment : Deployment)

/-- Whether a text is a signature of the server's key on these bytes. -/
def signs (bytes : List UInt8) (text : String) : Bool :=
  match deployment.jobSigner, deployment.crypto.signature? text with
  | some signer, some signature =>
      deployment.crypto.ed25519.verify
        (deployment.crypto.ed25519.verifyingKey signer.signingKey) bytes signature
  | _, _ => false

/-- The job and payload of a dispatch under a signature of the server's key. -/
def signedDispatch : ServerMessage → Option (Uuid × JobPayload)
  | .dispatchJob job payload signature =>
      if deployment.signs (canonicalJobSigningBytes job payload) signature then some (job, payload)
      else none
  | _ => none

/-- Whether an envelope holds a signed dispatch of a job. -/
def carriesSigned (job : Uuid) (envelope : Envelope) : Bool :=
  (deployment.signedDispatch envelope.message).any (·.1 = job)

/-- What agents hold since their enrollment: the key of the server's signer, or none. -/
def Enrolled : Prop :=
  ∀ device, deployment.serverPubkey device ≠ "" → ∃ signer,
    deployment.jobSigner = some signer ∧ deployment.serverPubkey device = signer.publicKeyB64

end Deployment

theorem Deployment.Enrolled.verified {deployment : Deployment} (enrolled : deployment.Enrolled)
    {device job : Uuid} {payload : JobPayload} {signature : String}
    (ok : verifyJobSignature deployment.crypto (deployment.serverPubkey device) job payload signature =
      .ok ()) :
    deployment.signs (canonicalJobSigningBytes job payload) signature = true := by
  have known : deployment.serverPubkey device ≠ "" := by
    intro missing
    simp [verifyJobSignature, missing] at ok
  obtain ⟨signer, present, own⟩ := enrolled device known
  obtain ⟨vk, sig, ⟨pkBytes, pkDecoded, vkRead⟩, ⟨sigBytes, sigDecoded, sigRead⟩, accepted⟩ :=
    verifyJobSignature_ok ok
  rw [own, JobSigner.publicKeyB64, deployment.crypto.base64.decode_encode] at pkDecoded
  cases pkDecoded
  rw [deployment.crypto.ed25519.keyFromBytes_keyToBytes] at vkRead
  cases vkRead
  simpa [signs, present, Crypto.signature?, sigDecoded, sigRead] using accepted

/-! ## The attacker -/

inductive Attack where
  | inject (device : Uuid) (message : ServerMessage)
  | drop (socket position : Nat)

def Event.isInjected (device : Uuid) (kind : Envelope → Bool) : Event → Bool
  | .injected owner envelope => owner = device ∧ kind envelope
  | _ => false

/-- The bytes under the signature of a dispatch that the server sends. -/
def Event.signedBytes : Event → Option (List UInt8)
  | .sent _ { message := .dispatchJob job payload _, .. } =>
      some (canonicalJobSigningBytes job payload)
  | _ => none

namespace Fleet

/-- The bytes whose signatures the attacker can have seen. -/
def signed (s : Fleet) : List (List UInt8) := s.history.filterMap Event.signedBytes

/-- Ed25519 is unforgeable: a signature of the server in a message of the attacker is on bytes that
the server has signed. -/
def Unforged (deployment : Deployment) (s : Fleet) (message : ServerMessage) : Prop :=
  ∀ order ∈ deployment.signedDispatch message, canonicalJobSigningBytes order.1 order.2 ∈ s.signed

instance (deployment : Deployment) (s : Fleet) (message : ServerMessage) :
    Decidable (Unforged deployment s message) :=
  inferInstanceAs (Decidable (∀ order ∈ deployment.signedDispatch message, _))

def inject (s : Fleet) (device : Uuid) (message : ServerMessage) : Fleet :=
  let envelope : Envelope := ⟨s.serials, message⟩
  { (s.updateAgent device fun a => { a with inbound := a.inbound ++ [envelope] }).record
      [.injected device envelope] with
    serials := s.serials + 1 }

/-- A message on its way to an agent does not arrive. -/
def drop (s : Fleet) (socket position : Nat) : Option Fleet :=
  match s.sockets[socket]? with
  | none => none
  | some k =>
      match k.toAgent[position]? with
      | none => none
      | some envelope =>
          some ((s.updateSocket socket fun k =>
            { k with toAgent := k.toAgent.eraseIdx position }).record
              [.discarded k.device envelope])

def attack (deployment : Deployment) (s : Fleet) : Attack → Option Fleet
  | .inject device message =>
      if Unforged deployment s message then some (s.inject device message) else none
  | .drop socket position => s.drop socket position

def injectedCount (s : Fleet) (device : Uuid) (kind : Envelope → Bool) : Nat :=
  s.history.countP (Event.isInjected device kind)

/-- The messages of a kind that have come to an agent, from whomever. -/
def arrivedCount (s : Fleet) (device : Uuid) (kind : Envelope → Bool) : Nat :=
  s.receivedCount device kind + s.injectedCount device kind

end Fleet

def attacker (deployment : Deployment) : Program Fleet Attack Unit where
  request _ := true
  step s attack _ := (s.attack deployment attack).map fun s => (s, [])

/-- The fleet and an attacker on its network. -/
def attacked (deployment : Deployment) : Program Fleet (Task ⊕ Attack) (Choice ⊕ Unit) :=
  (program deployment).beside (attacker deployment)

/-! ## When a dispatch is authentic -/

/-- The message a step brings to an agent. -/
def Fleet.brings (s : Fleet) : Task ⊕ Attack → Option (Uuid × ServerMessage)
  | .inl (.agentReceives socket) =>
      match s.sockets[socket]? with
      | some { device, toAgent := envelope :: _, .. } => some (device, envelope.message)
      | _ => none
  | .inr (.inject device message) => some (device, message)
  | _ => none

/-- The condition on each step: a signed dispatch comes only to a device that the server has sent
the job to, and only once. -/
def DeliveredOnce (deployment : Deployment) (s : Fleet) (_ : List (Task ⊕ Attack))
    (task : Task ⊕ Attack) (_ : Choice ⊕ Unit) : Prop :=
  ∀ brought ∈ s.brings task, ∀ order ∈ deployment.signedDispatch brought.2,
    0 < s.sentCount brought.1 (Envelope.dispatches order.1) ∧
      s.arrivedCount brought.1 (deployment.carriesSigned order.1) = 0

instance (deployment : Deployment) (s : Fleet) (others : List (Task ⊕ Attack))
    (task : Task ⊕ Attack) (choice : Choice ⊕ Unit) :
    Decidable (DeliveredOnce deployment s others task choice) :=
  inferInstanceAs (Decidable (∀ brought ∈ s.brings task, ∀ order ∈ _, _))

/-! ## Invariants -/

/-- The device, job and payload of a run of `execute_job`. -/
def Task.running : Task → Option (Uuid × Uuid × JobPayload)
  | .executor device job payload _ => some (device, job, payload)
  | _ => none

namespace Fleet

/-- The server has sent a dispatch that its row asks for and that its key has signed. -/
structure SignedFor (deployment : Deployment) (s : Fleet) (device job : Uuid) (payload : JobPayload) :
    Prop where
  row : ∃ row, s.app.db.jobs.find? job = some row ∧ row.deviceId = device ∧
    JobPayload.codec.decode row.payload = some payload
  sent : ∃ serial, .sent device
    ⟨serial, .dispatchJob job payload (signJob deployment.jobSigner job payload)⟩ ∈ s.history

structure Authentic (deployment : Deployment) (s : Fleet) (tasks : List Task) : Prop where
  wired : Annotated EntriesWired Wired ⟨s, tasks⟩
  ordered : Annotated (fun _ => True) Ordered ⟨s, tasks⟩
  balanced : ∀ device kind, s.Balanced device kind tasks
  sent : ∀ device serial job payload signature,
    .sent device ⟨serial, .dispatchJob job payload signature⟩ ∈ s.history →
      ∃ json, s.jobOrder job = some (device, json) ∧ JobPayload.codec.decode json = some payload ∧
        signature = signJob deployment.jobSigner job payload
  injected : ∀ device envelope, .injected device envelope ∈ s.history →
    ∀ order ∈ deployment.signedDispatch envelope.message,
      canonicalJobSigningBytes order.1 order.2 ∈ s.signed ∧
        0 < s.sentCount device (Envelope.dispatches order.1)
  handed : ∀ device kind (uses : Event → Bool),
    (∀ event, uses event = true → event.ofAgent = true) →
    (∀ owner envelope reaction,
      handleServerMessage deployment.crypto (deployment.serverPubkey owner) envelope.message =
        reaction →
          (reactionEvent owner envelope.serial reaction).countP uses ≤
            if owner = device ∧ kind envelope then 1 else 0) →
    s.history.countP uses + (s.agents device).inbound.countP kind ≤ s.arrivedCount device kind
  once : ∀ device job, s.arrivedCount device (deployment.carriesSigned job) ≤ 1
  running : ∀ task ∈ tasks, ∀ run ∈ task.running, ∃ envelope,
    (.received run.1 envelope ∈ s.history ∨ .injected run.1 envelope ∈ s.history) ∧
      handleServerMessage deployment.crypto (deployment.serverPubkey run.1) envelope.message =
        .execute run.2.1 run.2.2

variable {deployment : Deployment} {s : Fleet} {task : Task} {choice : Choice} {effect : Effect}
  {new before after : List Task} {device job : Uuid}

theorem mem_events_sent {envelope : Envelope} (recorded : .sent device envelope ∈ s.events effect) :
    ∃ channel, effect = .enqueue channel envelope.message ∧
      s.channelDevice channel = some device := by
  cases s.recorded_of_mem recorded with
  | sent found => exact ⟨_, rfl, by simp [channelDevice, found]⟩

theorem events_injected (s : Fleet) (effect : Effect) (device : Uuid) (kind : Envelope → Bool) :
    (s.events effect).countP (Event.isInjected device kind) = 0 := by
  rw [List.countP_eq_zero]
  intro event recorded
  cases s.recorded_of_mem recorded <;> simp [Event.isInjected]

theorem events_received (receives : ∀ socket, effect ≠ .receive socket) (kind : Envelope → Bool) :
    (s.events effect).countP (Event.isReceived device kind) = 0 := by
  rw [List.countP_eq_zero]
  intro event recorded
  cases s.recorded_of_mem recorded with
  | received => exact absurd rfl (receives _)
  | _ => simp [Event.isReceived]

/-- What a task dispatches is one of its orders, signed. -/
theorem Turn.dispatched (turn : Turn deployment s task choice effect new) (wired : EntriesWired s)
    {serial : Nat} {payload : JobPayload} {signature : String}
    (recorded : .sent device ⟨serial, .dispatchJob job payload signature⟩ ∈ s.events effect) :
    ∃ json, (device, job, json) ∈ task.orders ∧ JobPayload.codec.decode json = some payload ∧
      signature = signJob deployment.jobSigner job payload := by
  obtain ⟨channel, rfl, owned⟩ := mem_events_sent recorded
  have opens {owner : Uuid} (opened : s.openChannel owner = some (some channel)) : owner = device := by
    have entry := wired owner channel (openChannel_some opened).1
    rw [owned] at entry
    exact (Option.some.inj entry).symm
  generalize same : Effect.enqueue channel _ = effect at turn
  cases turn with
  | createSent valid sends =>
      cases sends with
      | unsent => cases same
      | sent opened =>
          cases same
          rw [opens opened]
          exact ⟨_, List.mem_singleton_self _, valid, rfl⟩
  | jobSent valid sends =>
      cases sends with
      | unsent => cases same
      | sent opened =>
          cases same
          rw [opens opened]
          exact ⟨_, List.mem_cons_self, valid, rfl⟩
  | pushed plain sends =>
      cases sends with
      | unsent => cases same
      | sent opened =>
          cases same
          cases plain
  | cancelSent sends | policiesSent sends | inventoryRequested sends => cases sends <;> cases same
  | handlerOnline done => cases done <;> cases same
  | _ => cases same

theorem Turn.receives {socket : Nat} (turn : Turn deployment s task choice (.receive socket) new) :
    ∃ owner toServer envelope rest,
      s.sockets[socket]? = some ⟨owner, envelope :: rest, toServer, true⟩ ∧
        task = .agentReceives socket := by
  obtain ⟨same, owner, toServer, envelope, rest, found⟩ := turn.sourced
  exact ⟨owner, toServer, envelope, rest, found, same⟩

theorem Turn.runs (turn : Turn deployment s task choice effect new) {next : Task}
    (member : next ∈ new) {run : Uuid × Uuid × JobPayload} (runs : next.running = some run) :
    task.running = some run ∨
      ∃ serial, effect = .handle run.1 (.execute run.2.1 run.2.2) serial := by
  cases next with
  | executor device job payload phase =>
      cases runs
      rcases turn.executor_from member with ⟨old, rfl, _⟩ | ⟨serial, rfl⟩
      · exact .inl rfl
      · exact .inr ⟨serial, rfl⟩
  | _ => cases runs

theorem arrivedCount_apply (s : Fleet) (effect : Effect) (device : Uuid) (kind : Envelope → Bool) :
    (s.apply effect).arrivedCount device kind =
      s.arrivedCount device kind + (s.events effect).countP (Event.isReceived device kind) := by
  have injected := events_injected s effect device kind
  simp only [arrivedCount, receivedCount, injectedCount, history_events, List.countP_append]
  omega

theorem mem_signed_apply {bytes : List UInt8} (member : bytes ∈ s.signed) (effect : Effect) :
    bytes ∈ (s.apply effect).signed := by
  rw [signed, history_events, List.filterMap_append]
  exact List.mem_append_left _ member

theorem Authentic.arrived {tasks : List Task} (authentic : Authentic deployment s tasks)
    {envelope : Envelope} (waiting : envelope ∈ (s.agents device).inbound) :
    .received device envelope ∈ s.history ∨ .injected device envelope ∈ s.history := by
  have handed := authentic.handed device (fun other => decide (other = envelope)) (fun _ => false)
    nofun (fun _ _ _ _ => by simp)
  have waits : 0 < (s.agents device).inbound.countP fun other => decide (other = envelope) :=
    List.countP_pos_iff.mpr ⟨envelope, waiting, by simp⟩
  have came : 0 < s.receivedCount device (fun other => decide (other = envelope)) ∨
      0 < s.injectedCount device fun other => decide (other = envelope) := by
    simp only [arrivedCount] at handed
    omega
  rcases came with received | injected
  · left
    obtain ⟨event, member, counted⟩ := List.countP_pos_iff.mp received
    cases event <;> simp_all [Event.isReceived]
  · right
    obtain ⟨event, member, counted⟩ := List.countP_pos_iff.mp injected
    cases event <;> simp_all [Event.isInjected]

theorem Authentic.arrives {tasks : List Task} (authentic : Authentic deployment s tasks)
    {task : Task} (request : task.request = true) : Authentic deployment s (tasks ++ [task]) where
  wired := (wired_outline deployment Guard.any).holds authentic.wired (.arrive .start request)
  ordered := (ordered_outline deployment Guard.any).holds authentic.ordered (.arrive .start request)
  balanced device kind := by
    have empty : task.carries device kind = 0 := by
      cases task with
      | writer => cases request
      | _ => rfl
    simpa [Balanced, inFlight, empty] using authentic.balanced device kind
  sent := authentic.sent
  injected := authentic.injected
  handed := authentic.handed
  once := authentic.once
  running other member := by
    rcases List.mem_append.mp member with old | new
    · exact authentic.running other old
    · rw [List.mem_singleton.mp new]
      intro run runs
      cases task with
      | executor => cases request
      | _ => cases runs

theorem Authentic.step (authentic : Authentic deployment s (before ++ task :: after))
    {choice' : Choice ⊕ Unit} {others : List (Task ⊕ Attack)}
    (delivered : DeliveredOnce deployment s others (.inl task) choice')
    (moved : (program deployment).step s task choice = some (s.apply effect, new))
    (turn : Turn deployment s task choice effect new) :
    Authentic deployment (s.apply effect) (before ++ new ++ after) where
  wired := (wired_outline deployment Guard.any).holds authentic.wired (.run .start trivial moved)
  ordered := (ordered_outline deployment Guard.any).holds authentic.ordered (.run .start trivial moved)
  balanced device kind :=
    turn.balanced (authentic.wired.tasks task (by simp)) (authentic.balanced device kind)
  sent device serial job payload signature member := by
    rw [history_events] at member
    rcases List.mem_append.mp member with old | recorded
    · obtain ⟨json, order, rest⟩ := authentic.sent device serial job payload signature old
      exact ⟨json, jobOrder_apply order effect, rest⟩
    · obtain ⟨json, order, rest⟩ := turn.dispatched authentic.wired.shared recorded
      have found := authentic.ordered.tasks task (by simp) _ order
      exact ⟨json, jobOrder_apply found effect, rest⟩
  injected device envelope member order signs := by
    rw [history_events] at member
    rcases List.mem_append.mp member with old | recorded
    · obtain ⟨signed, sent⟩ := authentic.injected device envelope old order signs
      exact ⟨mem_signed_apply signed effect,
        Nat.lt_of_lt_of_le sent (sentCount_le s device _ effect)⟩
    · have none := List.countP_eq_zero.mp
        (events_injected s effect device fun _ => true) _ recorded
      simp [Event.isInjected] at none
  handed device kind uses agentOnly spends := by
    have step := turn.consumes agentOnly spends
    have handed := authentic.handed device kind uses agentOnly spends
    rw [arrivedCount_apply, history_events, List.countP_append]
    omega
  once device job := by
    rw [arrivedCount_apply]
    by_cases receives : ∃ socket, effect = .receive socket
    · obtain ⟨socket, rfl⟩ := receives
      obtain ⟨owner, toServer, envelope, rest, found, rfl⟩ := turn.receives
      simp only [events, found, List.countP_singleton, Event.isReceived, decide_eq_true_eq]
      by_cases carried : owner = device ∧ deployment.carriesSigned job envelope = true
      · rw [if_pos carried]
        obtain ⟨own, signs⟩ := carried
        obtain ⟨order, dispatched, same⟩ : ∃ order,
            deployment.signedDispatch envelope.message = some order ∧ order.1 = job := by
          simpa [Deployment.carriesSigned, Option.any_eq_true] using signs
        have first := (delivered (owner, envelope.message) (by simp [brings, found]) order
          dispatched).2
        simp only [own, same] at first
        omega
      · rw [if_neg carried]
        exact authentic.once device job
    · rw [events_received fun socket same => receives ⟨socket, same⟩]
      exact authentic.once device job
  running next member run runs := by
    have kept {earlier : Task} (old : earlier ∈ before ++ task :: after)
        (runs : run ∈ earlier.running) : ∃ envelope,
          (.received run.1 envelope ∈ (s.apply effect).history ∨
            .injected run.1 envelope ∈ (s.apply effect).history) ∧
          handleServerMessage deployment.crypto (deployment.serverPubkey run.1) envelope.message =
            .execute run.2.1 run.2.2 := by
      obtain ⟨envelope, came, handles⟩ := authentic.running earlier old run runs
      rw [history_events]
      exact ⟨envelope, came.imp (List.mem_append_left _) (List.mem_append_left _), handles⟩
    rcases mem_stepped member with fresh | others
    · rcases turn.runs fresh runs with old | ⟨serial, rfl⟩
      · exact kept (by simp) old
      · obtain ⟨envelope, rest, inbound, _, handles, _⟩ := turn.handles
        have waiting : envelope ∈ (s.agents run.1).inbound := by simp [inbound]
        have came := authentic.arrived waiting
        rw [history_events]
        exact ⟨envelope, came.imp (List.mem_append_left _) (List.mem_append_left _), handles⟩
    · exact kept (mem_of_others task others) runs

theorem Authentic.inject {tasks : List Task} (authentic : Authentic deployment s tasks)
    {owner : Uuid} {message : ServerMessage} {choice' : Choice ⊕ Unit}
    {others : List (Task ⊕ Attack)}
    (delivered : DeliveredOnce deployment s others (.inr (.inject owner message)) choice')
    (unforged : Unforged deployment s message) :
    Authentic deployment (s.inject owner message) tasks where
  wired := ⟨authentic.wired.shared, authentic.wired.tasks⟩
  ordered := ⟨trivial, authentic.ordered.tasks⟩
  balanced device kind := by
    simpa [Balanced, inFlight, sentCount, receivedCount, discardedCount, Fleet.inject, record,
      updateAgent, Event.isSent, Event.isReceived, Event.isDiscarded] using
        authentic.balanced device kind
  sent device serial job payload signature member := by
    simp only [Fleet.inject, record, List.mem_append, List.mem_singleton, reduceCtorEq,
      or_false] at member
    exact authentic.sent device serial job payload signature member
  injected device envelope member order signs := by
    have mono : s.signed ⊆ (s.inject owner message).signed := by
      intro bytes old
      simp only [signed, Fleet.inject, record, List.filterMap_append]
      exact List.mem_append_left _ old
    have same : (s.inject owner message).sentCount device (Envelope.dispatches order.1) =
        s.sentCount device (Envelope.dispatches order.1) := by
      simp [sentCount, Fleet.inject, record, Event.isSent, updateAgent]
    rw [same]
    simp only [Fleet.inject, record, List.mem_append, List.mem_singleton, Event.injected.injEq]
      at member
    rcases member with old | ⟨rfl, rfl⟩
    · obtain ⟨signed, sent⟩ := authentic.injected device envelope old order signs
      exact ⟨mono signed, sent⟩
    · exact ⟨mono (unforged order signs), (delivered _ rfl order signs).1⟩
  handed device kind uses agentOnly spends := by
    have handed := authentic.handed device kind uses agentOnly spends
    have unused : uses (.injected owner ⟨s.serials, message⟩) = false := by
      cases used : uses (.injected owner ⟨s.serials, message⟩) with
      | false => rfl
      | true => cases agentOnly _ used
    by_cases own : device = owner
    · subst own
      simp only [Fleet.inject, record, updateAgent, arrivedCount, receivedCount, injectedCount,
        List.countP_append, List.countP_singleton, Event.isReceived, Event.isInjected, unused,
        Function.update_self] at handed ⊢
      split <;> simp_all
      omega
    · have other : ¬ owner = device := fun same => own same.symm
      simpa [Fleet.inject, record, updateAgent, arrivedCount, receivedCount, injectedCount,
        Event.isReceived, Event.isInjected, unused, own, other] using handed
  once device job := by
    have step : (s.inject owner message).arrivedCount device (deployment.carriesSigned job) =
        s.arrivedCount device (deployment.carriesSigned job) +
          if owner = device ∧ deployment.carriesSigned job ⟨s.serials, message⟩ then 1 else 0 := by
      simp [Fleet.inject, record, updateAgent, arrivedCount, receivedCount, injectedCount,
        Event.isReceived, Event.isInjected, List.countP_singleton, Nat.add_assoc]
    rw [step]
    by_cases carried : owner = device ∧ deployment.carriesSigned job ⟨s.serials, message⟩ = true
    · rw [if_pos carried]
      obtain ⟨own, signs⟩ := carried
      obtain ⟨order, dispatched, same⟩ : ∃ order,
          deployment.signedDispatch message = some order ∧ order.1 = job := by
        simpa [Deployment.carriesSigned, Option.any_eq_true] using signs
      have first := (delivered _ rfl order dispatched).2
      simp only [own, same] at first
      omega
    · rw [if_neg carried]
      exact authentic.once device job
  running next member run runs := by
    obtain ⟨envelope, came, handles⟩ := authentic.running next member run runs
    exact ⟨envelope, came.imp (List.mem_append_left _) (List.mem_append_left _), handles⟩

theorem Authentic.drop {tasks : List Task} (authentic : Authentic deployment s tasks)
    {socket position : Nat} {s' : Fleet} (dropped : s.drop socket position = some s') :
    Authentic deployment s' tasks := by
  unfold Fleet.drop at dropped
  split at dropped
  · cases dropped
  rename_i k found
  split at dropped
  · cases dropped
  rename_i lost at_
  cases dropped
  have kept : ∀ other, ((s.updateSocket socket fun k =>
      { k with toAgent := k.toAgent.eraseIdx position }).record [.discarded k.device lost]).socketDevice
        other = s.socketDevice other :=
    fun other => socketDevice_modified rfl fun _ => rfl
  have silent {event : Event} (member : event ∈ ((s.updateSocket socket fun k =>
      { k with toAgent := k.toAgent.eraseIdx position }).record [.discarded k.device lost]).history)
      (other : event ≠ .discarded k.device lost) : event ∈ s.history := by
    simpa [record, updateSocket, other] using member
  refine
    { wired := ⟨authentic.wired.shared, ?_⟩
      ordered := ⟨trivial, authentic.ordered.tasks⟩
      balanced := ?_
      sent := ?_
      injected := ?_
      handed := ?_
      once := ?_
      running := ?_ }
  · intro task member connection connects
    have wired := authentic.wired.tasks task member connection connects
    exact ⟨(kept _).trans wired.1, wired.2⟩
  · intro device kind
    have balanced := authentic.balanced device kind
    have moved := total_modify (Socket.carries device kind)
      (fun k => { k with toAgent := k.toAgent.eraseIdx position }) found
    obtain ⟨bound, same⟩ := List.getElem?_eq_some_iff.mp at_
    have counted := (List.getElem_cons_eraseIdx_perm bound).countP_eq kind
    rw [same, List.countP_cons] at counted
    by_cases own : k.device = device
    · simp only [Balanced, inFlight, sentCount, receivedCount, discardedCount, record, updateSocket,
        Socket.carries, List.countP_append, List.countP_singleton, Event.isSent, Event.isReceived,
        Event.isDiscarded, own, if_true, true_and, decide_eq_true_eq, Bool.false_eq_true, if_false]
        at balanced moved ⊢
      omega
    · simp only [Balanced, inFlight, sentCount, receivedCount, discardedCount, record, updateSocket,
        Socket.carries, List.countP_append, List.countP_singleton, Event.isSent, Event.isReceived,
        Event.isDiscarded, own, false_and, decide_false, Bool.false_eq_true, if_false]
        at balanced moved ⊢
      omega
  · intro device serial job payload signature member
    exact authentic.sent device serial job payload signature (silent member (by rintro ⟨⟩))
  · intro device envelope member order signs
    obtain ⟨signed, sent⟩ := authentic.injected device envelope (silent member (by rintro ⟨⟩)) order signs
    refine ⟨?_, ?_⟩
    · simp only [Fleet.signed, record, updateSocket, List.filterMap_append]
      exact List.mem_append_left _ signed
    · simpa [sentCount, record, updateSocket, Event.isSent] using sent
  · intro device kind uses agentOnly spends
    have handed := authentic.handed device kind uses agentOnly spends
    have unused : uses (.discarded k.device lost) = false := by
      cases used : uses (.discarded k.device lost) with
      | false => rfl
      | true => cases agentOnly _ used
    simpa [record, updateSocket, arrivedCount, receivedCount, injectedCount, Event.isReceived,
      Event.isInjected, unused] using handed
  · intro device job
    simpa [record, updateSocket, arrivedCount, receivedCount, injectedCount, Event.isReceived,
      Event.isInjected] using authentic.once device job
  · intro next member run runs
    obtain ⟨envelope, came, handles⟩ := authentic.running next member run runs
    exact ⟨envelope, came.imp (List.mem_append_left _) (List.mem_append_left _), handles⟩

theorem authentic_start {start : Config Fleet Task} (started : Start start) :
    Authentic deployment start.shared start.tasks where
  wired := wired_start started
  ordered := ordered_start started
  balanced device kind := by
    simp [Balanced, inFlight, sentCount, receivedCount, discardedCount, started.history,
      started.channels, started.sockets, started.tasks]
  sent _ _ _ _ _ member := by simp [started.history] at member
  injected _ _ member := by simp [started.history] at member
  handed _ _ _ _ _ := by simp [started.history, started.agents]
  once _ _ := by simp [arrivedCount, receivedCount, injectedCount, started.history]
  running _ member := by simp [started.tasks] at member

/-- What a run executes, the server has signed for the row of its job. -/
theorem Authentic.signedFor {tasks : List Task} (authentic : Authentic deployment s tasks)
    (enrolled : deployment.Enrolled) {payload : JobPayload} {envelope : Envelope}
    (came : .received device envelope ∈ s.history ∨ .injected device envelope ∈ s.history)
    (handles : handleServerMessage deployment.crypto (deployment.serverPubkey device)
      envelope.message = .execute job payload) : s.SignedFor deployment device job payload := by
  obtain ⟨serial, message⟩ := envelope
  obtain ⟨signature, rfl, ok⟩ := handleServerMessage_execute handles
  have signs := enrolled.verified ok
  -- The server has sent this job to this device, and this payload to some device.
  have sent : ∃ own serial signature,
      .sent own ⟨serial, .dispatchJob job payload signature⟩ ∈ s.history ∧
        0 < s.sentCount device (Envelope.dispatches job) := by
    rcases came with received | injected
    · have balanced := authentic.balanced device
        fun other => decide (other = ⟨serial, .dispatchJob job payload signature⟩)
      have counted : 0 < s.receivedCount device
          fun other => decide (other = ⟨serial, .dispatchJob job payload signature⟩) :=
        List.countP_pos_iff.mpr ⟨_, received, by simp [Event.isReceived]⟩
      have sent : 0 < s.sentCount device
          fun other => decide (other = ⟨serial, .dispatchJob job payload signature⟩) := by
        simp only [Balanced] at balanced
        omega
      obtain ⟨event, member, same⟩ := List.countP_pos_iff.mp sent
      cases event with
      | sent owner other =>
          obtain ⟨rfl, rfl⟩ : owner = device ∧ other = ⟨serial, .dispatchJob job payload signature⟩ := by
            simpa [Event.isSent] using same
          exact ⟨_, _, _, member, List.countP_pos_iff.mpr
            ⟨_, member, by simp [Event.isSent, Envelope.dispatches, Envelope.job?]⟩⟩
      | _ => simp [Event.isSent] at same
    · obtain ⟨signed, own⟩ := authentic.injected device _ injected (job, payload)
        (by simp [Deployment.signedDispatch, signs])
      obtain ⟨event, member, bytes⟩ := List.mem_filterMap.mp signed
      cases event with
      | sent owner other =>
          obtain ⟨number, message⟩ := other
          cases message with
          | dispatchJob id original signature =>
              simp only [Event.signedBytes, Option.some.injEq] at bytes
              obtain ⟨rfl, same⟩ := canonicalJobSigningBytes_split bytes
              have payloads := JobPayload.codec.encode_injective (write_injective same)
              rw [payloads] at member
              exact ⟨_, _, _, member, own⟩
          | _ => cases bytes
      | _ => cases bytes
  obtain ⟨owner, number, text, member, own⟩ := sent
  obtain ⟨json, order, decoded, rfl⟩ := authentic.sent _ _ _ _ _ member
  have same : owner = device := by
    obtain ⟨event, sent, counted⟩ := List.countP_pos_iff.mp own
    cases event with
    | sent target other =>
        obtain ⟨serial, message⟩ := other
        cases message with
        | dispatchJob id payload signature =>
            obtain ⟨rfl, rfl⟩ : target = device ∧ id = job := by
              simpa [Event.isSent, Envelope.dispatches, Envelope.job?] using counted
            obtain ⟨other, found, _⟩ := authentic.sent _ _ _ _ _ sent
            rw [order] at found
            cases found
            rfl
        | _ => simp [Event.isSent, Envelope.dispatches, Envelope.job?] at counted
    | _ => simp [Event.isSent] at counted
  subst same
  simp only [jobOrder, Option.map_eq_some_iff, Prod.mk.injEq] at order
  obtain ⟨row, found, device, rfl⟩ := order
  exact ⟨⟨row, found, device, decoded⟩, number, member⟩

end Fleet

/-- In every run of the attacked fleet in which a signed dispatch comes only to the device it was
sent to, and only once, what an agent executes was signed for the row of its job, and each job is
executed at most once. -/
theorem executed_authentic (deployment : Deployment) (enrolled : deployment.Enrolled)
    {start config : Config Fleet (Task ⊕ Attack)}
    (started : Start ⟨start.shared, firsts start.tasks⟩)
    (reached : Reach (attacked deployment) (DeliveredOnce deployment) start config) :
    (∀ device job payload phase, .inl (.executor device job payload phase) ∈ config.tasks →
      config.shared.SignedFor deployment device job payload) ∧
    ∀ device job, config.shared.executedCount device job ≤ 1 := by
  have authentic : Fleet.Authentic deployment config.shared (firsts config.tasks) := by
    refine reached.beside (Fleet.Authentic deployment) (Fleet.authentic_start started) ?_ ?_ ?_
    · intro s tasks task authentic request
      exact authentic.arrives request
    · intro s s' before after new task choice others authentic delivered moved
      have stepped := moved
      obtain ⟨effect, turn, rfl⟩ := program_step stepped
      exact authentic.step delivered moved turn
    · intro s s' tasks new attack choice others authentic delivered moved
      simp only [attacker, Option.map_eq_some_iff, Prod.mk.injEq] at moved
      obtain ⟨after, attacked, rfl, _⟩ := moved
      cases attack with
      | inject device message =>
          simp only [Fleet.attack] at attacked
          split at attacked
          · rename_i unforged
            cases attacked
            exact authentic.inject delivered unforged
          · cases attacked
      | drop socket position => exact authentic.drop attacked
  constructor
  · intro device job payload phase member
    obtain ⟨envelope, came, handles⟩ := authentic.running _ (mem_firsts.mpr member)
      (device, job, payload) rfl
    exact authentic.signedFor enrolled came handles
  · intro device job
    have handed := authentic.handed device (deployment.carriesSigned job)
      (Event.isExecuted device job)
      (fun event executed => by cases event <;> simp_all [Event.isExecuted, Event.ofAgent])
      (by
        intro owner envelope reaction handles
        cases reaction with
        | execute id payload =>
            obtain ⟨serial, message⟩ := envelope
            obtain ⟨signature, rfl, ok⟩ := handleServerMessage_execute handles
            have signs := enrolled.verified ok
            simp [Fleet.reactionEvent, Event.isExecuted, Deployment.carriesSigned,
              Deployment.signedDispatch, signs]
        | _ => simp [Fleet.reactionEvent, Event.isExecuted])
    have once := authentic.once device job
    simp only [Fleet.executedCount]
    omega

/-! ## A captured dispatch -/

theorem sampleDeployment_enrolled : sampleDeployment.Enrolled :=
  fun _ _ => ⟨sampleSigner, rfl, rfl⟩

/-- The dispatch of job 9 to device 1, as everyone on the network sees it. -/
def capturedDispatch : ServerMessage :=
  .dispatchJob (Uuid.small 9) .collectInventory
    (sampleSigner.signJob (Uuid.small 9) .collectInventory)

/-- A job is created for the connected device, and its dispatch is on the network. -/
def createAndWrite : List (Label Task Choice) :=
  connect ++
    [.arrive (.createJob sampleAdmin (Uuid.small 1) (JobPayload.codec.encode .collectInventory)
        .verifyDevice),
      .run 3 .proceeds, .run 3 (.generates (Uuid.small 9)), .run 3 .proceeds, .run 3 .proceeds,
      .run 2 .proceeds, .run 2 .proceeds]

def dispatchWritten : List (Label (Task ⊕ Attack) (Choice ⊕ Unit)) :=
  createAndWrite.map Label.first

/-- The attacker hands a message to a device, and its agent handles it. -/
def injectAndHandle (index : Nat) (device : Uuid) (message : ServerMessage) :
    List (Label (Task ⊕ Attack) (Choice ⊕ Unit)) :=
  [.arrive (.inr (.inject device message)), .run index (.inr ()),
    .arrive (.inl (.agentHandles device)), .run index (.inl .proceeds)]

def runsJob (device job : Uuid) : Task ⊕ Attack → Bool
  | .inl (.executor owner id _ _) => owner = device ∧ id = job
  | _ => false

/-- The attacker stops the dispatch and delivers it itself, beside a forged one that is rejected. -/
theorem executed_authentic_relayed : ∃ config payload,
    Reach (attacked sampleDeployment) (DeliveredOnce sampleDeployment) ⟨sampleStart.shared, []⟩
      config ∧
      config.shared.SignedFor sampleDeployment (Uuid.small 1) (Uuid.small 9) payload := by
  obtain ⟨config, reached, runs⟩ := Reach.of_observed (attacked sampleDeployment)
    (DeliveredOnce sampleDeployment) ⟨sampleStart.shared, []⟩
    (dispatchWritten ++ [.arrive (.inr (.drop 0 0)), .run 4 (.inr ())] ++
      injectAndHandle 4 (Uuid.small 1) (.dispatchJob (Uuid.small 8) .collectInventory "forged") ++
      injectAndHandle 5 (Uuid.small 1) capturedDispatch)
    (fun config => config.tasks.any (runsJob (Uuid.small 1) (Uuid.small 9))) true
    (by decide +kernel)
  obtain ⟨task, member, runs⟩ := List.any_eq_true.mp runs
  cases task with
  | inr => cases runs
  | inl task =>
      cases task with
      | executor owner id payload phase =>
          obtain ⟨rfl, rfl⟩ : owner = Uuid.small 1 ∧ id = Uuid.small 9 := by simpa [runsJob] using runs
          exact ⟨config, payload, reached, (executed_authentic sampleDeployment
            sampleDeployment_enrolled sampleStart_start reached).1 _ _ payload phase member⟩
      | _ => cases runs

/-- The attacker delivers the dispatch once more, and the agent executes the job again. -/
theorem executed_replayed : ¬ ∀ (start config : Config Fleet (Task ⊕ Attack)),
    Start ⟨start.shared, firsts start.tasks⟩ →
    Reach (attacked sampleDeployment) Guard.any start config →
      (∀ device job payload phase, .inl (.executor device job payload phase) ∈ config.tasks →
        config.shared.SignedFor sampleDeployment device job payload) ∧
      ∀ device job, config.shared.executedCount device job ≤ 1 := by
  intro authentic
  obtain ⟨config, reached, twice⟩ := Reach.of_observed (attacked sampleDeployment) Guard.any
    ⟨sampleStart.shared, []⟩
    (dispatchWritten ++
      [.arrive (.inl (.agentReceives 0)), .run 4 (.inl .proceeds),
        .arrive (.inl (.agentHandles (Uuid.small 1))), .run 4 (.inl .proceeds)] ++
      injectAndHandle 5 (Uuid.small 1) capturedDispatch)
    (fun config => config.shared.executedCount (Uuid.small 1) (Uuid.small 9)) 2
    (by decide +kernel)
  have once := (authentic _ config sampleStart_start reached).2 (Uuid.small 1) (Uuid.small 9)
  omega

end OsfmEdm
