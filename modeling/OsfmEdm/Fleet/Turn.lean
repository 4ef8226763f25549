import OsfmEdm.Fleet.Step

/-!
What a step of each task can be, as one relation with a case for each branch of the source.
Every invariant is proved from these cases.
-/

namespace OsfmEdm

open Interleaving JsonText

namespace Fleet

/-- The outcomes of `send_to_agent`: into the registered channel, or not at all. -/
inductive Sends (s : Fleet) (device : Uuid) (message : ServerMessage) : Effect → Option Nat → Prop
    where
  | sent {channel : Nat} (opened : s.openChannel device = some (some channel)) :
      Sends s device message (.enqueue channel message) (some s.serials)
  | unsent (closed : s.openChannel device = some none) : Sends s device message .none none

inductive Turn (deployment : Deployment) (s : Fleet) :
    Task → Choice → Effect → List Task → Prop where
  -- `create_job`
  | createRefused {auth device payload phase choice error} (early : ∀ job, phase ≠ .mark job) :
      Turn deployment s (.createJob auth device payload phase) choice .none
        [.createJob auth device payload (.refused error)]
  | createVerified {auth device payload choice} :
      Turn deployment s (.createJob auth device payload .verifyDevice) choice .none
        [.createJob auth device payload .insert]
  | createInserted {auth device payload job db}
      (inserted : s.app.db.insertJob job device payload (some auth.userId) = some db) :
      Turn deployment s (.createJob auth device payload .insert) (.generates job)
        (.insertJob job device payload auth.userId)
        [.createJob auth device payload (.dispatch job)]
  | createSent {auth device payload job choice decoded effect sent}
      (valid : JobPayload.codec.decode payload = some decoded)
      (sends : Sends s device
        (.dispatchJob job decoded (signJob deployment.jobSigner job decoded)) effect sent) :
      Turn deployment s (.createJob auth device payload (.dispatch job)) choice effect
        [.createJob auth device payload (if sent.isSome then .mark job else .created job)]
  | createMarked {auth device payload job} :
      Turn deployment s (.createJob auth device payload (.mark job)) .proceeds
        (.markDispatched job) [.createJob auth device payload (.created job)]
  | createUnmarked {auth device payload job} :
      Turn deployment s (.createJob auth device payload (.mark job)) .fails .none
        [.createJob auth device payload (.created job)]
  -- `cancel_job`
  | cancelRefused {auth job choice error} :
      Turn deployment s (.cancelJob auth job .lookUp) choice .none
        [.cancelJob auth job (.refused error)]
  | cancelFound {auth job choice row} (found : s.app.db.jobs.find? job = some row)
      (unfinished : row.status.terminal = false) :
      Turn deployment s (.cancelJob auth job .lookUp) choice .none
        [.cancelJob auth job (.revoke row.deviceId)]
  | cancelSent {auth job device choice effect sent}
      (sends : Sends s device (.revokeJob job) effect sent) :
      Turn deployment s (.cancelJob auth job (.revoke device)) choice effect
        [.cancelJob auth job (.mark device sent)]
  | cancelMarked {auth job device sent} :
      Turn deployment s (.cancelJob auth job (.mark device sent)) .proceeds (.markCancelled job)
        [.cancelJob auth job (.cancelled device sent)]
  | cancelUnmarked {auth job device sent} :
      Turn deployment s (.cancelJob auth job (.mark device sent)) .fails .none
        [.cancelJob auth job (.cancelled device sent)]
  -- `delete_device`
  | deleteRefused {auth device phase choice error} :
      Turn deployment s (.deleteDevice auth device phase) choice .none
        [.deleteDevice auth device (.refused error)]
  | deleteVerified {auth device choice} (known : s.app.db.deviceExists device = true) :
      Turn deployment s (.deleteDevice auth device .verifyDevice) choice .none
        [.deleteDevice auth device .certificates]
  | deleteCertificates {auth device} :
      Turn deployment s (.deleteDevice auth device .certificates) .proceeds
        (.revokeCertificates device) [.deleteDevice auth device .credential]
  | deleteCredential {auth device} :
      Turn deployment s (.deleteDevice auth device .credential) .proceeds
        (.dropCredential device) [.deleteDevice auth device .disconnect]
  | deleteDisconnected {auth device choice} :
      Turn deployment s (.deleteDevice auth device .disconnect) choice
        (.cutOff device) [.deleteDevice auth device .revoked]
  -- enrollment and `ws_handler`
  | enrolled {tokenHash device} :
      Turn deployment s (.enroll tokenHash) (.generates device)
        (.enrollDevice device tokenHash) []
  | upgradeRejected {device presented choice} :
      Turn deployment s (.wsHandler device presented) choice .none []
  | upgradeAccepted {device presented}
      (authentic : authenticateAgent deployment.sha256 s.app.db device presented = true) :
      Turn deployment s (.wsHandler device presented) .proceeds (.accept device)
        [.handler device s.sockets.length .verifyDevice]
  -- `handle_agent_connection`
  | handlerGone {device socket choice} :
      Turn deployment s (.handler device socket .verifyDevice) choice .none []
  | handlerVerified {device socket choice} (known : s.app.db.deviceExists device = true) :
      Turn deployment s (.handler device socket .verifyDevice) choice .none
        [.handler device socket .register]
  | handlerRegistered {device socket choice} :
      Turn deployment s (.handler device socket .register) choice (.register device)
        [.handler device socket (.markOnline s.channels.length)]
  | handlerOnline {device socket channel choice} (done : Bool) :
      Turn deployment s (.handler device socket (.markOnline channel)) choice
        (if done then .markOnline device else .none)
        [.handler device socket (.reading channel), .onConnect device .selectJobs,
          .writer device socket channel none]
  | handlerReads {device socket channel k message rest}
      (found : s.sockets[socket]? = some k) (incoming : k.toServer = message :: rest) :
      Turn deployment s (.handler device socket (.reading channel)) .proceeds (.readSocket socket)
        [.handler device socket (.processing channel (processAgentMessage message))]
  | handlerCloses {device socket channel} :
      Turn deployment s (.handler device socket (.reading channel)) .closes .none
        [.handler device socket (.unregister channel)]
  | handlerActs {device socket channel action rest} (fails : Bool) :
      Turn deployment s (.handler device socket (.processing channel (action :: rest)))
        (if fails then .fails else .proceeds)
        (.act device action fails)
        [.handler device socket (.processing channel (action.follow device s.app fails ++ rest))]
  | handlerProcessed {device socket channel choice} :
      Turn deployment s (.handler device socket (.processing channel [])) choice .none
        [.handler device socket (.reading channel)]
  | handlerUnregisters {device socket channel choice} :
      Turn deployment s (.handler device socket (.unregister channel)) choice (.disconnect device)
        [.handler device socket (.markOffline channel)]
  | handlerOffline {device socket channel} :
      Turn deployment s (.handler device socket (.markOffline channel)) .proceeds
        (.markOffline device) [.handler device socket (.abort channel)]
  | handlerStaysOnline {device socket channel} :
      Turn deployment s (.handler device socket (.markOffline channel)) .fails .none
        [.handler device socket (.abort channel)]
  | handlerEnds {device socket channel choice} :
      Turn deployment s (.handler device socket (.abort channel)) choice (.abort channel) []
  -- the task spawned on connect
  | jobsSelected {device} :
      Turn deployment s (.onConnect device .selectJobs) .proceeds .none
        [.onConnect device (.jobs (s.app.db.pendingJobs device))]
  | jobsUnread {device} :
      Turn deployment s (.onConnect device .selectJobs) .fails .none [.onConnect device (.jobs [])]
  | jobSkipped {device job payload rest choice} :
      Turn deployment s (.onConnect device (.jobs ((job, payload) :: rest))) choice .none
        [.onConnect device (.jobs rest)]
  | jobSent {device job payload rest choice decoded effect sent}
      (valid : JobPayload.codec.decode payload = some decoded)
      (sends : Sends s device
        (.dispatchJob job decoded (signJob deployment.jobSigner job decoded)) effect sent) :
      Turn deployment s (.onConnect device (.jobs ((job, payload) :: rest))) choice effect
        [.onConnect device (if sent.isSome then .mark job rest else .jobs rest)]
  | jobMarked {device job rest} :
      Turn deployment s (.onConnect device (.mark job rest)) .proceeds (.markDispatched job)
        [.onConnect device (.jobs rest)]
  | jobUnmarked {device job rest} :
      Turn deployment s (.onConnect device (.mark job rest)) .fails .none
        [.onConnect device (.jobs rest)]
  | jobsDone {device choice} :
      Turn deployment s (.onConnect device (.jobs [])) choice .none
        [.onConnect device .selectPolicies]
  | policiesSelected {device choice} (policies : List PolicyDefinition) :
      Turn deployment s (.onConnect device .selectPolicies) choice .none
        [.onConnect device
          (if policies = [] then .requestInventory else .sendPolicies policies)]
  | policiesSent {device policies choice effect sent}
      (sends : Sends s device (.pushPolicy policies) effect sent) :
      Turn deployment s (.onConnect device (.sendPolicies policies)) choice effect
        [.onConnect device .requestInventory]
  | inventoryRequested {device choice effect sent}
      (sends : Sends s device .requestInventory effect sent) :
      Turn deployment s (.onConnect device .requestInventory) choice effect []
  -- the write task
  | writerTakes {device socket channel c envelope rest} (found : s.channels[channel]? = some c)
      (queued : c.queue = envelope :: rest) :
      Turn deployment s (.writer device socket channel none) .proceeds (.take channel)
        [.writer device socket channel (some envelope)]
  | writerWrites {device socket channel envelope} :
      Turn deployment s (.writer device socket channel (some envelope)) .proceeds
        (.write socket envelope) [.writer device socket channel none]
  | writerEnds {device socket channel taken choice} (stops : choice ≠ .proceeds) :
      Turn deployment s (.writer device socket channel taken) choice (.dropReceiver channel taken) []
  | pushed {device message choice effect sent} (plain : message.concernsJob = false)
      (sends : Sends s device message effect sent) :
      Turn deployment s (.push device message) choice effect []
  -- the agent
  | agentReceives {socket k envelope rest choice} (found : s.sockets[socket]? = some k)
      (incoming : k.toAgent = envelope :: rest) (agentOpen : k.agentOpen = true) :
      Turn deployment s (.agentReceives socket) choice (.receive socket) []
  | agentLeaves {socket choice} :
      Turn deployment s (.agentLeaves socket) choice (.leave socket) []
  | agentHandles {device envelope rest choice reaction}
      (inbound : (s.agents device).inbound = envelope :: rest)
      (reacts : handleServerMessage deployment.crypto (deployment.serverPubkey device)
        envelope.message = reaction) :
      Turn deployment s (.agentHandles device) choice (.handle device reaction envelope.serial)
        (reaction.spawns device)
  | agentEmits {device message choice} :
      Turn deployment s (.agentEmits device message) choice (.emit device message) []
  | agentFlushes {device socket choice} :
      Turn deployment s (.agentFlushes device socket) choice (.flush device socket) []
  -- `execute_job`
  | executorRegisters {device job payload choice} :
      Turn deployment s (.executor device job payload .spawned) choice (.registerKill device job)
        [.executor device job payload (.registered (s.agents device).killChannels)]
  | executorStarts {device job payload channel choice} (done : Bool) :
      Turn deployment s (.executor device job payload (.registered channel)) choice .none
        [.executor device job payload (if done then .waiting channel else .reporting (-1))]
  | executorWorks {device job payload channel choice} :
      Turn deployment s (.executor device job payload (.registered channel)) choice
        (.removeKill device job) [.executor device job payload .working]
  | executorExits {device job payload channel choice} (exitCode : Int32) :
      Turn deployment s (.executor device job payload (.waiting channel)) choice .none
        [.executor device job payload (.exited exitCode)]
  | executorWorked {device job payload choice} (exitCode : Int32) :
      Turn deployment s (.executor device job payload .working) choice .none
        [.executor device job payload (.reporting exitCode)]
  | executorRemoves {device job payload exitCode choice} :
      Turn deployment s (.executor device job payload (.exited exitCode)) choice
        (.removeKill device job) [.executor device job payload (.reporting exitCode)]
  | executorReports {device job payload exitCode choice} :
      Turn deployment s (.executor device job payload (.reporting exitCode)) choice
        (.emit device (.jobCompleted job exitCode)) []
  | rejectionLogs {device job reason choice} :
      Turn deployment s (.rejection device job reason .log) choice
        (.emit device (.jobLog job ("Job rejected: " ++ reason) "stderr"))
        [.rejection device job reason .completed]
  | rejectionReports {device job reason choice} :
      Turn deployment s (.rejection device job reason .completed) choice
        (.emit device (.jobCompleted job (-3))) []
  | ticks {choice} : Turn deployment s .clock choice .tick []

variable {deployment : Deployment} {s : Fleet}

theorem openChannel_some {device : Uuid} {channel : Nat}
    (opened : s.openChannel device = some (some channel)) :
    s.app.channelOf device = some channel ∧
      ∃ c, s.channels[channel]? = some c ∧ c.receiving = true := by
  unfold openChannel at opened
  split at opened
  · cases opened
  rename_i entry
  split at opened
  · cases opened
  rename_i c found
  split at opened
  · rename_i receiving
    split at opened
    · cases opened
      exact ⟨entry, c, found, receiving⟩
    · cases opened
  · cases opened

theorem send_sends {device : Uuid} {message : ServerMessage} {next : Option Nat → List Task}
    {effect : Effect} {new : List Task} (moved : s.send device message next = some (effect, new)) :
    ∃ sent, Sends s device message effect sent ∧ new = next sent := by
  unfold send at moved
  split at moved
  · cases moved
  · rename_i closed
    cases moved
    exact ⟨none, .unsent closed, rfl⟩
  · rename_i channel accepted
    cases moved
    exact ⟨some s.serials, .sent accepted, rfl⟩

theorem statement_cases {choice : Choice} {effect made : Effect} {next : Bool → List Task}
    {new : List Task} (moved : statement choice effect next = some (made, new)) :
    (choice = .proceeds ∧ made = effect ∧ new = next true) ∨
      (choice = .fails ∧ made = .none ∧ new = next false) := by
  cases choice with
  | proceeds =>
      cases moved
      exact .inl ⟨rfl, rfl, rfl⟩
  | fails =>
      cases moved
      exact .inr ⟨rfl, rfl, rfl⟩
  | _ => cases moved

theorem createJob_turn {auth : AuthUser} {device : Uuid} {payload : Json} {phase : CreateJob}
    {choice : Choice} {effect : Effect} {new : List Task}
    (moved : s.createJob deployment auth device payload choice phase = some (effect, new)) :
    Turn deployment s (.createJob auth device payload phase) choice effect new := by
  cases phase with
  | verifyDevice =>
      simp only [createJob] at moved
      split at moved
      · cases moved
        exact .createRefused nofun
      rcases statement_cases moved with ⟨_, rfl, rfl⟩ | ⟨_, rfl, rfl⟩
      · simp only [Bool.not_true, Bool.false_eq_true, if_false]
        split
        · exact .createVerified
        · exact .createRefused nofun
      · exact .createRefused nofun
  | insert =>
      simp only [createJob] at moved
      split at moved
      · cases moved
        exact .createRefused nofun
      · split at moved
        · rename_i inserted
          cases moved
          exact .createInserted inserted
        · cases moved
      · cases moved
  | dispatch job =>
      simp only [createJob] at moved
      split at moved
      · cases moved
        exact .createRefused nofun
      rename_i decoded valid
      obtain ⟨sent, sends, rfl⟩ := send_sends moved
      cases sent <;> exact .createSent valid sends
  | mark job =>
      simp only [createJob] at moved
      rcases statement_cases moved with ⟨rfl, rfl, rfl⟩ | ⟨rfl, rfl, rfl⟩
      · exact .createMarked
      · exact .createUnmarked
  | created job => cases moved
  | refused error => cases moved

theorem cancelJob_turn {auth : AuthUser} {job : Uuid} {phase : CancelJob} {choice : Choice}
    {effect : Effect} {new : List Task}
    (moved : s.cancelJob auth job choice phase = some (effect, new)) :
    Turn deployment s (.cancelJob auth job phase) choice effect new := by
  cases phase with
  | lookUp =>
      simp only [cancelJob] at moved
      split at moved
      · cases moved
        exact .cancelRefused
      rcases statement_cases moved with ⟨_, rfl, rfl⟩ | ⟨_, rfl, rfl⟩
      · simp only [Bool.not_true, Bool.false_eq_true, if_false]
        split
        · exact .cancelRefused
        · rename_i row found
          split
          · exact .cancelRefused
          · rename_i unfinished
            exact .cancelFound found (by simpa using unfinished)
      · exact .cancelRefused
  | revoke device =>
      simp only [cancelJob] at moved
      obtain ⟨sent, sends, rfl⟩ := send_sends moved
      exact .cancelSent sends
  | mark device sent =>
      simp only [cancelJob] at moved
      rcases statement_cases moved with ⟨rfl, rfl, rfl⟩ | ⟨rfl, rfl, rfl⟩
      · exact .cancelMarked
      · exact .cancelUnmarked
  | cancelled device sent => cases moved
  | refused error => cases moved

theorem deleteDevice_turn {auth : AuthUser} {device : Uuid} {phase : DeleteDevice}
    {choice : Choice} {effect : Effect} {new : List Task}
    (moved : s.deleteDevice auth device choice phase = some (effect, new)) :
    Turn deployment s (.deleteDevice auth device phase) choice effect new := by
  cases phase with
  | verifyDevice =>
      simp only [deleteDevice] at moved
      split at moved
      · cases moved
        exact .deleteRefused
      rcases statement_cases moved with ⟨_, rfl, rfl⟩ | ⟨_, rfl, rfl⟩
      · simp only [Bool.not_true, Bool.false_eq_true, if_false]
        split
        · rename_i known
          exact .deleteVerified known
        · exact .deleteRefused
      · exact .deleteRefused
  | certificates =>
      simp only [deleteDevice] at moved
      rcases statement_cases moved with ⟨rfl, rfl, rfl⟩ | ⟨rfl, rfl, rfl⟩
      · exact .deleteCertificates
      · exact .deleteRefused
  | credential =>
      simp only [deleteDevice] at moved
      rcases statement_cases moved with ⟨rfl, rfl, rfl⟩ | ⟨rfl, rfl, rfl⟩
      · exact .deleteCredential
      · exact .deleteRefused
  | disconnect =>
      cases moved
      exact .deleteDisconnected
  | revoked => cases moved
  | refused error => cases moved

theorem wsHandler_turn {device : Uuid} {presented : Option String} {choice : Choice}
    {effect : Effect} {new : List Task}
    (moved : s.wsHandler deployment device presented choice = some (effect, new)) :
    Turn deployment s (.wsHandler device presented) choice effect new := by
  unfold wsHandler at moved
  split at moved
  · split at moved
    · rename_i authentic
      cases moved
      exact .upgradeAccepted authentic
    · cases moved
      exact .upgradeRejected
  · cases moved
    exact .upgradeRejected
  · cases moved

theorem handler_turn {device : Uuid} {socket : Nat} {phase : Handler} {choice : Choice}
    {effect : Effect} {new : List Task}
    (moved : s.handler device socket choice phase = some (effect, new)) :
    Turn deployment s (.handler device socket phase) choice effect new := by
  cases phase with
  | verifyDevice =>
      simp only [handler] at moved
      rcases statement_cases moved with ⟨_, rfl, rfl⟩ | ⟨_, rfl, rfl⟩
      · simp only [Bool.true_and]
        split
        · rename_i known
          exact .handlerVerified known
        · exact .handlerGone
      · exact .handlerGone
  | register =>
      cases moved
      exact .handlerRegistered
  | markOnline channel =>
      simp only [handler] at moved
      rcases statement_cases moved with ⟨_, rfl, rfl⟩ | ⟨_, rfl, rfl⟩
      · exact .handlerOnline true
      · exact .handlerOnline false
  | reading channel =>
      simp only [handler] at moved
      split at moved
      · cases moved
        exact .handlerCloses
      · split at moved
        · rename_i found
          cases moved
          exact .handlerReads found rfl
        · cases moved
      · cases moved
  | processing channel actions =>
      cases actions with
      | nil =>
          cases moved
          exact .handlerProcessed
      | cons action rest =>
          simp only [handler] at moved
          split at moved
          · cases moved
            exact .handlerActs false
          · cases moved
            exact .handlerActs true
          · cases moved
  | unregister channel =>
      cases moved
      exact .handlerUnregisters
  | markOffline channel =>
      simp only [handler] at moved
      rcases statement_cases moved with ⟨rfl, rfl, rfl⟩ | ⟨rfl, rfl, rfl⟩
      · exact .handlerOffline
      · exact .handlerStaysOnline
  | abort channel =>
      cases moved
      exact .handlerEnds

theorem onConnect_turn {device : Uuid} {phase : OnConnect} {choice : Choice}
    {effect : Effect} {new : List Task}
    (moved : s.onConnect deployment device choice phase = some (effect, new)) :
    Turn deployment s (.onConnect device phase) choice effect new := by
  cases phase with
  | selectJobs =>
      simp only [onConnect] at moved
      rcases statement_cases moved with ⟨rfl, rfl, rfl⟩ | ⟨rfl, rfl, rfl⟩
      · exact .jobsSelected
      · exact .jobsUnread
  | jobs rest =>
      rcases rest with _ | ⟨⟨job, payload⟩, rest⟩
      · cases moved
        exact .jobsDone
      simp only [onConnect] at moved
      split at moved
      · cases moved
        exact .jobSkipped
      rename_i decoded valid
      obtain ⟨sent, sends, rfl⟩ := send_sends moved
      cases sent <;> exact .jobSent valid sends
  | mark job rest =>
      simp only [onConnect] at moved
      rcases statement_cases moved with ⟨rfl, rfl, rfl⟩ | ⟨rfl, rfl, rfl⟩
      · exact .jobMarked
      · exact .jobUnmarked
  | selectPolicies =>
      simp only [onConnect] at moved
      rcases statement_cases moved with ⟨_, rfl, rfl⟩ | ⟨_, rfl, rfl⟩
      · cases s.app.db.policiesFor device with
        | nil => exact .policiesSelected []
        | cons policy policies => exact .policiesSelected (policy :: policies)
      · exact .policiesSelected []
  | sendPolicies policies =>
      simp only [onConnect] at moved
      obtain ⟨sent, sends, rfl⟩ := send_sends moved
      exact .policiesSent sends
  | requestInventory =>
      simp only [onConnect] at moved
      obtain ⟨sent, sends, rfl⟩ := send_sends moved
      exact .inventoryRequested sends

theorem writer_turn {device : Uuid} {socket channel : Nat} {taken : Option Envelope}
    {choice : Choice} {effect : Effect} {new : List Task}
    (moved : s.writer device socket channel choice taken = some (effect, new)) :
    Turn deployment s (.writer device socket channel taken) choice effect new := by
  cases taken with
  | none =>
      simp only [writer] at moved
      split at moved
      · cases moved
      rename_i c found
      split at moved
      · split at moved
        · rename_i queued
          cases moved
          exact .writerTakes found queued
        · cases moved
      · split at moved
        · cases moved
          exact .writerEnds nofun
        · cases moved
      · cases moved
  | some envelope =>
      simp only [writer] at moved
      split at moved
      · cases moved
        exact .writerWrites
      · cases moved
        exact .writerEnds nofun
      · split at moved
        · cases moved
          exact .writerEnds nofun
        · cases moved
      · cases moved

theorem report_turn {device : Uuid} {message : AgentMessage} {next new : List Task}
    {effect : Effect} (moved : s.report device message next = some (effect, new)) :
    effect = .emit device message ∧ new = next := by
  unfold report at moved
  split at moved
  · cases moved
    exact ⟨rfl, rfl⟩
  · cases moved

theorem executor_turn {device job : Uuid} {payload : JobPayload} {phase : Execution}
    {choice : Choice} {effect : Effect} {new : List Task}
    (moved : s.executor deployment device job payload choice phase = some (effect, new)) :
    Turn deployment s (.executor device job payload phase) choice effect new := by
  cases phase with
  | spawned =>
      cases moved
      exact .executorRegisters
  | registered channel =>
      unfold executor at moved
      dsimp only at moved
      split at moved
      · rcases statement_cases moved with ⟨_, rfl, rfl⟩ | ⟨_, rfl, rfl⟩
        · exact .executorStarts true
        · exact .executorStarts false
      · cases moved
        exact .executorWorks
  | waiting channel =>
      unfold executor at moved
      cases choice with
      | exits exitCode =>
          cases moved
          exact .executorExits _
      | killed =>
          dsimp only at moved
          split at moved
          · cases moved
            exact .executorExits _
          · cases moved
      | timesOut =>
          cases moved
          exact .executorExits _
      | _ => cases moved
  | working =>
      unfold executor at moved
      dsimp only at moved
      split at moved
      · split at moved
        · cases moved
          exact .executorWorked _
        · cases moved
      · cases moved
  | exited exitCode =>
      cases moved
      exact .executorRemoves
  | reporting exitCode =>
      unfold executor at moved
      dsimp only at moved
      obtain ⟨rfl, rfl⟩ := report_turn moved
      exact .executorReports

theorem turn_of_step {task : Task} {choice : Choice} {effect : Effect} {new : List Task}
    (moved : s.turn deployment task choice = some (effect, new)) :
    Turn deployment s task choice effect new := by
  cases task with
  | createJob auth device payload phase => exact createJob_turn moved
  | cancelJob auth job phase => exact cancelJob_turn moved
  | deleteDevice auth device phase => exact deleteDevice_turn moved
  | enroll tokenHash =>
      simp only [turn] at moved
      split at moved
      · cases moved
        exact .enrolled
      · cases moved
  | wsHandler device presented => exact wsHandler_turn moved
  | handler device socket phase => exact handler_turn moved
  | onConnect device phase => exact onConnect_turn moved
  | writer device socket channel taken => exact writer_turn moved
  | push device message =>
      simp only [turn] at moved
      split at moved
      · cases moved
      · rename_i plain
        obtain ⟨sent, sends, rfl⟩ := send_sends moved
        exact .pushed (by simpa using plain) sends
  | agentReceives socket =>
      simp only [turn, agentReceives] at moved
      split at moved
      · rename_i found
        split at moved
        · cases moved
          exact .agentReceives found rfl rfl
        · cases moved
      · cases moved
  | agentLeaves socket =>
      cases moved
      exact .agentLeaves
  | agentHandles device =>
      simp only [turn, agentHandles] at moved
      split at moved
      · cases moved
      · rename_i envelope rest inbound
        cases moved
        exact .agentHandles inbound rfl
  | agentEmits device message =>
      simp only [turn] at moved
      obtain ⟨rfl, rfl⟩ := report_turn moved
      exact .agentEmits
  | agentFlushes device socket =>
      simp only [turn, agentFlushes] at moved
      split at moved
      · split at moved
        · cases moved
          exact .agentFlushes
        · cases moved
      · cases moved
  | executor device job payload phase => exact executor_turn moved
  | rejection device job reason phase =>
      cases phase with
      | log =>
          simp only [turn, rejection] at moved
          obtain ⟨rfl, rfl⟩ := report_turn moved
          exact .rejectionLogs
      | completed =>
          simp only [turn, rejection] at moved
          obtain ⟨rfl, rfl⟩ := report_turn moved
          exact .rejectionReports
  | clock =>
      cases moved
      exact .ticks

/-! ## Where a step comes from -/

/-- The task behind an effect that only one kind of task has. -/
def Sourced (deployment : Deployment) (s : Fleet) (task : Task) (new : List Task) : Effect → Prop
  | .register owner => ∃ socket, task = .handler owner socket .register
  | .act owner _ _ => ∃ socket channel actions,
      task = .handler owner socket (.processing channel actions)
  | .cutOff owner => ∃ auth, task = .deleteDevice auth owner .disconnect
  | .receive socket => task = .agentReceives socket ∧ ∃ owner toServer envelope rest,
      s.sockets[socket]? = some ⟨owner, envelope :: rest, toServer, true⟩
  | .handle owner reaction serial => ∃ envelope rest, (s.agents owner).inbound = envelope :: rest ∧
      serial = envelope.serial ∧
      handleServerMessage deployment.crypto (deployment.serverPubkey owner) envelope.message =
        reaction ∧ task = .agentHandles owner ∧ new = reaction.spawns owner
  | .registerKill device job => ∃ payload, task = .executor device job payload .spawned
  | _ => True

theorem Turn.sourced {task : Task} {choice : Choice} {effect : Effect} {new : List Task}
    (turn : Turn deployment s task choice effect new) : Sourced deployment s task new effect := by
  cases turn with
  | handlerRegistered => exact ⟨_, rfl⟩
  | handlerActs => exact ⟨_, _, _, rfl⟩
  | deleteDisconnected => exact ⟨_, rfl⟩
  | @agentReceives _ k envelope rest _ found incoming agentOpen =>
      obtain ⟨owner, toAgent, toServer, opened⟩ := k
      cases incoming
      cases agentOpen
      exact ⟨rfl, owner, toServer, envelope, rest, found⟩
  | agentHandles inbound reacts => exact ⟨_, _, inbound, rfl, reacts, rfl, rfl⟩
  | executorRegisters => exact ⟨_, rfl⟩
  | createSent _ sends | cancelSent sends | jobSent _ sends | policiesSent sends
  | inventoryRequested sends | pushed _ sends => cases sends <;> trivial
  | handlerOnline done => cases done <;> trivial
  | _ => trivial

theorem Turn.executor_from {task : Task} {choice : Choice} {effect : Effect} {new : List Task}
    {device job : Uuid} {payload : JobPayload} {phase : Execution}
    (turn : Turn deployment s task choice effect new)
    (member : .executor device job payload phase ∈ new) :
    (∃ old, task = .executor device job payload old ∧
      (old = .spawned ∨ (∃ channel, old = .registered channel) ∨
        ∃ exitCode, phase = .exited exitCode ∨ phase = .reporting exitCode)) ∨
      ∃ serial, effect = .handle device (.execute job payload) serial := by
  cases turn with
  | executorRegisters =>
      cases List.mem_singleton.mp member
      exact .inl ⟨_, rfl, .inl rfl⟩
  | executorStarts done =>
      cases List.mem_singleton.mp member
      exact .inl ⟨_, rfl, .inr (.inl ⟨_, rfl⟩)⟩
  | executorWorks =>
      cases List.mem_singleton.mp member
      exact .inl ⟨_, rfl, .inr (.inl ⟨_, rfl⟩)⟩
  | executorExits =>
      cases List.mem_singleton.mp member
      exact .inl ⟨_, rfl, .inr (.inr ⟨_, .inl rfl⟩)⟩
  | executorWorked | executorRemoves =>
      cases List.mem_singleton.mp member
      exact .inl ⟨_, rfl, .inr (.inr ⟨_, .inr rfl⟩)⟩
  | @agentHandles _ _ _ _ reaction =>
      cases reaction with
      | execute id payload =>
          cases List.mem_singleton.mp member
          exact .inr ⟨_, rfl⟩
      | reject => cases List.mem_singleton.mp member
      | cancel => cases member
      | other => cases member
  | handlerOnline => simp at member
  | _ =>
      first
        | cases member
          done
        | cases List.mem_singleton.mp member

end Fleet

theorem program_step {deployment : Deployment} {s s' : Fleet} {task : Task} {choice : Choice}
    {new : List Task} (moved : (program deployment).step s task choice = some (s', new)) :
    ∃ effect, Fleet.Turn deployment s task choice effect new ∧ s' = s.apply effect := by
  simp only [program, Option.map_eq_some_iff] at moved
  obtain ⟨⟨effect, tasks⟩, turned, same⟩ := moved
  cases same
  exact ⟨effect, Fleet.turn_of_step turned, rfl⟩

end OsfmEdm
