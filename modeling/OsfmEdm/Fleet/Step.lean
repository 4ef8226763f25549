import OsfmEdm.Fleet.Effects

/-!
One atomic step of each task: the effect it has and what the task becomes.
-/

namespace OsfmEdm

open Interleaving JsonText

def CHANNEL_CAPACITY : Nat := 64

def AGENT_CAPACITY : Nat := 256

/-- The messages that dispatch or revoke a job. -/
def ServerMessage.concernsJob : ServerMessage → Bool
  | .dispatchJob .. | .revokeJob .. => true
  | _ => false

/-- `Display` of a job status in an error text. -/
def JobStatus.text : JobStatus → String
  | .pending => "pending"
  | .dispatched => "dispatched"
  | .running => "running"
  | .completed => "completed"
  | .done => "done"
  | .failed => "failed"
  | .cancelled => "cancelled"

/-- The statuses `cancel_job` refuses. -/
def JobStatus.terminal : JobStatus → Bool
  | .completed | .failed | .cancelled => true
  | _ => false

/-- The task a handled message spawns on the agent. -/
def Reaction.spawns (device : Uuid) : Reaction → List Task
  | .execute job payload => [.executor device job payload .spawned]
  | .reject job reason => [.rejection device job reason .log]
  | _ => []

abbrev Move := Effect × List Task

namespace Fleet

/-- A SQL statement: done, or failed without effect. -/
def statement (choice : Choice) (effect : Effect) (next : Bool → List Task) : Option Move :=
  match choice with
  | .proceeds => some (effect, next true)
  | .fails => some (.none, next false)
  | _ => none

/-- The channel a message for the device can go into now: none where `send_to_agent` gives
false, and no answer while the queue is full. -/
def openChannel (s : Fleet) (device : Uuid) : Option (Option Nat) :=
  match s.app.channelOf device with
  | none => some none
  | some channel =>
      match s.channels[channel]? with
      | none => some none
      | some c =>
          if c.receiving then if c.queue.length < CHANNEL_CAPACITY then some (some channel) else none
          else some none

/-- `send_to_agent`, going on with the number of the message when it went into a channel. -/
def send (s : Fleet) (device : Uuid) (message : ServerMessage) (next : Option Nat → List Task) :
    Option Move :=
  match s.openChannel device with
  | none => none
  | some none => some (.none, next none)
  | some (some channel) => some (.enqueue channel message, next (some s.serials))

/-- A message into the agent's outbound channel. -/
def report (s : Fleet) (device : Uuid) (message : AgentMessage) (next : List Task) : Option Move :=
  if (s.agents device).outbound.length < AGENT_CAPACITY then some (.emit device message, next)
  else none

variable (deployment : Deployment)

def createJob (s : Fleet) (auth : AuthUser) (device : Uuid) (payload : Json) (choice : Choice) :
    CreateJob → Option Move
  | .verifyDevice =>
      match auth.requireAdmin with
      | .error error => some (.none, [.createJob auth device payload (.refused error)])
      | .ok () =>
          statement choice .none fun done =>
            if !done then [.createJob auth device payload (.refused .database)]
            else if s.app.db.deviceExists device then [.createJob auth device payload .insert]
            else
              [.createJob auth device payload
                (.refused (.notFound ("Device " ++ device.text ++ " not found")))]
  | .insert =>
      match choice with
      | .fails => some (.none, [.createJob auth device payload (.refused .database)])
      | .generates job =>
          match s.app.db.insertJob job device payload (some auth.userId) with
          | some _ =>
              some (.insertJob job device payload auth.userId,
                [.createJob auth device payload (.dispatch job)])
          | none => none
      | _ => none
  | .dispatch job =>
      match JobPayload.codec.decode payload with
      | none =>
          some (.none, [.createJob auth device payload
            (.refused (.badRequest ("Invalid job payload: " ++ deployment.decodeError payload)))])
      | some decoded =>
          s.send device (.dispatchJob job decoded (signJob deployment.jobSigner job decoded))
            fun sent =>
              match sent with
              | some _ => [.createJob auth device payload (.mark job)]
              | none => [.createJob auth device payload (.created job)]
  | .mark job =>
      statement choice (.markDispatched job) fun _ => [.createJob auth device payload (.created job)]
  | .created _ | .refused _ => none

def cancelJob (s : Fleet) (auth : AuthUser) (job : Uuid) (choice : Choice) :
    CancelJob → Option Move
  | .lookUp =>
      match auth.requireAdmin with
      | .error error => some (.none, [.cancelJob auth job (.refused error)])
      | .ok () =>
          statement choice .none fun done =>
            if !done then [.cancelJob auth job (.refused .database)]
            else
              match s.app.db.jobs.find? job with
              | none =>
                  [.cancelJob auth job
                    (.refused (.notFound ("Job " ++ job.text ++ " not found")))]
              | some row =>
                  if row.status.terminal then
                    [.cancelJob auth job
                      (.refused (.conflict ("Job is already " ++ row.status.text)))]
                  else [.cancelJob auth job (.revoke row.deviceId)]
  | .revoke device =>
      s.send device (.revokeJob job) fun sent => [.cancelJob auth job (.mark device sent)]
  | .mark device sent =>
      statement choice (.markCancelled job) fun _ =>
        [.cancelJob auth job (.cancelled device sent)]
  | .cancelled .. | .refused _ => none

def deleteDevice (s : Fleet) (auth : AuthUser) (device : Uuid) (choice : Choice) :
    DeleteDevice → Option Move
  | .verifyDevice =>
      match auth.requireAdmin with
      | .error error => some (.none, [.deleteDevice auth device (.refused error)])
      | .ok () =>
          statement choice .none fun done =>
            if !done then [.deleteDevice auth device (.refused .database)]
            else if s.app.db.deviceExists device then [.deleteDevice auth device .certificates]
            else
              [.deleteDevice auth device
                (.refused (.notFound ("Device " ++ device.text ++ " not found")))]
  | .certificates =>
      statement choice (.revokeCertificates device) fun done =>
        if done then [.deleteDevice auth device .credential]
        else [.deleteDevice auth device (.refused .database)]
  | .credential =>
      statement choice (.dropCredential device) fun done =>
        if done then [.deleteDevice auth device .disconnect]
        else [.deleteDevice auth device (.refused .database)]
  | .disconnect => some (.cutOff device, [.deleteDevice auth device .revoked])
  | .revoked | .refused _ => none

def wsHandler (s : Fleet) (device : Uuid) (presented : Option String) (choice : Choice) :
    Option Move :=
  match choice with
  | .proceeds =>
      if authenticateAgent deployment.sha256 s.app.db device presented then
        some (.accept device, [.handler device s.sockets.length .verifyDevice])
      else some (.none, [])
  | .fails => some (.none, [])
  | _ => none

/-- `handle_agent_connection`. -/
def handler (s : Fleet) (device : Uuid) (socket : Nat) (choice : Choice) : Handler → Option Move
  | .verifyDevice =>
      statement choice .none fun done =>
        if done && s.app.db.deviceExists device then [.handler device socket .register] else []
  | .register =>
      some (.register device, [.handler device socket (.markOnline s.channels.length)])
  | .markOnline channel =>
      statement choice (.markOnline device) fun _ =>
        [.handler device socket (.reading channel), .onConnect device .selectJobs,
          .writer device socket channel none]
  | .reading channel =>
      match choice with
      | .closes => some (.none, [.handler device socket (.unregister channel)])
      | .proceeds =>
          match s.sockets[socket]? with
          | some { toServer := message :: _, .. } =>
              some (.readSocket socket,
                [.handler device socket (.processing channel (processAgentMessage message))])
          | _ => none
      | _ => none
  | .processing channel [] => some (.none, [.handler device socket (.reading channel)])
  | .processing channel (action :: rest) =>
      match choice with
      | .proceeds =>
          some (.act device action false,
            [.handler device socket
              (.processing channel (action.follow device s.app false ++ rest))])
      | .fails =>
          some (.act device action true,
            [.handler device socket
              (.processing channel (action.follow device s.app true ++ rest))])
      | _ => none
  | .unregister channel =>
      some (.disconnect device, [.handler device socket (.markOffline channel)])
  | .markOffline channel =>
      statement choice (.markOffline device) fun _ => [.handler device socket (.abort channel)]
  | .abort channel => some (.abort channel, [])

/-- `dispatch_pending_jobs`, `push_policies_to_device` and the inventory request. -/
def onConnect (s : Fleet) (device : Uuid) (choice : Choice) : OnConnect → Option Move
  | .selectJobs =>
      statement choice .none fun done =>
        [.onConnect device (.jobs (if done then s.app.db.pendingJobs device else []))]
  | .jobs [] => some (.none, [.onConnect device .selectPolicies])
  | .jobs ((job, payload) :: rest) =>
      match JobPayload.codec.decode payload with
      | none => some (.none, [.onConnect device (.jobs rest)])
      | some decoded =>
          s.send device (.dispatchJob job decoded (signJob deployment.jobSigner job decoded))
            fun sent =>
              match sent with
              | some _ => [.onConnect device (.mark job rest)]
              | none => [.onConnect device (.jobs rest)]
  | .mark job rest =>
      statement choice (.markDispatched job) fun _ => [.onConnect device (.jobs rest)]
  | .selectPolicies =>
      statement choice .none fun done =>
        match if done then s.app.db.policiesFor device else [] with
        | [] => [.onConnect device .requestInventory]
        | policies => [.onConnect device (.sendPolicies policies)]
  | .sendPolicies policies =>
      s.send device (.pushPolicy policies) fun _ => [.onConnect device .requestInventory]
  | .requestInventory => s.send device .requestInventory fun _ => []

/-- The write task. Without a sender and with an empty queue its channel is closed; an aborted
task ends where it stands. -/
def writer (s : Fleet) (device : Uuid) (socket channel : Nat) (choice : Choice) :
    Option Envelope → Option Move
  | none =>
      match s.channels[channel]? with
      | none => none
      | some c =>
          match choice with
          | .proceeds =>
              match c.queue with
              | envelope :: _ =>
                  some (.take channel, [.writer device socket channel (some envelope)])
              | [] => none
          | .closes =>
              if c.aborted || (c.queue.isEmpty && s.app.channelOf c.device != some channel) then
                some (.dropReceiver channel none, [])
              else none
          | _ => none
  | some envelope =>
      match choice with
      | .proceeds => some (.write socket envelope, [.writer device socket channel none])
      | .fails => some (.dropReceiver channel (some envelope), [])
      | .closes =>
          match s.channels[channel]? with
          | some { aborted := true, .. } => some (.dropReceiver channel (some envelope), [])
          | _ => none
      | _ => none

def agentReceives (s : Fleet) (socket : Nat) : Option Move :=
  match s.sockets[socket]? with
  | some { device, toAgent := _ :: _, agentOpen := true, .. } =>
      if (s.agents device).inbound.length < AGENT_CAPACITY then some (.receive socket, []) else none
  | _ => none

def agentHandles (s : Fleet) (device : Uuid) : Option Move :=
  match (s.agents device).inbound with
  | [] => none
  | envelope :: _ =>
      let reaction := handleServerMessage deployment.crypto (deployment.serverPubkey device)
        envelope.message
      some (.handle device reaction envelope.serial, reaction.spawns device)

def agentFlushes (s : Fleet) (device : Uuid) (socket : Nat) : Option Move :=
  match (s.agents device).outbound, s.sockets[socket]? with
  | _ :: _, some { device := owner, agentOpen := true, .. } =>
      if owner = device then some (.flush device socket, []) else none
  | _, _ => none

/-- The exit codes of work without a child: only a file write can fail. -/
def workExit (payload : JobPayload) (exitCode : Int32) : Bool :=
  exitCode = 0 ∨ exitCode = -1 ∧ payload ≠ .collectInventory

/-- `execute_job`. The kill channel of a run has ended as soon as the registry entry is not
its own any more. -/
def executor (s : Fleet) (device job : Uuid) (payload : JobPayload) (choice : Choice) :
    Execution → Option Move
  | .spawned =>
      some (.registerKill device job,
        [.executor device job payload (.registered (s.agents device).killChannels)])
  | .registered channel =>
      if runsScript (deployment.windows device) payload then
        statement choice .none fun started =>
          if started then [.executor device job payload (.waiting channel)]
          else [.executor device job payload (.reporting (-1))]
      else some (.removeKill device job, [.executor device job payload .working])
  | .waiting channel =>
      match choice with
      | .exits exitCode => some (.none, [.executor device job payload (.exited exitCode)])
      | .killed =>
          if (s.agents device).registry job ≠ some channel then
            some (.none, [.executor device job payload (.exited (-4))])
          else none
      | .timesOut => some (.none, [.executor device job payload (.exited (-2))])
      | _ => none
  | .working =>
      match choice with
      | .exits exitCode =>
          if workExit payload exitCode then
            some (.none, [.executor device job payload (.reporting exitCode)])
          else none
      | _ => none
  | .exited exitCode =>
      some (.removeKill device job, [.executor device job payload (.reporting exitCode)])
  | .reporting exitCode => s.report device (.jobCompleted job exitCode) []

def rejection (s : Fleet) (device job : Uuid) (reason : String) : Rejection → Option Move
  | .log =>
      s.report device (.jobLog job ("Job rejected: " ++ reason) "stderr")
        [.rejection device job reason .completed]
  | .completed => s.report device (.jobCompleted job (-3)) []

def turn (s : Fleet) (task : Task) (choice : Choice) : Option Move :=
  match task with
  | .createJob auth device payload phase => s.createJob deployment auth device payload choice phase
  | .cancelJob auth job phase => s.cancelJob auth job choice phase
  | .deleteDevice auth device phase => s.deleteDevice auth device choice phase
  | .enroll tokenHash =>
      match choice with
      | .generates device => some (.enrollDevice device tokenHash, [])
      | _ => none
  | .wsHandler device presented => s.wsHandler deployment device presented choice
  | .handler device socket phase => s.handler device socket choice phase
  | .onConnect device phase => s.onConnect deployment device choice phase
  | .writer device socket channel taken => s.writer device socket channel choice taken
  | .push device message =>
      if message.concernsJob then none else s.send device message fun _ => []
  | .agentReceives socket => s.agentReceives socket
  | .agentLeaves socket => some (.leave socket, [])
  | .agentHandles device => s.agentHandles deployment device
  | .agentEmits device message => s.report device message []
  | .agentFlushes device socket => s.agentFlushes device socket
  | .executor device job payload phase => s.executor deployment device job payload choice phase
  | .rejection device job reason phase => s.rejection device job reason phase
  | .clock => some (.tick, [])

end Fleet

/-- The tasks that come from outside. -/
def Task.request : Task → Bool
  | .createJob _ _ _ .verifyDevice | .cancelJob _ _ .lookUp | .deleteDevice _ _ .verifyDevice
  | .enroll _ | .wsHandler .. | .agentReceives _ | .agentLeaves _ | .agentHandles _
  | .push .. | .agentEmits .. | .agentFlushes .. | .clock => true
  | _ => false

def program (deployment : Deployment) : Program Fleet Task Choice where
  request := Task.request
  step s task choice := (s.turn deployment task choice).map fun move => (s.apply move.1, move.2)

/-- A server and agents that have just started: no job, no connection, no task. -/
structure Start (config : Config Fleet Task) : Prop where
  tasks : config.tasks = []
  jobs : ∀ job, config.shared.app.db.jobs.find? job = none
  entries : ∀ device, config.shared.app.connectedAgents device = none
  devices : ∀ device row, config.shared.app.db.devices.find? device = some row →
    row.status ≠ .online
  channels : config.shared.channels = []
  sockets : config.shared.sockets = []
  agents : ∀ device, config.shared.agents device = ⟨[], [], fun _ => none, 0⟩
  history : config.shared.history = []

/-! ## A fleet of one device -/

def sampleAdmin : AuthUser := { userId := Uuid.small 0, username := "admin", role := "admin" }

def sampleSigner : JobSigner .sample := ⟨()⟩

def sampleDeployment : Deployment where
  crypto := .sample
  jobSigner := some sampleSigner
  serverPubkey _ := sampleSigner.publicKeyB64
  windows _ := false
  sha256 token := token
  decodeError _ := "missing field"

/-- One enrolled device, offline. -/
def sampleStart : Config Fleet Task where
  shared :=
    { app := .ofDatabase (.ofDevices
        ⟨[(Uuid.small 1,
          { status := .offline
            lastSeen := none
            agentVersion := none
            authTokenHash := some "token" })], by simp⟩)
      channels := []
      sockets := []
      agents := fun _ => { inbound := [], outbound := [], registry := fun _ => none, killChannels := 0 }
      serials := 0
      history := [] }
  tasks := []

theorem sampleStart_start : Start sampleStart where
  tasks := rfl
  jobs _ := rfl
  entries _ := rfl
  devices device row found := by
    simp only [sampleStart, AppState.ofDatabase, Database.ofDevices, Table.find?_eq_some,
      List.mem_singleton, Prod.mk.injEq] at found
    rw [found.2]
    decide
  channels := rfl
  sockets := rfl
  agents _ := rfl
  history := rfl

end OsfmEdm
