import OsfmEdm.Agent.Messages
import OsfmEdm.Library.Interleaving
import OsfmEdm.Server.AgentHub
import OsfmEdm.Server.Api
import OsfmEdm.Server.PolicyEngine

/-!
The server, its connections and the enrolled agents as one state, and what their tasks do
to it. Each effect is one atomic step: a SQL statement, a channel or socket operation, an
access to a shared map. `history` and the serial numbers of sent messages record what has
happened; no step reads them.
-/

namespace OsfmEdm

open JsonText

/-- What a run is given: keys, platforms, and the crates the model leaves open. -/
structure Deployment where
  crypto : Crypto
  jobSigner : Option (JobSigner crypto)
  serverPubkey : Uuid → String
  windows : Uuid → Bool
  sha256 : String → String
  decodeError : Json → String

/-- A message with the number of the `send` that put it into a channel. -/
structure Envelope where
  serial : Nat
  message : ServerMessage
deriving DecidableEq

/-- `mpsc::channel(64)` of one registered connection. -/
structure Channel where
  device : Uuid
  queue : List Envelope
  receiving : Bool
  aborted : Bool

/-- An accepted upgrade: what travels in each direction. -/
structure Socket where
  device : Uuid
  toAgent : List Envelope
  toServer : List AgentMessage
  agentOpen : Bool

structure Agent where
  inbound : List Envelope
  outbound : List AgentMessage
  registry : JobRegistry
  killChannels : Nat

/-- What becomes of messages: into a channel, read by the agent, or thrown away with a channel
or a socket; what the agent does on them; the revocation of a device, with the number of
connections registered so far; and what an attacker has handed to an agent. -/
inductive Event where
  | sent (device : Uuid) (envelope : Envelope)
  | received (device : Uuid) (envelope : Envelope)
  | discarded (device : Uuid) (envelope : Envelope)
  | executed (device job : Uuid)
  | revoked (device job : Uuid) (serial : Nat)
  | cutOff (device : Uuid) (registered : Nat)
  | injected (device : Uuid) (envelope : Envelope)

structure Fleet where
  app : AppState
  channels : List Channel
  sockets : List Socket
  agents : Uuid → Agent
  serials : Nat
  history : List Event

/-! ## Tasks -/

inductive CreateJob where
  | verifyDevice
  | insert
  | dispatch (job : Uuid)
  | mark (job : Uuid)
  | created (job : Uuid)
  | refused (error : ApiError)
deriving DecidableEq

/-- `sent` is the number of the `RevokeJob` that went into a channel. -/
inductive CancelJob where
  | lookUp
  | revoke (device : Uuid)
  | mark (device : Uuid) (sent : Option Nat)
  | cancelled (device : Uuid) (sent : Option Nat)
  | refused (error : ApiError)
deriving DecidableEq

inductive DeleteDevice where
  | verifyDevice
  | certificates
  | credential
  | disconnect
  | revoked
  | refused (error : ApiError)
deriving DecidableEq

/-- `handle_agent_connection`; from `markOnline` on with the connection's channel. -/
inductive Handler where
  | verifyDevice
  | register
  | markOnline (channel : Nat)
  | reading (channel : Nat)
  | processing (channel : Nat) (actions : List Action)
  | unregister (channel : Nat)
  | markOffline (channel : Nat)
  | abort (channel : Nat)

/-- The task a connection spawns: pending jobs, policies, the inventory request. -/
inductive OnConnect where
  | selectJobs
  | jobs (rest : List (Uuid × Json))
  | mark (job : Uuid) (rest : List (Uuid × Json))
  | selectPolicies
  | sendPolicies (policies : List PolicyDefinition)
  | requestInventory

/-- A rejected dispatch reports twice. -/
inductive Rejection where
  | log
  | completed

inductive Task where
  | createJob (auth : AuthUser) (device : Uuid) (payload : Json) (phase : CreateJob)
  | cancelJob (auth : AuthUser) (job : Uuid) (phase : CancelJob)
  | deleteDevice (auth : AuthUser) (device : Uuid) (phase : DeleteDevice)
  | enroll (tokenHash : String)
  | wsHandler (device : Uuid) (presented : Option String)
  | handler (device : Uuid) (socket : Nat) (phase : Handler)
  | onConnect (device : Uuid) (phase : OnConnect)
  | writer (device : Uuid) (socket channel : Nat) (taken : Option Envelope)
  /-- Any other request that only sends: policies, telemetry, shells. -/
  | push (device : Uuid) (message : ServerMessage)
  | agentReceives (socket : Nat)
  | agentLeaves (socket : Nat)
  | agentHandles (device : Uuid)
  | agentEmits (device : Uuid) (message : AgentMessage)
  | agentFlushes (device : Uuid) (socket : Nat)
  | executor (device job : Uuid) (payload : JobPayload) (phase : Execution)
  | rejection (device job : Uuid) (reason : String) (phase : Rejection)
  | clock

/-- How a step goes where its task does not decide it. -/
inductive Choice where
  | proceeds
  | fails
  | generates (id : Uuid)
  | closes
  | exits (exitCode : Int32)
  | killed
  | timesOut
deriving DecidableEq

/-! ## Effects -/

inductive Effect where
  | none
  | tick
  | enrollDevice (device : Uuid) (tokenHash : String)
  | insertJob (job device : Uuid) (payload : Json) (createdBy : Uuid)
  | markDispatched (job : Uuid)
  | markCancelled (job : Uuid)
  | revokeCertificates (device : Uuid)
  | dropCredential (device : Uuid)
  | markOnline (device : Uuid)
  | markOffline (device : Uuid)
  | act (device : Uuid) (action : Action) (fails : Bool)
  | accept (device : Uuid)
  | register (device : Uuid)
  | disconnect (device : Uuid)
  | cutOff (device : Uuid)
  | enqueue (channel : Nat) (message : ServerMessage)
  | take (channel : Nat)
  | write (socket : Nat) (envelope : Envelope)
  | abort (channel : Nat)
  | dropReceiver (channel : Nat) (taken : Option Envelope)
  | readSocket (socket : Nat)
  | receive (socket : Nat)
  | leave (socket : Nat)
  | handle (device : Uuid) (reaction : Reaction) (serial : Nat)
  | emit (device : Uuid) (message : AgentMessage)
  | flush (device : Uuid) (socket : Nat)
  | registerKill (device job : Uuid)
  | removeKill (device job : Uuid)

namespace Fleet

def updateDb (s : Fleet) (change : Database → Database) : Fleet :=
  { s with app := { s.app with db := change s.app.db } }

def updateChannel (s : Fleet) (channel : Nat) (change : Channel → Channel) : Fleet :=
  { s with channels := s.channels.modify channel change }

def updateSocket (s : Fleet) (socket : Nat) (change : Socket → Socket) : Fleet :=
  { s with sockets := s.sockets.modify socket change }

def record (s : Fleet) (events : List Event) : Fleet := { s with history := s.history ++ events }

def updateAgent (s : Fleet) (device : Uuid) (change : Agent → Agent) : Fleet :=
  { s with agents := Function.update s.agents device (change (s.agents device)) }

/-- The history event of a handled message. -/
def reactionEvent (device : Uuid) (serial : Nat) : Reaction → List Event
  | .execute job _ => [.executed device job]
  | .cancel job => [.revoked device job serial]
  | _ => []

/-- The registry after a handled message. -/
def reactionRegistry (registry : JobRegistry) : Reaction → JobRegistry
  | .cancel job => registry.remove job
  | _ => registry

def apply (s : Fleet) : Effect → Fleet
  | .none => s
  | .tick => s.updateDb fun db => { db with now := db.now + 1 }
  | .enrollDevice device tokenHash => s.updateDb fun db => db.enrollDevice device tokenHash
  | .insertJob job device payload createdBy =>
      s.updateDb fun db => (db.insertJob job device payload (some createdBy)).getD db
  | .markDispatched job => s.updateDb (·.markDispatched job)
  | .markCancelled job => s.updateDb (·.markCancelled job)
  | .revokeCertificates device => s.updateDb (·.revokeCertificates device)
  | .dropCredential device => s.updateDb (·.dropCredential device)
  | .markOnline device => s.updateDb (·.markOnline device)
  | .markOffline device => s.updateDb (·.markOffline device)
  | .act device action fails => { s with app := action.perform device s.app fails }
  | .accept device =>
      { s with
        sockets := s.sockets ++ [{ device, toAgent := [], toServer := [], agentOpen := true }] }
  | .register device =>
      { s with
        app := s.app.register device s.channels.length
        channels := s.channels ++ [{ device, queue := [], receiving := true, aborted := false }] }
  | .disconnect device => { s with app := s.app.disconnectAgent device }
  | .cutOff device =>
      { s with app := s.app.disconnectAgent device }.record [.cutOff device s.channels.length]
  | .enqueue channel message =>
      match s.channels[channel]? with
      | some c =>
          let envelope : Envelope := ⟨s.serials, message⟩
          { (s.updateChannel channel fun c => { c with queue := c.queue ++ [envelope] }).record
              [.sent c.device envelope] with
            serials := s.serials + 1 }
      | none => s
  | .take channel => s.updateChannel channel fun c => { c with queue := c.queue.tail }
  | .write socket envelope =>
      match s.sockets[socket]? with
      | some k =>
          if k.agentOpen then
            s.updateSocket socket fun k => { k with toAgent := k.toAgent ++ [envelope] }
          else s.record [.discarded k.device envelope]
      | none => s
  | .abort channel => s.updateChannel channel fun c => { c with aborted := true }
  | .dropReceiver channel taken =>
      match s.channels[channel]? with
      | some c =>
          (s.updateChannel channel fun c => { c with queue := [], receiving := false }).record
            ((taken.toList ++ c.queue).map (.discarded c.device))
      | none => s
  | .readSocket socket => s.updateSocket socket fun k => { k with toServer := k.toServer.tail }
  | .receive socket =>
      match s.sockets[socket]? with
      | some { device, toAgent := envelope :: rest, .. } =>
          ((s.updateSocket socket fun k => { k with toAgent := rest }).updateAgent device
            fun a => { a with inbound := a.inbound ++ [envelope] }).record
              [.received device envelope]
      | _ => s
  | .leave socket =>
      match s.sockets[socket]? with
      | some k =>
          (s.updateSocket socket fun k => { k with toAgent := [], agentOpen := false }).record
            (k.toAgent.map (.discarded k.device))
      | none => s
  | .handle device reaction serial =>
      (s.updateAgent device fun a =>
        { a with
          inbound := a.inbound.tail
          registry := reactionRegistry a.registry reaction }).record
        (reactionEvent device serial reaction)
  | .emit device message =>
      s.updateAgent device fun a => { a with outbound := a.outbound ++ [message] }
  | .flush device socket =>
      (s.updateAgent device fun a => { a with outbound := a.outbound.tail }).updateSocket socket
        fun k => { k with toServer := k.toServer ++ (s.agents device).outbound.take 1 }
  | .registerKill device job =>
      s.updateAgent device fun a =>
        { a with
          registry := a.registry.register job a.killChannels
          killChannels := a.killChannels + 1 }
  | .removeKill device job =>
      s.updateAgent device fun a => { a with registry := a.registry.remove job }

end Fleet

end OsfmEdm
