import OsfmEdm.Server.Database

/-!
`AppState` (`state.rs`): the database, the registry of agent connections and the shell
maps. A registry entry holds the sender of a channel, here the channel's number. What went
to the broadcast senders is kept in `relayed`.
-/

namespace OsfmEdm

structure AgentConnection where
  deviceId : Uuid
  connectedAt : Nat
  tx : Nat
deriving DecidableEq

structure ShellEvent where
  sessionId : Uuid
  data : String
  closed : Bool
  exitCode : Option Int32
deriving DecidableEq

structure ShellSessionMeta where
  ownerId : Uuid
  deviceId : Uuid
deriving DecidableEq

structure AppState where
  db : Database
  connectedAgents : Uuid → Option AgentConnection
  shellBroadcasts : Uuid → Bool
  shellSessions : Uuid → Option ShellSessionMeta
  relayed : List ShellEvent

namespace AppState

/-- A server that has just started. -/
def ofDatabase (db : Database) : AppState where
  db
  connectedAgents _ := none
  shellBroadcasts _ := false
  shellSessions _ := none
  relayed := []

/-- The channel a message for the device goes into. -/
def channelOf (state : AppState) (device : Uuid) : Option Nat :=
  (state.connectedAgents device).map (·.tx)

def register (state : AppState) (device : Uuid) (tx : Nat) : AppState :=
  { state with
    connectedAgents := Function.update state.connectedAgents device
      (some { deviceId := device, connectedAt := state.db.now, tx }) }

/-- `connected_agents.remove`, also `disconnect_agent`. -/
def disconnectAgent (state : AppState) (device : Uuid) : AppState :=
  { state with connectedAgents := Function.update state.connectedAgents device none }

@[simp] theorem channelOf_register (state : AppState) (device other : Uuid) (tx : Nat) :
    (state.register device tx).channelOf other =
      if other = device then some tx else state.channelOf other := by
  by_cases same : other = device <;> simp [channelOf, register, same]

@[simp] theorem channelOf_disconnectAgent (state : AppState) (device other : Uuid) :
    (state.disconnectAgent device).channelOf other =
      if other = device then none else state.channelOf other := by
  by_cases same : other = device <;> simp [channelOf, disconnectAgent, same]

end AppState

end OsfmEdm
