import OsfmEdm.Library.Interleaving
import OsfmEdm.Server.AgentHub
import OsfmEdm.Server.Api

/-!
The shell routes (`api/shell.rs`) beside the agents' messages, over the shell maps of the
server. A step ends where a handler awaits or has changed a map.
-/

namespace OsfmEdm

open Interleaving

/-- `named` has the session ids that `open_shell` has generated or an agent's message has
named, and `closed` those whose `ShellClosed` has been processed. -/
structure ShellServer where
  app : AppState
  enqueued : List (Uuid × ServerMessage)
  named : List Uuid
  closed : List Uuid

/-- `authorize_session`. -/
def authorizeSession (state : AppState) (session : Uuid) (auth : AuthUser) :
    Except ApiError ShellSessionMeta :=
  match state.shellSessions session with
  | none =>
      .error (.notFound ("Shell session " ++ session.text ++ " not found or already closed"))
  | some found =>
      if found.ownerId ≠ auth.userId ∧ ¬ auth.isAdmin then
        .error (.forbidden "You do not own this shell session")
      else .ok found

/-- The answer where `send_to_agent` gives false. -/
def notConnected (device : Uuid) : ApiError :=
  .notFound ("Device " ++ device.text ++ " is not connected")

/-! ## Tasks -/

inductive OpenShell where
  | createBroadcast
  | send (session : Uuid)
  | cleanUp (session : Uuid)
  | bindSession (session : Uuid)
  | opened (session : Uuid)
  | refused (error : ApiError)
deriving DecidableEq

inductive CloseShell where
  | authorize
  | send (device : Uuid)
  | remove
  | closed
  | refused (error : ApiError)
deriving DecidableEq

inductive SendInput where
  | authorize
  | send (device : Uuid)
  | sent
  | refused (error : ApiError)
deriving DecidableEq

inductive ShellTask where
  | openShell (auth : AuthUser) (device : Uuid) (phase : OpenShell)
  | closeShell (auth : AuthUser) (session : Uuid) (phase : CloseShell)
  | sendInput (auth : AuthUser) (session : Uuid) (data : String) (phase : SendInput)
  | hears (device : Uuid) (message : AgentMessage)
  | processing (device : Uuid) (actions : List Action)
  | connects (device : Uuid) (tx : Nat)
  | disconnects (device : Uuid)

inductive ShellChoice where
  | proceeds
  | fails
  | generates (session : Uuid)
deriving DecidableEq

/-! ## Steps -/

inductive ShellEffect where
  | none
  | createBroadcast (session : Uuid)
  | removeBroadcast (session : Uuid)
  | insertSession (session : Uuid) (value : ShellSessionMeta)
  | removeSession (session : Uuid)
  | enqueue (device : Uuid) (message : ServerMessage)
  | hear (sessions : List Uuid)
  | act (device : Uuid) (action : Action) (fails : Bool)
  | register (device : Uuid) (tx : Nat)
  | disconnect (device : Uuid)

/-- The session an agent's message names. -/
def AgentMessage.sessions : AgentMessage → List Uuid
  | .shellOutput session _ | .shellClosed session _ => [session]
  | _ => []

/-- The last action of a `ShellClosed`. -/
def Action.closes : Action → List Uuid
  | .removeSession session => [session]
  | _ => []

namespace AppState

def insertBroadcast (state : AppState) (session : Uuid) : AppState :=
  { state with shellBroadcasts := Function.update state.shellBroadcasts session true }

def removeBroadcast (state : AppState) (session : Uuid) : AppState :=
  { state with shellBroadcasts := Function.update state.shellBroadcasts session false }

def insertSession (state : AppState) (session : Uuid) (value : ShellSessionMeta) : AppState :=
  { state with shellSessions := Function.update state.shellSessions session (some value) }

def removeSession (state : AppState) (session : Uuid) : AppState :=
  { state with shellSessions := Function.update state.shellSessions session none }

end AppState

namespace ShellServer

def apply (s : ShellServer) : ShellEffect → ShellServer
  | .none => s
  | .createBroadcast session =>
      { s with app := s.app.insertBroadcast session, named := session :: s.named }
  | .removeBroadcast session => { s with app := s.app.removeBroadcast session }
  | .insertSession session value => { s with app := s.app.insertSession session value }
  | .removeSession session => { s with app := s.app.removeSession session }
  | .enqueue device message => { s with enqueued := s.enqueued ++ [(device, message)] }
  | .hear sessions => { s with named := sessions ++ s.named }
  | .act device action fails =>
      { s with app := action.perform device s.app fails, closed := action.closes ++ s.closed }
  | .register device tx => { s with app := s.app.register device tx }
  | .disconnect device => { s with app := s.app.disconnectAgent device }

/-- `send_to_agent`: false without an entry, and where the receiver of the entry is gone. -/
def send (s : ShellServer) (device : Uuid) (message : ServerMessage) (choice : ShellChoice)
    (next : Bool → List ShellTask) : Option (ShellEffect × List ShellTask) :=
  match s.app.channelOf device, choice with
  | some _, .proceeds => some (.enqueue device message, next true)
  | none, .fails | some _, .fails => some (.none, next false)
  | _, _ => none

def openShell (s : ShellServer) (auth : AuthUser) (device : Uuid) (choice : ShellChoice) :
    OpenShell → Option (ShellEffect × List ShellTask)
  | .createBroadcast =>
      match auth.requireAdmin, choice with
      | .error error, _ => some (.none, [.openShell auth device (.refused error)])
      | .ok (), .generates session =>
          -- a version 4 id is one that nobody has named before
          if session ∈ s.named then none
          else some (.createBroadcast session, [.openShell auth device (.send session)])
      | _, _ => none
  | .send session =>
      s.send device (.openShell session) choice fun sent =>
        if sent then [.openShell auth device (.bindSession session)]
        else [.openShell auth device (.cleanUp session)]
  | .cleanUp session =>
      some (.removeBroadcast session, [.openShell auth device (.refused (notConnected device))])
  | .bindSession session =>
      some (.insertSession session { ownerId := auth.userId, deviceId := device },
        [.openShell auth device (.opened session)])
  | .opened _ | .refused _ => none

def closeShell (s : ShellServer) (auth : AuthUser) (session : Uuid) (choice : ShellChoice) :
    CloseShell → Option (ShellEffect × List ShellTask)
  | .authorize =>
      match authorizeSession s.app session auth with
      | .error error => some (.none, [.closeShell auth session (.refused error)])
      | .ok found => some (.none, [.closeShell auth session (.send found.deviceId)])
  | .send device =>
      s.send device (.closeShell session) choice fun sent =>
        if sent then [.closeShell auth session .remove]
        else [.closeShell auth session (.refused (notConnected device))]
  | .remove => some (.removeSession session, [.closeShell auth session .closed])
  | .closed | .refused _ => none

def sendInput (s : ShellServer) (auth : AuthUser) (session : Uuid) (data : String)
    (choice : ShellChoice) : SendInput → Option (ShellEffect × List ShellTask)
  | .authorize =>
      match authorizeSession s.app session auth with
      | .error error => some (.none, [.sendInput auth session data (.refused error)])
      | .ok found => some (.none, [.sendInput auth session data (.send found.deviceId)])
  | .send device =>
      s.send device (.shellInput session data) choice fun sent =>
        if sent then [.sendInput auth session data .sent]
        else [.sendInput auth session data (.refused (notConnected device))]
  | .sent | .refused _ => none

def turn (s : ShellServer) (choice : ShellChoice) :
    ShellTask → Option (ShellEffect × List ShellTask)
  | .openShell auth device phase => s.openShell auth device choice phase
  | .closeShell auth session phase => s.closeShell auth session choice phase
  | .sendInput auth session data phase => s.sendInput auth session data choice phase
  | .hears device message =>
      some (.hear message.sessions, [.processing device (processAgentMessage message)])
  | .processing _ [] => some (.none, [])
  | .processing device (action :: rest) =>
      match choice with
      | .proceeds =>
          some (.act device action false,
            [.processing device (action.follow device s.app false ++ rest)])
      | .fails =>
          some (.act device action true,
            [.processing device (action.follow device s.app true ++ rest)])
      | .generates _ => none
  | .connects device tx => some (.register device tx, [])
  | .disconnects device => some (.disconnect device, [])

end ShellServer

def ShellTask.request : ShellTask → Bool
  | .openShell _ _ .createBroadcast | .closeShell _ _ .authorize | .sendInput _ _ _ .authorize
  | .hears .. | .connects .. | .disconnects _ => true
  | _ => false

def shellProgram : Program ShellServer ShellTask ShellChoice where
  request := ShellTask.request
  step s task choice := (s.turn choice task).map fun move => (s.apply move.1, move.2)

/-- A server that has just started. -/
def ShellServer.start (db : Database) : Config ShellServer ShellTask where
  shared := { app := .ofDatabase db, enqueued := [], named := [], closed := [] }
  tasks := []

end OsfmEdm
