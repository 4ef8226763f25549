import OsfmEdm.Agent.ShellSession
import OsfmEdm.Fleet.Step
import OsfmEdm.Shell.Inputs

/-!
The way of a shell's input: the handlers of `api/shell.rs`, the channel and the write task of a
connection, the agent's transport and its channel to the message loop of `main.rs`, and the threads
of `shell/session.rs`. `handled` and `terminals` record what has happened; no step looks at them.
-/

namespace OsfmEdm

open Interleaving

/-- An accepted connection: its `mpsc::channel(64)`, and what its write task has sent. -/
structure ShellLink where
  queue : List ServerMessage
  receiving : Bool
  wire : List ServerMessage
deriving DecidableEq

/-- Whether `send` goes through now. -/
def ShellLink.accepts (l : ShellLink) : Bool := l.receiving ∧ l.queue.length < CHANNEL_CAPACITY

/-- What a connection that stays up will bring. -/
def ShellLink.carried (l : ShellLink) : List ServerMessage := l.wire ++ l.queue

def ShellLink.stopped (l : ShellLink) : ShellLink := { l with queue := [], receiving := false }

/-- The PTY of a session, with what its writer was given. -/
structure Terminal where
  session : Uuid
  written : List String
deriving DecidableEq

/-- A device with its connections, numbered in their order. -/
structure ShellHost where
  links : Nat → ShellLink
  accepted : Nat
  /-- The connection that `connect_and_run` is in. -/
  socket : Option Nat
  inbound : List ServerMessage
  /-- How often the agent was started again. -/
  process : Nat
  manager : ShellManager
  handled : List ServerMessage
  terminals : List Terminal

inductive HostTask where
  | connects
  | writes (link : Nat)
  /-- The write task is aborted. -/
  | stops (link : Nat)
  | arrives
  | leaves
  | handles
  | restarts
  | pty (process : Nat) (session : PtySession)
  /-- What else the agent sends. -/
  | sends (message : AgentMessage)
  | connectionTakes
deriving DecidableEq

inductive RemoteTask where
  | server (task : ShellTask)
  /-- The handler of an upgrade, before it registers the connection. -/
  | registers (device : Uuid) (link : Nat)
  | host (device : Uuid) (task : HostTask)

inductive RemoteChoice where
  | server (choice : ShellChoice)
  | pty (choice : PtyChoice)
  | proceeds
  | fails

structure RemoteShells where
  server : ShellServer
  hosts : Uuid → ShellHost

/-- What the main thread of a PTY takes from its channel and gives to the writer. -/
def ShellManager.written (s : ShellManager) (r : PtySession) : PtyChoice → List String
  | .proceeds => if r.main = .recvTimeout then (s.stdin r.channel).take 1 else []
  | _ => []

def PtyTask.session? : PtyTask → Option PtySession
  | .pty session => some session
  | _ => none

namespace ShellHost

def updateLink (h : ShellHost) (link : Nat) (value : ShellLink) : ShellHost :=
  { h with links := Function.update h.links link value }

/-- A message into the channel of a connection. -/
def push (h : ShellHost) (link : Nat) (message : ServerMessage) : ShellHost :=
  h.updateLink link { h.links link with queue := (h.links link).queue ++ [message] }

def ptys (h : ShellHost) (tasks : List PtyTask) : List HostTask :=
  (selected PtyTask.session? tasks).map (.pty h.process)

/-- `handle_server_message`; the messages without a session do not reach the `ShellManager`. -/
def react (h : ShellHost) : ServerMessage → ShellHost × List HostTask
  | .openShell session =>
      let (manager, spawned) := h.manager.openSession session
      let terminals :=
        match h.manager.sessions session with
        | none => h.terminals ++ [⟨session, []⟩]
        | some _ => h.terminals
      ({ h with manager, terminals }, h.ptys spawned)
  | .shellInput session data => ({ h with manager := h.manager.sendInput session data }, [])
  | .closeShell session => ({ h with manager := h.manager.closeSession session }, [])
  | _ => (h, [])

def handle (h : ShellHost) (message : ServerMessage) : ShellHost × List HostTask :=
  { h with handled := h.handled ++ [message] }.react message

def turn (h : ShellHost) : HostTask → RemoteChoice → Option (ShellHost × List HostTask)
  | .connects, .proceeds =>
      match h.socket with
      | none =>
          some ({ h.updateLink h.accepted ⟨[], true, []⟩ with
            socket := some h.accepted
            accepted := h.accepted + 1 }, [])
      | some _ => none
  | .writes link, .proceeds =>
      match (h.links link).queue with
      | message :: rest =>
          some (h.updateLink link { h.links link with
            queue := rest
            wire := (h.links link).wire ++ [message] }, [])
      | [] => none
  | .writes link, .fails =>
      match (h.links link).queue with
      -- the receiver ends with the write task
      | _ :: _ => some (h.updateLink link (h.links link).stopped, [])
      | [] => none
  | .stops link, .proceeds => some (h.updateLink link (h.links link).stopped, [])
  | .arrives, .proceeds =>
      match h.socket with
      | some link =>
          match (h.links link).wire with
          | message :: rest =>
              if h.inbound.length < INBOUND_CAPACITY then
                some ({ h.updateLink link { h.links link with wire := rest } with
                  inbound := h.inbound ++ [message] }, [])
              else none
          | [] => none
      | none => none
  | .leaves, .proceeds => some ({ h with socket := none }, [])
  | .handles, .proceeds =>
      match h.inbound with
      | message :: rest => some ({ h with inbound := rest }.handle message)
      | [] => none
  | .restarts, .proceeds =>
      some ({ h with
        socket := none
        inbound := []
        process := h.process + 1
        manager := ptyStart.shared
        handled := []
        terminals := [] }, [])
  | .pty process session, .pty choice =>
      if h.process = process then
        (h.manager.turn (.pty session) choice).map fun (manager, next) =>
          ({ h with
            manager
            terminals := h.terminals.modify session.channel fun terminal =>
              { terminal with written := terminal.written ++ h.manager.written session choice } },
            h.ptys next)
      else none
  | .sends message, .proceeds =>
      (h.manager.post message).map fun manager => ({ h with manager }, [])
  | .connectionTakes, .proceeds =>
      match h.manager.outbound with
      | _ :: rest => some ({ h with manager := { h.manager with outbound := rest } }, [])
      | [] => none
  | _, _ => none

/-- What may still reach the message loop. -/
def onWay (h : ShellHost) : List ServerMessage :=
  h.inbound ++ h.socket.elim [] fun link => (h.links link).carried

end ShellHost

namespace RemoteShells

def updateHost (w : RemoteShells) (device : Uuid) (host : ShellHost) : RemoteShells :=
  { w with hosts := Function.update w.hosts device host }

/-- An effect of a handler; a message goes into the channel of the registered connection. -/
def apply (w : RemoteShells) (effect : ShellEffect) : Option RemoteShells :=
  match effect with
  | .enqueue device message =>
      match w.server.app.channelOf device with
      | some link =>
          if ((w.hosts device).links link).accepts then
            some { w.updateHost device ((w.hosts device).push link message) with
              server := w.server.apply (.enqueue device message) }
          else none
      | none => none
  | .register .. => none
  | effect => some { w with server := w.server.apply effect }

def registering (w : RemoteShells) (device : Uuid) : HostTask → List RemoteTask
  | .connects => [.registers device (w.hosts device).accepted]
  | _ => []

def turn (w : RemoteShells) (task : RemoteTask) (choice : RemoteChoice) :
    Option (RemoteShells × List RemoteTask) :=
  match task, choice with
  | .server task, .server choice =>
      (w.server.turn choice task).bind fun (effect, new) =>
        (w.apply effect).map fun w => (w, new.map .server)
  | .registers device link, .proceeds =>
      some ({ w with server := w.server.apply (.register device link) }, [])
  | .host device task, choice =>
      ((w.hosts device).turn task choice).map fun (host, new) =>
        (w.updateHost device host, new.map (.host device) ++ w.registering device task)
  | _, _ => none

end RemoteShells

def RemoteTask.request : RemoteTask → Bool
  | .server task => task.request
  | .registers .. | .host _ (.pty ..) => false
  | .host .. => true

def remoteShells : Program RemoteShells RemoteTask RemoteChoice where
  request := RemoteTask.request
  step := RemoteShells.turn

def ShellHost.start : ShellHost where
  links _ := ⟨[], false, []⟩
  accepted := 0
  socket := none
  inbound := []
  process := 0
  manager := ptyStart.shared
  handled := []
  terminals := []

def RemoteShells.start (db : Database) : Config RemoteShells RemoteTask where
  shared := { server := (ShellServer.start db).shared, hosts := fun _ => .start }
  tasks := []

end OsfmEdm
