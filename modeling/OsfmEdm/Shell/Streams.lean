import OsfmEdm.Common.Protocol
import OsfmEdm.Library.Broadcast
import OsfmEdm.Shell.Step

/-!
`stream_shell` (`api/shell.rs`) beside the other shell routes and the agents' connections, each of
which processes its messages one after another.
-/

namespace OsfmEdm

open Broadcast Interleaving JsonText

/-- The capacity of the broadcast channels `open_shell` creates. -/
@[irreducible] def shellCapacity : Nat := 256

structure SseEvent where
  event : String
  data : String
deriving DecidableEq

def sseEvent (event : ShellEvent) : SseEvent :=
  if event.closed then
    { event := "closed"
      data := String.ofList (write (.object
        [("exit_code", encodeOptional Codec.int32.encode event.exitCode)])) }
  else { event := "output", data := event.data }

/-- `spoken` has the shell events of each session that the hub has processed, in their order, also
those for which there was no channel. -/
structure StreamServer where
  server : ShellServer
  spoken : Uuid → List ShellEvent

/-- What went into the broadcast channel of a session. -/
def StreamServer.channel (s : StreamServer) (session : Uuid) : List ShellEvent :=
  s.server.app.relayed.filter (·.sessionId = session)

/-! ## Tasks -/

inductive StreamShell where
  | authorize
  | subscribe
  | streaming (next : Nat) (yielded : List SseEvent)
  | ended (yielded : List SseEvent)
  | panicked (yielded : List SseEvent)
  | refused (error : ApiError)
deriving DecidableEq

inductive StreamTask where
  | shell (task : ShellTask)
  | connection (device : Uuid) (messages : List AgentMessage) (actions : List Action)
  | stream (auth : AuthUser) (session : Uuid) (phase : StreamShell)

inductive StreamChoice where
  | moves (choice : ShellChoice)
  | asks (requester : AuthUser)
  | leaves
deriving DecidableEq

/-- The agents' messages come through their connections. -/
def ShellTask.ofHub : ShellTask → Bool
  | .hears .. | .processing .. => true
  | _ => false

/-! ## Steps -/

namespace StreamServer

def speak (s : StreamServer) : Action → Uuid → List ShellEvent
  | .relay event =>
      Function.update s.spoken event.sessionId (s.spoken event.sessionId ++ [event])
  | _ => s.spoken

def act (s : StreamServer) (device : Uuid) (action : Action) (fails : Bool) : StreamServer where
  server := s.server.apply (.act device action fails)
  spoken := s.speak action

/-- The receive loop of a connection. -/
def hub (s : StreamServer) (device : Uuid) (messages : List AgentMessage) (choice : ShellChoice) :
    List Action → Option (StreamServer × List StreamTask)
  | [] =>
      match messages with
      | [] => some (s, [])
      | message :: later =>
          some ({ s with server := s.server.apply (.hear message.sessions) },
            [.connection device later (processAgentMessage message)])
  | action :: rest =>
      match choice with
      | .proceeds =>
          some (s.act device action false,
            [.connection device messages (action.follow device s.server.app false ++ rest)])
      | .fails =>
          some (s.act device action true,
            [.connection device messages (action.follow device s.server.app true ++ rest)])
      | .generates _ => none

/-- `carries` has the texts that `Event::data` takes; it panics on others (a carriage return). -/
def streamShell (carries : String → Bool) (s : StreamServer) (auth : AuthUser) (session : Uuid) :
    StreamShell → Option (StreamServer × List StreamTask)
  | .authorize =>
      match authorizeSession s.server.app session auth with
      | .error error => some (s, [.stream auth session (.refused error)])
      | .ok _ => some (s, [.stream auth session .subscribe])
  | .subscribe =>
      if s.server.app.shellBroadcasts session then
        some (s, [.stream auth session (.streaming (s.channel session).length [])])
      else
        some (s, [.stream auth session (.refused (.notFound
          ("Shell session " ++ session.text ++ " not found or already closed")))])
  | .streaming next yielded =>
      match recv shellCapacity (s.channel session) (s.server.app.shellBroadcasts session) next with
      | (.value event, later) =>
          if carries (sseEvent event).data then
            some (s, [.stream auth session (.streaming later (yielded ++ [sseEvent event]))])
          else some (s, [.stream auth session (.panicked yielded)])
      -- an error of the receiver is filtered out, and the stream goes on
      | (.lagged _, later) => some (s, [.stream auth session (.streaming later yielded)])
      | (.empty, _) => none
      | (.closed, _) => some (s, [.stream auth session (.ended yielded)])
  | .ended _ | .panicked _ | .refused _ => none

def turn (carries : String → Bool) (s : StreamServer) (task : StreamTask) (choice : StreamChoice) :
    Option (StreamServer × List StreamTask) :=
  match task, choice with
  -- whoever asks for the stream knows the id from the answer of `open_shell`
  | .shell (.openShell auth device (.opened session)), .asks requester =>
      some (s, [.shell (.openShell auth device (.opened session)),
        .stream requester session .authorize])
  | .shell own, .moves choice =>
      if own.ofHub then none
      else (s.server.turn choice own).map fun move =>
        ({ s with server := s.server.apply move.1 }, move.2.map .shell)
  | .connection device messages actions, .moves choice => s.hub device messages choice actions
  | .stream auth session phase, .moves .proceeds => s.streamShell carries auth session phase
  | .stream _ _ (.streaming ..), .leaves => some (s, [])
  | _, _ => none

end StreamServer

def StreamTask.request : StreamTask → Bool
  | .shell task => task.request && !task.ofHub
  | .connection _ _ [] => true
  | _ => false

def streamProgram (carries : String → Bool) : Program StreamServer StreamTask StreamChoice where
  request := StreamTask.request
  step s task choice := s.turn carries task choice

/-- A server that has just started. -/
def StreamServer.start (db : Database) : Config StreamServer StreamTask where
  shared := { server := (ShellServer.start db).shared, spoken := fun _ => [] }
  tasks := []

end OsfmEdm
