import OsfmEdm.Library.Interleaving
import OsfmEdm.Library.Utf8Reader
import OsfmEdm.Transport.Step

/-!
The agent's shell sessions (`osfm-edm-agent/src/shell/session.rs`): the thread of `run_pty_blocking`
and its reader thread beside those of the other sessions, with the channels they share. `reads` and
`sent` record what a session has read and sent; no step looks at them.
-/

namespace OsfmEdm

open Interleaving Utf8Lossy

/-- The reader's buffer. -/
def PTY_BUFFER : Nat := 4096

/-- Where `run_pty_blocking` is. -/
inductive PtyMain where
  | openpty
  | spawnCommand
  | tryCloneReader
  | takeWriter
  | tryRecv
  | recvTimeout
  | tryWait
  /-- The loop was left: the child is killed and waited for. -/
  | wait
  | finish (code : Option Int32)
  | returned
deriving DecidableEq

inductive PtyReader where
  | absent
  | reading
  | sending (data : String)
  | ended
deriving DecidableEq

structure PtySession where
  session : Uuid
  /-- The channels whose senders `ShellManager` holds. -/
  channel : Nat
  main : PtyMain
  reader : PtyReader
  reads : List (List UInt8)
  sent : List AgentMessage
deriving DecidableEq

structure ShellManager where
  sessions : Uuid → Option Nat
  nextChannel : Nat
  stdin : Nat → List String
  killed : Nat → Bool
  outbound : List AgentMessage

inductive PtyTask where
  | opens (session : Uuid)
  | inputs (session : Uuid) (data : String)
  | closes (session : Uuid)
  | pty (session : PtySession)
  | sends (message : AgentMessage)
  | connectionTakes
deriving DecidableEq

inductive PtyChoice where
  | proceeds
  | fails
  | timesOut
  /-- `child.try_wait()` has a status. -/
  | exited (code : Int32)
  /-- `child.wait()`; none for an error. -/
  | waited (code : Option Int32)
  | reads (bytes : List UInt8)
  /-- The end of the PTY, or an error. -/
  | readEnds
  | readerSends
deriving DecidableEq

namespace ShellManager

def openSession (s : ShellManager) (session : Uuid) : ShellManager × List PtyTask :=
  match s.sessions session with
  | some _ => (s, [])
  | none =>
      ({ s with
          sessions := Function.update s.sessions session (some s.nextChannel)
          nextChannel := s.nextChannel + 1 },
        [.pty ⟨session, s.nextChannel, .openpty, .absent, [], []⟩])

def sendInput (s : ShellManager) (session : Uuid) (data : String) : ShellManager :=
  match s.sessions session with
  | none => s
  | some channel => { s with stdin := Function.update s.stdin channel (s.stdin channel ++ [data]) }

/-- The senders are dropped with the entry. -/
def closeSession (s : ShellManager) (session : Uuid) : ShellManager :=
  match s.sessions session with
  | none => s
  | some channel =>
      { s with
        sessions := Function.update s.sessions session none
        killed := Function.update s.killed channel true }

def post (s : ShellManager) (message : AgentMessage) : Option ShellManager :=
  if s.outbound.length < OUTBOUND_CAPACITY then
    some { s with outbound := s.outbound ++ [message] }
  else none

/-- The main thread of `run_pty_blocking`. -/
def runPtyBlocking (s : ShellManager) (r : PtySession) (choice : PtyChoice) :
    Option (ShellManager × PtySession) :=
  match r.main, choice with
  | .openpty, .fails | .spawnCommand, .fails | .tryCloneReader, .fails | .takeWriter, .fails =>
      some (s, { r with main := .finish none })
  | .openpty, .proceeds => some (s, { r with main := .spawnCommand })
  | .spawnCommand, .proceeds => some (s, { r with main := .tryCloneReader })
  | .tryCloneReader, .proceeds => some (s, { r with main := .takeWriter })
  | .takeWriter, .proceeds => some (s, { r with main := .tryRecv, reader := .reading })
  | .tryRecv, .proceeds =>
      if s.killed r.channel then
        some ({ s with killed := Function.update s.killed r.channel false }, { r with main := .wait })
      else some (s, { r with main := .recvTimeout })
  | .recvTimeout, .proceeds =>
      match s.stdin r.channel with
      | _ :: rest =>
          some ({ s with stdin := Function.update s.stdin r.channel rest },
            { r with main := .tryWait })
      | [] =>
          -- without a sender the channel is disconnected
          if s.sessions r.session = some r.channel then none else some (s, { r with main := .wait })
  | .recvTimeout, .timesOut =>
      if s.stdin r.channel = [] ∧ s.sessions r.session = some r.channel then
        some (s, { r with main := .tryWait })
      else none
  | .tryWait, .exited code => some (s, { r with main := .finish (some code) })
  | .tryWait, .proceeds => some (s, { r with main := .tryRecv })
  | .wait, .waited code => some (s, { r with main := .finish code })
  | .finish code, .proceeds =>
      (s.post (.shellClosed r.session code)).map fun s =>
        (s, { r with main := .returned, sent := r.sent ++ [.shellClosed r.session code] })
  | _, _ => none

/-- The reader thread. -/
def readPty (s : ShellManager) (r : PtySession) (choice : PtyChoice) :
    Option (ShellManager × PtySession) :=
  match r.reader, choice with
  | .reading, .reads bytes =>
      if bytes ≠ [] ∧ bytes.length ≤ PTY_BUFFER then
        some (s, { r with
          reader := .sending (fromUtf8Lossy bytes), reads := r.reads ++ [bytes] })
      else none
  | .reading, .readEnds => some (s, { r with reader := .ended })
  | .sending data, .readerSends =>
      (s.post (.shellOutput r.session data)).map fun s =>
        (s, { r with reader := .reading, sent := r.sent ++ [.shellOutput r.session data] })
  | _, _ => none

def turn (s : ShellManager) (task : PtyTask) (choice : PtyChoice) :
    Option (ShellManager × List PtyTask) :=
  match task with
  | .opens session => some (s.openSession session)
  | .inputs session data => some (s.sendInput session data, [])
  | .closes session => some (s.closeSession session, [])
  | .pty r =>
      match choice with
      | .reads _ | .readEnds | .readerSends => (s.readPty r choice).map fun (s, r) => (s, [.pty r])
      | _ => (s.runPtyBlocking r choice).map fun (s, r) => (s, [.pty r])
  | .sends message => (s.post message).map fun s => (s, [])
  | .connectionTakes =>
      match s.outbound with
      | _ :: rest => some ({ s with outbound := rest }, [])
      | [] => none

end ShellManager

def PtyTask.request : PtyTask → Bool
  | .pty _ => false
  | _ => true

def ptyProgram : Program ShellManager PtyTask PtyChoice where
  request := PtyTask.request
  step := ShellManager.turn

def ptyStart : Config ShellManager PtyTask where
  shared :=
    { sessions := fun _ => none
      nextChannel := 0
      stdin := fun _ => []
      killed := fun _ => false
      outbound := [] }
  tasks := []

/-- The messages of the reader thread, by what it has read. -/
def outputsOf (session : Uuid) (reads : List (List UInt8)) : List AgentMessage :=
  reads.map fun bytes => .shellOutput session (fromUtf8Lossy bytes)

end OsfmEdm
