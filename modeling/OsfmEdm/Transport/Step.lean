import OsfmEdm.Common.Protocol
import OsfmEdm.Library.Interleaving

/-!
The agent's transport task (`transport/websocket.rs`) between the two channels of `main.rs`.
A step ends where `run_ws_loop` awaits. `history` records what has happened; no step reads it.
-/

namespace OsfmEdm

open Interleaving

def OUTBOUND_CAPACITY : Nat := 256

def INBOUND_CAPACITY : Nat := 256

def MAX_BACKOFF : Nat := 60

inductive TransportEvent where
  | queued (message : AgentMessage)
  | connected
  | took (message : AgentMessage)
  | wrote (message : AgentMessage)
  | forwarded (message : ServerMessage)
  | slept (secs : Nat)
deriving DecidableEq

structure Transport where
  outbound : List AgentMessage
  /-- Whether a sender of the outbound channel is left. -/
  sending : Bool
  inbound : List ServerMessage
  /-- Whether the receiver of the inbound channel is left. -/
  receiving : Bool
  backoffSecs : Nat
  history : List TransportEvent

/-- What `read.next()` gives; a text with the message it decodes to. -/
inductive Frame where
  | text (decoded : Option ServerMessage)
  | close
  | ended
  | ping
  | other
  | error
deriving DecidableEq

/-- `run_ws_loop` with the `connect_and_run` it is in. -/
inductive WsLoop where
  | connecting
  | selecting
  | forwarding (message : ServerMessage)
  | ponging
  | writing (message : AgentMessage)
  | returned (ok : Bool)
  | sleeping
deriving DecidableEq

inductive TransportTask where
  | wsLoop (phase : WsLoop)
  | sends (message : AgentMessage)
  | receives
  | dropsSenders
  | dropsReceiver
deriving DecidableEq

inductive TransportChoice where
  | proceeds
  | fails
  | reads (frame : Frame)
  | takes
deriving DecidableEq

namespace Transport

def record (t : Transport) (event : TransportEvent) : Transport :=
  { t with history := t.history ++ [event] }

def wsLoop (t : Transport) (choice : TransportChoice) : WsLoop → Option (Transport × WsLoop)
  | .connecting =>
      match choice with
      | .proceeds => some (t.record .connected, .selecting)
      | .fails => some (t, .returned false)
      | _ => none
  | .selecting =>
      match choice with
      | .reads (.text none) => some (t, .selecting)
      | .reads (.text (some message)) => some (t, .forwarding message)
      | .reads .close | .reads .ended | .reads .error => some (t, .returned false)
      | .reads .ping => some (t, .ponging)
      | .reads .other => some (t, .selecting)
      | .takes =>
          match t.outbound with
          | message :: rest => some ({ t with outbound := rest }.record (.took message), .writing message)
          | [] => if t.sending then none else some (t, .returned true)
      | _ => none
  | .forwarding message =>
      if t.receiving then
        if t.inbound.length < INBOUND_CAPACITY then
          some ({ t with inbound := t.inbound ++ [message] }.record (.forwarded message), .selecting)
        else none
      else some (t, .returned true)
  | .ponging =>
      match choice with
      | .proceeds => some (t, .selecting)
      | .fails => some (t, .returned false)
      | _ => none
  | .writing message =>
      match choice with
      | .proceeds => some (t.record (.wrote message), .selecting)
      -- `?` leaves `connect_and_run`, and the message with it
      | .fails => some (t, .returned false)
      | _ => none
  | .returned ok => some (if ok then { t with backoffSecs := 1 } else t, .sleeping)
  | .sleeping =>
      some ({ t with backoffSecs := min (t.backoffSecs * 2) MAX_BACKOFF }.record
        (.slept t.backoffSecs), .connecting)

def turn (t : Transport) (choice : TransportChoice) :
    TransportTask → Option (Transport × List TransportTask)
  | .wsLoop phase => (t.wsLoop choice phase).map fun (t, phase) => (t, [.wsLoop phase])
  | .sends message =>
      if t.sending ∧ t.outbound.length < OUTBOUND_CAPACITY then
        some ({ t with outbound := t.outbound ++ [message] }.record (.queued message), [])
      else none
  | .receives =>
      match t.inbound with
      | _ :: rest => some ({ t with inbound := rest }, [])
      | [] => none
  | .dropsSenders => some ({ t with sending := false }, [])
  | .dropsReceiver => some ({ t with receiving := false }, [])

end Transport

/-- What comes from the other tasks of the agent. -/
def TransportTask.request : TransportTask → Bool
  | .wsLoop _ => false
  | _ => true

def transportProgram : Program Transport TransportTask TransportChoice where
  request := TransportTask.request
  step t task choice := t.turn choice task

/-- An agent that has just spawned `run_ws_loop`. -/
def transportStart : Config Transport TransportTask where
  shared :=
    { outbound := []
      sending := true
      inbound := []
      receiving := true
      backoffSecs := 1
      history := [] }
  tasks := [.wsLoop .connecting]

end OsfmEdm
