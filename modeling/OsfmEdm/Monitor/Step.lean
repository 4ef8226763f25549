import OsfmEdm.Server.AgentHub
import OsfmEdm.Transport.Step

/-!
System events from the producers of `run_monitor` through the batch collector, the forwarder of
`main.rs` and the connection to the rows of `kernel_events`. Messages are delivered in order, and
the inserts of events succeed. `arrived`, `flushed` and `delivered` record what has happened; no
step reads them.
-/

namespace OsfmEdm

open Interleaving

def EVENT_CAPACITY : Nat := 1024

def BATCH_CAPACITY : Nat := 64

/-- The loop of `run_monitor`; `last` leaves it after the send. -/
inductive Collector where
  | selecting (batch : List SystemEvent)
  | flushing (events : List SystemEvent) (last : Bool)
  | exited
deriving DecidableEq

inductive Forwarder where
  | receiving
  | sending (events : List SystemEvent)
  | exited
deriving DecidableEq

structure Monitor where
  producing : Bool
  events : List SystemEvent
  collector : Collector
  batches : List (List SystemEvent)
  forwarder : Forwarder
  outbound : List AgentMessage
  /-- What the connection's read loop still has to do for the message it has taken. -/
  hub : List Action
  state : AppState
  arrived : List SystemEvent
  flushed : List (List SystemEvent)
  delivered : List (List SystemEvent)

inductive MonitorChoice where
  | produces (event : SystemEvent)
  | producersExit
  /-- The collector, with the branch its `select!` takes. -/
  | collects (tick : Bool)
  | forwards
  /-- Another task of the agent sends. -/
  | sends (message : AgentMessage)
  | hub (fails : Bool)
  /-- The server acts for another device. -/
  | elsewhere (device : Uuid) (action : Action) (fails : Bool)

/-- The batch of a message. -/
def AgentMessage.batches : AgentMessage → List (List SystemEvent)
  | .systemEventBatch events => [events]
  | _ => []

/-- The events an action inserts. -/
def Action.events : Action → List SystemEvent
  | .insertEvent event => [event]
  | _ => []

namespace Monitor

def flush (m : Monitor) (batch : List SystemEvent) (last : Bool) : Monitor :=
  { m with collector := .flushing batch last, flushed := m.flushed ++ [batch] }

def collect (m : Monitor) (tick : Bool) : Option Monitor :=
  match m.collector with
  | .selecting batch =>
      if tick then if batch = [] then some m else some (m.flush batch false)
      else
        match m.events with
        | event :: rest =>
            some { m with events := rest, collector := .selecting (batch ++ [event]) }
        | [] =>
            if m.producing then none
            else if batch = [] then some { m with collector := .exited }
            else some (m.flush batch true)
  | .flushing events last =>
      if m.batches.length < BATCH_CAPACITY then
        some { m with
          batches := m.batches ++ [events]
          collector := if last then .exited else .selecting [] }
      else none
  | .exited => none

def forward (m : Monitor) : Option Monitor :=
  match m.forwarder with
  | .receiving =>
      match m.batches with
      | events :: rest =>
          some { m with
            batches := rest
            forwarder := if events = [] then .receiving else .sending events }
      | [] => if m.collector = .exited then some { m with forwarder := .exited } else none
  | .sending events =>
      if m.outbound.length < OUTBOUND_CAPACITY then
        some { m with
          outbound := m.outbound ++ [.systemEventBatch events]
          forwarder := .receiving }
      else none
  | .exited => none

def read (device : Uuid) (m : Monitor) (fails : Bool) : Option Monitor :=
  match m.hub with
  | [] =>
      match m.outbound with
      | message :: rest =>
          some { m with
            outbound := rest
            hub := processAgentMessage message
            delivered := m.delivered ++ message.batches }
      | [] => none
  | action :: rest =>
      if fails && action.events ≠ [] then none
      else
        some { m with
          state := action.perform device m.state fails
          hub := action.follow device m.state fails ++ rest }

def move (device : Uuid) (m : Monitor) : MonitorChoice → Option Monitor
  | .produces event =>
      if m.producing && m.events.length < EVENT_CAPACITY then
        some { m with events := m.events ++ [event], arrived := m.arrived ++ [event] }
      else none
  | .producersExit => some { m with producing := false }
  | .collects tick => m.collect tick
  | .forwards => m.forward
  | .sends message =>
      if message.batches = [] && m.outbound.length < OUTBOUND_CAPACITY then
        some { m with outbound := m.outbound ++ [message] }
      else none
  | .hub fails => m.read device fails
  | .elsewhere other action fails =>
      if other = device then none
      else some { m with state := action.perform other m.state fails }

end Monitor

def monitorProgram (device : Uuid) : Program Monitor Unit MonitorChoice :=
  .single (Monitor.move device)

/-- A monitor that has just started, on a server in some state. -/
def monitorStart (state : AppState) : Monitor where
  producing := true
  events := []
  collector := .selecting []
  batches := []
  forwarder := .receiving
  outbound := []
  hub := []
  state
  arrived := []
  flushed := []
  delivered := []

end OsfmEdm
