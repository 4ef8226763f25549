import OsfmEdm.Transport.Step

/-!
The agent's two loops (`connect_and_run` and the loop of `main`) around the two channels, with the
other producers of the outbound channel. `unread` is what the server still sends.
-/

namespace OsfmEdm

open Interleaving

/-- What the collectors of `telemetry` give when they are asked. -/
structure Collected where
  snapshot : TelemetrySnapshot
  software : List SoftwareItem
  patches : List PatchItem
deriving DecidableEq

/-- The message that `handle_server_message` sends itself; the other handlers spawn a task. -/
def ServerMessage.reply (collected : Collected) : ServerMessage → Option AgentMessage
  | .requestTelemetry => some (.telemetryReport collected.snapshot)
  | .requestInventory => some (.inventoryReport collected.software collected.patches)
  | _ => none

def ServerMessage.repliesInline : ServerMessage → Bool
  | .requestTelemetry | .requestInventory => true
  | _ => false

inductive MainLoop where
  | receiving
  | handling (message : ServerMessage)
  | replying (reply : AgentMessage)
deriving DecidableEq

structure AgentLoops where
  transport : Transport
  unread : List ServerMessage

inductive LoopTask where
  | ws (phase : WsLoop)
  | main (phase : MainLoop)
  | sends (message : AgentMessage)
deriving DecidableEq

inductive LoopChoice where
  | transport (choice : TransportChoice)
  | proceeds
  | interrupted
  | collects (collected : Collected)
deriving DecidableEq

namespace AgentLoops

/-- A message that is read is the next one of the server. -/
def read (a : AgentLoops) : WsLoop → TransportChoice → Option AgentLoops
  | .selecting, .reads (.text (some message)) =>
      match a.unread with
      | next :: rest => if next = message then some { a with unread := rest } else none
      | [] => none
  | _, _ => some a

def wsTurn (a : AgentLoops) (choice : TransportChoice) (phase : WsLoop) :
    Option (AgentLoops × List LoopTask) :=
  (a.read phase choice).bind fun a =>
    (a.transport.wsLoop choice phase).map fun (transport, phase) =>
      ({ a with transport }, [.ws phase])

def mainTurn (a : AgentLoops) (choice : LoopChoice) : MainLoop → Option (AgentLoops × List LoopTask)
  | .receiving =>
      match choice with
      | .proceeds =>
          match a.transport.inbound with
          | message :: rest =>
              some ({ a with transport := { a.transport with inbound := rest } },
                [.main (.handling message)])
          | [] => none
      | .interrupted => some ({ a with transport := { a.transport with receiving := false } }, [])
      | _ => none
  | .handling message =>
      match choice with
      | .collects collected =>
          match message.reply collected with
          | some reply => some (a, [.main (.replying reply)])
          | none => some (a, [.main .receiving])
      | _ => none
  | .replying reply =>
      (a.transport.turn .proceeds (.sends reply)).map fun (transport, _) =>
        ({ a with transport }, [.main .receiving])

def turn (a : AgentLoops) (task : LoopTask) (choice : LoopChoice) :
    Option (AgentLoops × List LoopTask) :=
  match task, choice with
  | .ws phase, .transport choice => a.wsTurn choice phase
  | .ws _, _ => none
  | .main phase, choice => a.mainTurn choice phase
  | .sends message, _ =>
      (a.transport.turn .proceeds (.sends message)).map fun (transport, _) =>
        ({ a with transport }, [])

end AgentLoops

/-- Heartbeats, telemetry, monitor batches, job logs and shells send whenever they like. -/
def LoopTask.request : LoopTask → Bool
  | .sends _ => true
  | _ => false

def agentLoops : Program AgentLoops LoopTask LoopChoice where
  request := LoopTask.request
  step := AgentLoops.turn

/-- An agent at the top of its loop, to which the server will send these messages. -/
def agentStart (messages : List ServerMessage) : Config AgentLoops LoopTask where
  shared := { transport := transportStart.shared, unread := messages }
  tasks := [.ws .connecting, .main .receiving]

def LoopTask.ws? : LoopTask → Option WsLoop
  | .ws phase => some phase
  | _ => none

def LoopTask.main? : LoopTask → Option MainLoop
  | .main phase => some phase
  | _ => none

abbrev wsLoops (tasks : List LoopTask) : List WsLoop := selected LoopTask.ws? tasks

abbrev mainLoops (tasks : List LoopTask) : List MainLoop := selected LoopTask.main? tasks

/-- `connect_and_run` waits to send into the full inbound channel, and the main loop waits inside
`handle_server_message` to send into the full outbound channel. -/
structure Deadlocked (config : Config AgentLoops LoopTask) : Prop where
  forwarding : ∃ message, .ws (.forwarding message) ∈ config.tasks
  inboundFull : INBOUND_CAPACITY ≤ config.shared.transport.inbound.length
  receiving : config.shared.transport.receiving = true
  replying : ∃ reply, .main (.replying reply) ∈ config.tasks
  outboundFull : OUTBOUND_CAPACITY ≤ config.shared.transport.outbound.length

/-! ## Messages on their way to the main loop -/

def WsLoop.forwarded : WsLoop → List ServerMessage
  | .forwarding message => [message]
  | _ => []

/-- What the main loop has not taken yet, in the order of the server. -/
def underway (config : Config AgentLoops LoopTask) : List ServerMessage :=
  config.shared.transport.inbound ++
    ((wsLoops config.tasks).flatMap WsLoop.forwarded ++ config.shared.unread)

/-- What the main loop is at, where it has taken `handled` so far. -/
def MainLoop.At (handled : List ServerMessage) : MainLoop → Prop
  | .receiving => True
  | .handling message => ∃ before, handled = before ++ [message]
  | .replying _ => ∃ before request, handled = before ++ [request] ∧ request.repliesInline = true

structure InOrder (messages : List ServerMessage) (config : Config AgentLoops LoopTask) : Prop where
  ws : ∃ phase, wsLoops config.tasks = [phase]
  main : mainLoops config.tasks = [] ∨
    config.shared.transport.receiving = true ∧ ∃ phase handled,
      mainLoops config.tasks = [phase] ∧ phase.At handled ∧
        messages = handled ++ underway config

namespace AgentLoops

variable {a a' : AgentLoops} {new : List LoopTask}

theorem wsTurn_moved {choice : TransportChoice} {phase : WsLoop}
    (moved : a.wsTurn choice phase = some (a', new)) :
    ∃ next, new = [.ws next] ∧ a'.transport.receiving = a.transport.receiving ∧
      (a.transport.receiving = true →
        a'.transport.inbound ++ (next.forwarded ++ a'.unread) =
          a.transport.inbound ++ (phase.forwarded ++ a.unread)) := by
  obtain ⟨middle, hasRead, rest⟩ := Option.bind_eq_some_iff.mp moved
  obtain ⟨⟨t, next⟩, stepped, same⟩ := Option.map_eq_some_iff.mp rest
  cases same
  refine ⟨next, rfl, ?_⟩
  cases phase with
  | connecting | ponging | writing =>
      cases hasRead
      simp only [Transport.wsLoop] at stepped
      split at stepped <;> cases stepped <;> exact ⟨rfl, fun _ => rfl⟩
  | returned ok =>
      cases hasRead
      cases stepped
      cases ok <;> exact ⟨rfl, fun _ => rfl⟩
  | sleeping =>
      cases hasRead
      cases stepped
      exact ⟨rfl, fun _ => rfl⟩
  | forwarding message =>
      cases hasRead
      simp only [Transport.wsLoop] at stepped
      split at stepped
      · split at stepped
        · cases stepped
          exact ⟨rfl, fun _ => by simp [Transport.record, WsLoop.forwarded]⟩
        · cases stepped
      next dropped =>
        cases stepped
        exact ⟨rfl, fun receiving => absurd receiving dropped⟩
  | selecting =>
      cases choice with
      | proceeds | fails => cases stepped
      | takes =>
          cases hasRead
          simp only [Transport.wsLoop] at stepped
          split at stepped
          · cases stepped
            exact ⟨rfl, fun _ => rfl⟩
          · split at stepped <;> cases stepped
            exact ⟨rfl, fun _ => rfl⟩
      | reads frame =>
          cases frame with
          | text decoded =>
              cases decoded with
              | none =>
                  cases hasRead
                  cases stepped
                  exact ⟨rfl, fun _ => rfl⟩
              | some message =>
                  simp only [read] at hasRead
                  split at hasRead
                  · rename_i unread
                    split at hasRead
                    next own =>
                      cases hasRead
                      cases stepped
                      exact ⟨rfl, fun _ => by simp [WsLoop.forwarded, unread, own]⟩
                    next => cases hasRead
                  · cases hasRead
          | _ =>
              cases hasRead
              cases stepped
              exact ⟨rfl, fun _ => rfl⟩

theorem sends_moved {message : AgentMessage} {t' : Transport} {rest : List TransportTask}
    (moved : a.transport.turn .proceeds (.sends message) = some (t', rest)) :
    a.transport.outbound.length < OUTBOUND_CAPACITY ∧ t'.inbound = a.transport.inbound ∧
      t'.receiving = a.transport.receiving := by
  simp only [Transport.turn] at moved
  split at moved
  next space =>
    cases moved
    exact ⟨space.2, rfl, rfl⟩
  next => cases moved

theorem reply_inline {message : ServerMessage} {collected : Collected} {reply : AgentMessage}
    (replies : message.reply collected = some reply) : message.repliesInline = true := by
  cases message <;> first | rfl | cases replies

theorem mainTurn_moved {choice : LoopChoice} {phase : MainLoop}
    (moved : a.mainTurn choice phase = some (a', new)) :
    new = [] ∨ ∃ next, new = [.main next] ∧ a'.unread = a.unread ∧
      a'.transport.receiving = a.transport.receiving ∧
      ∀ handled, phase.At handled → ∃ handled', next.At handled' ∧
        handled' ++ a'.transport.inbound = handled ++ a.transport.inbound := by
  cases phase with
  | receiving =>
      cases choice with
      | proceeds =>
          simp only [mainTurn] at moved
          split at moved
          · rename_i message rest waiting
            cases moved
            refine .inr ⟨_, rfl, rfl, rfl, fun handled _ => ⟨handled ++ [message], ⟨_, rfl⟩, ?_⟩⟩
            simp [waiting]
          · cases moved
      | interrupted =>
          cases moved
          exact .inl rfl
      | transport | collects => cases moved
  | handling message =>
      cases choice with
      | collects collected =>
          simp only [mainTurn] at moved
          split at moved
          · rename_i reply replies
            cases moved
            refine .inr ⟨_, rfl, rfl, rfl, fun handled holds => ⟨handled, ?_, rfl⟩⟩
            obtain ⟨before, same⟩ := holds
            exact ⟨before, message, same, reply_inline replies⟩
          · cases moved
            exact .inr ⟨_, rfl, rfl, rfl, fun handled _ => ⟨handled, trivial, rfl⟩⟩
      | transport | proceeds | interrupted => cases moved
  | replying reply =>
      obtain ⟨⟨t, rest⟩, sent, same⟩ := Option.map_eq_some_iff.mp moved
      cases same
      obtain ⟨-, inbound, receiving⟩ := sends_moved sent
      exact .inr ⟨_, rfl, rfl, receiving, fun handled _ => ⟨handled, trivial, by rw [inbound]⟩⟩

end AgentLoops

theorem inOrder_reached {messages : List ServerMessage} {config : Config AgentLoops LoopTask}
    (reached : Reach agentLoops Guard.any (agentStart messages) config) :
    InOrder messages config := by
  have initial : InOrder messages (agentStart messages) :=
    ⟨⟨.connecting, rfl⟩, .inr ⟨rfl, .receiving, [], rfl, trivial, rfl⟩⟩
  refine reached.invariant (InOrder messages) initial ?_ ?_
  · rintro a tasks task ⟨ws, main⟩ request
    obtain ⟨message, rfl⟩ : ∃ message, task = .sends message := by
      cases task with
      | sends message => exact ⟨message, rfl⟩
      | ws | main => cases request
    exact ⟨by simpa [LoopTask.ws?] using ws,
      by simpa [LoopTask.main?, underway, LoopTask.ws?] using main⟩
  · rintro a a' before after new task choice ⟨⟨phase, ws⟩, main⟩ - moved
    cases task with
    | sends message =>
        obtain ⟨⟨t, rest⟩, sent, same⟩ := Option.map_eq_some_iff.mp moved
        cases same
        obtain ⟨-, inbound, receiving⟩ := AgentLoops.sends_moved sent
        refine ⟨⟨phase, by simpa [LoopTask.ws?] using ws⟩, ?_⟩
        simpa [LoopTask.main?, underway, LoopTask.ws?, inbound, receiving] using main
    | ws own =>
        obtain ⟨rfl, none, last⟩ := lone_task LoopTask.ws? rfl ws
        cases choice with
        | transport choice =>
            obtain ⟨next, rfl, receiving, kept⟩ := AgentLoops.wsTurn_moved moved
            have single : wsLoops (before ++ [.ws next] ++ after) = [next] := by
              simp [LoopTask.ws?, none, last]
            refine ⟨⟨next, single⟩, ?_⟩
            rcases main with gone | ⟨alive, phase, handled, isMain, holds, flow⟩
            · exact .inl (by simpa [LoopTask.main?] using gone)
            · refine .inr ⟨by rw [receiving, alive], phase, handled,
                by simpa [LoopTask.main?] using isMain, holds, ?_⟩
              have moves := kept alive
              simp only [underway, ws, List.flatMap_singleton] at flow
              simp only [underway, single, List.flatMap_singleton]
              rw [moves, flow]
        | _ => cases moved
    | main own =>
        rcases main with gone | ⟨alive, phase', handled, isMain, holds, flow⟩
        · simp [LoopTask.main?] at gone
        obtain ⟨rfl, none, last⟩ := lone_task LoopTask.main? rfl isMain
        rcases AgentLoops.mainTurn_moved moved with rfl | ⟨next, rfl, unread, receiving, kept⟩
        · exact ⟨⟨phase, by simpa [LoopTask.ws?] using ws⟩,
            .inl (by simp [none, last])⟩
        · refine ⟨⟨phase, by simpa [LoopTask.ws?] using ws⟩, .inr ⟨by rw [receiving, alive], next, ?_⟩⟩
          obtain ⟨handled', holds', same⟩ := kept handled holds
          refine ⟨handled', by simp [LoopTask.main?, none, last], holds', ?_⟩
          simp only [underway, selected_append, selected_cons, LoopTask.ws?, Option.toList_none,
            List.nil_append, selected_nil, List.append_nil] at flow ⊢
          rw [flow, unread, ← List.append_assoc, ← same, List.append_assoc]

/-- The two loops of a deadlock, and no others. -/
theorem deadlocked_loops {messages : List ServerMessage} {config : Config AgentLoops LoopTask}
    (reached : Reach agentLoops Guard.any (agentStart messages) config)
    (dead : Deadlocked config) :
    ∃ message reply, wsLoops config.tasks = [.forwarding message] ∧
      mainLoops config.tasks = [.replying reply] := by
  obtain ⟨⟨phase, ws⟩, main⟩ := inOrder_reached reached
  obtain ⟨message, forwarding⟩ := dead.forwarding
  obtain ⟨reply, replying⟩ := dead.replying
  have isWs : .forwarding message ∈ wsLoops config.tasks :=
    mem_selected.mpr ⟨_, forwarding, rfl⟩
  have isMain : .replying reply ∈ mainLoops config.tasks :=
    mem_selected.mpr ⟨_, replying, rfl⟩
  refine ⟨message, reply, ?_, ?_⟩
  · rw [ws, List.mem_singleton] at isWs
    rw [ws, isWs]
  · rcases main with gone | ⟨-, phase', handled, one, -⟩
    · rw [gone] at isMain
      cases isMain
    · rw [one, List.mem_singleton] at isMain
      rw [one, isMain]

/-- Nothing leads out of a deadlock. -/
theorem deadlock_stays {messages : List ServerMessage} {config later : Config AgentLoops LoopTask}
    (reached : Reach agentLoops Guard.any (agentStart messages) config)
    (dead : Deadlocked config) (onward : Reach agentLoops Guard.any config later) :
    Deadlocked later := by
  refine onward.carry Deadlocked dead ?_ ?_
  · rintro a tasks task - ⟨⟨message, ws⟩, inbound, receiving, ⟨reply, main⟩, outbound⟩ -
    exact ⟨⟨message, List.mem_append_left _ ws⟩, inbound, receiving,
      ⟨reply, List.mem_append_left _ main⟩, outbound⟩
  · intro a a' before after new task choice here stuck _ moved
    obtain ⟨message, reply, ws, main⟩ := deadlocked_loops (reached.trans here) stuck
    have inboundFull := stuck.inboundFull
    have outboundFull := stuck.outboundFull
    have receiving := stuck.receiving
    dsimp only at inboundFull outboundFull receiving
    cases task with
    | sends message =>
        obtain ⟨⟨t, rest⟩, sent, same⟩ := Option.map_eq_some_iff.mp moved
        have space := (AgentLoops.sends_moved sent).1
        omega
    | ws own =>
        obtain ⟨rfl, -, -⟩ := lone_task LoopTask.ws? rfl ws
        cases choice with
        | transport choice =>
            simp [agentLoops, AgentLoops.turn, AgentLoops.wsTurn, AgentLoops.read,
              Transport.wsLoop, receiving, Nat.not_lt.mpr inboundFull] at moved
        | _ => cases moved
    | main own =>
        obtain ⟨rfl, -, -⟩ := lone_task LoopTask.main? rfl main
        obtain ⟨⟨t, rest⟩, sent, same⟩ := Option.map_eq_some_iff.mp moved
        have space := (AgentLoops.sends_moved sent).1
        omega

/-- Between the message that is answered and the one that waits lies a full channel. -/
theorem deadlocked_far {messages : List ServerMessage} {config : Config AgentLoops LoopTask}
    (reached : Reach agentLoops Guard.any (agentStart messages) config)
    (dead : Deadlocked config) :
    ∃ before request after, messages = before ++ request :: after ∧
      request.repliesInline = true ∧ INBOUND_CAPACITY < after.length := by
  obtain ⟨message, reply, ws, main⟩ := deadlocked_loops reached dead
  rcases (inOrder_reached reached).main with gone | ⟨-, phase, handled, one, holds, flow⟩
  · rw [main] at gone
    cases gone
  · obtain rfl : phase = .replying reply := by simpa [main] using one.symm
    obtain ⟨before, request, rfl, inline⟩ := holds
    refine ⟨before, request, underway config, by simp [flow], inline, ?_⟩
    have full := dead.inboundFull
    simp only [underway, ws, List.flatMap_singleton, WsLoop.forwarded, List.length_append,
      List.length_singleton]
    omega

/-! ## A schedule into the deadlock -/

/-- The two loops alone, in a run of the agent. -/
def Stands (messages : List ServerMessage) (ws : WsLoop) (main : MainLoop)
    (inbound : List ServerMessage) (outbound : List AgentMessage) (unread : List ServerMessage) :
    Prop :=
  ∃ history, Reach agentLoops Guard.any (agentStart messages)
    { shared :=
        { transport :=
            { outbound, sending := true, inbound, receiving := true, backoffSecs := 1, history }
          unread }
      tasks := [.ws ws, .main main] }

section

variable {start : Config AgentLoops LoopTask} {a a' : AgentLoops} {ws ws' : WsLoop}
  {main main' : MainLoop}

theorem ws_moves (choice : LoopChoice)
    (reached : Reach agentLoops Guard.any start ⟨a, [.ws ws, .main main]⟩)
    (moved : agentLoops.step a (.ws ws) choice = some (a', [.ws ws'])) :
    Reach agentLoops Guard.any start ⟨a', [.ws ws', .main main]⟩ := by
  have found : Reach agentLoops Guard.any start ⟨a, [] ++ .ws ws :: [.main main]⟩ := reached
  exact found.run trivial moved

theorem main_moves (choice : LoopChoice)
    (reached : Reach agentLoops Guard.any start ⟨a, [.ws ws, .main main]⟩)
    (moved : agentLoops.step a (.main main) choice = some (a', [.main main'])) :
    Reach agentLoops Guard.any start ⟨a', [.ws ws, .main main']⟩ := by
  have found : Reach agentLoops Guard.any start ⟨a, [.ws ws] ++ .main main :: []⟩ := reached
  exact found.run trivial moved

theorem producer_sends (message : AgentMessage)
    (reached : Reach agentLoops Guard.any start ⟨a, [.ws ws, .main main]⟩)
    (moved : agentLoops.step a (.sends message) .proceeds = some (a', [])) :
    Reach agentLoops Guard.any start ⟨a', [.ws ws, .main main]⟩ := by
  have found : Reach agentLoops Guard.any start
      ⟨a, [.ws ws, .main main] ++ .sends message :: []⟩ := .arrive reached rfl
  exact found.run trivial moved

end

example : INBOUND_CAPACITY = 256 := by decide +kernel

namespace Stands

variable {messages unread inbound : List ServerMessage} {outbound : List AgentMessage}
  {message : ServerMessage} {main : MainLoop} {ws : WsLoop}

theorem begins : Stands messages .selecting .receiving [] [] messages :=
  ⟨[.connected], ws_moves (.transport .proceeds) .start rfl⟩

theorem reads (stands : Stands messages .selecting main inbound outbound (message :: unread)) :
    Stands messages (.forwarding message) main inbound outbound unread := by
  obtain ⟨history, reached⟩ := stands
  refine ⟨history, ws_moves (.transport (.reads (.text (some message)))) reached ?_⟩
  simp [agentLoops, AgentLoops.turn, AgentLoops.wsTurn, AgentLoops.read, Transport.wsLoop]

theorem forwards (stands : Stands messages (.forwarding message) main inbound outbound unread)
    (space : inbound.length < INBOUND_CAPACITY) :
    Stands messages .selecting main (inbound ++ [message]) outbound unread := by
  obtain ⟨history, reached⟩ := stands
  refine ⟨history ++ [.forwarded message],
    ws_moves (.transport .proceeds) reached ?_⟩
  simp [agentLoops, AgentLoops.turn, AgentLoops.wsTurn, AgentLoops.read, Transport.wsLoop, space,
    Transport.record]

theorem receives (stands : Stands messages ws .receiving (message :: inbound) outbound unread) :
    Stands messages ws (.handling message) inbound outbound unread := by
  obtain ⟨history, reached⟩ := stands
  exact ⟨history, main_moves .proceeds reached rfl⟩

def someCollected : Collected where
  snapshot :=
    { cpuPct := 0, ramUsedMb := 0, ramTotalMb := 0, diskUsedGb := 0, diskTotalGb := 0,
      uptimeSecs := 0, timestamp := 0 }
  software := []
  patches := []

theorem handles (stands : Stands messages ws (.handling message) inbound outbound unread)
    (spawns : message.repliesInline = false) :
    Stands messages ws .receiving inbound outbound unread := by
  obtain ⟨history, reached⟩ := stands
  refine ⟨history, main_moves (.collects someCollected) reached ?_⟩
  cases message <;> first | rfl | cases spawns

theorem replies (stands : Stands messages ws (.handling message) inbound outbound unread)
    (inline : message.repliesInline = true) :
    ∃ reply, Stands messages ws (.replying reply) inbound outbound unread := by
  obtain ⟨history, reached⟩ := stands
  obtain ⟨reply, same⟩ : ∃ reply, message.reply someCollected = some reply := by
    cases message <;> first | exact ⟨_, rfl⟩ | cases inline
  refine ⟨reply, history, main_moves (.collects someCollected) reached ?_⟩
  simp [agentLoops, AgentLoops.turn, AgentLoops.mainTurn, same]

theorem sends {reply : AgentMessage} (stands : Stands messages ws (.replying reply) inbound [] unread) :
    Stands messages ws .receiving inbound [reply] unread := by
  obtain ⟨history, reached⟩ := stands
  exact ⟨history ++ [.queued reply], main_moves .proceeds reached rfl⟩

theorem writes {reply : AgentMessage}
    (stands : Stands messages .selecting main inbound [reply] unread) :
    Stands messages .selecting main inbound [] unread := by
  obtain ⟨history, reached⟩ := stands
  have taken : Stands messages (.writing reply) main inbound [] unread :=
    ⟨history ++ [.took reply], ws_moves (.transport .takes) reached rfl⟩
  obtain ⟨history, writing⟩ := taken
  exact ⟨history ++ [.wrote reply], ws_moves (.transport .proceeds) writing rfl⟩

/-- A message is read, forwarded, handled and answered while nothing else is on its way. -/
theorem serves (stands : Stands messages .selecting .receiving [] [] (message :: unread)) :
    Stands messages .selecting .receiving [] [] unread := by
  have handling := (stands.reads.forwards (by decide)).receives
  cases inline : message.repliesInline with
  | false => exact handling.handles inline
  | true =>
      obtain ⟨reply, replying⟩ := handling.replies inline
      exact replying.sends.writes

theorem serves_all {before after : List ServerMessage}
    (stands : Stands messages .selecting .receiving [] [] (before ++ after)) :
    Stands messages .selecting .receiving [] [] after := by
  induction before with
  | nil => exact stands
  | cons message before ih => exact ih stands.serves

theorem fills (count : Nat) (bound : count ≤ OUTBOUND_CAPACITY)
    (stands : Stands messages ws main inbound [] unread) :
    ∃ outbound, outbound.length = count ∧ Stands messages ws main inbound outbound unread := by
  induction count with
  | zero => exact ⟨[], rfl, stands⟩
  | succ count ih =>
      obtain ⟨outbound, rfl, history, reached⟩ := ih (by omega)
      refine ⟨outbound ++ [.heartbeat "0.1.0"], by simp, history ++ [.queued (.heartbeat "0.1.0")],
        producer_sends (.heartbeat "0.1.0") reached ?_⟩
      have space : outbound.length < OUTBOUND_CAPACITY := by omega
      simp [agentLoops, AgentLoops.turn, Transport.turn, space, Transport.record]

theorem piles (more : List ServerMessage) (bound : inbound.length + more.length ≤ INBOUND_CAPACITY)
    (stands : Stands messages .selecting main inbound outbound (more ++ unread)) :
    Stands messages .selecting main (inbound ++ more) outbound unread := by
  induction more generalizing inbound with
  | nil => simpa using stands
  | cons message more ih =>
      simp only [List.length_cons] at bound
      have next := ih (by simp; omega) (stands.reads.forwards (by omega))
      simpa using next

theorem deadlocks {reply : AgentMessage}
    (stands : Stands messages (.forwarding message) (.replying reply) inbound outbound unread)
    (inboundFull : INBOUND_CAPACITY ≤ inbound.length)
    (outboundFull : OUTBOUND_CAPACITY ≤ outbound.length) :
    ∃ config, Reach agentLoops Guard.any (agentStart messages) config ∧ Deadlocked config := by
  obtain ⟨history, reached⟩ := stands
  exact ⟨_, reached, ⟨message, by simp⟩, inboundFull, rfl, ⟨reply, by simp⟩, outboundFull⟩

end Stands

theorem far_deadlocked (before : List ServerMessage) {after : List ServerMessage} {request : ServerMessage}
    (inline : request.repliesInline = true) (far : INBOUND_CAPACITY < after.length) :
    ∃ config, Reach agentLoops Guard.any (agentStart (before ++ request :: after)) config ∧
      Deadlocked config := by
  have served : Stands (before ++ request :: after) .selecting .receiving [] [] (request :: after) :=
    Stands.begins.serves_all
  obtain ⟨reply, replying⟩ := (served.reads.forwards (by decide)).receives.replies inline
  obtain ⟨outbound, full, filled⟩ := replying.fills OUTBOUND_CAPACITY le_rfl
  obtain ⟨fit, last, rest, split, room⟩ : ∃ fit last rest, after = fit ++ last :: rest ∧
      fit.length = INBOUND_CAPACITY := by
    refine ⟨after.take INBOUND_CAPACITY, after[INBOUND_CAPACITY],
      after.drop (INBOUND_CAPACITY + 1), ?_, ?_⟩
    · rw [List.getElem_cons_drop, List.take_append_drop]
    · rw [List.length_take]
      omega
  have waiting : Stands (before ++ request :: after) .selecting (.replying reply) [] outbound
      (fit ++ last :: rest) := by
    rw [← split]
    exact filled
  have piled := waiting.piles fit (by simp [room])
  exact piled.reads.deadlocks (by simp [room]) (by omega)

/-- The loops can deadlock on a sequence of messages just when more than a channel full of them
follows a request that is answered inside the main loop. -/
theorem loops_deadlock_iff (messages : List ServerMessage) :
    (∀ config, Reach agentLoops Guard.any (agentStart messages) config → ¬ Deadlocked config) ↔
      ∀ before request after, messages = before ++ request :: after →
        request.repliesInline = true → after.length ≤ INBOUND_CAPACITY := by
  constructor
  · rintro free before request after rfl inline
    by_contra far
    obtain ⟨config, reached, dead⟩ := far_deadlocked before inline (not_le.mp far)
    exact free config reached dead
  · intro near config reached dead
    obtain ⟨before, request, after, split, inline, far⟩ := deadlocked_far reached dead
    have close := near before request after split inline
    omega

/-- A telemetry request with 257 inputs of a shell behind it. -/
theorem loops_deadlock : ¬ ∀ messages config,
    Reach agentLoops Guard.any (agentStart messages) config → ¬ Deadlocked config := by
  intro free
  have inline : ServerMessage.requestTelemetry.repliesInline = true := rfl
  have far : INBOUND_CAPACITY <
      (List.replicate 257 (ServerMessage.shellInput (Uuid.small 7) "ls\n")).length := by
    rw [List.length_replicate]
    decide
  obtain ⟨config, reached, dead⟩ := far_deadlocked [] inline far
  exact free _ config reached dead

end OsfmEdm
