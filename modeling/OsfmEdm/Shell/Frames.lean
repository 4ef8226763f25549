import Mathlib.Data.Bool.AllAny
import OsfmEdm.Library.EventStream
import OsfmEdm.Library.Utf8Reader
import OsfmEdm.Shell.Outputs

/-!
The events of `stream_shell` as they are written, and the texts that `Event::data` does not take.
-/

namespace OsfmEdm

open Broadcast EventStream Interleaving JsonText Utf8Lossy

/-- `Event::default().event(name).data(data)`; it panics where there is none. -/
def sseFrame (event : ShellEvent) : Option (List Char) :=
  frame (sseEvent event).event.toList (sseEvent event).data.toList

/-- What `Event::data` takes. -/
def eventData (text : String) : Bool := (fields "data".toList (text.toList.splitOn '\n')).isSome

/-- An output with a carriage return. -/
def AgentMessage.hasReturn : AgentMessage → Bool
  | .shellOutput _ data => data.toList.contains '\r'
  | _ => false

def ShellEvent.hasReturn (event : ShellEvent) : Bool :=
  !event.closed && event.data.toList.contains '\r'

/-! ## What is written -/

def isPrintable (char : Char) : Bool := 0x20 ≤ char.toNat && char.toNat < 0x7F

theorem writeNat_printable (value : Nat) : ∀ char ∈ writeNat value, isPrintable char = true :=
  forall_mem_writeNat (by decide) value

theorem writeInt_printable (value : Int) :
    ∀ char ∈ write (.number (.ofInt value)), isPrintable char = true := by
  intro char member
  have parts : value < 0 ∧ char = '-' ∨ char ∈ writeNat value.natAbs := by
    simpa [write, writeNumber, Number.ofInt, writeFraction, writeExponent] using member
  rcases parts with ⟨_, rfl⟩ | digit
  · rfl
  · exact writeNat_printable _ char digit

/-- The data of the closing event, for every exit code. -/
theorem closed_printable {event : ShellEvent} (closed : event.closed = true) :
    ∀ char ∈ (sseEvent event).data.toList, isPrintable char = true := by
  have code : ∀ char ∈ write (encodeOptional Codec.int32.encode event.exitCode),
      isPrintable char = true := by
    cases event.exitCode with
    | none => exact List.all_iff_forall_prop.mp (by decide)
    | some code => exact writeInt_printable code.toInt
  have key : ∀ char ∈ '\x7b' :: writeString "exit_code" ++ [':'], isPrintable char = true :=
    List.all_iff_forall_prop.mp (by decide +kernel)
  intro char member
  simp only [sseEvent, closed, if_true, String.toList_ofList, write, writeMember, writeMembers]
    at member
  have parts : char ∈ '\x7b' :: writeString "exit_code" ++ [':'] ∨
      char ∈ write (encodeOptional Codec.int32.encode event.exitCode) ∨ char = '\x7d' := by
    simpa [or_assoc] using member
  rcases parts with before | value | rfl
  · exact key char before
  · exact code char value
  · rfl

theorem eventData_iff (text : String) : eventData text = true ↔ '\r' ∉ text.toList :=
  dataFields_isSome text.toList

theorem eventData_sseEvent (event : ShellEvent) :
    eventData (sseEvent event).data = !event.hasReturn := by
  rw [Bool.eq_iff_iff, eventData_iff]
  cases closed : event.closed with
  | true =>
      have plain : '\r' ∉ (sseEvent event).data.toList :=
        fun member => absurd (closed_printable closed _ member) (by decide)
      simp [ShellEvent.hasReturn, closed, plain]
  | false => simp [ShellEvent.hasReturn, closed, sseEvent]

theorem sseFrame_isSome (event : ShellEvent) :
    (sseFrame event).isSome = !event.hasReturn := by
  have named : '\n' ∉ (sseEvent event).event.toList ∧ '\r' ∉ (sseEvent event).event.toList := by
    unfold sseEvent
    split <;> simp only <;> decide
  rw [← eventData_sseEvent, Bool.eq_iff_iff, eventData_iff, sseFrame, frame_isSome]
  exact and_iff_right named

/-- What the hub relays for a message. -/
theorem hasReturn_of_relay {message : AgentMessage} {event : ShellEvent}
    (relayed : .relay event ∈ processAgentMessage message) :
    event.hasReturn = message.hasReturn := by
  cases message with
  | shellOutput session data =>
      obtain rfl : event = ⟨session, data, false, none⟩ := by
        simpa [processAgentMessage] using relayed
      rfl
  | shellClosed session code =>
      obtain rfl : event = ⟨session, "", true, code⟩ := by
        simpa [processAgentMessage] using relayed
      rfl
  | systemEventBatch events =>
      obtain ⟨_, _, same⟩ := List.mem_map.mp relayed
      cases same
  | _ => simp [processAgentMessage] at relayed

/-! ## Streams -/

/-- No output that the hub relays has a carriage return. -/
def relaysLines : Guard StreamServer StreamTask StreamChoice := fun _ _ task _ =>
  match task with
  | .connection _ _ (.relay event :: _) => event.hasReturn = false
  | _ => True

/-- The event that a connection is about to relay. -/
def StreamTask.relayed? : StreamTask → Option ShellEvent
  | .connection _ _ (.relay event :: _) => some event
  | _ => none

theorem relaysLines_iff {s : StreamServer} {others : List StreamTask} {task : StreamTask}
    {choice : StreamChoice} :
    task.relayed?.all (!·.hasReturn) = true ↔ relaysLines s others task choice := by
  unfold relaysLines StreamTask.relayed?
  split <;> simp

instance : ∀ s others task choice, Decidable (relaysLines s others task choice) :=
  fun _ _ _ _ => decidable_of_iff _ relaysLines_iff

def StreamServer.RelaysLines (s : StreamServer) : Prop :=
  ∀ session, ∀ event ∈ s.channel session, event.hasReturn = false

def StreamTask.Alive : StreamTask → Prop
  | .stream _ _ (.panicked _) => False
  | _ => True

theorem streamShell_alive {s : StreamServer} {auth : AuthUser} {session : Uuid}
    {phase next : StreamShell} (lines : s.RelaysLines)
    (moved : s.streamShell eventData auth session phase = some (s, [.stream auth session next])) :
    (StreamTask.stream auth session next).Alive := by
  cases phase with
  | authorize | subscribe =>
      simp only [StreamServer.streamShell] at moved
      split at moved <;> cases moved <;> trivial
  | streaming position yielded =>
      simp only [StreamServer.streamShell] at moved
      split at moved
      · rename_i event later read
        have among : event ∈ s.channel session := by
          have received := recv_remaining shellCapacity (s.channel session)
            (s.server.app.shellBroadcasts session) position
          rw [read, Received.values] at received
          have found : event ∈ remaining shellCapacity (s.channel session) position := by
            simp [received]
          exact List.mem_of_mem_drop found
        have plain := lines session event among
        rw [eventData_sseEvent, plain] at moved
        cases moved
        trivial
      · cases moved
        trivial
      · cases moved
      · cases moved
        trivial
  | ended | panicked | refused => cases moved

theorem StreamTurn.relaysLines {carries : String → Bool} {s s' : StreamServer} {task : StreamTask}
    {new others : List StreamTask} {choice : StreamChoice}
    (turn : StreamTurn carries s task s' new) (lines : s.RelaysLines)
    (meets : OsfmEdm.relaysLines s others task choice) : s'.RelaysLines := by
  cases turn with
  | quiet quiet =>
      rename_i effect _ _ _
      cases effect with
      | none | enqueue | register | disconnect => exact lines
      | _ => cases quiet
  | acted fails =>
      rename_i device messages action rest
      rcases action.relay_or with ⟨event, rfl⟩ | other
      · have plain : event.hasReturn = false := meets
        intro session earlier member
        rw [StreamServer.channel_relay] at member
        rcases List.mem_append.mp member with old | new
        · exact lines session earlier old
        · split at new
          · exact List.mem_singleton.mp new ▸ plain
          · cases new
      · intro session event member
        simp only [StreamServer.channel, (s.act_kept device fails other).2] at member
        exact lines session event member
  | _ => exact lines

theorem relaysLines_outline : Outline (streamProgram eventData) relaysLines
    StreamServer.RelaysLines fun _ => StreamTask.Alive where
  arrive shared task _ request := by
    cases task with
    | stream => cases request
    | _ => trivial
  step shared others task choice shared' new lines alive _ meets moved := by
    have turn := StreamServer.turn_cases moved
    refine ⟨turn.relaysLines lines meets, fun next member => ?_⟩
    cases next with
    | stream auth session phase =>
        rcases turn.stream_cases member with rfl | ⟨earlier, rfl, rfl, read⟩
        · trivial
        · exact streamShell_alive lines read
    | _ => trivial
  stable _ _ _ _ _ _ _ _ _ _ _ _ alive := alive

/-- The event of every message is written, unless the message is an output with a carriage return;
and while the hub relays no such output no stream ends with a panic. -/
theorem shell_stream_written (message : AgentMessage) (db : Database) :
    (∀ event, .relay event ∈ processAgentMessage message →
      ((sseFrame event).isSome = true ↔
        ∀ session data, message = .shellOutput session data → '\r' ∉ data.toList)) ∧
      ∀ config, Reach (streamProgram eventData) relaysLines (StreamServer.start db) config →
        ∀ auth session yielded, .stream auth session (.panicked yielded) ∉ config.tasks := by
  constructor
  · intro event relayed
    rw [sseFrame_isSome, hasReturn_of_relay relayed]
    cases message <;> simp [AgentMessage.hasReturn]
  · intro config reached auth session yielded member
    have first : Annotated StreamServer.RelaysLines (fun _ => StreamTask.Alive)
        (StreamServer.start db) := ⟨by rintro session event ⟨⟩, by rintro task ⟨⟩⟩
    exact (relaysLines_outline.holds first reached).tasks _ member

/-- The stream of a session on which the agent sends one text. -/
def subscribedTo (data : String) : List (Label StreamTask StreamChoice) :=
  sessionOpened [.shellOutput (Uuid.small 7) data] ++
    [.run 1 (.asks ⟨Uuid.small 0, "admin", "admin"⟩), .run 2 (.moves .proceeds),
      .run 2 (.moves .proceeds), .run 0 (.moves .proceeds), .run 0 (.moves .proceeds),
      .run 2 (.moves .proceeds)]

theorem shell_stream_written_prompt :
    ((sseFrame ⟨Uuid.small 7, "$ ", false, none⟩).isSome = true ↔
        ∀ session data, AgentMessage.shellOutput (Uuid.small 7) "$ " = .shellOutput session data →
          '\r' ∉ data.toList) ∧
      ∃ config, Reach (streamProgram eventData) relaysLines (StreamServer.start (.ofDevices .empty))
          config ∧ config.tasks.flatMap (StreamTask.phases (Uuid.small 7)) =
            [.streaming 1 [⟨"output", "$ "⟩]] ∧
        ∀ auth session yielded, .stream auth session (.panicked yielded) ∉ config.tasks := by
  obtain ⟨config, reached, seen⟩ := Reach.of_observed (streamProgram eventData) relaysLines
    (StreamServer.start (.ofDevices .empty)) (subscribedTo "$ ")
    (fun config => config.tasks.flatMap (StreamTask.phases (Uuid.small 7)))
    [.streaming 1 [⟨"output", "$ "⟩]] (by decide +kernel)
  obtain ⟨written, alive⟩ :=
    shell_stream_written (.shellOutput (Uuid.small 7) "$ ") (.ofDevices .empty)
  exact ⟨written _ List.mem_cons_self, config, reached, seen, alive config reached⟩

/-- A PTY ends its lines with `\r\n`. -/
theorem shell_stream_panics :
    sseFrame ⟨Uuid.small 7, fromUtf8Lossy (utf8 "ls\r\n".toList), false, none⟩ = none ∧
      ¬ ∀ config, Reach (streamProgram eventData) Guard.any (StreamServer.start (.ofDevices .empty))
          config → ∀ auth session yielded,
            .stream auth session (.panicked yielded) ∉ config.tasks := by
  refine ⟨by decide +kernel, fun never => ?_⟩
  obtain ⟨config, reached, seen⟩ := Reach.of_observed (streamProgram eventData) Guard.any
    (StreamServer.start (.ofDevices .empty))
    (subscribedTo (fromUtf8Lossy (utf8 "ls\r\n".toList)))
    (fun config => config.tasks.flatMap (StreamTask.phases (Uuid.small 7)))
    [.panicked []] (by decide +kernel)
  obtain ⟨auth, panicked⟩ := mem_phases (seen ▸ List.mem_singleton_self _)
  exact never config reached auth _ _ panicked

end OsfmEdm
