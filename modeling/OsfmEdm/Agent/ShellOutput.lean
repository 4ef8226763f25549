import Mathlib.Data.List.TakeWhile
import OsfmEdm.Agent.ShellSession

/-!
What a shell session of the agent sends: its end once and last, and its output as it was read.
-/

namespace OsfmEdm

open Interleaving JsonText Utf8Lossy

def AgentMessage.closesShell : AgentMessage → Bool
  | .shellClosed .. => true
  | _ => false

def AgentMessage.outputsShell : AgentMessage → Bool
  | .shellOutput .. => true
  | _ => false

@[simp] theorem outputsShell_shellOutput (session : Uuid) (data : String) :
    (AgentMessage.shellOutput session data).outputsShell = true := rfl

/-- Before the reader thread is spawned. -/
def PtyMain.starts : PtyMain → Bool
  | .openpty | .spawnCommand | .tryCloneReader | .takeWriter => true
  | _ => false

def PtyMain.finishes : PtyMain → Bool
  | .finish _ => true
  | _ => false

/-- What the reader thread still has to send. -/
def PtySession.held (r : PtySession) : List AgentMessage :=
  match r.reader with
  | .sending data => [.shellOutput r.session data]
  | _ => []

variable {s s' : ShellManager} {r r' : PtySession} {choice : PtyChoice}

/-! ## Steps of the two threads -/

inductive MainMoves (r r' : PtySession) (choice : PtyChoice) : Prop where
  | goes (sent : r'.sent = r.sent) (before : r.main ≠ .returned) (after : r'.main ≠ .returned)
      (reader : r'.reader = r.reader ∧ (r'.main.starts = true → r.main.starts = true) ∨
        r.main.starts = true ∧ r'.main.starts = false ∧ r'.reader = .reading)
  | reports (code : Option Int32) (finish : r.main = .finish code) (proceeds : choice = .proceeds)
      (returned : r'.main = .returned) (reader : r'.reader = r.reader)
      (sent : r'.sent = r.sent ++ [.shellClosed r.session code])

theorem runPty_moves (moved : s.runPtyBlocking r choice = some (s', r')) :
    r'.session = r.session ∧ r'.reads = r.reads ∧ MainMoves r r' choice := by
  have goes : ∀ next, r.main ≠ .returned → next ≠ .returned →
      (next.starts = true → r.main.starts = true) → MainMoves r { r with main := next } choice :=
    fun next before after starts => .goes rfl before after (.inl ⟨rfl, starts⟩)
  unfold ShellManager.runPtyBlocking at moved
  cases at_ : r.main with
  | openpty | spawnCommand | tryCloneReader =>
      rw [at_] at moved
      cases choice <;> cases moved <;>
        exact ⟨rfl, rfl, goes _ (by simp [at_]) nofun (by simp [at_, PtyMain.starts])⟩
  | takeWriter =>
      rw [at_] at moved
      cases choice <;> cases moved
      · exact ⟨rfl, rfl, .goes rfl (by simp [at_]) nofun
          (.inr ⟨by simp [at_, PtyMain.starts], rfl, rfl⟩)⟩
      · exact ⟨rfl, rfl, goes _ (by simp [at_]) nofun nofun⟩
  | tryRecv =>
      rw [at_] at moved
      cases choice <;> try cases moved
      simp only at moved
      split at moved <;> cases moved <;> exact ⟨rfl, rfl, goes _ (by simp [at_]) nofun nofun⟩
  | recvTimeout =>
      rw [at_] at moved
      cases choice <;> try cases moved
      case proceeds =>
        simp only at moved
        split at moved
        · cases moved
          exact ⟨rfl, rfl, goes _ (by simp [at_]) nofun nofun⟩
        · split at moved <;> cases moved
          exact ⟨rfl, rfl, goes _ (by simp [at_]) nofun nofun⟩
      case timesOut =>
        simp only at moved
        split at moved <;> cases moved
        exact ⟨rfl, rfl, goes _ (by simp [at_]) nofun nofun⟩
  | tryWait | wait =>
      rw [at_] at moved
      cases choice <;> cases moved <;>
        exact ⟨rfl, rfl, goes _ (by simp [at_]) nofun nofun⟩
  | finish code =>
      rw [at_] at moved
      cases choice <;> try cases moved
      obtain ⟨_, _, same⟩ := Option.map_eq_some_iff.mp moved
      cases same
      exact ⟨rfl, rfl, .reports code at_ rfl rfl rfl rfl⟩
  | returned =>
      rw [at_] at moved
      cases choice <;> cases moved

inductive ReaderMoves (r r' : PtySession) (choice : PtyChoice) : Prop where
  | reads (bytes : List UInt8) (reading : r.reader = .reading) (chosen : choice = .reads bytes)
      (next : r' = { r with
        reader := .sending (fromUtf8Lossy bytes), reads := r.reads ++ [bytes] })
  | ends (reading : r.reader = .reading) (next : r' = { r with reader := .ended })
  | sends (data : String) (sending : r.reader = .sending data)
      (next : r' = { r with
        reader := .reading, sent := r.sent ++ [.shellOutput r.session data] })

theorem readPty_moves (moved : s.readPty r choice = some (s', r')) : ReaderMoves r r' choice := by
  unfold ShellManager.readPty at moved
  split at moved
  · rename_i bytes reading
    split at moved
    · cases moved
      exact .reads bytes reading rfl rfl
    · cases moved
  · rename_i reading
    cases moved
    exact .ends reading rfl
  · rename_i data sending
    obtain ⟨_, _, same⟩ := Option.map_eq_some_iff.mp moved
    cases same
    exact .sends data sending rfl
  · cases moved

/-- What holds of a session when it is opened and is kept by both threads holds of every session. -/
theorem pty_session_rule {guard : Guard ShellManager PtyTask PtyChoice} (fact : PtySession → Prop)
    (opened : ∀ session channel, fact ⟨session, channel, .openpty, .absent, [], []⟩)
    (main : ∀ s others r r' choice, fact r → guard s others (.pty r) choice →
      r'.session = r.session → r'.reads = r.reads → MainMoves r r' choice → fact r')
    (reader : ∀ s others r r' choice, fact r → guard s others (.pty r) choice →
      ReaderMoves r r' choice → fact r')
    {config : Config ShellManager PtyTask}
    (reached : Reach ptyProgram guard ptyStart config) {r : PtySession}
    (member : .pty r ∈ config.tasks) : fact r := by
  refine reached.each_task (fun task => ∀ r, task = .pty r → fact r) nofun ?_ ?_ _ member r rfl
  · rintro _ request r rfl
    cases request
  · intro s others task choice s' new holds meets moved next member r same
    subst same
    cases task with
    | opens session =>
        simp only [ptyProgram, ShellManager.turn, ShellManager.openSession] at moved
        split at moved <;> cases moved
        · cases member
        · cases List.mem_singleton.mp member
          exact opened ..
    | pty own =>
        have before := holds own rfl
        simp only [ptyProgram, ShellManager.turn] at moved
        split at moved
        case h_1 | h_2 | h_3 =>
          obtain ⟨⟨_, r'⟩, stepped, same⟩ := Option.map_eq_some_iff.mp moved
          cases same
          cases List.mem_singleton.mp member
          exact reader _ _ _ _ _ before meets (readPty_moves stepped)
        case h_4 =>
          obtain ⟨⟨_, r'⟩, stepped, same⟩ := Option.map_eq_some_iff.mp moved
          cases same
          cases List.mem_singleton.mp member
          obtain ⟨session, reads, moves⟩ := runPty_moves stepped
          exact main _ _ _ _ _ before meets session reads moves
    | inputs | closes =>
        cases moved
        cases member
    | sends message =>
        obtain ⟨_, _, same⟩ := Option.map_eq_some_iff.mp moved
        cases same
        cases member
    | connectionTakes =>
        simp only [ptyProgram, ShellManager.turn] at moved
        split at moved <;> cases moved
        cases member

/-! ## The end of a session -/

/-- One `ShellClosed` when `run_pty_blocking` has returned and none before, and no output after
it. -/
structure EndsOnceLast (r : PtySession) : Prop where
  once : r.sent.countP AgentMessage.closesShell = if r.main = .returned then 1 else 0
  last : ∀ message ∈ r.sent.dropWhile (!·.closesShell), message.outputsShell = false

/-- When the end is reported the reader thread holds nothing, and after that it finds nothing more
to read. -/
def ptyDrained : Guard ShellManager PtyTask PtyChoice := fun _ _ task choice =>
  match task, choice with
  | .pty r, .reads _ => r.main ≠ .returned
  | .pty r, .proceeds => r.main.finishes = true → r.held = []
  | _, _ => True

instance : ∀ s others task choice, Decidable (ptyDrained s others task choice) := by
  intro s others task choice
  unfold ptyDrained
  split <;> infer_instance

theorem shell_closes_once {config : Config ShellManager PtyTask}
    (reached : Reach ptyProgram Guard.any ptyStart config) (member : .pty r ∈ config.tasks) :
    r.sent.countP AgentMessage.closesShell = if r.main = .returned then 1 else 0 := by
  refine pty_session_rule
    (fun r => r.sent.countP AgentMessage.closesShell = if r.main = .returned then 1 else 0)
    (fun _ _ => rfl) ?_ ?_ reached member
  · intro s others r r' choice count _ _ _ moves
    cases moves with
    | goes sent before after reader =>
        rw [sent, count, if_neg before, if_neg after]
    | reports code finish proceeds returned reader sent =>
        rw [sent, List.countP_append, count, finish, returned]
        rfl
  · intro s others r r' choice count _ moves
    cases moves with
    | reads bytes reading chosen next | ends reading next =>
        subst next
        exact count
    | sends data sending next =>
        subst next
        simpa [AgentMessage.closesShell] using count

/-- Nothing of a session is under way once its end is reported. -/
structure Drained (r : PtySession) : Prop extends EndsOnceLast r where
  drained : r.main = .returned → r.held = []

theorem Drained.open (drained : Drained r) (running : r.main ≠ .returned) :
    ∀ message ∈ r.sent, message.closesShell = false := by
  have none := drained.once
  rw [if_neg running, List.countP_eq_zero] at none
  simpa using none

theorem drained_reached {config : Config ShellManager PtyTask}
    (reached : Reach ptyProgram ptyDrained ptyStart config) (member : .pty r ∈ config.tasks) :
    Drained r := by
  refine pty_session_rule Drained ?_ ?_ ?_ reached member
  · intro session channel
    exact ⟨⟨rfl, nofun⟩, nofun⟩
  · intro s others r r' choice holds meets session _ moves
    cases moves with
    | goes sent before after reader =>
        refine ⟨⟨?_, by simpa only [sent] using holds.last⟩, fun returned => absurd returned after⟩
        rw [sent, holds.once, if_neg before, if_neg after]
    | reports code finish proceeds returned reader sent =>
        subst proceeds
        have running : r.main ≠ .returned := by simp [finish]
        have quiet : r.held = [] := meets (by rw [finish]; rfl)
        have openUntil := holds.open running
        refine ⟨⟨?_, ?_⟩, fun _ => ?_⟩
        · rw [sent, List.countP_append, holds.once, if_neg running, returned]
          rfl
        · rw [sent, List.dropWhile_append_of_pos (by simpa using openUntil)]
          simp [AgentMessage.closesShell, AgentMessage.outputsShell]
        · rw [← quiet, PtySession.held, PtySession.held, reader, session]
  · intro s others r r' choice holds meets moves
    cases moves with
    | reads bytes reading chosen next =>
        subst next chosen
        exact ⟨⟨holds.once, holds.last⟩, fun returned => absurd returned meets⟩
    | ends reading next =>
        subst next
        exact ⟨⟨holds.once, holds.last⟩, fun _ => rfl⟩
    | sends data sending next =>
        have running : r.main ≠ .returned := by
          intro returned
          have nothing := holds.drained returned
          simp [PtySession.held, sending] at nothing
        have openUntil := holds.open running
        subst next
        refine ⟨⟨by simpa [AgentMessage.closesShell] using holds.once, ?_⟩, fun _ => rfl⟩
        have none : (r.sent ++ [AgentMessage.shellOutput r.session data]).dropWhile
            (!·.closesShell) = [] :=
          List.dropWhile_eq_nil_iff.2 (by simpa [or_imp, forall_and] using ⟨openUntil, rfl⟩)
        simp [none]

theorem session_ends_last {config : Config ShellManager PtyTask}
    (reached : Reach ptyProgram ptyDrained ptyStart config) {r : PtySession}
    (member : .pty r ∈ config.tasks) : EndsOnceLast r :=
  (drained_reached reached member).toEndsOnceLast

/-- A session with one line of output, whose shell then exits. -/
def exits : List (Label PtyTask PtyChoice) :=
  [.arrive (.opens (Uuid.small 7)), .run 0 .proceeds, .run 0 .proceeds, .run 0 .proceeds,
    .run 0 .proceeds, .run 0 .proceeds, .run 0 (.reads (utf8 "bye\r\n".toList)), .run 0 .proceeds,
    .run 0 .timesOut]

theorem session_ends_last_exit : ∃ config r, Reach ptyProgram ptyDrained ptyStart config ∧
    .pty r ∈ config.tasks ∧ r.main = .returned ∧ EndsOnceLast r := by
  obtain ⟨config, reached, seen⟩ := Reach.of_observed ptyProgram ptyDrained ptyStart
    (exits ++ [.run 0 .readerSends, .run 0 .readEnds, .run 0 (.exited 0), .run 0 .proceeds])
    (fun config => config.tasks)
    [.pty ⟨Uuid.small 7, 0, .returned, .ended, [utf8 "bye\r\n".toList],
      [.shellOutput (Uuid.small 7) "bye\r\n", .shellClosed (Uuid.small 7) (some 0)]⟩]
    (by decide +kernel)
  exact ⟨config, _, reached, seen ▸ List.mem_singleton.mpr rfl, rfl,
    session_ends_last reached (seen ▸ List.mem_singleton.mpr rfl)⟩

/-- The shell exits while its last line is still with the reader thread. -/
theorem shell_output_late : ¬ ∀ config r, Reach ptyProgram Guard.any ptyStart config →
    .pty r ∈ config.tasks → EndsOnceLast r := by
  intro endsLast
  obtain ⟨config, reached, seen⟩ := Reach.of_observed ptyProgram Guard.any ptyStart
    (exits ++ [.run 0 (.exited 0), .run 0 .proceeds, .run 0 .readerSends])
    (fun config => config.tasks)
    [.pty ⟨Uuid.small 7, 0, .returned, .reading, [utf8 "bye\r\n".toList],
      [.shellClosed (Uuid.small 7) (some 0), .shellOutput (Uuid.small 7) "bye\r\n"]⟩]
    (by decide +kernel)
  have last := (endsLast config _ reached (seen ▸ List.mem_singleton.mpr rfl)).last
  exact absurd (last (.shellOutput (Uuid.small 7) "bye\r\n") (by simp [AgentMessage.closesShell]))
    (by decide)

/-! ## The output of a session -/

def AgentMessage.shellText : AgentMessage → List Char
  | .shellOutput _ data => data.toList
  | _ => []

/-- The text of a session, as far as its outputs have brought it. -/
def PtySession.text (r : PtySession) : List Char := r.sent.flatMap AgentMessage.shellText

/-- What was read is sent, or is with the reader thread. -/
structure Logged (r : PtySession) : Prop where
  unread : r.main.starts = true → r.reader = .absent
  sent : r.sent.filter AgentMessage.outputsShell ++ r.held = outputsOf r.session r.reads

theorem logged_reached {config : Config ShellManager PtyTask}
    (reached : Reach ptyProgram Guard.any ptyStart config) (member : .pty r ∈ config.tasks) :
    Logged r := by
  refine pty_session_rule Logged ?_ ?_ ?_ reached member
  · intro session channel
    exact ⟨fun _ => rfl, rfl⟩
  · intro s others r r' choice holds _ session reads moves
    cases moves with
    | goes sent before after reader =>
        rcases reader with ⟨same, starts⟩ | ⟨starts, started, reading⟩
        · refine ⟨fun starting => same ▸ holds.unread (starts starting), ?_⟩
          rw [sent, session, reads, ← holds.sent, PtySession.held, PtySession.held, same, session]
        · refine ⟨fun starting => by simp [started] at starting, ?_⟩
          have nothing := holds.sent
          rw [PtySession.held, holds.unread starts] at nothing
          rw [sent, session, reads, ← nothing, PtySession.held, reading]
    | reports code finish proceeds returned reader sent =>
        refine ⟨fun starting => by simp [returned, PtyMain.starts] at starting, ?_⟩
        have closed : AgentMessage.outputsShell (.shellClosed r.session code) = false := rfl
        rw [sent, session, reads, ← holds.sent, PtySession.held, PtySession.held, reader, session]
        simp [closed]
  · intro s others r r' choice holds _ moves
    cases moves with
    | reads bytes reading chosen next =>
        subst next
        refine ⟨fun starting => absurd (holds.unread starting) (by simp [reading]), ?_⟩
        have before := holds.sent
        simp only [PtySession.held, reading, List.append_nil] at before
        simp [PtySession.held, outputsOf, before]
    | ends reading next =>
        subst next
        refine ⟨fun starting => absurd (holds.unread starting) (by simp [reading]), ?_⟩
        simpa [PtySession.held, reading] using holds.sent
    | sends data sending next =>
        subst next
        refine ⟨fun starting => absurd (holds.unread starting) (by simp [sending]), ?_⟩
        simpa [PtySession.held, sending, List.filter_cons] using holds.sent

theorem text_of_filter (messages : List AgentMessage) :
    (messages.filter AgentMessage.outputsShell).flatMap AgentMessage.shellText =
      messages.flatMap AgentMessage.shellText := by
  induction messages with
  | nil => rfl
  | cons message messages ih =>
      cases message with
      | shellOutput => simp [List.filter_cons, AgentMessage.shellText, ih]
      | _ => simpa [AgentMessage.outputsShell, AgentMessage.shellText] using ih

theorem text_outputsOf (session : Uuid) (reads : List (List UInt8)) :
    (outputsOf session reads).flatMap AgentMessage.shellText = reads.flatMap lossyText := by
  simp [outputsOf, List.flatMap_map, AgentMessage.shellText, fromUtf8Lossy]

theorem text_of_ended {config : Config ShellManager PtyTask}
    (reached : Reach ptyProgram Guard.any ptyStart config) (member : .pty r ∈ config.tasks)
    (ended : r.reader = .ended) : r.text = r.reads.flatMap lossyText := by
  have sent := (logged_reached reached member).sent
  rw [PtySession.held, ended, List.append_nil] at sent
  rw [PtySession.text, ← text_of_filter, sent, text_outputsOf]

/-- When the PTY has ended its text has come through just when no read ended inside a character, and
then it does not matter where the reads ended. -/
theorem shell_text_iff {config : Config ShellManager PtyTask}
    (reached : Reach ptyProgram Guard.any ptyStart config) {r : PtySession}
    (member : .pty r ∈ config.tasks) (ended : r.reader = .ended) {text : List Char}
    (produced : r.reads.flatten = utf8 text) :
    (r.text = text ↔ ∀ read ∈ r.reads, IsUtf8 read) ∧
      ∀ config' r', Reach ptyProgram Guard.any ptyStart config' → .pty r' ∈ config'.tasks →
        r'.reader = .ended → r'.reads.flatten = r.reads.flatten →
        (∀ read ∈ r.reads, IsUtf8 read) → (∀ read ∈ r'.reads, IsUtf8 read) → r'.text = r.text := by
  have whole := text_of_ended reached member ended
  refine ⟨by rw [whole]; exact flatMap_lossyText_iff produced, ?_⟩
  intro config' r' reached' member' ended' same parts parts'
  rw [whole, text_of_ended reached' member' ended', (flatMap_lossyText_iff produced).mpr parts]
  exact (flatMap_lossyText_iff (same.trans produced)).mpr parts'

/-- The bytes of one character, in one read or in two. -/
def prints (reads : List (List UInt8)) : List (Label PtyTask PtyChoice) :=
  [.arrive (.opens (Uuid.small 7)), .run 0 .proceeds, .run 0 .proceeds, .run 0 .proceeds,
    .run 0 .proceeds, .run 0 .proceeds] ++
      reads.flatMap (fun bytes => [.run 0 (.reads bytes), .run 0 .readerSends]) ++ [.run 0 .readEnds]

theorem shell_text_accent : ∃ config r, Reach ptyProgram Guard.any ptyStart config ∧
    .pty r ∈ config.tasks ∧ r.reads = [[0xC3, 0xA9]] ∧ r.text = ['é'] := by
  obtain ⟨config, reached, seen⟩ := Reach.of_observed ptyProgram Guard.any ptyStart
    (prints [[0xC3, 0xA9]]) (fun config => config.tasks)
    [.pty ⟨Uuid.small 7, 0, .tryRecv, .ended, [[0xC3, 0xA9]], [.shellOutput (Uuid.small 7) "é"]⟩]
    (by decide +kernel)
  refine ⟨config, _, reached, seen ▸ List.mem_singleton.mpr rfl, rfl, ?_⟩
  exact (shell_text_iff reached (seen ▸ List.mem_singleton.mpr rfl) rfl (by decide)).1.mpr (by decide)

theorem shell_text_cut : ¬ ∀ config r text, Reach ptyProgram Guard.any ptyStart config →
    .pty r ∈ config.tasks → r.reader = .ended → r.reads.flatten = utf8 text → r.text = text := by
  intro whole
  obtain ⟨config, reached, seen⟩ := Reach.of_observed ptyProgram Guard.any ptyStart
    (prints [[0xC3], [0xA9]]) (fun config => config.tasks)
    [.pty ⟨Uuid.small 7, 0, .tryRecv, .ended, [[0xC3], [0xA9]],
      [.shellOutput (Uuid.small 7) "\uFFFD", .shellOutput (Uuid.small 7) "\uFFFD"]⟩]
    (by decide +kernel)
  have same := whole config _ ['é'] reached (seen ▸ List.mem_singleton.mpr rfl) rfl (by decide)
  exact absurd same (by decide)

end OsfmEdm
