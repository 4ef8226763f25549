import OsfmEdm.Shell.Openings

/-!
The stream of a session yields the whole session as long as it is asked for before the session
speaks, and its reader keeps up.
-/

namespace OsfmEdm

open Broadcast Interleaving

variable {carries : String → Bool} {s s' : StreamServer} {before after new : List StreamTask}
  {task : StreamTask}

/-! ## Readers -/

/-- What a reader of the session needs when the hub processes an event of the session: it keeps up,
`Event::data` takes the text, and the session has not closed before. -/
def StreamTask.ready (carries : String → Bool) (s : StreamServer) (session : Uuid)
    (event : ShellEvent) : StreamTask → Prop
  | .stream _ own (.streaming next _) => own = session →
      (s.channel session).length - next < shellCapacity ∧
        carries (sseEvent event).data = true ∧
        ∀ earlier ∈ s.spoken session, earlier.closed = false
  | .stream _ own (.ended _) => own = session →
      ∀ earlier ∈ s.spoken session, earlier.closed = false
  | _ => True

/-- An answer that explains why a request for the session's stream is refused: a client has closed
the session, or somebody else has opened it. -/
def StreamTask.excuses (session : Uuid) (auth : AuthUser) : StreamTask → Prop
  | .shell (.closeShell _ own .closed) => own = session
  | .shell (.openShell owner _ (.opened own)) =>
      own = session ∧ auth.userId ≠ owner.userId ∧ auth.isAdmin = false
  | _ => False

def Excused (session : Uuid) (auth : AuthUser) (tasks : List StreamTask) : Prop :=
  ∃ answer ∈ tasks, answer.excuses session auth

/-- A request finds the session before its end and, where it subscribes, before the hub has
processed anything of it. -/
def AsksInTime (s : StreamServer) (session : Uuid) (auth : AuthUser) (others : List StreamTask) :
    StreamShell → Prop
  | .authorize =>
      (∀ event ∈ s.spoken session, event.closed = false) ∨ Excused session auth others
  | .subscribe => s.spoken session = [] ∨
      s.server.app.shellBroadcasts session = false ∧ Excused session auth others
  | _ => True

/-- The session's stream is asked for in time, and its readers are ready for every event. -/
def keepsUp (carries : String → Bool) (session : Uuid) :
    Guard StreamServer StreamTask StreamChoice := fun s others task _ =>
  match task with
  | .stream auth own phase => own = session → AsksInTime s session auth others phase
  | .connection _ _ (.relay event :: _) =>
      event.sessionId = session → ∀ reader ∈ others, reader.ready carries s session event
  | _ => True

instance (session : Uuid) (auth : AuthUser) (answer : StreamTask) :
    Decidable (answer.excuses session auth) := by
  unfold StreamTask.excuses
  split <;> infer_instance

instance (session : Uuid) (auth : AuthUser) (tasks : List StreamTask) :
    Decidable (Excused session auth tasks) :=
  inferInstanceAs (Decidable (∃ answer ∈ tasks, answer.excuses session auth))

instance (session : Uuid) (auth : AuthUser) (others : List StreamTask) (phase : StreamShell) :
    Decidable (AsksInTime s session auth others phase) := by
  unfold AsksInTime
  split <;> infer_instance

instance (s : StreamServer) (session : Uuid) (event : ShellEvent) (reader : StreamTask) :
    Decidable (reader.ready carries s session event) := by
  unfold StreamTask.ready
  split <;> infer_instance

instance (session : Uuid) : ∀ s others task choice,
    Decidable (keepsUp carries session s others task choice) := by
  intro s others task choice
  unfold keepsUp
  split <;> infer_instance

/-- Events of a session of which only the last may close it. -/
def ClosesLast (spoken : List ShellEvent) : Prop :=
  ∀ event ∈ spoken.dropLast, event.closed = false

structure Reading (carries : String → Bool) (spoken sent : List ShellEvent) (active : Bool)
    (next : Nat) (yielded : List SseEvent) : Prop where
  within : next ≤ sent.length
  kept : sent.length - next ≤ shellCapacity
  all : yielded ++ (sent.drop next).map sseEvent = spoken.map sseEvent
  carried : ∀ event ∈ sent.drop next, carries (sseEvent event).data = true
  last : ClosesLast spoken
  closes : active = true ∨ ∃ event ∈ spoken, event.closed = true

structure Finished (spoken : List ShellEvent) (yielded : List SseEvent) : Prop where
  all : yielded = spoken.map sseEvent
  last : ClosesLast spoken
  closes : ∃ event ∈ spoken, event.closed = true

def Heard (carries : String → Bool) (s : StreamServer) (session : Uuid) : StreamShell → Prop
  | .streaming next yielded =>
      Reading carries (s.spoken session) (s.channel session) (s.server.app.shellBroadcasts session)
        next yielded
  | .ended yielded => Finished (s.spoken session) yielded
  | .panicked _ => False
  | _ => True

variable {spoken sent : List ShellEvent} {active : Bool} {next : Nat} {yielded : List SseEvent}
  {auth : AuthUser} {session : Uuid}

theorem Reading.value {event : ShellEvent}
    (reading : Reading carries spoken sent active next yielded) (found : sent[next]? = some event) :
    carries (sseEvent event).data = true ∧
      Reading carries spoken sent active (next + 1) (yielded ++ [sseEvent event]) := by
  obtain ⟨bound, same⟩ := List.getElem?_eq_some_iff.mp found
  have rest : sent.drop next = event :: sent.drop (next + 1) := by
    rw [List.drop_eq_getElem_cons bound, same]
  refine ⟨reading.carried event (by simp [rest]), ⟨bound, ?_, ?_, ?_, reading.last, reading.closes⟩⟩
  · have kept := reading.kept
    omega
  · simpa [rest] using reading.all
  · intro later member
    exact reading.carried later (by simp [rest, member])

theorem Reading.finished (reading : Reading carries spoken sent false next yielded)
    (nothing : sent.length ≤ next) : Finished spoken yielded where
  all := by simpa [List.drop_eq_nil_of_le nothing] using reading.all
  last := reading.last
  closes := reading.closes.resolve_left (by simp)

theorem Reading.relayed {event : ShellEvent}
    (reading : Reading carries spoken sent active next yielded) (there : active = true)
    (room : sent.length - next < shellCapacity)
    (carried : carries (sseEvent event).data = true)
    (before : ∀ earlier ∈ spoken, earlier.closed = false) :
    Reading carries (spoken ++ [event]) (sent ++ [event]) active next yielded where
  within := by
    have within := reading.within
    simp
    omega
  kept := by
    simp
    omega
  all := by
    rw [List.drop_append_of_le_length reading.within]
    simp [← reading.all]
  carried later member := by
    rw [List.drop_append_of_le_length reading.within] at member
    rcases List.mem_append.mp member with old | new
    · exact reading.carried later old
    · rw [List.mem_singleton.mp new]
      exact carried
  last earlier member := by
    rw [List.dropLast_concat] at member
    exact before earlier member
  closes := .inl there

theorem heard_reads {phase later : StreamShell}
    (moved : s.streamShell carries auth session phase = some (s, [.stream auth session later]))
    {others : List StreamTask} (inTime : AsksInTime s session auth others phase)
    (heard : Heard carries s session phase) : Heard carries s session later := by
  unfold StreamServer.streamShell at moved
  cases phase with
  | authorize =>
      dsimp only at moved
      split at moved <;> cases moved <;> trivial
  | subscribe =>
      dsimp only at moved
      split at moved
      · rename_i there
        cases moved
        have silent : s.spoken session = [] := by
          refine inTime.resolve_right ?_
          rintro ⟨absent, _⟩
          rw [there] at absent
          cases absent
        refine ⟨Nat.le_refl _, by simp, by simp [silent], by simp, ?_, .inl there⟩
        simp [silent, ClosesLast]
      · cases moved
        trivial
  | streaming next yielded =>
      dsimp only at moved
      have reading : Reading carries _ _ _ next yielded := heard
      rcases recv_of_kept (s.server.app.shellBroadcasts session) reading.kept with
        ⟨event, found, read⟩ | ⟨nothing, read⟩
      · obtain ⟨carried, further⟩ := reading.value found
        rw [read] at moved
        simp only [carried, if_true] at moved
        cases moved
        exact further
      · rw [read] at moved
        cases there : s.server.app.shellBroadcasts session with
        | true =>
            rw [there] at moved
            cases moved
        | false =>
            rw [there] at moved reading
            cases moved
            exact reading.finished nothing
  | ended | panicked | refused => cases moved

theorem Excused.later {tasks later : List StreamTask} (excused : Excused session auth tasks)
    (stays : ∀ other ∈ tasks, other.lasting = true → other ∈ later) :
    Excused session auth later := by
  obtain ⟨answer, member, excuses⟩ := excused
  refine ⟨answer, stays answer member ?_, excuses⟩
  unfold StreamTask.excuses at excuses
  split at excuses
  · rfl
  · rfl
  · cases excuses

theorem AsksInTime.among {others tasks : List StreamTask} {phase : StreamShell}
    (inTime : AsksInTime s session auth others phase) (among : ∀ other ∈ others, other ∈ tasks) :
    AsksInTime s session auth tasks phase := by
  have excused : Excused session auth others → Excused session auth tasks := by
    rintro ⟨answer, member, excuses⟩
    exact ⟨answer, among answer member, excuses⟩
  cases phase with
  | authorize => exact inTime.imp_right excused
  | subscribe => exact inTime.imp_right fun late => ⟨late.1, excused late.2⟩
  | streaming | ended | panicked | refused => trivial

theorem refused_reads {tasks : List StreamTask} {phase : StreamShell} {error : ApiError}
    (holding : Opened s tasks) (member : .stream auth session phase ∈ tasks)
    (moved : s.streamShell carries auth session phase =
      some (s, [.stream auth session (.refused error)]))
    (inTime : AsksInTime s session auth tasks phase) : Excused session auth tasks := by
  obtain ⟨owner, device, there⟩ := holding.asked auth session phase member
  unfold StreamServer.streamShell at moved
  cases phase with
  | authorize =>
      dsimp only at moved
      rcases inTime with before | excused
      · rcases holding.owned owner device session there with bound | ⟨closer, hungUp⟩ | closed
        · refine ⟨_, there, rfl, ?_⟩
          simp only [authorizeSession, bound] at moved
          split at moved
          · rename_i other
            split at other
            · rename_i stranger
              exact ⟨fun same => stranger.1 same.symm, by simpa using stranger.2⟩
            · cases other
          · cases moved
        · exact ⟨_, hungUp, rfl⟩
        · obtain ⟨event, spoken, closed⟩ := closed
          rw [before event spoken] at closed
          cases closed
      · exact excused
  | subscribe =>
      dsimp only at moved
      split at moved
      · cases moved
      · rename_i absent
        rcases inTime with silent | ⟨_, excused⟩
        · rcases holding.channel session (total_pos there (openedShell_holds owner device session))
            with present | ⟨event, spoken, _⟩
          · exact absurd present absent
          · rw [silent] at spoken
            cases spoken
        · exact excused
  | streaming next yielded =>
      dsimp only at moved
      split at moved
      · split at moved <;> cases moved
      all_goals cases moved
  | ended | panicked | refused => cases moved

theorem Heard.keep {phase : StreamShell} (heard : Heard carries s session phase)
    (spoken : s'.spoken session = s.spoken session)
    (channel : s'.channel session = s.channel session)
    (active : s.server.app.shellBroadcasts session = true →
      s'.server.app.shellBroadcasts session = true ∨ s'.hasClosed session) :
    Heard carries s' session phase := by
  cases phase with
  | streaming next yielded =>
      have reading : Reading carries _ _ _ next yielded := heard
      refine ⟨?_, ?_, ?_, ?_, ?_, ?_⟩
      · rw [channel]
        exact reading.within
      · rw [channel]
        exact reading.kept
      · rw [channel, spoken]
        exact reading.all
      · rw [channel]
        exact reading.carried
      · rw [spoken]
        exact reading.last
      · rcases reading.closes with there | closed
        · exact active there
        · right
          rw [spoken]
          exact closed
  | ended yielded =>
      have finished : Finished _ yielded := heard
      refine ⟨?_, ?_, ?_⟩ <;> rw [spoken]
      · exact finished.all
      · exact finished.last
      · exact finished.closes
  | panicked => exact heard
  | authorize | subscribe | refused => trivial

theorem Action.relay_or (action : Action) :
    (∃ event, action = .relay event) ∨ ∀ event, action ≠ .relay event := by
  cases action with
  | relay event => exact .inl ⟨event, rfl⟩
  | _ => exact .inr (by simp)

theorem StreamServer.act_kept {action : Action} (device : Uuid) (fails : Bool)
    (other : ∀ event, action ≠ .relay event) :
    (s.act device action fails).spoken = s.spoken ∧
      (s.act device action fails).server.app.relayed = s.server.app.relayed := by
  constructor
  · cases action with
    | relay event => exact absurd rfl (other event)
    | _ => rfl
  · simp only [act, ShellServer.apply]
    generalize performed : action.perform device s.server.app fails = after
    cases performed ▸ action.left_perform device s.server.app fails with
    | relayed => exact absurd rfl (other _)
    | _ => rfl

@[simp] theorem StreamServer.spoken_relay (event : ShellEvent) (device : Uuid) (fails : Bool) :
    (s.act device (.relay event) fails).spoken session =
      s.spoken session ++ if event.sessionId = session then [event] else [] := by
  by_cases same : session = event.sessionId
  · subst same
    simp [act, speak]
  · simp [act, speak, same, Ne.symm same]

@[simp] theorem StreamServer.channel_relay (event : ShellEvent) (device : Uuid) (fails : Bool) :
    (s.act device (.relay event) fails).channel session =
      s.channel session ++ if s.server.app.shellBroadcasts session ∧ event.sessionId = session then
        [event] else [] := by
  have state : (s.act device (.relay event) fails).server.app =
      if s.server.app.shellBroadcasts event.sessionId then
        { s.server.app with relayed := s.server.app.relayed ++ [event] }
      else s.server.app := by
    cases fails <;> rfl
  unfold channel
  rw [state]
  by_cases same : event.sessionId = session
  · subst same
    split <;> simp_all
  · split <;> simp [same]

theorem Heard.relayed {phase : StreamShell} {event : ShellEvent} (device : Uuid) (fails : Bool)
    (heard : Heard carries s session phase) (ready : event.sessionId = session →
      (StreamTask.stream auth session phase).ready carries s session event) :
    Heard carries (s.act device (.relay event) fails) session phase := by
  have untouched : (Action.relay event).touchesShells = false := rfl
  have broadcasts : (s.act device (.relay event) fails).server.app.shellBroadcasts =
      s.server.app.shellBroadcasts := (Action.perform_shells untouched device s.server.app fails).1
  by_cases own : event.sessionId = session
  · cases phase with
    | streaming next yielded =>
        have reading : Reading carries _ _ _ next yielded := heard
        obtain ⟨room, carried, before⟩ := ready own rfl
        have there : s.server.app.shellBroadcasts session = true := by
          refine reading.closes.resolve_right ?_
          rintro ⟨event, member, closed⟩
          rw [before event member] at closed
          cases closed
        have further := reading.relayed there room carried before
        simp only [Heard, StreamServer.spoken_relay, StreamServer.channel_relay, broadcasts, own,
          there]
        simpa [there] using further
    | ended yielded =>
        have finished : Finished _ yielded := heard
        have before := ready own rfl
        obtain ⟨event, member, closed⟩ := finished.closes
        rw [before event member] at closed
        cases closed
    | panicked => exact heard
    | authorize | subscribe | refused => trivial
  · refine heard.keep (by simp [own]) (by simp [own]) ?_
    intro there
    exact .inl (by rw [broadcasts, there])

theorem Heard.acted {phase : StreamShell} {device : Uuid} {action : Action} (auth : AuthUser)
    (fails : Bool) (heard : Heard carries s session phase)
    (ready : ∀ event, action = .relay event → event.sessionId = session →
      (StreamTask.stream auth session phase).ready carries s session event)
    (active : s.server.app.shellBroadcasts session = true →
      (s.act device action fails).server.app.shellBroadcasts session = true ∨
        (s.act device action fails).hasClosed session) :
    Heard carries (s.act device action fails) session phase := by
  rcases action.relay_or with ⟨event, rfl⟩ | other
  · exact heard.relayed device fails (ready event rfl)
  · obtain ⟨spoken, relayed⟩ := s.act_kept device fails other
    exact heard.keep (by rw [spoken]) (by simp only [StreamServer.channel, relayed]) active

theorem heard_stable {phase : StreamShell} {choice : StreamChoice}
    (holding : Opened s (before ++ task :: after)) (turn : StreamTurn carries s task s' new)
    (meets : keepsUp carries session s (before ++ after) task choice)
    (member : .stream auth session phase ∈ before ++ after)
    (heard : Heard carries s session phase) : Heard carries s' session phase := by
  have keeps := turn.keeps fun device messages actions own =>
    holding.leaving device messages actions (by simp [own])
  have active (there : s.server.app.shellBroadcasts session = true) :
      s'.server.app.shellBroadcasts session = true ∨ s'.hasClosed session := by
    rcases keeps.channel session there with kept | closed | ⟨own, gone⟩
    · exact .inl kept
    · exact .inr closed
    · -- the session has been opened, and its answer stays
      obtain ⟨owner, device, answered⟩ :=
        holding.asked auth session phase (mem_of_others task member)
      have positive := openedShell_holds owner device session
      by_cases same : openedShell owner device session = task
      · have more := total_pos (turn.lasting (same ▸ rfl)) (same ▸ positive)
        omega
      · have more := total_pos (mem_others answered same) positive
        have balance := holding.once session
        simp only [total_append, total_cons] at more balance
        omega
  cases turn with
  | acted fails =>
      refine heard.acted auth fails ?_ active
      rintro event rfl own
      exact meets own _ member
  | quiet quiet =>
      refine heard.keep rfl ?_ active
      rename_i effect _ _ _
      cases effect with
      | none | enqueue | register | disconnect => rfl
      | _ => cases quiet
  | _ => exact heard.keep rfl rfl active

structure Told (carries : String → Bool) (session : Uuid)
    (config : Config StreamServer StreamTask) : Prop where
  heard : ∀ auth phase, .stream auth session phase ∈ config.tasks →
    Heard carries config.shared session phase
  refused : ∀ auth error, .stream auth session (.refused error) ∈ config.tasks →
    Excused session auth config.tasks

theorem told_reached {db : Database} {config : Config StreamServer StreamTask}
    (reached : Reach (streamProgram carries) (keepsUp carries session) (StreamServer.start db)
      config) : Told carries session config := by
  refine reached.carry (Told carries session) ⟨?_, ?_⟩ ?_ ?_
  · intro auth phase member
    cases member
  · intro auth error member
    cases member
  · intro shared tasks task _ told request
    have old {auth : AuthUser} {phase : StreamShell}
        (member : .stream auth session phase ∈ tasks ++ [task]) :
        .stream auth session phase ∈ tasks := by
      rcases List.mem_append.mp member with there | new
      · exact there
      · rw [← List.mem_singleton.mp new] at request
        cases request
    refine ⟨fun auth phase member => told.heard auth phase (old member), ?_⟩
    intro auth error member
    refine (told.refused auth error (old member)).later ?_
    exact fun other there _ => List.mem_append_left _ there
  · intro shared shared' before after new task choice here told meets moved
    have holding := opened_reached here
    have turn := StreamServer.turn_cases moved
    have stays (other : StreamTask) (member : other ∈ before ++ task :: after)
        (lasting : other.lasting = true) : other ∈ before ++ new ++ after :=
      turn.lasting_stays lasting member
    have old {auth : AuthUser} {error : ApiError}
        (member : .stream auth session (.refused error) ∈ before ++ after) :
        Excused session auth (before ++ new ++ after) :=
      (told.refused auth error (mem_of_others task member)).later stays
    refine ⟨?_, ?_⟩
    · intro auth phase member
      rcases mem_stepped member with fresh | others
      · rcases turn.stream_cases fresh with rfl | ⟨earlier, rfl, rfl, read⟩
        · trivial
        · exact heard_reads read (meets rfl) (told.heard auth earlier (by simp))
      · have before := told.heard auth phase (mem_of_others task others)
        exact heard_stable holding turn meets others before
    · intro auth error member
      rcases mem_stepped member with fresh | others
      · rcases turn.stream_cases fresh with same | ⟨earlier, rfl, rfl, read⟩
        · cases same
        · have inTime := (meets rfl).among fun _ =>
            mem_of_others (StreamTask.stream auth session earlier)
          exact (refused_reads holding (by simp) read inTime).later stays
      · exact old others

/-! ## The stream -/

theorem stream_drains (auth : AuthUser) (reading : Reading carries (s.spoken session)
      (s.channel session) (s.server.app.shellBroadcasts session) next yielded) :
    ((streamProgram carries).alone s (.stream auth session (.streaming next yielded))
      (List.replicate ((s.channel session).length - next) (.moves .proceeds))).map Prod.snd =
        some (.stream auth session (.streaming (s.channel session).length
          ((s.spoken session).map sseEvent))) := by
  generalize left : (s.channel session).length - next = steps
  induction steps generalizing next yielded with
  | zero =>
      have within := reading.within
      have caught : next = (s.channel session).length := by omega
      have all := reading.all
      simp only [caught, List.drop_length, List.map_nil, List.append_nil] at all
      rw [caught, all]
      rfl
  | succ steps ih =>
      rcases recv_of_kept (s.server.app.shellBroadcasts session) reading.kept with
        ⟨event, found, read⟩ | ⟨nothing, _⟩
      · obtain ⟨carried, further⟩ := reading.value found
        have moved : (streamProgram carries).step s (.stream auth session (.streaming next yielded))
            (.moves .proceeds) = some (s, [.stream auth session
              (.streaming (next + 1) (yielded ++ [sseEvent event]))]) := by
          change s.streamShell carries auth session (.streaming next yielded) = _
          unfold StreamServer.streamShell
          dsimp only
          rw [read]
          simp only [carried, if_true]
        have later := ih further (by omega)
        simp only [List.replicate_succ, Program.alone, moved, Option.map_map]
        exact later
      · omega

/-- The readers of a session get all of it: the stream goes on until it has yielded what the hub has
processed of the session, in its order, and ends with the closed event. Only a stranger is refused,
or who asks when a client has closed the session. -/
structure StreamsWhole (carries : String → Bool) (session : Uuid)
    (config : Config StreamServer StreamTask) : Prop where
  answered : ∀ auth error, .stream auth session (.refused error) ∈ config.tasks →
    Excused session auth config.tasks
  unbroken : ∀ auth yielded, .stream auth session (.panicked yielded) ∉ config.tasks
  reading : ∀ auth next yielded, .stream auth session (.streaming next yielded) ∈ config.tasks →
    yielded ++ (remaining shellCapacity (config.shared.channel session) next).map sseEvent =
      (config.shared.spoken session).map sseEvent
  drains : ∀ auth next yielded, .stream auth session (.streaming next yielded) ∈ config.tasks →
    ∃ steps, ((streamProgram carries).alone config.shared
      (.stream auth session (.streaming next yielded))
        (List.replicate steps (.moves .proceeds))).map Prod.snd =
          some (.stream auth session (.streaming (config.shared.channel session).length
            ((config.shared.spoken session).map sseEvent)))
  ended : ∀ auth yielded, .stream auth session (.ended yielded) ∈ config.tasks →
    ∃ outputs closed, config.shared.spoken session = outputs ++ [closed] ∧
      (∀ event ∈ outputs, event.closed = false) ∧ closed.closed = true ∧
      yielded = (outputs ++ [closed]).map sseEvent

theorem Finished.split (finished : Finished spoken yielded) : ∃ outputs closed,
    spoken = outputs ++ [closed] ∧ (∀ event ∈ outputs, event.closed = false) ∧
      closed.closed = true ∧ yielded = (outputs ++ [closed]).map sseEvent := by
  obtain ⟨event, member, closed⟩ := finished.closes
  have some : spoken ≠ [] := List.ne_nil_of_mem member
  refine ⟨spoken.dropLast, spoken.getLast some, (List.dropLast_concat_getLast some).symm,
    finished.last, ?_, ?_⟩
  · rw [← List.dropLast_concat_getLast some] at member
    rcases List.mem_append.mp member with earlier | last
    · rw [finished.last event earlier] at closed
      cases closed
    · rw [← List.mem_singleton.mp last]
      exact closed
  · rw [List.dropLast_concat_getLast some]
    exact finished.all

theorem shell_stream_whole (carries : String → Bool) {db : Database} {session : Uuid}
    {config : Config StreamServer StreamTask}
    (reached : Reach (streamProgram carries) (keepsUp carries session) (StreamServer.start db)
      config) : StreamsWhole carries session config where
  answered := (told_reached reached).refused
  unbroken auth yielded member := (told_reached reached).heard auth (.panicked yielded) member
  reading auth next yielded member := by
    have reading : Reading carries _ _ _ next yielded :=
      (told_reached reached).heard auth (.streaming next yielded) member
    rw [remaining_eq_drop reading.kept]
    exact reading.all
  drains auth next yielded member :=
    ⟨_, stream_drains auth ((told_reached reached).heard auth (.streaming next yielded) member)⟩
  ended auth yielded member := by
    have finished : Finished _ yielded := (told_reached reached).heard auth (.ended yielded) member
    exact finished.split

/-! ## Order -/

theorem StreamTurn.grows (turn : StreamTurn carries s task s' new) (session : Uuid) :
    (s'.spoken session = s.spoken session ∧ s'.channel session = s.channel session) ∨
      ∃ event, s'.spoken session = s.spoken session ++ [event] ∧
        (s'.channel session = s.channel session ∨
          s'.channel session = s.channel session ++ [event]) := by
  cases turn with
  | acted fails =>
      rename_i device messages action rest
      rcases action.relay_or with ⟨event, rfl⟩ | other
      · by_cases own : event.sessionId = session
        · right
          refine ⟨event, by simp [own], ?_⟩
          simp only [StreamServer.channel_relay, own, and_true]
          split
          · exact .inr rfl
          · exact .inl (List.append_nil _)
        · exact .inl (by simp [own])
      · obtain ⟨spoken, relayed⟩ := s.act_kept device fails other
        exact .inl ⟨by rw [spoken], by simp only [StreamServer.channel, relayed]⟩
  | quiet quiet =>
      left
      rename_i effect _ _ _
      cases effect with
      | none | enqueue | register | disconnect => exact ⟨rfl, rfl⟩
      | _ => cases quiet
  | _ => exact .inl ⟨rfl, rfl⟩

/-- What a stream has yielded, and what its reader can still read, as a part of the session. -/
def StreamOrder (s : StreamServer) (session : Uuid) : StreamShell → Prop
  | .streaming next yielded =>
      (yielded ++ (remaining shellCapacity (s.channel session) next).map sseEvent).Sublist
        ((s.spoken session).map sseEvent)
  | .ended yielded | .panicked yielded => yielded.Sublist ((s.spoken session).map sseEvent)
  | _ => True

theorem StreamOrder.grows {phase : StreamShell} (ordered : StreamOrder s session phase)
    (turn : StreamTurn carries s task s' new) : StreamOrder s' session phase := by
  rcases turn.grows session with ⟨spoken, channel⟩ | ⟨event, spoken, channel⟩
  · unfold StreamOrder at ordered ⊢
    rw [spoken, channel]
    exact ordered
  · have more : ((s.spoken session).map sseEvent).Sublist ((s'.spoken session).map sseEvent) := by
      rw [spoken, List.map_append]
      exact List.sublist_append_left _ _
    cases phase with
    | streaming next yielded =>
        have old : (yielded ++ _).Sublist _ := ordered
        rcases channel with same | longer
        · simp only [StreamOrder, same]
          exact old.trans more
        · simp only [StreamOrder, longer, spoken, List.map_append]
          refine List.Sublist.trans ?_ (old.append (List.Sublist.refl _))
          rw [List.append_assoc, ← List.map_append]
          exact (List.Sublist.refl _).append ((remaining_send _ event).map sseEvent)
    | ended | panicked => exact List.Sublist.trans ordered more
    | authorize | subscribe | refused => trivial

theorem StreamOrder.reads {phase later : StreamShell}
    (moved : s.streamShell carries auth session phase = some (s, [.stream auth session later]))
    (ordered : StreamOrder s session phase) : StreamOrder s session later := by
  unfold StreamServer.streamShell at moved
  cases phase with
  | authorize =>
      dsimp only at moved
      split at moved <;> cases moved <;> trivial
  | subscribe =>
      dsimp only at moved
      split at moved
      · cases moved
        simp [StreamOrder, remaining]
      · cases moved
        trivial
  | streaming next yielded =>
      have old : (yielded ++ _).Sublist _ := ordered
      rw [recv_remaining shellCapacity (s.channel session) (s.server.app.shellBroadcasts session)
        next] at old
      have yields : yielded.Sublist ((s.spoken session).map sseEvent) :=
        (List.sublist_append_left _ _).trans old
      dsimp only at moved
      split at moved
      · rename_i event position read
        rw [read] at old
        split at moved
        · cases moved
          simpa [StreamOrder, Received.values] using old
        · cases moved
          exact yields
      · rename_i missed position read
        rw [read] at old
        cases moved
        simpa [StreamOrder, Received.values] using old
      · cases moved
      · cases moved
        exact yields
  | ended | panicked | refused => cases moved

/-- Whatever is lost, a stream never yields an event twice or out of its order. -/
theorem stream_in_order {guard : Guard StreamServer StreamTask StreamChoice} {db : Database}
    {config : Config StreamServer StreamTask} {phase : StreamShell}
    (reached : Reach (streamProgram carries) guard (StreamServer.start db) config)
    (member : .stream auth session phase ∈ config.tasks) :
    StreamOrder config.shared session phase := by
  have all : ∀ auth session phase, .stream auth session phase ∈ config.tasks →
      StreamOrder config.shared session phase := by
    refine reached.invariant (fun config => ∀ auth session phase,
      .stream auth session phase ∈ config.tasks → StreamOrder config.shared session phase) ?_ ?_ ?_
    · intro auth session phase member
      cases member
    · intro shared tasks task ordered request auth session phase member
      rcases List.mem_append.mp member with old | new
      · exact ordered auth session phase old
      · rw [← List.mem_singleton.mp new] at request
        cases request
    · intro shared shared' before after new task choice ordered _ moved auth session phase member
      have turn := StreamServer.turn_cases moved
      rcases mem_stepped member with fresh | others
      · rcases turn.stream_cases fresh with rfl | ⟨earlier, rfl, rfl, read⟩
        · trivial
        · exact (ordered auth session earlier (by simp)).reads read
      · exact (ordered auth session phase (mem_of_others task others)).grows turn
  exact all auth session phase member

/-! ## A session -/

/-- Session 7 of device 1 is opened. -/
def sessionOpened (messages : List AgentMessage) : List (Label StreamTask StreamChoice) :=
  [.arrive (.shell (.connects (Uuid.small 1) 0)), .run 0 (.moves .proceeds),
    .arrive (.connection (Uuid.small 1) messages []),
    .arrive (.shell (.openShell ⟨Uuid.small 0, "admin", "admin"⟩ (Uuid.small 1) .createBroadcast)),
    .run 1 (.moves (.generates (Uuid.small 7))), .run 1 (.moves .proceeds),
    .run 1 (.moves .proceeds)]

/-- The stream is subscribed to, and the agent sends a text and closes the session. -/
def subscribedFirst : List (Label StreamTask StreamChoice) :=
  sessionOpened [.shellOutput (Uuid.small 7) "$ ", .shellClosed (Uuid.small 7) (some 0)] ++
    [.run 1 (.asks ⟨Uuid.small 0, "admin", "admin"⟩), .run 2 (.moves .proceeds),
      .run 2 (.moves .proceeds), .run 0 (.moves .proceeds), .run 0 (.moves .proceeds),
      .run 2 (.moves .proceeds), .run 0 (.moves .proceeds), .run 0 (.moves .proceeds),
      .run 0 (.moves .proceeds), .run 2 (.moves .proceeds), .run 2 (.moves .proceeds)]

/-- The agent sends its first text before the stream is subscribed to. -/
def spokenFirst : List (Label StreamTask StreamChoice) :=
  sessionOpened [.shellOutput (Uuid.small 7) "$ "] ++
    [.run 0 (.moves .proceeds), .run 0 (.moves .proceeds),
      .run 1 (.asks ⟨Uuid.small 0, "admin", "admin"⟩), .run 2 (.moves .proceeds),
      .run 2 (.moves .proceeds)]

def StreamTask.phases (session : Uuid) : StreamTask → List StreamShell
  | .stream _ own phase => if own = session then [phase] else []
  | _ => []

theorem mem_phases {tasks : List StreamTask} {phase : StreamShell}
    (found : phase ∈ tasks.flatMap (StreamTask.phases session)) :
    ∃ auth, .stream auth session phase ∈ tasks := by
  obtain ⟨task, member, own⟩ := List.mem_flatMap.mp found
  unfold StreamTask.phases at own
  split at own
  · rename_i auth _ _
    split at own
    · rename_i same
      subst same
      rw [List.mem_singleton.mp own]
      exact ⟨auth, member⟩
    · cases own
  · cases own

theorem shell_stream_whole_ended : ∃ config,
    Reach (streamProgram fun _ => true) (keepsUp (fun _ => true) (Uuid.small 7))
        (StreamServer.start (.ofDevices .empty)) config ∧
      config.tasks.flatMap (StreamTask.phases (Uuid.small 7)) =
        [.ended [⟨"output", "$ "⟩, ⟨"closed", "\x7b\"exit_code\":0\x7d"⟩]] ∧
      StreamsWhole (fun _ => true) (Uuid.small 7) config := by
  obtain ⟨config, reached, seen⟩ := Reach.of_observed (streamProgram fun _ => true)
    (keepsUp (fun _ => true) (Uuid.small 7)) (StreamServer.start (.ofDevices .empty))
    subscribedFirst (fun config => config.tasks.flatMap (StreamTask.phases (Uuid.small 7)))
    [.ended [⟨"output", "$ "⟩, ⟨"closed", "\x7b\"exit_code\":0\x7d"⟩]] (by decide +kernel)
  exact ⟨config, reached, seen, shell_stream_whole _ reached⟩

theorem shell_stream_misses : ¬ ∀ (carries : String → Bool) (db : Database) (session : Uuid)
    (config : Config StreamServer StreamTask),
    Reach (streamProgram carries) Guard.any (StreamServer.start db) config →
      StreamsWhole carries session config := by
  intro whole
  obtain ⟨config, reached, seen⟩ := Reach.of_observed (streamProgram fun _ => true) Guard.any
    (StreamServer.start (.ofDevices .empty)) spokenFirst (fun config =>
      (config.tasks.flatMap (StreamTask.phases (Uuid.small 7)),
        config.shared.channel (Uuid.small 7), config.shared.spoken (Uuid.small 7)))
    ([.streaming 1 []], [⟨Uuid.small 7, "$ ", false, none⟩], [⟨Uuid.small 7, "$ ", false, none⟩])
    (by decide +kernel)
  obtain ⟨phases, rest⟩ := Prod.mk.inj seen
  obtain ⟨channel, spoken⟩ := Prod.mk.inj rest
  obtain ⟨auth, reader⟩ := mem_phases (phases ▸ List.mem_singleton_self _)
  have read := (whole _ _ _ _ reached).reading auth 1 [] reader
  simp [remaining, channel, spoken] at read

end OsfmEdm
