import OsfmEdm.Shell.Sessions
import OsfmEdm.Shell.Streams

/-!
What the steps of `Shell.Streams` do to a session: from `open_shell` on it has its channel and its
owner, until the hub has processed its `ShellClosed` or a client has closed it.
-/

namespace OsfmEdm

open Broadcast Interleaving

/-! ## Steps -/

/-- The session an `open_shell` has generated. -/
def OpenShell.session : OpenShell → Option Uuid
  | .send session | .bindSession session | .cleanUp session | .opened session => some session
  | .createBroadcast | .refused _ => none

def StreamTask.holds (session : Uuid) : StreamTask → Nat
  | .shell (.openShell _ _ phase) => if phase.session = some session then 1 else 0
  | _ => 0

/-- The answers that stay. -/
def StreamTask.lasting : StreamTask → Bool
  | .shell (.openShell _ _ (.opened _)) | .shell (.closeShell _ _ .closed) => true
  | _ => false

def StreamServer.apply (s : StreamServer) (effect : ShellEffect) : StreamServer :=
  { s with server := s.server.apply effect }

/-- What one step can do. -/
inductive StreamTurn (carries : String → Bool) (s : StreamServer) :
    StreamTask → StreamServer → List StreamTask → Prop where
  | created {auth device session} (fresh : session ∉ s.server.named) :
      StreamTurn carries s (.shell (.openShell auth device .createBroadcast))
        (s.apply (.createBroadcast session)) [.shell (.openShell auth device (.send session))]
  | sent {auth device session} :
      StreamTurn carries s (.shell (.openShell auth device (.send session)))
        (s.apply (.enqueue device (.openShell session)))
        [.shell (.openShell auth device (.bindSession session))]
  | unsent {auth device session} :
      StreamTurn carries s (.shell (.openShell auth device (.send session))) s
        [.shell (.openShell auth device (.cleanUp session))]
  | cleaned {auth device session} :
      StreamTurn carries s (.shell (.openShell auth device (.cleanUp session)))
        (s.apply (.removeBroadcast session))
        [.shell (.openShell auth device (.refused (notConnected device)))]
  | bound {auth device session} :
      StreamTurn carries s (.shell (.openShell auth device (.bindSession session)))
        (s.apply (.insertSession session { ownerId := auth.userId, deviceId := device }))
        [.shell (.openShell auth device (.opened session))]
  | removed {auth session} :
      StreamTurn carries s (.shell (.closeShell auth session .remove))
        (s.apply (.removeSession session)) [.shell (.closeShell auth session .closed)]
  | quiet {task effect new} (quiet : effect.quiet = true) (runs : task.lasting = false)
      (before : ∀ session, task.holds session = 0)
      (after : ∀ next ∈ new, (∀ session, next.holds session = 0) ∧ ∃ own, next = .shell own) :
      StreamTurn carries s task (s.apply effect) new
  | asked {owner device session requester} :
      StreamTurn carries s (.shell (.openShell owner device (.opened session))) s
        [.shell (.openShell owner device (.opened session)), .stream requester session .authorize]
  | disconnected {device} : StreamTurn carries s (.connection device [] []) s []
  | heard {device message later} :
      StreamTurn carries s (.connection device (message :: later) [])
        (s.apply (.hear message.sessions)) [.connection device later (processAgentMessage message)]
  | acted {device messages action rest} (fails : Bool) :
      StreamTurn carries s (.connection device messages (action :: rest))
        (s.act device action fails)
        [.connection device messages (action.follow device s.server.app fails ++ rest)]
  | reads {auth session phase next}
      (moved : s.streamShell carries auth session phase = some (s, [.stream auth session next])) :
      StreamTurn carries s (.stream auth session phase) s [.stream auth session next]
  | left {auth session next yielded} :
      StreamTurn carries s (.stream auth session (.streaming next yielded)) s []

variable {carries : String → Bool} {s s' : StreamServer} {before after new : List StreamTask}
  {task : StreamTask}

theorem StreamServer.streamShell_stays {auth : AuthUser} {session : Uuid} {phase : StreamShell}
    (moved : s.streamShell carries auth session phase = some (s', new)) :
    ∃ next, s' = s ∧ new = [.stream auth session next] := by
  unfold streamShell at moved
  cases phase with
  | authorize | subscribe =>
      dsimp only at moved
      split at moved <;> cases moved <;> exact ⟨_, rfl, rfl⟩
  | streaming next yielded =>
      dsimp only at moved
      split at moved
      · split at moved <;> cases moved <;> exact ⟨_, rfl, rfl⟩
      · cases moved
        exact ⟨_, rfl, rfl⟩
      · cases moved
      · cases moved
        exact ⟨_, rfl, rfl⟩
  | ended | panicked | refused => cases moved

theorem StreamTurn.of_shell {own : ShellTask} {choice : ShellChoice} {effect : ShellEffect}
    {rest : List ShellTask} (outside : own.ofHub = false)
    (moved : s.server.turn choice own = some (effect, rest)) :
    StreamTurn carries s (.shell own) (s.apply effect) (rest.map .shell) := by
  cases own with
  | openShell auth device phase =>
      cases phase with
      | createBroadcast =>
          simp only [ShellServer.turn, ShellServer.openShell] at moved
          split at moved
          · cases moved
            exact .quiet rfl rfl (fun _ => rfl) (by simp [StreamTask.holds, OpenShell.session])
          · split at moved
            · cases moved
            · rename_i fresh
              cases moved
              exact .created fresh
          · cases moved
      | send session =>
          simp only [ShellServer.turn, ShellServer.openShell] at moved
          rcases ShellServer.send_cases moved with ⟨rfl, rfl⟩ | ⟨rfl, rfl⟩
          · exact .sent
          · exact .unsent
      | cleanUp session =>
          cases moved
          exact .cleaned
      | bindSession session =>
          cases moved
          exact .bound
      | opened | refused => cases moved
  | closeShell auth session phase =>
      cases phase with
      | authorize =>
          simp only [ShellServer.turn, ShellServer.closeShell] at moved
          split at moved <;> cases moved <;>
            exact .quiet rfl rfl (fun _ => rfl) (by simp [StreamTask.holds])
      | send device =>
          simp only [ShellServer.turn, ShellServer.closeShell] at moved
          rcases ShellServer.send_cases moved with ⟨rfl, rfl⟩ | ⟨rfl, rfl⟩ <;>
            exact .quiet rfl rfl (fun _ => rfl) (by simp [StreamTask.holds])
      | remove =>
          cases moved
          exact .removed
      | closed | refused => cases moved
  | sendInput auth session data phase =>
      cases phase with
      | authorize =>
          simp only [ShellServer.turn, ShellServer.sendInput] at moved
          split at moved <;> cases moved <;>
            exact .quiet rfl rfl (fun _ => rfl) (by simp [StreamTask.holds])
      | send device =>
          simp only [ShellServer.turn, ShellServer.sendInput] at moved
          rcases ShellServer.send_cases moved with ⟨rfl, rfl⟩ | ⟨rfl, rfl⟩ <;>
            exact .quiet rfl rfl (fun _ => rfl) (by simp [StreamTask.holds])
      | sent | refused => cases moved
  | hears | processing => cases outside
  | connects | disconnects =>
      cases moved
      exact .quiet rfl rfl (fun _ => rfl) (by simp)

theorem StreamServer.turn_cases {choice : StreamChoice}
    (moved : s.turn carries task choice = some (s', new)) : StreamTurn carries s task s' new := by
  unfold turn at moved
  split at moved
  · cases moved
    exact .asked
  · split at moved
    · cases moved
    · rename_i outside
      obtain ⟨⟨effect, rest⟩, taken, same⟩ := Option.map_eq_some_iff.mp moved
      cases same
      exact .of_shell (by simpa using outside) taken
  · rename_i device messages actions choice
    cases actions with
    | nil =>
        cases messages with
        | nil =>
            cases moved
            exact .disconnected
        | cons message later =>
            cases moved
            exact .heard
    | cons action rest =>
        cases choice with
        | proceeds =>
            cases moved
            exact .acted false
        | fails =>
            cases moved
            exact .acted true
        | generates => cases moved
  · obtain ⟨next, rfl, rfl⟩ := streamShell_stays moved
    exact .reads moved
  · cases moved
    exact .left
  · cases moved

theorem StreamTurn.lasting (turn : StreamTurn carries s task s' new)
    (lasting : task.lasting = true) : task ∈ new := by
  cases turn with
  | asked => exact List.mem_cons_self
  | quiet _ runs =>
      rw [runs] at lasting
      cases lasting
  | _ => cases lasting

theorem StreamTurn.lasting_stays {other : StreamTask} (turn : StreamTurn carries s task s' new)
    (lasting : other.lasting = true) (member : other ∈ before ++ task :: after) :
    other ∈ before ++ new ++ after := by
  by_cases own : other = task
  · have kept := turn.lasting (own ▸ lasting)
    simp [own, kept]
  · exact mem_other member own

theorem StreamTurn.stream_cases {auth : AuthUser} {session : Uuid} {phase : StreamShell}
    (turn : StreamTurn carries s task s' new) (member : .stream auth session phase ∈ new) :
    phase = .authorize ∨ ∃ earlier, task = .stream auth session earlier ∧ s' = s ∧
      s.streamShell carries auth session earlier = some (s, [.stream auth session phase]) := by
  cases turn with
  | asked =>
      left
      simp only [List.mem_cons, StreamTask.stream.injEq, List.not_mem_nil, or_false] at member
      rcases member with shell | ⟨_, _, same⟩
      · cases shell
      · exact same
  | reads moved =>
      cases List.mem_singleton.mp member
      exact .inr ⟨_, rfl, rfl, moved⟩
  | quiet _ _ _ shells =>
      obtain ⟨own, same⟩ := (shells _ member).2
      cases same
  | disconnected | left => cases member
  | _ => cases List.mem_singleton.mp member

/-! ## Sessions -/

/-- Whether the hub has processed a `ShellClosed` of the session. -/
def StreamServer.hasClosed (s : StreamServer) (session : Uuid) : Prop :=
  ∃ event ∈ s.spoken session, event.closed = true

def openedShell (owner : AuthUser) (device session : Uuid) : StreamTask :=
  .shell (.openShell owner device (.opened session))

theorem openedShell_holds (owner : AuthUser) (device session : Uuid) :
    0 < (openedShell owner device session).holds session := by
  simp [openedShell, StreamTask.holds, OpenShell.session]

/-- A client has closed the session. -/
def HungUp (session : Uuid) (tasks : List StreamTask) : Prop :=
  ∃ closer, .shell (.closeShell closer session .closed) ∈ tasks

/-- What a connection still has to do, where it is at a `ShellClosed`. -/
inductive Leaving (s : StreamServer) : List Action → Prop where
  | other {actions} (untouched : ∀ action ∈ actions, action.touchesShells = false) :
      Leaving s actions
  | relay {session event} (own : event.sessionId = session) (closed : event.closed = true) :
      Leaving s [.relay event, .removeBroadcast session, .removeSession session]
  | broadcast {session} (closed : s.hasClosed session) :
      Leaving s [.removeBroadcast session, .removeSession session]
  | session {session} (closed : s.hasClosed session) : Leaving s [.removeSession session]

/-- A session belongs to one `open_shell`. It has its channel, and once it is opened its owner,
until the hub has processed its `ShellClosed` or a client has closed it. -/
structure Opened (s : StreamServer) (tasks : List StreamTask) : Prop where
  fresh : ∀ session, session ∉ s.server.named → total (StreamTask.holds session) tasks = 0
  once : ∀ session, total (StreamTask.holds session) tasks ≤ 1
  channel : ∀ session, 0 < total (StreamTask.holds session) tasks →
    s.server.app.shellBroadcasts session = true ∨ s.hasClosed session
  owned : ∀ owner device session, openedShell owner device session ∈ tasks →
    s.server.app.shellSessions session = some { ownerId := owner.userId, deviceId := device } ∨
      HungUp session tasks ∨ s.hasClosed session
  leaving : ∀ device messages actions, .connection device messages actions ∈ tasks →
    Leaving s actions
  asked : ∀ requester session phase, .stream requester session phase ∈ tasks →
    ∃ owner device, openedShell owner device session ∈ tasks

theorem Leaving.later {actions : List Action} (leaving : Leaving s actions)
    (closed : ∀ session, s.hasClosed session → s'.hasClosed session) : Leaving s' actions := by
  cases leaving with
  | other untouched => exact .other untouched
  | relay own event => exact .relay own event
  | broadcast spoken => exact .broadcast (closed _ spoken)
  | session spoken => exact .session (closed _ spoken)

theorem StreamServer.hasClosed_act {session : Uuid} (device : Uuid) (action : Action) (fails : Bool)
    (closed : s.hasClosed session) : (s.act device action fails).hasClosed session := by
  cases action with
  | relay event =>
      obtain ⟨earlier, member, last⟩ := closed
      refine ⟨earlier, ?_, last⟩
      by_cases same : session = event.sessionId
      · subst same
        simp [act, speak, member]
      · simpa [act, speak, same] using member
  | _ => exact closed

/-- What keeps the sessions: no session gets a second holder, and a channel or an owner goes only
with its holder, with the session's end or with the client. -/
structure KeepsOpened (s s' : StreamServer) (task : StreamTask) (new : List StreamTask) : Prop where
  named : s.server.named ⊆ s'.server.named
  holds : ∀ session, total (StreamTask.holds session) new ≤ task.holds session ∨
    total (StreamTask.holds session) new ≤ 1 ∧ session ∉ s.server.named ∧
      session ∈ s'.server.named ∧ s'.server.app.shellBroadcasts session = true
  closed : ∀ session, s.hasClosed session → s'.hasClosed session
  channel : ∀ session, s.server.app.shellBroadcasts session = true →
    s'.server.app.shellBroadcasts session = true ∨ s'.hasClosed session ∨
      task.holds session = 1 ∧ total (StreamTask.holds session) new = 0
  owned : ∀ session, s'.server.app.shellSessions session = s.server.app.shellSessions session ∨
    s'.hasClosed session ∨ HungUp session new ∨ task.holds session = 1 ∧ task.lasting = false
  bound : ∀ owner device session, openedShell owner device session ∈ new →
    openedShell owner device session = task ∨ s'.server.app.shellSessions session =
      some { ownerId := owner.userId, deviceId := device }
  leaving : ∀ device messages actions, .connection device messages actions ∈ new →
    Leaving s' actions
  asked : ∀ requester session phase, .stream requester session phase ∈ new →
    (∃ earlier, task = .stream requester session earlier) ∨
      ∃ owner device, openedShell owner device session ∈ new

theorem Opened.step (holding : Opened s (before ++ task :: after))
    (turn : StreamTurn carries s task s' new) (keeps : KeepsOpened s s' task new) :
    Opened s' (before ++ new ++ after) where
  fresh session absent := by
    have none := holding.fresh session fun member => absent (keeps.named member)
    simp only [total_append, total_cons] at none ⊢
    rcases keeps.holds session with fewer | ⟨_, _, named, _⟩
    · omega
    · exact absurd named absent
  once session := by
    have one := holding.once session
    simp only [total_append, total_cons] at one ⊢
    rcases keeps.holds session with fewer | ⟨own, unnamed, _, _⟩
    · omega
    · have none := holding.fresh session unnamed
      simp only [total_append, total_cons] at none
      omega
  channel session held := by
    simp only [total_append] at held
    rcases keeps.holds session with fewer | ⟨_, _, _, there⟩
    · have one := holding.once session
      have old := holding.channel session
      simp only [total_append, total_cons] at one old
      rcases old (by omega) with there | closed
      · rcases keeps.channel session there with kept | closed | ⟨own, gone⟩
        · exact .inl kept
        · exact .inr closed
        · omega
      · exact .inr (keeps.closed session closed)
    · exact .inl there
  owned owner device session member := by
    by_cases own : openedShell owner device session ∈ new ∧ openedShell owner device session ≠ task
    · rcases keeps.bound owner device session own.1 with same | bound
      · exact absurd same own.2
      · exact .inl bound
    have old : openedShell owner device session ∈ before ++ task :: after := by
      rcases mem_stepped member with fresh | others
      · have same : openedShell owner device session = task := by
          by_contra different
          exact own ⟨fresh, different⟩
        simp [same]
      · exact mem_of_others task others
    rcases holding.owned owner device session old with bound | ⟨closer, hungUp⟩ | closed
    · rcases keeps.owned session with same | closed | ⟨closer, hungUp⟩ | ⟨one, runs⟩
      · exact .inl (same.trans bound)
      · exact .inr (.inr closed)
      · exact .inr (.inl ⟨closer, by simp [hungUp]⟩)
      · -- the session has another holder
        have different : openedShell owner device session ≠ task := by
          rintro rfl
          cases runs
        have more := total_pos (mem_others old different) (openedShell_holds owner device session)
        have balance := holding.once session
        simp only [total_append, total_cons] at more balance
        omega
    · exact .inr (.inl ⟨closer, turn.lasting_stays rfl hungUp⟩)
    · exact .inr (.inr (keeps.closed session closed))
  leaving device messages actions member := by
    rcases mem_stepped member with fresh | others
    · exact keeps.leaving device messages actions fresh
    · exact (holding.leaving device messages actions (mem_of_others task others)).later keeps.closed
  asked requester session phase member := by
    have stays (earlier : StreamShell)
        (old : .stream requester session earlier ∈ before ++ task :: after) :
        ∃ owner device, openedShell owner device session ∈ before ++ new ++ after := by
      obtain ⟨owner, device, there⟩ := holding.asked requester session earlier old
      exact ⟨owner, device, turn.lasting_stays rfl there⟩
    rcases mem_stepped member with fresh | others
    · rcases keeps.asked requester session phase fresh with ⟨earlier, same⟩ | ⟨owner, device, there⟩
      · exact stays earlier (by simp [same])
      · exact ⟨owner, device, by simp [there]⟩
    · exact stays phase (mem_of_others task others)

theorem KeepsOpened.same (broadcasts : s'.server.app.shellBroadcasts = s.server.app.shellBroadcasts)
    (sessions : s'.server.app.shellSessions = s.server.app.shellSessions)
    (named : s.server.named ⊆ s'.server.named)
    (closed : ∀ session, s.hasClosed session → s'.hasClosed session)
    (holds : ∀ session, total (StreamTask.holds session) new ≤ task.holds session)
    (kept : ∀ owner device session, openedShell owner device session ∈ new →
      openedShell owner device session = task)
    (leaving : ∀ device messages actions, .connection device messages actions ∈ new →
      Leaving s' actions)
    (asked : ∀ requester session phase, .stream requester session phase ∈ new →
      (∃ earlier, task = .stream requester session earlier) ∨
        ∃ owner device, openedShell owner device session ∈ new) : KeepsOpened s s' task new where
  named := named
  holds session := .inl (holds session)
  closed := closed
  channel session there := .inl (by rw [broadcasts, there])
  owned session := .inl (by rw [sessions])
  bound owner device session member := .inl (kept owner device session member)
  leaving := leaving
  asked := asked

theorem KeepsOpened.acted {device : Uuid} {messages : List AgentMessage} {action : Action}
    {rest : List Action} (fails : Bool) (leaving : Leaving s (action :: rest)) :
    KeepsOpened s (s.act device action fails) (.connection device messages (action :: rest))
      [.connection device messages (action.follow device s.server.app fails ++ rest)] := by
  have closed (session : Uuid) (spoken : s.hasClosed session) :
      (s.act device action fails).hasClosed session :=
    StreamServer.hasClosed_act device action fails spoken
  cases leaving with
  | other untouched =>
      have own := untouched action List.mem_cons_self
      obtain ⟨broadcasts, sessions⟩ := Action.perform_shells own device s.server.app fails
      refine .same broadcasts sessions (List.Subset.refl _) closed ?_ ?_ ?_ ?_
      · simp [StreamTask.holds]
      · simp [openedShell]
      · rintro _ _ actions member
        cases List.mem_singleton.mp member
        refine .other fun next present => ?_
        rcases List.mem_append.mp present with followed | old
        · exact Action.follow_shells device s.server.app fails action next followed
        · exact untouched next (List.mem_cons_of_mem _ old)
      · simp
  | relay own last =>
      rename_i session event
      have untouched : (Action.relay event).touchesShells = false := rfl
      obtain ⟨broadcasts, sessions⟩ := Action.perform_shells untouched device s.server.app fails
      refine .same broadcasts sessions (List.Subset.refl _) closed ?_ ?_ ?_ ?_
      · simp [StreamTask.holds]
      · simp [openedShell]
      · rintro _ _ actions member
        cases List.mem_singleton.mp member
        refine .broadcast ⟨event, ?_, last⟩
        simp [StreamServer.act, StreamServer.speak, own]
      · simp
  | broadcast spoken =>
      rename_i session
      have done : (Action.removeBroadcast session).perform device s.server.app fails =
          s.server.app.removeBroadcast session := by cases fails <;> rfl
      refine ⟨List.Subset.refl _, ?_, closed, ?_, ?_, ?_, ?_, ?_⟩
      · simp [StreamTask.holds]
      · intro other there
        by_cases same : other = session
        · exact .inr (.inl (closed other (same ▸ spoken)))
        · left
          simpa [StreamServer.act, ShellServer.apply, done, AppState.removeBroadcast, same]
            using there
      · intro other
        left
        simp [StreamServer.act, ShellServer.apply, done, AppState.removeBroadcast]
      · simp [openedShell]
      · rintro _ _ actions member
        cases List.mem_singleton.mp member
        exact .session (closed session spoken)
      · simp
  | session spoken =>
      rename_i session
      have done : (Action.removeSession session).perform device s.server.app fails =
          s.server.app.removeSession session := by cases fails <;> rfl
      refine ⟨List.Subset.refl _, ?_, closed, ?_, ?_, ?_, ?_, ?_⟩
      · simp [StreamTask.holds]
      · intro other there
        left
        simpa [StreamServer.act, ShellServer.apply, done, AppState.removeSession] using there
      · intro other
        by_cases same : other = session
        · exact .inr (.inl (closed other (same ▸ spoken)))
        · left
          simp [StreamServer.act, ShellServer.apply, done, AppState.removeSession, same]
      · simp [openedShell]
      · rintro _ _ actions member
        cases List.mem_singleton.mp member
        exact .other (by simp [Action.follow])
      · simp

theorem StreamTurn.keeps (turn : StreamTurn carries s task s' new)
    (leaving : ∀ device messages actions, task = .connection device messages actions →
      Leaving s actions) : KeepsOpened s s' task new := by
  cases turn with
  | created fresh =>
      rename_i auth device session
      refine ⟨List.subset_cons_self _ _, ?_, fun _ closed => closed, ?_, fun _ => .inl rfl,
        ?_, ?_, ?_⟩
      · intro other
        by_cases same : session = other
        · subst same
          right
          simp [StreamTask.holds, OpenShell.session, fresh, StreamServer.apply, ShellServer.apply,
            AppState.insertBroadcast]
        · simp [StreamTask.holds, OpenShell.session, same]
      · intro other there
        left
        by_cases same : other = session <;>
          simp [StreamServer.apply, ShellServer.apply, AppState.insertBroadcast, same, there]
      all_goals simp [openedShell]
  | sent | unsent =>
      refine .same rfl rfl (List.Subset.refl _) (fun _ closed => closed) ?_ ?_ ?_ ?_
      · simp [StreamTask.holds, OpenShell.session]
      all_goals simp [openedShell]
  | cleaned =>
      rename_i auth device session
      refine ⟨List.Subset.refl _, ?_, fun _ closed => closed, ?_, fun _ => .inl rfl, ?_, ?_, ?_⟩
      · simp [StreamTask.holds, OpenShell.session]
      · intro other there
        by_cases same : session = other
        · simp [StreamTask.holds, OpenShell.session, same]
        · left
          simpa [StreamServer.apply, ShellServer.apply, AppState.removeBroadcast, Ne.symm same]
            using there
      all_goals simp [openedShell]
  | bound =>
      rename_i auth device session
      refine ⟨List.Subset.refl _, ?_, fun _ closed => closed, fun _ there => .inl there,
        ?_, ?_, ?_, ?_⟩
      · simp [StreamTask.holds, OpenShell.session]
      · intro other
        by_cases same : session = other
        · simp [StreamTask.holds, OpenShell.session, StreamTask.lasting, same]
        · left
          simp [StreamServer.apply, ShellServer.apply, AppState.insertSession, Ne.symm same]
      · rintro owner holder other member
        cases List.mem_singleton.mp member
        right
        simp [StreamServer.apply, ShellServer.apply, AppState.insertSession]
      all_goals simp
  | removed =>
      rename_i auth session
      refine ⟨List.Subset.refl _, ?_, fun _ closed => closed, fun _ there => .inl there,
        ?_, ?_, ?_, ?_⟩
      · simp [StreamTask.holds]
      · intro other
        by_cases same : other = session
        · exact .inr (.inr (.inl ⟨auth, by simp [same]⟩))
        · left
          simp [StreamServer.apply, ShellServer.apply, AppState.removeSession, same]
      all_goals simp [openedShell]
  | quiet quiet runs before after =>
      rename_i effect
      have maps : (s.apply effect).server.app.shellBroadcasts = s.server.app.shellBroadcasts ∧
          (s.apply effect).server.app.shellSessions = s.server.app.shellSessions ∧
          (s.apply effect).server.named = s.server.named := by
        cases effect with
        | none | enqueue | register | disconnect => exact ⟨rfl, rfl, rfl⟩
        | _ => cases quiet
      refine .same maps.1 maps.2.1 (by rw [maps.2.2]; exact List.Subset.refl _)
        (fun _ closed => closed) ?_ ?_ ?_ ?_
      · intro session
        rw [before, total_eq_zero fun next member => (after next member).1 session]
      · intro owner device session member
        have none := (after _ member).1 session
        simp [openedShell, StreamTask.holds, OpenShell.session] at none
      · intro device messages actions member
        obtain ⟨own, same⟩ := (after _ member).2
        cases same
      · intro requester session phase member
        obtain ⟨own, same⟩ := (after _ member).2
        cases same
  | asked =>
      refine .same rfl rfl (List.Subset.refl _) (fun _ closed => closed) ?_ ?_ ?_ ?_
      · simp [StreamTask.holds, OpenShell.session]
      · simp [openedShell]
      · simp
      · intro requester session phase member
        right
        simp [openedShell] at member ⊢
        exact member.2.1
  | disconnected | left =>
      refine .same rfl rfl (List.Subset.refl _) (fun _ closed => closed) ?_ ?_ ?_ ?_ <;> simp
  | heard =>
      rename_i device message later
      refine .same rfl rfl (List.subset_append_right _ _) (fun _ closed => closed) ?_ ?_ ?_ ?_
      · simp [StreamTask.holds]
      · simp [openedShell]
      · intro owner messages actions member
        cases List.mem_singleton.mp member
        rcases processAgentMessage_shells message with
          untouched | ⟨session, event, _, own, last, same⟩
        · exact .other untouched
        · rw [same]
          exact .relay own last
      · simp
  | acted fails => exact .acted fails (leaving _ _ _ rfl)
  | reads moved =>
      refine .same rfl rfl (List.Subset.refl _) (fun _ closed => closed) ?_ ?_ ?_ ?_
      · simp [StreamTask.holds]
      · simp [openedShell]
      · simp
      · rintro requester session phase member
        cases List.mem_singleton.mp member
        exact .inl ⟨_, rfl⟩

theorem StreamTask.request_cases (request : task.request = true) :
    (∃ device messages, task = .connection device messages []) ∨
      ∃ own, task = .shell own ∧ (∀ session, task.holds session = 0) ∧ task.lasting = false := by
  cases task with
  | shell own =>
      right
      refine ⟨own, rfl, ?_⟩
      cases own with
      | openShell auth device phase =>
          cases phase <;> first | exact ⟨fun _ => rfl, rfl⟩ | cases request
      | closeShell auth session phase =>
          cases phase <;> first | exact ⟨fun _ => rfl, rfl⟩ | cases request
      | _ => exact ⟨fun _ => rfl, rfl⟩
  | connection device messages actions =>
      cases actions with
      | nil => exact .inl ⟨device, messages, rfl⟩
      | cons => cases request
  | stream => cases request

theorem Opened.arrive {tasks : List StreamTask} (holding : Opened s tasks)
    (request : task.request = true) : Opened s (tasks ++ [task]) := by
  have arrived := StreamTask.request_cases request
  have spent (session : Uuid) : total (StreamTask.holds session) [task] = 0 := by
    rcases arrived with ⟨device, messages, rfl⟩ | ⟨own, rfl, none, _⟩
    · rfl
    · simp [none]
  have old {other : StreamTask} (member : other ∈ tasks ++ [task]) (different : other ≠ task) :
      other ∈ tasks := by
    rcases List.mem_append.mp member with there | new
    · exact there
    · exact absurd (List.mem_singleton.mp new) different
  refine ⟨?_, ?_, ?_, ?_, ?_, ?_⟩
  · intro session absent
    rw [total_append, spent]
    exact holding.fresh session absent
  · intro session
    rw [total_append, spent]
    exact holding.once session
  · intro session held
    rw [total_append, spent] at held
    exact holding.channel session held
  · intro owner device session member
    have different : openedShell owner device session ≠ task := by
      rintro rfl
      rcases arrived with ⟨_, _, same⟩ | ⟨_, _, _, lasting⟩
      · cases same
      · cases lasting
    rcases holding.owned owner device session (old member different) with
      bound | ⟨closer, hungUp⟩ | closed
    · exact .inl bound
    · exact .inr (.inl ⟨closer, List.mem_append_left _ hungUp⟩)
    · exact .inr (.inr closed)
  · intro device messages actions member
    rcases arrived with ⟨owner, waiting, rfl⟩ | ⟨own, rfl, _, _⟩
    · rcases List.mem_append.mp member with there | new
      · exact holding.leaving device messages actions there
      · cases List.mem_singleton.mp new
        exact .other (by simp)
    · exact holding.leaving device messages actions (old member (by simp))
  · intro requester session phase member
    have different : .stream requester session phase ≠ task := by
      rintro rfl
      cases request
    obtain ⟨owner, device, there⟩ := holding.asked requester session phase (old member different)
    exact ⟨owner, device, List.mem_append_left _ there⟩

theorem start_opened (db : Database) : Opened (StreamServer.start db).shared [] where
  fresh _ _ := rfl
  once _ := Nat.zero_le _
  channel _ held := by cases held
  owned _ _ _ member := by cases member
  leaving _ _ _ member := by cases member
  asked _ _ _ member := by cases member

theorem opened_reached {guard : Guard StreamServer StreamTask StreamChoice} {db : Database}
    {config : Config StreamServer StreamTask}
    (reached : Reach (streamProgram carries) guard (StreamServer.start db) config) :
    Opened config.shared config.tasks := by
  refine reached.invariant (fun config => Opened config.shared config.tasks) (start_opened db) ?_ ?_
  · intro shared tasks task holding request
    exact holding.arrive request
  · intro shared shared' before after new task choice holding _ moved
    have turn := StreamServer.turn_cases moved
    refine holding.step turn (turn.keeps fun device messages actions own => ?_)
    exact holding.leaving device messages actions (by simp [own])

end OsfmEdm
