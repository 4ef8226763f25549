import OsfmEdm.Shell.Sessions

/-!
What the handlers of `api/shell.rs` send to the agents: a session is opened once, before any input
for it is sent, and the input of a session was posted by who opened it or by an admin.
-/

namespace OsfmEdm

open Interleaving

/-- The input of a session that a message carries. -/
def ServerMessage.inputTo (session : Uuid) : ServerMessage → Option String
  | .shellInput own data => if own = session then some data else none
  | _ => none

/-- The inputs of a session, in their order. -/
def inputsTo (session : Uuid) (messages : List ServerMessage) : List String :=
  messages.filterMap (ServerMessage.inputTo session)

@[simp] theorem inputsTo_nil (session : Uuid) : inputsTo session [] = [] := rfl

@[simp] theorem inputsTo_append (session : Uuid) (messages more : List ServerMessage) :
    inputsTo session (messages ++ more) = inputsTo session messages ++ inputsTo session more :=
  List.filterMap_append

@[simp] theorem inputsTo_cons (session : Uuid) (message : ServerMessage)
    (messages : List ServerMessage) :
    inputsTo session (message :: messages) =
      (message.inputTo session).toList ++ inputsTo session messages := by
  cases found : message.inputTo session <;> simp [inputsTo, found]

theorem mem_inputsTo {session : Uuid} {messages : List ServerMessage} {data : String} :
    data ∈ inputsTo session messages ↔ .shellInput session data ∈ messages := by
  unfold inputsTo
  rw [List.mem_filterMap]
  constructor
  · rintro ⟨message, member, carried⟩
    cases message with
    | shellInput own text =>
        simp only [ServerMessage.inputTo, Option.ite_none_right_eq_some,
          Option.some.injEq] at carried
        obtain ⟨rfl, rfl⟩ := carried
        exact member
    | _ => cases carried
  · intro member
    exact ⟨_, member, by simp [ServerMessage.inputTo]⟩

/-- What was sent to a device, in the order it went into the channels. -/
def ShellServer.sentTo (s : ShellServer) (device : Uuid) : List ServerMessage :=
  s.enqueued.filterMap fun entry => if entry.1 = device then some entry.2 else none

/-- How often a session was opened on some device. -/
def ShellServer.openings (s : ShellServer) (session : Uuid) : Nat :=
  s.enqueued.countP fun entry => entry.2 = .openShell session

theorem ShellServer.mem_sentTo {s : ShellServer} {device : Uuid} {message : ServerMessage} :
    message ∈ s.sentTo device ↔ (device, message) ∈ s.enqueued := by
  simp only [sentTo, List.mem_filterMap, Option.ite_none_right_eq_some, Option.some.injEq]
  constructor
  · rintro ⟨⟨owner, own⟩, member, rfl, rfl⟩
    exact member
  · intro member
    exact ⟨_, member, rfl, rfl⟩

theorem ShellServer.sentTo_enqueue {s s' : ShellServer} {device : Uuid} {message : ServerMessage}
    (sent : s'.enqueued = s.enqueued ++ [(device, message)]) (other : Uuid) :
    s'.sentTo other = s.sentTo other ++ if device = other then [message] else [] := by
  simp only [sentTo, sent, List.filterMap_append]
  by_cases same : device = other <;> simp [same]

/-! ## Steps -/

namespace ShellTask

/-- A task of `open_shell` that is about to send the session it has generated. -/
def sending (session : Uuid) : ShellTask → Nat
  | .openShell _ _ (.send own) => if own = session then 1 else 0
  | _ => 0

/-- Input that its handler has sent. -/
def posted : ShellTask → Option (Uuid × String)
  | .sendInput _ session data .sent => some (session, data)
  | _ => none

/-- The tasks that know nothing of what was sent. -/
def plain : ShellTask → Bool
  | .openShell _ _ (.send _) | .openShell _ _ (.bindSession _) | .openShell _ _ (.opened _)
  | .sendInput _ _ _ (.send _) | .sendInput _ _ _ .sent => false
  | _ => true

/-- The tasks that have ended. -/
def ended : ShellTask → Bool
  | .openShell _ _ (.opened _) | .sendInput _ _ _ .sent => true
  | _ => false

end ShellTask

/-- What one step can do, by what it sends to the agents and whom it lets send. -/
inductive InputTurn (s : ShellServer) : ShellTask → ShellEffect → List ShellTask → Prop where
  | generates {auth device session} (admin : auth.isAdmin = true) (fresh : session ∉ s.named) :
      InputTurn s (.openShell auth device .createBroadcast) (.createBroadcast session)
        [.openShell auth device (.send session)]
  | opens {auth device session} :
      InputTurn s (.openShell auth device (.send session)) (.enqueue device (.openShell session))
        [.openShell auth device (.bindSession session)]
  | binds {auth device session} :
      InputTurn s (.openShell auth device (.bindSession session))
        (.insertSession session { ownerId := auth.userId, deviceId := device })
        [.openShell auth device (.opened session)]
  | authorizes {auth session data found} (bound : s.app.shellSessions session = some found)
      (allowed : found.ownerId = auth.userId ∨ auth.isAdmin = true) :
      InputTurn s (.sendInput auth session data .authorize) .none
        [.sendInput auth session data (.send found.deviceId)]
  | posts {auth session data device} :
      InputTurn s (.sendInput auth session data (.send device))
        (.enqueue device (.shellInput session data)) [.sendInput auth session data .sent]
  | other {task effect new} (going : task.ended = false)
      (plain : ∀ next ∈ new, next.plain = true)
      (named : s.named ⊆ (s.apply effect).named)
      (sessions : ∀ session found, (s.apply effect).app.shellSessions session = some found →
        s.app.shellSessions session = some found)
      (sent : (s.apply effect).enqueued = s.enqueued ∨ ∃ device session,
        (s.apply effect).enqueued = s.enqueued ++ [(device, .closeShell session)]) :
      InputTurn s task effect new

theorem Action.perform_sessions (action : Action) (device : Uuid) (state : AppState) (fails : Bool)
    {session : Uuid} {found : ShellSessionMeta}
    (kept : (action.perform device state fails).shellSessions session = some found) :
    state.shellSessions session = some found := by
  by_cases untouched : action.touchesShells = false
  · rwa [(Action.perform_shells untouched device state fails).2] at kept
  cases action with
  | removeBroadcast own =>
      cases fails <;> exact kept
  | removeSession own =>
      have removed : (Function.update state.shellSessions own none) session = some found := by
        cases fails <;> exact kept
      by_cases same : session = own
      · simp [same] at removed
      · rwa [Function.update_of_ne same] at removed
  | _ => exact absurd rfl untouched

theorem authorizeSession_ok {state : AppState} {session : Uuid} {auth : AuthUser}
    {found : ShellSessionMeta} (granted : authorizeSession state session auth = .ok found) :
    state.shellSessions session = some found ∧
      (found.ownerId = auth.userId ∨ auth.isAdmin = true) := by
  unfold authorizeSession at granted
  split at granted
  · cases granted
  · rename_i bound
    split at granted
    · cases granted
    · rename_i allowed
      cases granted
      exact ⟨bound, by tauto⟩

/-- A step that changes nothing the handlers of a session look at. -/
theorem InputTurn.idle {s : ShellServer} {task : ShellTask} {effect : ShellEffect}
    {new : List ShellTask} (going : task.ended = false) (plain : ∀ next ∈ new, next.plain = true)
    (quiet : effect.quiet = true) (unsent : ∀ device message, effect ≠ .enqueue device message) :
    InputTurn s task effect new := by
  cases effect with
  | none | register | disconnect =>
      exact .other going plain (List.Subset.refl _) (fun _ _ found => found) (.inl rfl)
  | enqueue device message => exact absurd rfl (unsent device message)
  | _ => cases quiet

theorem ShellServer.turn_inputs {s : ShellServer} {choice : ShellChoice} {task : ShellTask}
    {effect : ShellEffect} {new : List ShellTask}
    (moved : s.turn choice task = some (effect, new)) : InputTurn s task effect new := by
  cases task with
  | openShell auth device phase =>
      cases phase with
      | createBroadcast =>
          simp only [turn, openShell] at moved
          split at moved
          · cases moved
            exact .idle rfl (by simp [ShellTask.plain]) rfl (by simp)
          · rename_i granted
            split at moved
            · cases moved
            · rename_i fresh
              cases moved
              refine .generates ?_ fresh
              unfold AuthUser.requireAdmin at granted
              split at granted
              · rename_i admin
                simp [AuthUser.isAdmin, admin]
              · cases granted
          · cases moved
      | send session =>
          simp only [turn, openShell] at moved
          rcases send_cases moved with ⟨rfl, rfl⟩ | ⟨rfl, rfl⟩
          · exact .opens
          · exact .idle rfl (by simp [ShellTask.plain]) rfl (by simp)
      | cleanUp session =>
          cases moved
          exact .other rfl (by simp [ShellTask.plain]) (List.Subset.refl _) (fun _ _ found => found)
            (.inl rfl)
      | bindSession session =>
          cases moved
          exact .binds
      | opened | refused => cases moved
  | closeShell auth session phase =>
      cases phase with
      | authorize =>
          simp only [turn, closeShell] at moved
          split at moved <;> cases moved <;>
            exact .idle rfl (by simp [ShellTask.plain]) rfl (by simp)
      | send device =>
          simp only [turn, closeShell] at moved
          rcases send_cases moved with ⟨rfl, rfl⟩ | ⟨rfl, rfl⟩
          · exact .other rfl (by simp [ShellTask.plain]) (List.Subset.refl _)
              (fun _ _ found => found) (.inr ⟨device, session, rfl⟩)
          · exact .idle rfl (by simp [ShellTask.plain]) rfl (by simp)
      | remove =>
          cases moved
          refine .other rfl (by simp [ShellTask.plain]) (List.Subset.refl _) ?_ (.inl rfl)
          intro other found kept
          simp only [apply, AppState.removeSession] at kept
          by_cases same : other = session
          · simp [same] at kept
          · rwa [Function.update_of_ne same] at kept
      | closed | refused => cases moved
  | sendInput auth session data phase =>
      cases phase with
      | authorize =>
          simp only [turn, sendInput] at moved
          split at moved
          · cases moved
            exact .idle rfl (by simp [ShellTask.plain]) rfl (by simp)
          · rename_i found granted
            cases moved
            obtain ⟨bound, allowed⟩ := authorizeSession_ok granted
            exact .authorizes bound allowed
      | send device =>
          simp only [turn, sendInput] at moved
          rcases send_cases moved with ⟨rfl, rfl⟩ | ⟨rfl, rfl⟩
          · exact .posts
          · exact .idle rfl (by simp [ShellTask.plain]) rfl (by simp)
      | sent | refused => cases moved
  | hears device message =>
      cases moved
      exact .other rfl (by simp [ShellTask.plain]) (List.subset_append_right _ _)
        (fun _ _ found => found) (.inl rfl)
  | processing device actions =>
      cases actions with
      | nil =>
          cases moved
          exact .idle rfl (by simp) rfl (by simp)
      | cons action rest =>
          simp only [turn] at moved
          split at moved
          · cases moved
            exact .other rfl (by simp [ShellTask.plain]) (List.Subset.refl _)
              (fun _ _ => action.perform_sessions device s.app false) (.inl rfl)
          · cases moved
            exact .other rfl (by simp [ShellTask.plain]) (List.Subset.refl _)
              (fun _ _ => action.perform_sessions device s.app true) (.inl rfl)
          · cases moved
  | connects | disconnects =>
      cases moved
      exact .idle rfl (by simp) rfl (by simp)

/-! ## What was sent -/

/-- Who may send input to a session of a device: its opener and every admin. -/
def MayPost (tasks : List ShellTask) (auth : AuthUser) (session device : Uuid) : Prop :=
  ∃ owner, .openShell owner device (.opened session) ∈ tasks ∧ owner.isAdmin = true ∧
    (owner.userId = auth.userId ∨ auth.isAdmin = true)

/-- What a task of a session knows. -/
def Knows (s : ShellServer) (tasks : List ShellTask) : ShellTask → Prop
  | .openShell auth _ (.send session) => auth.isAdmin = true ∧ session ∈ s.named
  | .openShell auth device (.bindSession session) | .openShell auth device (.opened session) =>
      auth.isAdmin = true ∧ (device, .openShell session) ∈ s.enqueued
  | .sendInput auth session _ (.send device) => MayPost tasks auth session device
  | _ => True

structure SentInOrder (s : ShellServer) (tasks : List ShellTask) : Prop where
  knows : ∀ task ∈ tasks, Knows s tasks task
  fresh : ∀ session, session ∉ s.named →
    s.openings session + total (ShellTask.sending session) tasks = 0
  once : ∀ session, s.openings session + total (ShellTask.sending session) tasks ≤ 1
  bound : ∀ session found, s.app.shellSessions session = some found →
    ∃ owner, .openShell owner found.deviceId (.opened session) ∈ tasks ∧
      owner.userId = found.ownerId
  posted : ∀ device session data, (device, .shellInput session data) ∈ s.enqueued →
    ∃ auth, .sendInput auth session data .sent ∈ tasks ∧ MayPost tasks auth session device
  before : ∀ device session first rest,
    s.sentTo device = first ++ .openShell session :: rest → inputsTo session first = []

variable {s s' : ShellServer} {before after new : List ShellTask} {task : ShellTask}

/-- What later steps do not take back. -/
structure Onward (s : ShellServer) (tasks : List ShellTask) (s' : ShellServer)
    (tasks' : List ShellTask) : Prop where
  named : s.named ⊆ s'.named
  enqueued : s.enqueued ⊆ s'.enqueued
  ended : ∀ task ∈ tasks, task.ended = true → task ∈ tasks'

theorem MayPost.later {tasks tasks' : List ShellTask} {auth : AuthUser} {session device : Uuid}
    (may : MayPost tasks auth session device)
    (ended : ∀ task ∈ tasks, task.ended = true → task ∈ tasks') :
    MayPost tasks' auth session device := by
  obtain ⟨owner, opened, admin, allowed⟩ := may
  exact ⟨owner, ended _ opened rfl, admin, allowed⟩

theorem Knows.later {tasks tasks' : List ShellTask} {other : ShellTask}
    (knows : Knows s tasks other) (onward : Onward s tasks s' tasks') : Knows s' tasks' other := by
  cases other with
  | openShell auth device phase =>
      cases phase with
      | send session => exact ⟨knows.1, onward.named knows.2⟩
      | bindSession session | opened session => exact ⟨knows.1, onward.enqueued knows.2⟩
      | _ => trivial
  | sendInput auth session data phase =>
      cases phase with
      | send device => exact MayPost.later knows onward.ended
      | _ => trivial
  | _ => trivial

theorem Knows.of_plain {tasks : List ShellTask} {other : ShellTask} (plain : other.plain = true) :
    Knows s tasks other := by
  cases other with
  | openShell auth device phase => cases phase <;> trivial
  | sendInput auth session data phase => cases phase <;> trivial
  | _ => trivial

theorem sending_plain {other : ShellTask} (plain : other.plain = true) (session : Uuid) :
    other.sending session = 0 := by
  cases other with
  | openShell auth device phase => cases phase <;> first | rfl | cases plain
  | _ => rfl

theorem ShellServer.openings_pos {device session : Uuid}
    (sent : (device, .openShell session) ∈ s.enqueued) : 0 < s.openings session :=
  List.countP_pos_iff.mpr ⟨_, sent, by simp⟩

/-- The tasks that have ended stay. -/
theorem ended_stays (going : task.ended = false) {other : ShellTask}
    (member : other ∈ before ++ task :: after) (done : other.ended = true) :
    other ∈ before ++ new ++ after := by
  refine mem_other member ?_
  rintro rfl
  rw [going] at done
  cases done

namespace SentInOrder

variable {tasks : List ShellTask}

/-- Input is only sent for a session that was opened on the device. -/
theorem opened_of_input (order : SentInOrder s tasks) {device session : Uuid} {data : String}
    (sent : (device, .shellInput session data) ∈ s.enqueued) : 0 < s.openings session := by
  obtain ⟨auth, _, owner, opened, -⟩ := order.posted device session data sent
  exact ShellServer.openings_pos (order.knows _ opened).2

/-- A session that was not opened yet has no input on its way. -/
theorem no_input (order : SentInOrder s tasks) {session : Uuid} (none : s.openings session = 0)
    (device : Uuid) : inputsTo session (s.sentTo device) = [] := by
  rw [List.eq_nil_iff_forall_not_mem]
  intro data member
  have sent := ShellServer.mem_sentTo.mp (mem_inputsTo.mp member)
  have := order.opened_of_input sent
  omega

/-- One more message comes after all input that was sent, and opens no session a second time. -/
theorem before_sent (order : SentInOrder s tasks) {entries : List (Uuid × ServerMessage)}
    (sent : s'.enqueued = s.enqueued ++ entries)
    (opened : ∀ device session, entries = [(device, .openShell session)] →
      s.openings session = 0)
    (few : entries.length ≤ 1) (device session : Uuid) (first rest : List ServerMessage)
    (split : s'.sentTo device = first ++ .openShell session :: rest) :
    inputsTo session first = [] := by
  match entries, few with
  | [], _ =>
      refine order.before device session first rest ?_
      simpa [ShellServer.sentTo, sent] using split
  | [(owner, message)], _ =>
      rw [ShellServer.sentTo_enqueue sent] at split
      split_ifs at split with same
      · rcases List.eq_nil_or_concat rest with rfl | ⟨earlier, last, rfl⟩
        · obtain ⟨all, own⟩ := List.append_inj' split rfl
          cases own
          rw [← all]
          exact order.no_input (opened owner session rfl) device
        · rw [List.concat_eq_append, ← List.cons_append, ← List.append_assoc] at split
          exact order.before device session first earlier (List.append_inj' split rfl).1
      · rw [List.append_nil] at split
        exact order.before device session first rest split

/-- A step that sends at most one message. -/
theorem step (order : SentInOrder s (before ++ task :: after)) (fresh : Uuid → Nat)
    (entries : List (Uuid × ServerMessage)) (going : task.ended = false)
    (named : s.named ⊆ s'.named)
    (sent : s'.enqueued = s.enqueued ++ entries)
    (knows : ∀ next ∈ new, Knows s' (before ++ new ++ after) next)
    (counts : ∀ session, s'.openings session + total (ShellTask.sending session) new ≤
      s.openings session + task.sending session + fresh session)
    (freshly : ∀ session, fresh session = 0 ∨
      fresh session = 1 ∧ session ∈ s'.named ∧ session ∉ s.named)
    (bound : ∀ session found, s'.app.shellSessions session = some found →
      s.app.shellSessions session = some found ∨
        ∃ owner, .openShell owner found.deviceId (.opened session) ∈ new ∧
          owner.userId = found.ownerId)
    (posted : ∀ device session data, (device, .shellInput session data) ∈ entries →
      ∃ auth, .sendInput auth session data .sent ∈ new ∧
        MayPost (before ++ new ++ after) auth session device)
    (opened : ∀ device session, entries = [(device, .openShell session)] →
      s.openings session = 0)
    (few : entries.length ≤ 1) : SentInOrder s' (before ++ new ++ after) := by
  have ended : ∀ other ∈ before ++ task :: after, other.ended = true →
      other ∈ before ++ new ++ after := fun _ => ended_stays going
  have onward : Onward s (before ++ task :: after) s' (before ++ new ++ after) :=
    ⟨named, fun entry member => sent ▸ List.mem_append_left _ member, ended⟩
  have balance (session : Uuid) : s'.openings session +
      total (ShellTask.sending session) (before ++ new ++ after) ≤
        s.openings session + total (ShellTask.sending session) (before ++ task :: after) +
          fresh session := by
    have own := counts session
    simp only [total_append, total_cons]
    omega
  refine ⟨?_, ?_, ?_, ?_, ?_, ?_⟩
  · intro other member
    rcases mem_stepped member with spawned | old
    · exact knows other spawned
    · exact (order.knows other (mem_of_others task old)).later onward
  · intro session absent
    have old := order.fresh session fun member => absent (named member)
    have least := balance session
    rcases freshly session with none | ⟨-, member, -⟩
    · omega
    · exact absurd member absent
  · intro session
    have old := order.once session
    have least := balance session
    rcases freshly session with none | ⟨one, -, absent⟩
    · omega
    · have nothing := order.fresh session absent
      omega
  · intro session found kept
    rcases bound session found kept with old | ⟨owner, spawned, same⟩
    · obtain ⟨owner, member, same⟩ := order.bound session found old
      exact ⟨owner, ended _ member rfl, same⟩
    · exact ⟨owner, by simp [spawned], same⟩
  · intro device session data member
    rw [sent] at member
    rcases List.mem_append.mp member with old | own
    · obtain ⟨auth, answered, may⟩ := order.posted device session data old
      exact ⟨auth, ended _ answered rfl, may.later ended⟩
    · obtain ⟨auth, answered, may⟩ := posted device session data own
      exact ⟨auth, by simp [answered], may⟩
  · exact order.before_sent sent opened few

end SentInOrder

theorem SentInOrder.turn {effect : ShellEffect} (order : SentInOrder s (before ++ task :: after))
    (turn : InputTurn s task effect new) :
    SentInOrder (s.apply effect) (before ++ new ++ after) := by
  have own := order.knows task (by simp)
  cases turn with
  | generates admin fresh =>
      rename_i auth device session
      refine order.step (fun other => if session = other then 1 else 0) [] rfl
        (List.subset_cons_self _ _) (List.append_nil _).symm ?_ ?_ ?_ (fun _ _ kept => .inl kept)
        (by simp) (by simp) (by simp)
      · intro next member
        rw [List.mem_singleton.mp member]
        exact ⟨admin, List.mem_cons_self⟩
      · intro other
        simp [ShellServer.openings, ShellServer.apply, ShellTask.sending]
      · intro other
        by_cases same : session = other
        · subst same
          exact .inr ⟨if_pos rfl, List.mem_cons_self, fresh⟩
        · exact .inl (if_neg same)
  | opens =>
      rename_i auth device session
      have none : s.openings session = 0 := by
        have once := order.once session
        simp only [total_append, total_cons, ShellTask.sending, if_true] at once
        omega
      refine order.step (fun _ => 0) [(device, .openShell session)] rfl (List.Subset.refl _) rfl
        ?_ ?_ (fun _ => .inl rfl)
        (fun _ _ kept => .inl kept) (by simp) ?_ (by simp)
      · intro next member
        rw [List.mem_singleton.mp member]
        exact ⟨own.1, by simp [ShellServer.apply]⟩
      · intro other
        by_cases same : session = other <;>
          simp [ShellServer.openings, ShellServer.apply, ShellTask.sending, same]
      · intro owner other same
        cases same
        exact none
  | binds =>
      rename_i auth device session
      refine order.step (fun _ => 0) [] rfl (List.Subset.refl _) (List.append_nil _).symm ?_
        (fun _ => Nat.le_refl _) (fun _ => .inl rfl) ?_ (by simp) (by simp) (by simp)
      · intro next member
        rw [List.mem_singleton.mp member]
        exact own
      · intro other found kept
        simp only [ShellServer.apply, AppState.insertSession] at kept
        by_cases same : other = session
        · subst same
          simp only [Function.update_self, Option.some.injEq] at kept
          subst kept
          exact .inr ⟨auth, by simp⟩
        · rw [Function.update_of_ne same] at kept
          exact .inl kept
  | authorizes bound allowed =>
      rename_i auth session data found
      refine order.step (fun _ => 0) [] rfl (List.Subset.refl _) (List.append_nil _).symm ?_
        (fun _ => Nat.le_refl _) (fun _ => .inl rfl) (fun _ _ kept => .inl kept)
        (by simp) (by simp) (by simp)
      intro next member
      rw [List.mem_singleton.mp member]
      obtain ⟨owner, opened, same⟩ := order.bound session found bound
      refine ⟨owner, ended_stays rfl opened rfl, (order.knows _ opened).1, ?_⟩
      rw [same]
      exact allowed
  | posts =>
      rename_i auth session data device
      refine order.step (fun _ => 0) [(device, .shellInput session data)] rfl
        (List.Subset.refl _) rfl ?_ ?_ (fun _ => .inl rfl)
        (fun _ _ kept => .inl kept) ?_ (by simp) (by simp)
      · intro next member
        rw [List.mem_singleton.mp member]
        trivial
      · intro other
        simp [ShellServer.openings, ShellServer.apply, ShellTask.sending]
      · intro owner other text member
        cases List.mem_singleton.mp member
        exact ⟨auth, by simp, MayPost.later own fun _ => ended_stays rfl⟩
  | other going plain named sessions sent =>
      have spent (session : Uuid) : total (ShellTask.sending session) new = 0 :=
        total_eq_zero fun next member => sending_plain (plain next member) session
      have knows : ∀ next ∈ new, Knows (s.apply effect) (before ++ new ++ after) next :=
        fun next member => .of_plain (plain next member)
      rcases sent with none | ⟨device, session, closes⟩
      · refine order.step (fun _ => 0) [] going named (by simp [none]) knows ?_ (fun _ => .inl rfl)
          (fun session found there => .inl (sessions session found there))
          (by simp) (by simp) (by simp)
        intro other
        simp only [ShellServer.openings, none, spent]
        omega
      · refine order.step (fun _ => 0) [(device, .closeShell session)] going named closes knows ?_
          (fun _ => .inl rfl) (fun session found there => .inl (sessions session found there))
          (by simp) (by simp) (by simp)
        intro other
        simp only [ShellServer.openings, closes, spent, List.countP_append, List.countP_singleton]
        simp

theorem sent_in_order {db : Database} {guard : Guard ShellServer ShellTask ShellChoice}
    {config : Config ShellServer ShellTask}
    (reached : Reach shellProgram guard (ShellServer.start db) config) :
    SentInOrder config.shared config.tasks := by
  refine reached.invariant (fun config => SentInOrder config.shared config.tasks) ?_ ?_ ?_
  · exact
      { knows := fun task member => absurd member List.not_mem_nil
        fresh := fun _ _ => rfl
        once := fun _ => Nat.zero_le _
        bound := fun session found there => by cases there
        posted := fun device session data member => absurd member List.not_mem_nil
        before := fun device session first rest split => by
          simp [ShellServer.start, ShellServer.sentTo] at split }
  · intro shared tasks task order request
    have plain : task.plain = true := by
      cases task with
      | openShell auth device phase => cases phase <;> first | rfl | cases request
      | sendInput auth session data phase => cases phase <;> first | rfl | cases request
      | _ => rfl
    have stays : ∀ other ∈ tasks, other.ended = true → other ∈ tasks ++ [task] :=
      fun other member _ => List.mem_append_left _ member
    have onward : Onward shared tasks shared (tasks ++ [task]) :=
      ⟨List.Subset.refl _, List.Subset.refl _, stays⟩
    have spent (session : Uuid) : total (ShellTask.sending session) (tasks ++ [task]) =
        total (ShellTask.sending session) tasks := by
      simp [sending_plain plain]
    refine ⟨?_, ?_, ?_, ?_, ?_, order.before⟩
    · intro other member
      rcases List.mem_append.mp member with old | own
      · exact (order.knows other old).later onward
      · rw [List.mem_singleton.mp own]
        exact .of_plain plain
    · intro session absent
      rw [spent]
      exact order.fresh session absent
    · intro session
      rw [spent]
      exact order.once session
    · intro session found there
      obtain ⟨owner, opened, same⟩ := order.bound session found there
      exact ⟨owner, stays _ opened rfl, same⟩
    · intro device session data member
      obtain ⟨auth, answered, may⟩ := order.posted device session data member
      exact ⟨auth, stays _ answered rfl, may.later stays⟩
  · intro shared shared' before after new task choice order _ moved
    obtain ⟨⟨effect, own⟩, taken, same⟩ := Option.map_eq_some_iff.mp moved
    cases same
    exact order.turn (ShellServer.turn_inputs taken)

end OsfmEdm
