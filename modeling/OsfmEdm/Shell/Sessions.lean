import OsfmEdm.Shell.Step
import Mathlib.Tactic.Tauto

/-!
The shell maps stay consistent as long as `open_shell` binds a session only while its
broadcast channel is still there.
-/

namespace OsfmEdm

open Interleaving

/-- Whether an action changes a shell map. -/
def Action.touchesShells : Action → Bool
  | .removeBroadcast _ | .removeSession _ => true
  | _ => false

theorem Action.perform_shells {action : Action} (untouched : action.touchesShells = false)
    (device : Uuid) (state : AppState) (fails : Bool) :
    (action.perform device state fails).shellBroadcasts = state.shellBroadcasts ∧
      (action.perform device state fails).shellSessions = state.shellSessions := by
  generalize performed : action.perform device state fails = after
  cases performed ▸ action.left_perform device state fails with
  | broadcast | session => cases untouched
  | _ => exact ⟨rfl, rfl⟩

theorem Action.follow_shells (device : Uuid) (state : AppState) (fails : Bool) (action : Action) :
    ∀ next ∈ action.follow device state fails, next.touchesShells = false := by
  intro next member
  cases action with
  | selectAlertRules =>
      simp only [Action.follow] at member
      split at member
      · cases member
      split at member
      · cases member
      · rw [List.mem_singleton.mp member]
        rfl
  | selectLatestMetrics rules =>
      simp only [Action.follow] at member
      split at member
      · cases member
      split at member
      · cases member
      · obtain ⟨rule, _, rfl⟩ := List.mem_map.mp member
        rfl
  | selectOpenAlert rule =>
      simp only [Action.follow] at member
      split at member
      · cases member
      · rw [List.mem_singleton.mp member]
        rfl
  | _ => cases member

theorem processAgentMessage_shells (message : AgentMessage) :
    (∀ action ∈ processAgentMessage message, action.touchesShells = false) ∨
      ∃ session event, session ∈ message.sessions ∧ event.sessionId = session ∧
        event.closed = true ∧ processAgentMessage message =
          [.relay event, .removeBroadcast session, .removeSession session] := by
  cases message with
  | shellClosed session exitCode =>
      exact .inr ⟨session, _, by simp [AgentMessage.sessions], rfl, rfl, rfl⟩
  | systemEventBatch events =>
      left
      intro action member
      obtain ⟨event, _, rfl⟩ := List.mem_map.mp member
      rfl
  | complianceReport reports =>
      left
      intro action member
      obtain ⟨report, _, rfl⟩ := List.mem_map.mp member
      rfl
  | telemetryReport snapshot =>
      left
      intro action member
      simp only [processAgentMessage, List.mem_cons, List.not_mem_nil, or_false] at member
      rcases member with rfl | rfl <;> rfl
  | _ =>
      left
      intro action member
      rw [List.mem_singleton.mp member]
      rfl

/-! ## Steps -/

/-- The tasks of `open_shell` that hold a session which is not bound yet. -/
def ShellTask.opening (session : Uuid) : ShellTask → Nat
  | .openShell _ _ (.send own) | .openShell _ _ (.bindSession own)
  | .openShell _ _ (.cleanUp own) => if own = session then 1 else 0
  | _ => 0

def ShellTask.isProcessing : ShellTask → Bool
  | .processing .. => true
  | _ => false

/-- The effects that leave the shell maps and the closed sessions as they are. -/
def ShellEffect.quiet : ShellEffect → Bool
  | .none | .enqueue .. | .register .. | .disconnect _ => true
  | _ => false

/-- What one step can do. -/
inductive ShellTurn (s : ShellServer) : ShellTask → ShellEffect → List ShellTask → Prop where
  | created {auth device session} (fresh : session ∉ s.named) :
      ShellTurn s (.openShell auth device .createBroadcast) (.createBroadcast session)
        [.openShell auth device (.send session)]
  | sent {auth device session} :
      ShellTurn s (.openShell auth device (.send session)) (.enqueue device (.openShell session))
        [.openShell auth device (.bindSession session)]
  | unsent {auth device session} :
      ShellTurn s (.openShell auth device (.send session)) .none
        [.openShell auth device (.cleanUp session)]
  | cleaned {auth device session} :
      ShellTurn s (.openShell auth device (.cleanUp session)) (.removeBroadcast session)
        [.openShell auth device (.refused (notConnected device))]
  | bound {auth device session} :
      ShellTurn s (.openShell auth device (.bindSession session))
        (.insertSession session { ownerId := auth.userId, deviceId := device })
        [.openShell auth device (.opened session)]
  | removed {auth session} :
      ShellTurn s (.closeShell auth session .remove) (.removeSession session)
        [.closeShell auth session .closed]
  | heard {device message} :
      ShellTurn s (.hears device message) (.hear message.sessions)
        [.processing device (processAgentMessage message)]
  | acted {device action rest} (fails : Bool) :
      ShellTurn s (.processing device (action :: rest)) (.act device action fails)
        [.processing device (action.follow device s.app fails ++ rest)]
  | quiet {task effect new} (quiet : effect.quiet = true)
      (before : ∀ session, task.opening session = 0)
      (after : ∀ session, total (ShellTask.opening session) new = 0)
      (ended : ∀ device actions, task = .processing device actions → actions = [])
      (none : ∀ next ∈ new, next.isProcessing = false) : ShellTurn s task effect new

theorem ShellServer.send_cases {s : ShellServer} {device : Uuid} {message : ServerMessage}
    {choice : ShellChoice} {next : Bool → List ShellTask} {effect : ShellEffect}
    {new : List ShellTask} (moved : s.send device message choice next = some (effect, new)) :
    (effect = .enqueue device message ∧ new = next true) ∨ (effect = .none ∧ new = next false) := by
  unfold ShellServer.send at moved
  split at moved
  · cases moved
    exact .inl ⟨rfl, rfl⟩
  · cases moved
    exact .inr ⟨rfl, rfl⟩
  · cases moved
    exact .inr ⟨rfl, rfl⟩
  · cases moved

theorem ShellServer.turn_cases {s : ShellServer} {choice : ShellChoice} {task : ShellTask}
    {effect : ShellEffect} {new : List ShellTask} (moved : s.turn choice task = some (effect, new)) :
    ShellTurn s task effect new := by
  cases task with
  | openShell auth device phase =>
      cases phase with
      | createBroadcast =>
          simp only [turn, openShell] at moved
          split at moved
          · cases moved
            exact .quiet rfl (fun _ => rfl) (fun _ => rfl) (by simp) (by simp [ShellTask.isProcessing])
          · split at moved
            · cases moved
            · rename_i fresh
              cases moved
              exact .created fresh
          · cases moved
      | send session =>
          simp only [turn, openShell] at moved
          rcases send_cases moved with ⟨rfl, rfl⟩ | ⟨rfl, rfl⟩
          · exact .sent
          · exact .unsent
      | cleanUp session =>
          cases moved
          exact .cleaned
      | bindSession session =>
          cases moved
          exact .bound
      | opened | refused => cases moved
  | closeShell auth session phase =>
      cases phase with
      | authorize =>
          simp only [turn, closeShell] at moved
          split at moved <;> cases moved <;>
            exact .quiet rfl (fun _ => rfl) (fun _ => rfl) (by simp) (by simp [ShellTask.isProcessing])
      | send device =>
          simp only [turn, closeShell] at moved
          rcases send_cases moved with ⟨rfl, rfl⟩ | ⟨rfl, rfl⟩ <;>
            exact .quiet rfl (fun _ => rfl) (fun _ => rfl) (by simp) (by simp [ShellTask.isProcessing])
      | remove =>
          cases moved
          exact .removed
      | closed | refused => cases moved
  | sendInput auth session data phase =>
      cases phase with
      | authorize =>
          simp only [turn, sendInput] at moved
          split at moved <;> cases moved <;>
            exact .quiet rfl (fun _ => rfl) (fun _ => rfl) (by simp) (by simp [ShellTask.isProcessing])
      | send device =>
          simp only [turn, sendInput] at moved
          rcases send_cases moved with ⟨rfl, rfl⟩ | ⟨rfl, rfl⟩ <;>
            exact .quiet rfl (fun _ => rfl) (fun _ => rfl) (by simp) (by simp [ShellTask.isProcessing])
      | sent | refused => cases moved
  | hears device message =>
      cases moved
      exact .heard
  | processing device actions =>
      cases actions with
      | nil =>
          cases moved
          exact .quiet rfl (fun _ => rfl) (fun _ => rfl) (by simp) (by simp)
      | cons action rest =>
          simp only [turn] at moved
          split at moved
          · cases moved
            exact .acted false
          · cases moved
            exact .acted true
          · cases moved
  | connects | disconnects =>
      cases moved
      exact .quiet rfl (fun _ => rfl) (fun _ => rfl) (by simp) (by simp)

/-! ## The invariant -/

/-- What a message still has to do, where it is a `ShellClosed`. -/
inductive Closing (s : ShellServer) : List Action → Prop where
  | other {actions} (untouched : ∀ action ∈ actions, action.touchesShells = false) :
      Closing s actions
  | relay {session event} (named : session ∈ s.named) :
      Closing s [.relay event, .removeBroadcast session, .removeSession session]
  | broadcast {session} (named : session ∈ s.named) :
      Closing s [.removeBroadcast session, .removeSession session]
  | session {session} (named : session ∈ s.named) (gone : s.app.shellBroadcasts session = false) :
      Closing s [.removeSession session]

/-- One for a session in `shell_sessions`. -/
def ShellServer.bound (s : ShellServer) (session : Uuid) : Nat :=
  if (s.app.shellSessions session).isSome then 1 else 0

structure Consistent (s : ShellServer) (tasks : List ShellTask) : Prop where
  named : ∀ session, session ∉ s.named → s.app.shellBroadcasts session = false ∧
    session ∉ s.closed ∧ s.bound session + total (ShellTask.opening session) tasks = 0
  once : ∀ session, s.bound session + total (ShellTask.opening session) tasks ≤ 1
  paired : ∀ session, (s.app.shellSessions session).isSome →
    s.app.shellBroadcasts session = true ∨
      ∃ device, .processing device [.removeSession session] ∈ tasks
  closed : ∀ session ∈ s.closed,
    s.app.shellBroadcasts session = false ∧ s.app.shellSessions session = none
  closing : ∀ device actions, .processing device actions ∈ tasks → Closing s actions

/-- `open_shell` binds a session only while its broadcast channel is still there: the hub has not
processed a `ShellClosed` of the session before. -/
def bindsInTime : Guard ShellServer ShellTask ShellChoice := fun s _ task _ =>
  match task with
  | .openShell _ _ (.bindSession session) => s.app.shellBroadcasts session = true
  | _ => True

instance : ∀ s others task choice, Decidable (bindsInTime s others task choice) := by
  intro s others task choice
  unfold bindsInTime
  split <;> infer_instance

variable {s s' : ShellServer} {before after new : List ShellTask} {task : ShellTask}

theorem Closing.later {actions : List Action} (closing : Closing s actions)
    (named : s.named ⊆ s'.named)
    (gone : ∀ session ∈ s.named, s.app.shellBroadcasts session = false →
      s'.app.shellBroadcasts session = false) : Closing s' actions := by
  cases closing with
  | other untouched => exact .other untouched
  | relay member => exact .relay (named member)
  | broadcast member => exact .broadcast (named member)
  | session member absent => exact .session (named member) (gone _ member absent)

theorem ShellServer.bound_congr (same : s'.app.shellSessions = s.app.shellSessions) (session : Uuid) :
    s'.bound session = s.bound session := by
  simp only [bound, same]

theorem Consistent.closing_step (consistent : Consistent s (before ++ task :: after))
    (named : s.named ⊆ s'.named)
    (gone : ∀ session ∈ s.named, s.app.shellBroadcasts session = false →
      s'.app.shellBroadcasts session = false)
    (closing : ∀ device actions, .processing device actions ∈ new → Closing s' actions) :
    ∀ device actions, .processing device actions ∈ before ++ new ++ after →
      Closing s' actions := by
  intro device actions member
  rcases mem_stepped member with fresh | others
  · exact closing device actions fresh
  · exact (consistent.closing device actions (mem_of_others task others)).later named gone

theorem Consistent.keep (consistent : Consistent s (before ++ task :: after))
    (broadcasts : s'.app.shellBroadcasts = s.app.shellBroadcasts)
    (sessions : s'.app.shellSessions = s.app.shellSessions) (closed : s'.closed = s.closed)
    (named : s.named ⊆ s'.named)
    (opening : ∀ session, total (ShellTask.opening session) new = task.opening session)
    (closing : ∀ device actions, .processing device actions ∈ new → Closing s' actions)
    (different : ∀ device session, .processing device [.removeSession session] ≠ task) :
    Consistent s' (before ++ new ++ after) where
  named session absent := by
    have old := consistent.named session fun member => absent (named member)
    simpa [ShellServer.bound_congr sessions, broadcasts, closed, opening, Nat.add_assoc] using old
  once session := by
    simpa [ShellServer.bound_congr sessions, opening, Nat.add_assoc] using consistent.once session
  paired session present := by
    rw [broadcasts]
    rw [sessions] at present
    refine (consistent.paired session present).imp_right ?_
    rintro ⟨device, member⟩
    exact ⟨device, mem_other member (different device session)⟩
  closed session member := by
    rw [broadcasts, sessions]
    exact consistent.closed session (closed ▸ member)
  closing := consistent.closing_step named (fun session _ absent => by rw [broadcasts, absent]) closing

theorem Consistent.created (consistent : Consistent s (before ++ task :: after)) {auth : AuthUser}
    {device session : Uuid} (fresh : session ∉ s.named)
    (own : task = .openShell auth device .createBroadcast) :
    Consistent (s.apply (.createBroadcast session))
      (before ++ [.openShell auth device (.send session)] ++ after) where
  named other absent := by
    simp only [ShellServer.apply, List.mem_cons, not_or] at absent
    have old := consistent.named other absent.2
    have same : (s.apply (.createBroadcast session)).bound other = s.bound other := rfl
    rw [same]
    simpa [ShellServer.apply, AppState.insertBroadcast, own, absent.1, Ne.symm absent.1,
      ShellTask.opening] using old
  once other := by
    have old := consistent.once other
    have kept : (s.apply (.createBroadcast session)).bound other = s.bound other := rfl
    rw [kept]
    by_cases same : session = other
    · subst same
      have none := (consistent.named session fresh).2.2
      simp only [total_append, total_cons, total_nil, ShellTask.opening, if_true] at none ⊢
      omega
    · simpa [own, same, ShellTask.opening] using old
  paired other present := by
    by_cases same : other = session
    · left
      simp [ShellServer.apply, AppState.insertBroadcast, same]
    · refine (consistent.paired other present).imp ?_ ?_
      · intro there
        simpa [ShellServer.apply, AppState.insertBroadcast, same] using there
      · rintro ⟨owner, member⟩
        exact ⟨owner, mem_other member (by simp [own])⟩
  closed other member := by
    have different : other ≠ session := by
      rintro rfl
      exact (consistent.named other fresh).2.1 member
    simpa [ShellServer.apply, AppState.insertBroadcast, different] using
      consistent.closed other member
  closing := by
    refine consistent.closing_step (List.subset_cons_self _ _) ?_ (by simp)
    intro other member absent
    have different : other ≠ session := by
      rintro rfl
      exact fresh member
    simpa [ShellServer.apply, AppState.insertBroadcast, different] using absent

/-- A step that takes a broadcast channel away from a session that is not in `shell_sessions`, or
that a task is about to remove from there. -/
theorem Consistent.broadcastRemoved (consistent : Consistent s (before ++ task :: after))
    (session : Uuid) (broadcasts : s'.app.shellBroadcasts =
      Function.update s.app.shellBroadcasts session false)
    (sessions : s'.app.shellSessions = s.app.shellSessions) (closed : s'.closed = s.closed)
    (named : s'.named = s.named)
    (opening : ∀ other, total (ShellTask.opening other) new ≤ task.opening other)
    (closing : ∀ device actions, .processing device actions ∈ new → Closing s' actions)
    (different : ∀ device other, .processing device [.removeSession other] ≠ task)
    (unbound : s.app.shellSessions session = none ∨
      ∃ device, .processing device [.removeSession session] ∈ new) :
    Consistent s' (before ++ new ++ after) where
  named other absent := by
    have old := consistent.named other (named ▸ absent)
    have fewer := opening other
    simp only [total_append, total_cons] at old ⊢
    simp only [ShellServer.bound, broadcasts, sessions, closed, Function.update_apply] at old ⊢
    refine ⟨?_, old.2.1, by omega⟩
    split
    · rfl
    · exact old.1
  once other := by
    have old := consistent.once other
    have fewer := opening other
    simp only [total_append, total_cons, ShellServer.bound, sessions] at old ⊢
    omega
  paired other present := by
    rw [sessions] at present
    by_cases same : other = session
    · subst same
      right
      rcases unbound with absent | ⟨device, member⟩
      · rw [absent] at present
        cases present
      · exact ⟨device, by simp [member]⟩
    · refine (consistent.paired other present).imp ?_ ?_
      · intro there
        rw [broadcasts, Function.update_of_ne same, there]
      · rintro ⟨device, member⟩
        exact ⟨device, mem_other member (different device other)⟩
  closed other member := by
    have old := consistent.closed other (closed ▸ member)
    rw [sessions, broadcasts, Function.update_apply]
    refine ⟨?_, old.2⟩
    split
    · rfl
    · exact old.1
  closing := by
    refine consistent.closing_step (by rw [named]; exact List.Subset.refl _) ?_ closing
    intro other _ absent
    rw [broadcasts, Function.update_apply]
    split
    · rfl
    · exact absent

/-- A step that takes a session out of `shell_sessions`, and may end the processing of its
`ShellClosed`. -/
theorem Consistent.sessionRemoved (consistent : Consistent s (before ++ task :: after))
    (session : Uuid) (broadcasts : s'.app.shellBroadcasts = s.app.shellBroadcasts)
    (sessions : s'.app.shellSessions = Function.update s.app.shellSessions session none)
    (closed : s'.closed = s.closed ∨
      s'.closed = session :: s.closed ∧ session ∈ s.named ∧ s.app.shellBroadcasts session = false)
    (named : s'.named = s.named)
    (opening : ∀ other, total (ShellTask.opening other) new = task.opening other)
    (closing : ∀ device actions, .processing device actions ∈ new → Closing s' actions)
    (different : ∀ device other, other ≠ session →
      .processing device [.removeSession other] ≠ task) :
    Consistent s' (before ++ new ++ after) := by
  have fewer (other : Uuid) : s'.bound other ≤ s.bound other := by
    simp only [ShellServer.bound, sessions, Function.update_apply]
    by_cases same : other = session <;> simp [same]
  refine ⟨?_, ?_, ?_, ?_, ?_⟩
  · intro other absent
    rw [named] at absent
    have old := consistent.named other absent
    have least := fewer other
    simp only [total_append, total_cons, opening] at old ⊢
    refine ⟨by rw [broadcasts]; exact old.1, ?_, by omega⟩
    rcases closed with same | ⟨same, own, _⟩
    · rw [same]
      exact old.2.1
    · rw [same, List.mem_cons, not_or]
      exact ⟨fun eq => absent (eq ▸ own), old.2.1⟩
  · intro other
    have old := consistent.once other
    have least := fewer other
    simp only [total_append, total_cons, opening] at old ⊢
    omega
  · intro other present
    by_cases same : other = session
    · simp [sessions, same] at present
    · rw [sessions, Function.update_of_ne same] at present
      rw [broadcasts]
      refine (consistent.paired other present).imp_right ?_
      rintro ⟨device, member⟩
      exact ⟨device, mem_other member (different device other same)⟩
  · intro other member
    rw [broadcasts, sessions, Function.update_apply]
    by_cases old : other ∈ s.closed
    · have both := consistent.closed other old
      refine ⟨both.1, ?_⟩
      split
      · rfl
      · exact both.2
    · rcases closed with same | ⟨same, _, gone⟩
      · exact absurd (same ▸ member) old
      · rw [same] at member
        rcases List.mem_cons.mp member with rfl | earlier
        · exact ⟨gone, if_pos rfl⟩
        · exact absurd earlier old
  · refine consistent.closing_step (by rw [named]; exact List.Subset.refl _) ?_ closing
    intro other _ absent
    rw [broadcasts, absent]

theorem Consistent.bound (consistent : Consistent s (before ++ task :: after)) {auth : AuthUser}
    {device session : Uuid} (own : task = .openShell auth device (.bindSession session))
    (there : s.app.shellBroadcasts session = true) (value : ShellSessionMeta) :
    Consistent (s.apply (.insertSession session value))
      (before ++ [.openShell auth device (.opened session)] ++ after) := by
  have known : session ∈ s.named := by
    by_contra absent
    have gone := (consistent.named session absent).1
    rw [there] at gone
    cases gone
  have balance (other : Uuid) : (s.apply (.insertSession session value)).bound other ≤
      s.bound other + task.opening other := by
    by_cases same : session = other
    · simp only [ShellServer.bound, own, same, ShellTask.opening, if_true]
      split <;> omega
    · simp [ShellServer.bound, ShellServer.apply, AppState.insertSession, Ne.symm same]
  refine ⟨?_, ?_, ?_, ?_, ?_⟩
  · intro other absent
    have old := consistent.named other absent
    have least := balance other
    refine ⟨old.1, old.2.1, ?_⟩
    simp only [total_append, total_cons, total_nil] at old ⊢
    have none : (ShellTask.openShell auth device (.opened session)).opening other = 0 := rfl
    omega
  · intro other
    have old := consistent.once other
    have least := balance other
    simp only [total_append, total_cons, total_nil] at old ⊢
    have none : (ShellTask.openShell auth device (.opened session)).opening other = 0 := rfl
    omega
  · intro other present
    by_cases same : other = session
    · left
      rw [same]
      exact there
    · simp only [ShellServer.apply, AppState.insertSession, Function.update_of_ne same] at present
      refine (consistent.paired other present).imp_right ?_
      rintro ⟨owner, member⟩
      exact ⟨owner, mem_other member (by simp [own])⟩
  · intro other member
    have old := consistent.closed other member
    have different : other ≠ session := by
      rintro rfl
      rw [there] at old
      cases old.1
    simpa [ShellServer.apply, AppState.insertSession, different] using old
  · exact consistent.closing_step (List.Subset.refl _) (fun _ _ absent => absent) (by simp)

theorem Consistent.acted {device : Uuid} {action : Action} {rest : List Action} {fails : Bool}
    (consistent : Consistent s (before ++ .processing device (action :: rest) :: after)) :
    Consistent (s.apply (.act device action fails))
      (before ++ [.processing device (action.follow device s.app fails ++ rest)] ++ after) := by
  have closing := consistent.closing device (action :: rest) (by simp)
  cases closing with
  | other untouched =>
      have own := untouched action List.mem_cons_self
      obtain ⟨broadcasts, sessions⟩ := Action.perform_shells own device s.app fails
      refine consistent.keep broadcasts sessions ?_ (List.Subset.refl _) (fun _ => rfl) ?_ ?_
      · cases action <;> first | rfl | cases own
      · intro owner actions member
        cases List.mem_singleton.mp member
        refine .other fun next present => ?_
        rcases List.mem_append.mp present with followed | old
        · exact Action.follow_shells device s.app fails action next followed
        · exact untouched next (List.mem_cons_of_mem _ old)
      · rintro owner session ⟨⟩
        cases own
  | relay named =>
      rename_i session event
      have untouched : (Action.relay event).touchesShells = false := rfl
      obtain ⟨broadcasts, sessions⟩ := Action.perform_shells untouched device s.app fails
      refine consistent.keep broadcasts sessions rfl (List.Subset.refl _) (fun _ => rfl) ?_ (by simp)
      intro owner actions member
      cases List.mem_singleton.mp member
      exact .broadcast named
  | broadcast named =>
      rename_i session
      have done (fails : Bool) : (Action.removeBroadcast session).perform device s.app fails =
          s.app.removeBroadcast session := by cases fails <;> rfl
      refine consistent.broadcastRemoved session ?_ ?_ rfl rfl (fun _ => Nat.le_refl _)
        ?_ (by simp) (.inr ⟨device, List.mem_singleton.mpr rfl⟩)
      · simp only [ShellServer.apply, done]
        rfl
      · simp only [ShellServer.apply, done]
        rfl
      · intro owner actions member
        cases List.mem_singleton.mp member
        refine .session named ?_
        simp [ShellServer.apply, done, AppState.removeBroadcast]
  | session named gone =>
      rename_i session
      have done (fails : Bool) : (Action.removeSession session).perform device s.app fails =
          s.app.removeSession session := by cases fails <;> rfl
      refine consistent.sessionRemoved session ?_ ?_ (.inr ⟨rfl, named, gone⟩) rfl
        (fun _ => rfl) ?_ ?_
      · simp only [ShellServer.apply, done]
        rfl
      · simp only [ShellServer.apply, done]
        rfl
      · intro owner actions member
        cases List.mem_singleton.mp member
        exact .other (by simp [Action.follow])
      · rintro owner other different ⟨⟩
        exact different rfl

theorem Consistent.step {effect : ShellEffect} {others : List ShellTask} {choice : ShellChoice}
    (consistent : Consistent s (before ++ task :: after)) (turn : ShellTurn s task effect new)
    (inTime : bindsInTime s others task choice) :
    Consistent (s.apply effect) (before ++ new ++ after) := by
  cases turn with
  | created fresh => exact consistent.created fresh rfl
  | sent | unsent =>
      exact consistent.keep rfl rfl rfl (List.Subset.refl _) (fun _ => rfl) (by simp) (by simp)
  | cleaned =>
      rename_i auth device session
      have balance := consistent.once session
      simp only [total_append, total_cons, ShellTask.opening, if_true] at balance
      have unbound : s.app.shellSessions session = none := by
        by_contra present
        have one : s.bound session = 1 := if_pos (Option.isSome_iff_ne_none.mpr present)
        omega
      exact consistent.broadcastRemoved session rfl rfl rfl rfl (fun _ => Nat.zero_le _)
        (by simp) (by simp) (.inl unbound)
  | bound => exact consistent.bound rfl inTime _
  | removed =>
      rename_i auth session
      exact consistent.sessionRemoved session rfl rfl (.inl rfl) rfl (fun _ => rfl)
        (by simp) (by simp)
  | heard =>
      rename_i device message
      refine consistent.keep rfl rfl rfl (List.subset_append_right _ _) (fun _ => rfl) ?_ (by simp)
      intro owner actions member
      cases List.mem_singleton.mp member
      rcases processAgentMessage_shells message with
        untouched | ⟨session, event, named, _, _, same⟩
      · exact .other untouched
      · rw [same]
        exact .relay (List.mem_append_left _ named)
  | acted fails => exact consistent.acted
  | quiet quiet before after ended none =>
      have spent (session : Uuid) : total (ShellTask.opening session) new = task.opening session := by
        rw [before, after]
      have closing : ∀ device actions, .processing device actions ∈ new →
          Closing (s.apply effect) actions := by
        intro device actions member
        cases none _ member
      have different : ∀ device session, .processing device [.removeSession session] ≠ task := by
        intro device session same
        cases ended device _ same.symm
      cases effect with
      | none | enqueue | register | disconnect =>
          exact consistent.keep rfl rfl rfl (List.Subset.refl _) spent closing different
      | _ => cases quiet

theorem shellStart_consistent (db : Database) : Consistent (ShellServer.start db).shared [] where
  named _ _ := ⟨rfl, by simp [ShellServer.start], rfl⟩
  once _ := Nat.zero_le _
  paired _ present := by cases present
  closed _ member := by cases member
  closing _ _ member := by cases member

theorem consistent_reached {db : Database} {config : Config ShellServer ShellTask}
    (reached : Reach shellProgram bindsInTime (ShellServer.start db) config) :
    Consistent config.shared config.tasks := by
  refine reached.invariant (fun config => Consistent config.shared config.tasks)
    (shellStart_consistent db) ?_ ?_
  · intro shared tasks task consistent request
    have spent (session : Uuid) : total (ShellTask.opening session) [task] = 0 := by
      cases task with
      | openShell auth device phase => cases phase <;> first | rfl | cases request
      | _ => rfl
    have fresh (device : Uuid) (actions : List Action) : .processing device actions ≠ task := by
      rintro rfl
      cases request
    refine ⟨?_, ?_, ?_, consistent.closed, ?_⟩
    · intro session absent
      rw [total_append, spent]
      exact consistent.named session absent
    · intro session
      rw [total_append, spent]
      exact consistent.once session
    · intro session present
      refine (consistent.paired session present).imp_right ?_
      rintro ⟨device, member⟩
      exact ⟨device, List.mem_append_left _ member⟩
    · intro device actions member
      rcases List.mem_append.mp member with old | new
      · exact consistent.closing device actions old
      · exact absurd (List.mem_singleton.mp new) (fresh device actions)
  · intro shared shared' before after new task choice consistent meets moved
    obtain ⟨⟨effect, own⟩, taken, same⟩ := Option.map_eq_some_iff.mp moved
    cases same
    exact consistent.step (ShellServer.turn_cases taken) meets

/-! ## The maps -/

theorem closed_later {guard : Guard ShellServer ShellTask ShellChoice}
    {config last : Config ShellServer ShellTask} (later : Reach shellProgram guard config last) :
    config.shared.closed ⊆ last.shared.closed := by
  refine later.invariant (fun last => config.shared.closed ⊆ last.shared.closed)
    (List.Subset.refl _) (fun _ _ _ kept _ => kept) ?_
  intro shared shared' before after new task choice kept _ moved
  obtain ⟨⟨effect, own⟩, _, same⟩ := Option.map_eq_some_iff.mp moved
  cases same
  cases effect with
  | act device action fails => exact fun session member => List.mem_append_right _ (kept member)
  | _ => exact kept

/-- No handler stands between the two removals of the session's `ShellClosed`: they follow each
other without an await. -/
def ShellSettled (session : Uuid) (tasks : List ShellTask) : Prop :=
  ∀ device, .processing device [.removeSession session] ∉ tasks

/-- The two maps together: a key of `shell_sessions` is a key of `shell_broadcasts`, and a
session whose `ShellClosed` was processed is in neither, now and at any later time. -/
structure ShellMapsAgree (guard : Guard ShellServer ShellTask ShellChoice)
    (config : Config ShellServer ShellTask) : Prop where
  paired : ∀ session, ShellSettled session config.tasks →
    (config.shared.app.shellSessions session).isSome →
      config.shared.app.shellBroadcasts session = true
  closed : ∀ session ∈ config.shared.closed, ∀ last, Reach shellProgram guard config last →
    last.shared.app.shellSessions session = none ∧ last.shared.app.shellBroadcasts session = false

theorem shell_maps_agree {db : Database} {config : Config ShellServer ShellTask}
    (reached : Reach shellProgram bindsInTime (ShellServer.start db) config) :
    ShellMapsAgree bindsInTime config where
  paired session settled present := by
    rcases (consistent_reached reached).paired session present with there | ⟨device, member⟩
    · exact there
    · exact absurd member (settled device)
  closed session member last later := by
    have both := (consistent_reached (reached.trans later)).closed session
      (closed_later later member)
    exact ⟨both.2, both.1⟩

/-! ## A session -/

/-- A session is opened on the connected device 1 and bound, and the agent closes it. -/
def openThenClosed : List (Label ShellTask ShellChoice) :=
  [.arrive (.connects (Uuid.small 1) 0), .run 0 .proceeds,
    .arrive (.openShell ⟨Uuid.small 0, "admin", "admin"⟩ (Uuid.small 1) .createBroadcast),
    .run 0 (.generates (Uuid.small 7)), .run 0 .proceeds, .run 0 .proceeds,
    .arrive (.hears (Uuid.small 1) (.shellClosed (Uuid.small 7) (some 0))),
    .run 1 .proceeds, .run 1 .proceeds, .run 1 .proceeds, .run 1 .proceeds]

/-- The agent answers before the session is bound. -/
def closedThenOpen : List (Label ShellTask ShellChoice) :=
  [.arrive (.connects (Uuid.small 1) 0), .run 0 .proceeds,
    .arrive (.openShell ⟨Uuid.small 0, "admin", "admin"⟩ (Uuid.small 1) .createBroadcast),
    .run 0 (.generates (Uuid.small 7)), .run 0 .proceeds,
    .arrive (.hears (Uuid.small 1) (.shellClosed (Uuid.small 7) (some 1))),
    .run 1 .proceeds, .run 1 .proceeds, .run 1 .proceeds, .run 1 .proceeds, .run 1 .proceeds,
    .run 0 .proceeds]

theorem shell_maps_agree_closed : ∃ config,
    Reach shellProgram bindsInTime (ShellServer.start (.ofDevices .empty)) config ∧
      config.shared.closed = [Uuid.small 7] ∧ ShellMapsAgree bindsInTime config := by
  obtain ⟨config, reached, seen⟩ := Reach.of_observed shellProgram bindsInTime
    (ShellServer.start (.ofDevices .empty)) openThenClosed (fun config => config.shared.closed)
    [Uuid.small 7] (by decide +kernel)
  exact ⟨config, reached, seen, shell_maps_agree reached⟩

theorem shell_maps_disagree : ¬ ∀ (db : Database) (config : Config ShellServer ShellTask),
    Reach shellProgram Guard.any (ShellServer.start db) config →
      ShellMapsAgree Guard.any config := by
  intro agree
  obtain ⟨config, reached, seen⟩ := Reach.of_observed shellProgram Guard.any
    (ShellServer.start (.ofDevices .empty)) closedThenOpen (fun config =>
      (config.shared.closed, config.shared.app.shellSessions (Uuid.small 7)))
    ([Uuid.small 7], some { ownerId := Uuid.small 0, deviceId := Uuid.small 1 }) (by decide +kernel)
  obtain ⟨closed, bound⟩ := Prod.mk.inj seen
  have gone := ((agree _ _ reached).closed (Uuid.small 7) (by simp [closed]) config .start).1
  rw [bound] at gone
  cases gone

end OsfmEdm
