import OsfmEdm.Api.Step

/-!
What a step of a handler does, and what it relies on between two of them: it is nothing, a step of
an admin, or the use of a shell session by the user who opened it.
-/

namespace OsfmEdm

open Interleaving Resumption

/-- What `shell_sessions` says was bound by `open_shell`, for an admin. -/
structure SessionsOpened (s : ApiServer) : Prop where
  recorded : ∀ session found, s.app.shellSessions session = some found →
    ∃ shell ∈ s.opened, shell.session = session ∧ shell.device = found.deviceId ∧
      shell.opener.userId = found.ownerId
  byAdmins : ∀ shell ∈ s.opened, shell.opener.role = "admin"

/-- What a handler relies on between two of its steps. -/
structure Relied (s now : ApiServer) : Prop where
  opened : ∀ shell ∈ s.opened, shell ∈ now.opened
  sessions : SessionsOpened now

/-- Input to an open session, or the close of it. -/
inductive OpenerActs (s : ApiServer) (shell : OpenedShell) : Route → ApiServer → Prop where
  | input (body : Api.ShellInputBody) :
      OpenerActs s shell (.sendInput shell.session body)
        (s.enqueue shell.device (.shellInput shell.session body.data))
  | close :
      OpenerActs s shell (.closeShell shell.session)
        (s.enqueue shell.device (.closeShell shell.session))
  | remove : OpenerActs s shell (.closeShell shell.session) (s.removeSession shell.session)

/-- What a step of a handler does. -/
inductive Acts (auth : AuthUser) (route : Route) (s : ApiServer) : ApiServer → Prop where
  | nothing : Acts auth route s s
  | asAdmin {after : ApiServer} (admin : auth.role = "admin")
      (relied : SessionsOpened s → Relied s after) : Acts auth route s after
  | asOpener {shell : OpenedShell} {after : ApiServer} (member : shell ∈ s.opened)
      (own : shell.opener.userId = auth.userId) (acts : OpenerActs s shell route after) :
      Acts auth route s after

/-! ## What the others leave -/

theorem Relied.refl {s : ApiServer} (sessions : SessionsOpened s) : Relied s s :=
  ⟨fun _ member => member, sessions⟩

theorem Relied.trans {s middle now : ApiServer} (first : Relied s middle)
    (second : Relied middle now) : Relied s now :=
  ⟨fun shell member => second.opened shell (first.opened shell member), second.sessions⟩

theorem Relied.of_fewer {s after : ApiServer} (sessions : SessionsOpened s)
    (opened : after.opened = s.opened)
    (fewer : ∀ session found, after.app.shellSessions session = some found →
      s.app.shellSessions session = some found) : Relied s after := by
  refine ⟨fun shell member => opened ▸ member, ?_, ?_⟩
  · intro session found bound
    rw [opened]
    exact sessions.recorded session found (fewer session found bound)
  · intro shell member
    rw [opened] at member
    exact sessions.byAdmins shell member

theorem Relied.removeSession {s : ApiServer} (sessions : SessionsOpened s) (session : Uuid) :
    Relied s (s.removeSession session) := by
  refine .of_fewer sessions rfl fun other found bound => ?_
  by_cases same : other = session
  · simp [ApiServer.removeSession, AppState.removeSession, same] at bound
  · simpa [ApiServer.removeSession, AppState.removeSession, same] using bound

theorem Relied.bindSession {s : ApiServer} {auth : AuthUser} (sessions : SessionsOpened s)
    (admin : auth.role = "admin") (session device : Uuid) :
    Relied s (s.bindSession auth session device) := by
  refine ⟨fun shell member => List.mem_cons_of_mem _ member, ?_, ?_⟩
  · intro other found bound
    by_cases same : other = session
    · simp only [ApiServer.bindSession, AppState.insertSession, same, Function.update_self,
        Option.some.injEq] at bound
      subst same bound
      exact ⟨_, List.mem_cons_self, rfl, rfl, rfl⟩
    · simp only [ApiServer.bindSession, AppState.insertSession, ne_eq, same, not_false_eq_true,
        Function.update_of_ne] at bound
      obtain ⟨shell, member, holds⟩ := sessions.recorded other found bound
      exact ⟨shell, List.mem_cons_of_mem _ member, holds⟩
  · intro shell member
    rcases List.mem_cons.mp member with same | old
    · rw [same]
      exact admin
    · exact sessions.byAdmins shell old

theorem Relied.enqueue {s : ApiServer} (sessions : SessionsOpened s) (device : Uuid)
    (message : ServerMessage) : Relied s (s.enqueue device message) :=
  .of_fewer sessions rfl fun _ _ bound => bound

theorem OpenerActs.relied {s after : ApiServer} {shell : OpenedShell} {route : Route}
    (acts : OpenerActs s shell route after) (sessions : SessionsOpened s) : Relied s after := by
  cases acts with
  | input body => exact .enqueue sessions _ _
  | close => exact .enqueue sessions _ _
  | remove => exact .removeSession sessions shell.session

theorem Acts.relied {auth : AuthUser} {route : Route} {s after : ApiServer}
    (acts : Acts auth route s after) (sessions : SessionsOpened s) : Relied s after := by
  cases acts with
  | nothing => exact .refl sessions
  | asAdmin _ relied => exact relied sessions
  | asOpener _ _ acts => exact acts.relied sessions

/-! ## The steps handlers are made of -/

variable {α β : Type} {auth : AuthUser} {route : Route}

/-- Code that acts as its user may. -/
def Acting (auth : AuthUser) (route : Route) (code : ApiHandler α) : Prop :=
  Fallible.Keeps Relied (Acts auth route) code

open ApiHandler

theorem acting_pure (value : α) : Acting auth route (pure value) := Fallible.keeps_pure value

theorem acting_throw (error : ApiError) : Acting auth route (throw error : ApiHandler α) :=
  Fallible.keeps_throw error

theorem acting_bind {code : ApiHandler α} {rest : α → ApiHandler β} (first : Acting auth route code)
    (later : ∀ value, Acting auth route (rest value)) : Acting auth route (code >>= rest) :=
  Fallible.keeps_bind first later

theorem acting_forM {items : List β} {body : β → ApiHandler Unit}
    (each : ∀ item, Acting auth route (body item)) : Acting auth route (items.forM body) :=
  Fallible.keeps_forM each

theorem acting_discard {code : ApiHandler α} (acting : Acting auth route code) :
    Acting auth route (discard code) := by
  intro state
  refine Proc.meets_bind (Proc.Meets.weaken (acting state) ?_)
  intro result final _
  cases result <;> exact fun _ _ => trivial

theorem acting_recover {value : α} {code : ApiHandler α} (acting : Acting auth route code) :
    Acting auth route (recover value code) :=
  Fallible.keeps_tryCatch acting fun _ => acting_pure value

theorem acting_check (checked : Except ApiError Unit) : Acting auth route (check checked) :=
  fun _ _ _ => trivial

theorem acting_require (condition : Bool) (error : ApiError) :
    Acting auth route (require condition error) := by
  unfold require
  split
  · exact acting_pure ()
  · exact acting_throw error

theorem acting_orThrow (error : ApiError) (value : Option α) :
    Acting auth route (orThrow error value) := by
  cases value with
  | some value => exact acting_pure value
  | none => exact acting_throw error

/-- What stands behind `require_admin` is done by an admin. -/
theorem acting_requireAdmin {rest : Unit → ApiHandler α}
    (later : auth.role = "admin" → Acting auth route (rest ())) :
    Acting auth route (Api.requireAdmin auth >>= rest) := by
  by_cases admin : auth.role = "admin"
  · exact acting_bind (acting_check _) fun _ => later admin
  · intro state
    simp only [Api.requireAdmin, AuthUser.requireAdmin, admin, if_false]
    exact fun _ _ => trivial

theorem acting_sql {chosen : ApiChoice → Option β} {run : β → ApiTables → Option (ApiTables × α)}
    (acts : ∀ value s done, run value s.tables = some done →
      Acts auth route s (s.withTables done.1)) : Acting auth route (sql chosen run) := by
  intro state now choice after _ moved
  refine ⟨?_, ?_⟩
  · cases chose : chosen choice with
    | none =>
        simp only [chose] at moved
        split at moved
        · cases moved
          exact .nothing
        · cases moved
    | some value =>
        simp only [chose, Option.some.injEq] at moved
        cases ran : run value now.tables with
        | none =>
            rw [ran] at moved
            cases moved
            exact .nothing
        | some done =>
            rw [ran] at moved
            cases moved
            exact acts value now done ran
  · dsimp only
    split <;> exact fun _ _ => trivial

theorem acting_read {run : ApiTables → Option (ApiTables × α)}
    (same : ∀ t done, run t = some done → done.1 = t) : Acting auth route (statement run) := by
  refine acting_sql fun _ s done ran => ?_
  rw [same s.tables done ran]
  exact .nothing

theorem acting_query (read : ApiTables → α) : Acting auth route (query read) := by
  refine acting_read fun t done ran => ?_
  cases ran
  rfl

theorem acts_withTables (admin : auth.role = "admin") (s : ApiServer) (t : ApiTables) :
    Acts auth route s (s.withTables t) :=
  .asAdmin admin fun sessions => .of_fewer sessions rfl fun _ _ bound => bound

theorem acting_statement (admin : auth.role = "admin")
    (run : ApiTables → Option (ApiTables × α)) : Acting auth route (statement run) :=
  acting_sql fun _ s done _ => acts_withTables admin s done.1

theorem acting_execute (admin : auth.role = "admin") (change : ApiTables → ApiTables) :
    Acting auth route (execute change) :=
  acting_statement admin _

theorem acting_insertion (admin : auth.role = "admin")
    (run : Uuid → ApiTables → Option ApiTables) : Acting auth route (insertion run) :=
  acting_sql fun _ s done _ => acts_withTables admin s done.1

theorem acting_located (admin : auth.role = "admin")
    (run : Option Nat → ApiTables → ApiTables × α) : Acting auth route (located run) :=
  acting_sql fun _ s done _ => acts_withTables admin s done.1

theorem acting_access {change : ApiServer → ApiServer} {read : ApiServer → Except ApiError α}
    (acts : ∀ s, Acts auth route s (change s)) : Acting auth route (access change read) := by
  intro state now choice after _ moved
  simp only [ite_eq_iff, Option.some.injEq, reduceCtorEq, and_false, or_false] at moved
  rw [← moved.2]
  exact ⟨acts now, fun _ _ => trivial⟩

theorem acting_generate : Acting auth route generate := by
  intro state now choice after _ moved
  cases choice <;> cases moved
  exact ⟨.nothing, fun _ _ => trivial⟩

theorem acting_sendToAgent (admin : auth.role = "admin") (device : Uuid)
    (message : ServerMessage) : Acting auth route (sendToAgent device message) := by
  intro state now choice after _ moved
  refine ⟨?_, fun _ _ => trivial⟩
  dsimp only at moved
  split at moved
  · cases moved
    exact .asAdmin admin fun sessions => .enqueue sessions device message
  · cases moved
    exact .nothing
  · cases moved
    exact .nothing
  · cases moved

end OsfmEdm
