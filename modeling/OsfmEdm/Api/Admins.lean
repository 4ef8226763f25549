import OsfmEdm.Api.Acting

/-!
Only admins act on the fleet, route by route and in every run.
-/

namespace OsfmEdm

open Interleaving Resumption ApiHandler

variable {α : Type} {auth : AuthUser} {route : Route}

/-! ## Shell sessions -/

/-- A session that `authorize_session` lets a user use. -/
def Granted (auth : AuthUser) (session : Uuid) (found : ShellSessionMeta) (s : ApiServer) : Prop :=
  auth.role = "admin" ∨ ∃ shell ∈ s.opened,
    shell.session = session ∧ shell.device = found.deviceId ∧ shell.opener.userId = auth.userId

variable {session : Uuid} {found : ShellSessionMeta} {s state : ApiServer}

theorem Granted.later {now : ApiServer} (granted : Granted auth session found s)
    (opened : ∀ shell ∈ s.opened, shell ∈ now.opened) : Granted auth session found now := by
  rcases granted with admin | ⟨shell, member, holds⟩
  · exact .inl admin
  · exact .inr ⟨shell, opened shell member, holds⟩

theorem granted_of_authorized (sessions : SessionsOpened s)
    (authorized : authorizeSession s.app session auth = .ok found) :
    Granted auth session found s := by
  unfold authorizeSession at authorized
  split at authorized
  · cases authorized
  rename_i recorded
  split at authorized
  · cases authorized
  rename_i allowed
  cases authorized
  by_cases admin : auth.role = "admin"
  · exact .inl admin
  · have own : found.ownerId = auth.userId := by
      by_contra other
      exact allowed ⟨other, by simpa [AuthUser.isAdmin] using admin⟩
    obtain ⟨shell, member, same, device, opener⟩ := sessions.recorded session found recorded
    exact .inr ⟨shell, member, same, device, opener.trans own⟩

theorem Granted.acts {after : ApiServer} (granted : Granted auth session found s)
    (relied : SessionsOpened s → Relied s after)
    (acts : ∀ opener, OpenerActs s ⟨opener, session, found.deviceId⟩ route after) :
    Acts auth route s after := by
  rcases granted with admin | ⟨⟨opener, own, device⟩, member, rfl, rfl, same⟩
  · exact .asAdmin admin relied
  · exact .asOpener member same (acts opener)

theorem meets_authorizeSession {post : ShellSessionMeta → ApiServer → Prop}
    (granted : ∀ found s, Granted auth session found s → post found s) :
    Fallible.Meets Relied (Acts auth route) post (Api.authorizeSession auth session) state := by
  intro now choice after relied moved
  simp only [ite_eq_iff, Option.some.injEq, reduceCtorEq, and_false, or_false, id_eq] at moved
  rw [← moved.2]
  exact ⟨.nothing, fun found authorized =>
    granted found now (granted_of_authorized relied.sessions authorized)⟩

theorem meets_sendToAgent {post : Bool → ApiServer → Prop} {device : Uuid}
    {message : ServerMessage}
    (acts : ∀ now, Relied state now → Acts auth route now (now.enqueue device message))
    (later : ∀ sent now, Relied state now → post sent now ∧ post sent (now.enqueue device message)) :
    Fallible.Meets Relied (Acts auth route) post (sendToAgent device message) state := by
  intro now choice after relied moved
  dsimp only at moved
  split at moved
  · cases moved
    exact ⟨acts now relied, fun sent _ => (later sent now relied).2⟩
  · cases moved
    exact ⟨.nothing, fun sent _ => (later sent now relied).1⟩
  · cases moved
    exact ⟨.nothing, fun sent _ => (later sent now relied).1⟩
  · cases moved

theorem acting_sendInput (body : Api.ShellInputBody) :
    Acting auth (.sendInput session body) (Api.sendInput auth session body) := by
  intro state
  refine Fallible.meets_bind (meets_authorizeSession fun found s granted => ?_)
  refine Fallible.meets_bind (meets_sendToAgent (fun now relied => ?_) fun sent now _ => ?_)
  · exact (granted.later relied.opened).acts (fun sessions => .enqueue sessions _ _)
      fun opener => .input body
  · exact ⟨acting_require _ _ _, acting_require _ _ _⟩

theorem meets_closed (granted : Granted auth session found s) (sent : Bool) :
    Fallible.Meets Relied (Acts auth (.closeShell session)) (fun _ _ => True)
      (do
        require sent (notConnected found.deviceId)
        access (·.removeSession session) fun _ => .ok ()) s := by
  cases sent with
  | false => exact fun _ _ => trivial
  | true =>
      intro now choice after relied moved
      simp only [ite_eq_iff, Option.some.injEq, reduceCtorEq, and_false, or_false] at moved
      rw [← moved.2]
      refine ⟨?_, fun _ _ => trivial⟩
      exact (granted.later relied.opened).acts (fun sessions => .removeSession sessions session)
        fun opener => .remove

theorem acting_closeShell : Acting auth (.closeShell session) (Api.closeShell auth session) := by
  intro state
  refine Fallible.meets_bind (meets_authorizeSession fun found s granted => ?_)
  refine Fallible.meets_bind (meets_sendToAgent (fun now relied => ?_) fun sent now relied => ?_)
  · exact (granted.later relied.opened).acts (fun sessions => .enqueue sessions _ _)
      fun opener => .close
  · have still := granted.later relied.opened
    have enqueued : Granted auth session found
        (now.enqueue found.deviceId (.closeShell session)) := still.later fun _ member => member
    exact ⟨meets_closed still sent, meets_closed enqueued sent⟩

theorem acting_streamShell : Acting auth route (Api.streamShell auth session) := by
  intro state
  refine Fallible.meets_bind (meets_authorizeSession fun found s _ => ?_)
  exact acting_access (fun s => .nothing) s

theorem acting_openShell (device : Uuid) : Acting auth route (Api.openShell auth device) := by
  refine acting_requireAdmin fun admin => acting_bind acting_generate fun session => ?_
  refine acting_bind (acting_access fun s => ?_) fun _ => ?_
  · exact .asAdmin admin fun sessions => .of_fewer sessions rfl fun _ _ bound => bound
  refine acting_bind (acting_sendToAgent admin _ _) fun sent => ?_
  cases sent with
  | true =>
      refine acting_bind (acting_access fun s => ?_) fun _ => acting_pure session
      exact .asAdmin admin fun sessions => .bindSession sessions admin session device
  | false =>
      refine acting_bind (acting_access fun s => ?_) fun _ => acting_throw _
      exact .asAdmin admin fun sessions => .of_fewer sessions rfl fun _ _ bound => bound

/-! ## The other routes -/

theorem acting_updateDevice (id : Uuid) (body : Api.UpdateDeviceRequest) :
    Acting auth route (Api.updateDevice auth id body) := by
  refine acting_requireAdmin fun admin => acting_bind (acting_query _) fun found => ?_
  refine acting_bind (acting_require _ _) fun _ => acting_bind ?_ fun _ => ?_
  · cases body.hostname with
    | none => exact acting_pure _
    | some hostname => exact acting_execute admin _
  · exact acting_bind (acting_query _) fun device => acting_orThrow _ device

theorem acting_deleteDevice (id : Uuid) : Acting auth route (Api.deleteDevice auth id) := by
  refine acting_requireAdmin fun admin => acting_bind (acting_query _) fun found => ?_
  refine acting_bind (acting_require _ _) fun _ => ?_
  refine acting_bind (acting_execute admin _) fun _ => ?_
  refine acting_bind (acting_execute admin _) fun _ => acting_access fun s => ?_
  exact .asAdmin admin fun sessions => .of_fewer sessions rfl fun _ _ bound => bound

theorem acting_pushToAgent (admin : auth.role = "admin") (device : Uuid)
    (message : ServerMessage) : Acting auth route (Api.pushToAgent device message) :=
  acting_bind (acting_sendToAgent admin device message) fun sent => acting_require sent _

theorem acting_pushPolicyToAgents (admin : auth.role = "admin") (policy : Uuid) :
    Acting auth route (Api.pushPolicyToAgents policy) := by
  refine acting_bind (acting_recover (acting_query _)) fun selected => ?_
  cases selected with
  | none => exact acting_pure ()
  | some definition =>
      refine acting_bind (acting_recover (acting_query _)) fun devices => ?_
      exact acting_forM fun device =>
        acting_bind (acting_sendToAgent admin _ _) fun _ => acting_pure _

theorem acting_updatePolicy (id : Uuid) (body : UpdatePolicyRequest) :
    Acting auth route (Api.updatePolicy auth id body) := by
  refine acting_requireAdmin fun admin => acting_bind (acting_query _) fun found => ?_
  refine acting_bind (acting_require _ _) fun _ => ?_
  refine acting_bind (acting_forM fun column => acting_execute admin _) fun _ => ?_
  refine acting_bind (acting_query _) fun policy => ?_
  refine acting_bind (acting_orThrow _ policy) fun policy => ?_
  exact acting_bind (acting_pushPolicyToAgents admin id) fun _ => acting_pure policy

theorem acting_assignPolicy (id : Uuid) (body : AssignPolicyRequest) :
    Acting auth route (Api.assignPolicy auth id body) := by
  refine acting_requireAdmin fun admin => acting_bind (acting_check _) fun _ => ?_
  exact acting_bind (acting_statement admin _) fun _ => acting_pushPolicyToAgents admin id

theorem acting_createJob (context : ApiContext) (body : Api.CreateJobRequest) :
    Acting auth route (Api.createJob context auth body) := by
  refine acting_requireAdmin fun admin => acting_bind (acting_query _) fun found => ?_
  refine acting_bind (acting_require _ _) fun _ => ?_
  refine acting_bind (acting_insertion admin _) fun job => ?_
  refine acting_bind (acting_orThrow _ _) fun payload => ?_
  refine acting_bind (acting_sendToAgent admin _ _) fun dispatched => ?_
  cases dispatched with
  | true => exact acting_bind (acting_recover (acting_execute admin _)) fun _ => acting_pure job
  | false => exact acting_pure job

theorem acting_cancelJob (id : Uuid) : Acting auth route (Api.cancelJob auth id) := by
  refine acting_requireAdmin fun admin => acting_bind (acting_query _) fun job => ?_
  refine acting_bind (acting_orThrow _ job) fun job => ?_
  refine acting_bind (acting_require _ _) fun _ => ?_
  refine acting_bind (acting_sendToAgent admin _ _) fun _ => ?_
  exact acting_recover (acting_execute admin _)

/-- The deletions of a policy, a group or a rule, and the end of an alert event. -/
theorem acting_required {code : ApiHandler Bool} {error : ApiError}
    (acting : auth.role = "admin" → Acting auth route code) :
    Acting auth route (do
      Api.requireAdmin auth
      let done ← code
      require done error) :=
  acting_requireAdmin fun admin => acting_bind (acting admin) fun done => acting_require done error

theorem acting_updateRule (id : Uuid) (body : UpdateRuleRequest) :
    Acting auth route (Api.updateRule auth id body) := by
  refine acting_requireAdmin fun admin => acting_bind (acting_query _) fun found => ?_
  refine acting_bind (acting_require _ _) fun _ => ?_
  refine acting_bind (acting_forM fun change => acting_execute admin _) fun _ => ?_
  refine acting_bind (acting_query _) fun rule => ?_
  refine acting_bind (acting_orThrow _ rule) fun rule => ?_
  split
  · exact acting_bind (acting_execute admin _) fun _ => acting_pure rule
  · exact acting_pure rule

theorem acting_createEnrollmentToken (context : ApiContext) :
    Acting auth route (Api.createEnrollmentToken context auth) := by
  refine acting_requireAdmin fun admin => acting_bind acting_generate fun token => ?_
  exact acting_bind (acting_statement admin _) fun _ => acting_pure _

theorem acting_listEvents (params : Api.ListEventsQuery) :
    Acting auth route (Api.listEvents params) := by
  refine acting_read fun t done ran => ?_
  split at ran
  · cases ran
  · cases ran
    rfl

theorem acting_handler (context : ApiContext) (auth : AuthUser) (route : Route) :
    Acting auth route (route.handler context auth) := by
  cases route with
  | refused rejection => exact acting_throw rejection
  | listDevices | getTelemetry | listPolicies | listJobs | listGroups | listMembers
  | listDeviceSoftware | listRules => exact acting_discard (acting_query _)
  | getDevice | getPolicy | getGroup | getRule =>
      exact acting_discard (acting_bind (acting_query _) fun value => acting_orThrow _ value)
  | updateDevice id body => exact acting_discard (acting_updateDevice id body)
  | deleteDevice id => exact acting_deleteDevice id
  | requestInventory id => exact acting_requireAdmin fun admin => acting_pushToAgent admin id _
  | requestTelemetry id => exact acting_requireAdmin fun admin => acting_pushToAgent admin id _
  | createPolicy | createGroup | createRule =>
      exact acting_discard (acting_requireAdmin fun admin => acting_insertion admin _)
  | updatePolicy id body => exact acting_discard (acting_updatePolicy id body)
  | deletePolicy | deleteGroup | deleteRule =>
      exact acting_required fun admin => acting_statement admin _
  | assignPolicy id body => exact acting_assignPolicy id body
  | unassignPolicy | removeMember => exact acting_requireAdmin fun admin => acting_execute admin _
  | createJob body => exact acting_discard (acting_createJob context body)
  | getJob id =>
      refine acting_discard (acting_bind (acting_query _) fun job => ?_)
      refine acting_bind (acting_orThrow _ job) fun job => ?_
      exact acting_bind (acting_query _) fun logs => acting_pure _
  | cancelJob id => exact acting_cancelJob id
  | addMember id body => exact acting_requireAdmin fun admin => acting_statement admin _
  | devicePatchStatus device =>
      exact acting_discard (acting_bind (acting_query _) fun patches => acting_pure _)
  | fleetPatchSummary | fleetCompliance =>
      refine acting_discard (acting_bind (acting_query _) fun _ => ?_)
      exact acting_bind (acting_query _) fun _ => acting_bind (acting_query _) fun _ => acting_pure _
  | deviceCompliance device =>
      exact acting_discard (acting_bind (acting_query _) fun reports => acting_pure _)
  | getSettings => exact acting_pure ()
  | serverStatus =>
      refine acting_discard (acting_bind (acting_query _) fun _ => ?_)
      refine acting_bind (acting_query _) fun _ => acting_bind (acting_query _) fun _ => ?_
      exact acting_bind (acting_query _) fun _ => acting_bind (acting_query _) fun _ => acting_pure _
  | openShell device => exact acting_discard (acting_openShell device)
  | closeShell session => exact acting_closeShell
  | sendInput session body => exact acting_sendInput body
  | streamShell session => exact acting_streamShell
  | updateRule id body => exact acting_discard (acting_updateRule id body)
  | listEvents params => exact acting_discard (acting_listEvents params)
  | resolveEvent id => exact acting_required fun admin => acting_located admin _
  | createEnrollmentToken => exact acting_discard (acting_createEnrollmentToken context)

/-! ## Runs -/

/-- The code of a task that has begun. -/
def ApiTask.Acting (s : ApiServer) : ApiTask → Prop
  | .runs auth route code =>
      Fallible.Meets Relied (Acts auth route) (fun (_ : Unit) _ => True) code s
  | _ => True

theorem sessionsOpened_start (tables : ApiTables) : SessionsOpened (.start tables) :=
  ⟨fun _ _ found => (nomatch found), fun _ member => absurd member List.not_mem_nil⟩

theorem runs_step {context : ApiContext} {s after : ApiServer} {choice : ApiChoice}
    {new : List ApiTask} {code : Proc ApiServer ApiChoice (Except ApiError Unit)}
    (sessions : SessionsOpened s) (acting : (ApiTask.runs auth route code).Acting s)
    (moved : s.turn context choice (.runs auth route code) = some (after, new)) :
    Acts auth route s after ∧ ∀ task ∈ new, task.Acting after := by
  cases code with
  | done answer =>
      cases moved
      exact ⟨.nothing, fun task member => by rw [List.mem_singleton.mp member]; trivial⟩
  | step move next =>
      obtain ⟨⟨own, rest⟩, advanced, same⟩ := Option.map_eq_some_iff.mp moved
      cases same
      obtain ⟨acts, later⟩ := Proc.Meets.advance acting (.refl sessions) advanced
      exact ⟨acts, fun task member => by rw [List.mem_singleton.mp member]; exact later⟩

theorem elsewhere_relied {s : ApiServer} (sessions : SessionsOpened s) (activity : Activity) :
    Relied s (activity.change s) :=
  .of_fewer sessions (activity.keeps_opened s) (activity.opens_none s)

/-- Every step leaves what the others rely on. -/
theorem step_relied {context : ApiContext} {s after : ApiServer} {choice : ApiChoice}
    {task : ApiTask} {new : List ApiTask} (sessions : SessionsOpened s) (acting : task.Acting s)
    (moved : s.turn context choice task = some (after, new)) :
    Relied s after ∧ ∀ task ∈ new, task.Acting after := by
  cases task with
  | arrives user route =>
      simp only [ApiServer.turn] at moved
      split at moved
      · split at moved
        · cases moved
          refine ⟨.refl sessions, fun task member => ?_⟩
          rw [List.mem_singleton.mp member]
          exact acting_handler context _ route s
        · cases moved
          exact ⟨.refl sessions, fun task member => by rw [List.mem_singleton.mp member]; trivial⟩
      · cases moved
        exact ⟨.refl sessions, fun task member => by rw [List.mem_singleton.mp member]; trivial⟩
      · cases moved
  | runs auth route code =>
      obtain ⟨acts, later⟩ := runs_step sessions acting moved
      exact ⟨acts.relied sessions, later⟩
  | elsewhere activity =>
      cases moved
      exact ⟨elsewhere_relied sessions activity, fun _ member => nomatch member⟩
  | answered answer => cases moved

theorem ApiTask.Acting.stable {s now : ApiServer} {task : ApiTask} (acting : task.Acting s)
    (relied : Relied s now) : task.Acting now := by
  cases task with
  | runs auth route code =>
      exact Proc.Meets.stable acting (fun _ later => relied.trans later) fun _ holds => holds
  | _ => trivial

theorem acting_outline (context : ApiContext) :
    Outline (apiProgram context) Guard.any SessionsOpened fun s task => task.Acting s where
  arrive shared task _ request := by
    cases task with
    | runs auth route code => cases request
    | _ => trivial
  step shared others task choice shared' new sessions acting _ _ moved := by
    obtain ⟨relied, later⟩ := step_relied sessions acting moved
    exact ⟨relied.sessions, later⟩
  stable shared others task choice shared' new sessions acting _ moved other _ holds :=
    holds.stable (step_relied sessions acting moved).1

/-- A request has the role its user has in the table when it arrives, and keeps it. Without the role
of an admin its steps are nothing but the use of a shell session its user opened as an admin. -/
def OnlyAdminsAct (s : ApiServer) (task : ApiTask) (after : ApiServer) (new : List ApiTask) :
    Prop :=
  match task with
  | .arrives user _ =>
      after = s ∧ ∀ auth route code, .runs auth route code ∈ new →
        auth.userId = user ∧ (s.users.find? user).map (·.role) = some auth.role
  | .runs auth route _ =>
      (∀ other kind code, .runs other kind code ∈ new → other = auth ∧ kind = route) ∧
        (auth.role = "admin" ∨ after = s ∨
          ∃ shell ∈ s.opened, shell.opener.role = "admin" ∧ shell.opener.userId = auth.userId ∧
            OpenerActs s shell route after)
  | _ => ∀ auth route code, .runs auth route code ∉ new

theorem arrives_step {context : ApiContext} {s after : ApiServer} {choice : ApiChoice} {user : Uuid}
    {new : List ApiTask} (moved : s.turn context choice (.arrives user route) = some (after, new)) :
    OnlyAdminsAct s (.arrives user route) after new := by
  simp only [ApiServer.turn] at moved
  split at moved
  · split at moved
    · rename_i auth authenticated
      cases moved
      refine ⟨rfl, fun other _ _ member => ?_⟩
      cases List.mem_singleton.mp member
      simp only [ApiServer.authenticate] at authenticated
      split at authenticated
      · cases authenticated
      · rename_i row found
        cases authenticated
        exact ⟨rfl, by rw [found]; rfl⟩
    · cases moved
      exact ⟨rfl, fun _ _ _ member => by cases List.mem_singleton.mp member⟩
  · cases moved
    exact ⟨rfl, fun _ _ _ member => by cases List.mem_singleton.mp member⟩
  · cases moved

theorem runs_same {context : ApiContext} {s after : ApiServer} {choice : ApiChoice}
    {new : List ApiTask} {code rest : Proc ApiServer ApiChoice (Except ApiError Unit)}
    {other : AuthUser} {kind : Route}
    (moved : s.turn context choice (.runs auth route code) = some (after, new))
    (member : .runs other kind rest ∈ new) : other = auth ∧ kind = route := by
  cases code with
  | done answer =>
      cases moved
      cases List.mem_singleton.mp member
  | step move next =>
      obtain ⟨⟨own, later⟩, _, same⟩ := Option.map_eq_some_iff.mp moved
      cases same
      cases List.mem_singleton.mp member
      exact ⟨rfl, rfl⟩

theorem only_admins_act {context : ApiContext} {tables : ApiTables} {shared after : ApiServer}
    {before rest new : List ApiTask} {task : ApiTask} {choice : ApiChoice}
    (reached : Reach (apiProgram context) Guard.any ⟨.start tables, []⟩
      ⟨shared, before ++ task :: rest⟩)
    (moved : (apiProgram context).step shared task choice = some (after, new)) :
    OnlyAdminsAct shared task after new := by
  have holds := (acting_outline context).holds
    ⟨sessionsOpened_start tables, fun _ member => absurd member List.not_mem_nil⟩ reached
  cases task with
  | arrives user route => exact arrives_step moved
  | runs auth route code =>
      refine ⟨fun other kind rest member => runs_same moved member, ?_⟩
      have acting := holds.tasks (.runs auth route code) (by simp)
      rcases (runs_step holds.shared acting moved).1 with _ | ⟨admin, _⟩ | ⟨member, own, acts⟩
      · exact .inr (.inl rfl)
      · exact .inl admin
      · exact .inr (.inr ⟨_, member, holds.shared.byAdmins _ member, own, acts⟩)
  | elsewhere activity =>
      cases moved
      exact fun _ _ _ member => absurd member List.not_mem_nil
  | answered answer => cases moved

/-! ## Two users -/

def sampleContext : ApiContext where
  crypto := .sample
  jobSigner := none
  decodeError _ := ""
  hexSha256 := id

def accountOf (username role : String) : UserRow where
  username
  passwordHash := ""
  totpSecret := none
  totpEnabled := false
  role
  lastLogin := none

def sampleTables : ApiTables where
  db := .ofDevices .empty
  users :=
    ⟨[(Uuid.small 0, accountOf "root" "admin"), (Uuid.small 2, accountOf "guest" "viewer")],
      by decide⟩
  hostnames := .empty
  enrollmentTokens := .empty

def guest : AuthUser := ⟨Uuid.small 2, "guest", "viewer"⟩

def adminsOnly : ApiError :=
  .forbidden "User 'guest' (role: viewer) does not have admin privileges"

/-- A viewer who asks for the revocation of a device. -/
theorem only_admins_act_viewer :
    OnlyAdminsAct (.start sampleTables)
      (.runs guest (.deleteDevice (Uuid.small 1)) (.done (.error adminsOnly)))
      (.start sampleTables) [.answered (.error adminsOnly)] := by
  have arrived : Reach (apiProgram sampleContext) Guard.any ⟨.start sampleTables, []⟩
      ⟨.start sampleTables, [] ++ .arrives (Uuid.small 2) (.deleteDevice (Uuid.small 1)) :: []⟩ :=
    .arrive .start rfl
  have begun : (apiProgram sampleContext).step (.start sampleTables)
      (.arrives (Uuid.small 2) (.deleteDevice (Uuid.small 1))) .proceeds =
        some (.start sampleTables,
          [.runs guest (.deleteDevice (Uuid.small 1)) (.done (.error adminsOnly))]) := rfl
  have running : Reach (apiProgram sampleContext) Guard.any ⟨.start sampleTables, []⟩
      ⟨.start sampleTables,
        [] ++ .runs guest (.deleteDevice (Uuid.small 1)) (.done (.error adminsOnly)) :: []⟩ :=
    arrived.run trivial begun
  have answered : (apiProgram sampleContext).step (.start sampleTables)
      (.runs guest (.deleteDevice (Uuid.small 1)) (.done (.error adminsOnly))) .proceeds =
        some (.start sampleTables, [.answered (.error adminsOnly)]) := rfl
  exact only_admins_act running answered

/-- What nobody but an admin changes: the messages to the agents, the tables, the shell maps. -/
def FleetUnchanged (s after : ApiServer) : Prop :=
  after.enqueued = s.enqueued ∧ after.tables = s.tables ∧
    after.app.shellSessions = s.app.shellSessions ∧
    after.app.shellBroadcasts = s.app.shellBroadcasts

/-- An admin opens a shell, is demoted, and sends input to it. -/
def demotedOpener : List (Label ApiTask ApiChoice) :=
  [.arrive (.elsewhere (.register (Uuid.small 1) 0)), .run 0 .proceeds,
    .arrive (.arrives (Uuid.small 0) (.openShell (Uuid.small 1))), .run 0 .proceeds,
    .run 0 (.generates (Uuid.small 7)), .run 0 .proceeds, .run 0 .proceeds, .run 0 .proceeds,
    .run 0 .proceeds,
    .arrive (.elsewhere (.setRole (Uuid.small 0) "viewer")), .run 1 .proceeds,
    .arrive (.arrives (Uuid.small 0) (.sendInput (Uuid.small 7) ⟨"reboot\n"⟩)), .run 1 .proceeds,
    .run 1 .proceeds]

/-- The role of the last request, and the messages before and after its next step. -/
def lastRequest (config : Config ApiServer ApiTask) : Option (String × Option (Nat × Nat)) :=
  match config.tasks with
  | [.answered _, .runs auth route code] =>
      some (auth.role,
        ((apiProgram sampleContext).step config.shared (.runs auth route code) .proceeds).map
          fun move => (config.shared.enqueued.length, move.1.enqueued.length))
  | _ => none

theorem demoted_opener_acts : ¬ ∀ (context : ApiContext) (tables : ApiTables)
    (shared after : ApiServer) (before rest new : List ApiTask) (auth : AuthUser) (route : Route)
    (code : Proc ApiServer ApiChoice (Except ApiError Unit)) (choice : ApiChoice),
    Reach (apiProgram context) Guard.any ⟨.start tables, []⟩
      ⟨shared, before ++ .runs auth route code :: rest⟩ →
    (apiProgram context).step shared (.runs auth route code) choice = some (after, new) →
    auth.role ≠ "admin" → FleetUnchanged shared after := by
  intro unchanged
  obtain ⟨⟨shared, tasks⟩, reached, seen⟩ := Reach.of_observed (apiProgram sampleContext) Guard.any
    ⟨.start sampleTables, []⟩ demotedOpener lastRequest (some ("viewer", some (1, 2)))
    (by decide +kernel)
  unfold lastRequest at seen
  split at seen
  · rename_i answer auth route code same
    simp only at same
    subst same
    obtain ⟨role, stepped⟩ := Prod.mk.inj (Option.some.inj seen)
    obtain ⟨⟨after, new⟩, moved, lengths⟩ := Option.map_eq_some_iff.mp stepped
    obtain ⟨first, second⟩ := Prod.mk.inj lengths
    have kept := (unchanged sampleContext sampleTables shared after [.answered answer] [] new auth
      route code .proceeds reached moved (by rw [role]; decide)).1
    rw [kept, first] at second
    cases second
  · cases seen

end OsfmEdm
