import OsfmEdm.Api.Admins
import OsfmEdm.Api.Audit

/-!
What the audit log tells of the API: a request that is not audited changes nothing, one that is has
exactly one entry once it is answered, and the entry names the user the request acted as.
-/

namespace OsfmEdm

open Interleaving Resumption ApiHandler

/-! ## Requests that read -/

/-- The code never changes the state, whatever the others do. -/
def OnlyReads {α : Type} (code : ApiHandler α) : Prop :=
  Fallible.Keeps (fun _ _ => True) (fun s after => after = s) code

section

variable {α β : Type}

theorem onlyReads_bind {code : ApiHandler α} {rest : α → ApiHandler β} (first : OnlyReads code)
    (later : ∀ value, OnlyReads (rest value)) : OnlyReads (code >>= rest) :=
  Fallible.keeps_bind first later

theorem onlyReads_pure (value : α) : OnlyReads (pure value) := Fallible.keeps_pure value

theorem onlyReads_orThrow (error : ApiError) (value : Option α) :
    OnlyReads (orThrow error value) := by
  cases value with
  | some value => exact onlyReads_pure value
  | none => exact Fallible.keeps_throw error

theorem onlyReads_statement {run : ApiTables → Option (ApiTables × α)}
    (same : ∀ t done, run t = some done → done.1 = t) : OnlyReads (statement run) := by
  intro state now choice after _ moved
  refine ⟨?_, ?_⟩
  · dsimp only at moved
    split at moved
    · cases ran : run now.tables with
      | none =>
          rw [ran] at moved
          cases moved
          rfl
      | some done =>
          rw [ran] at moved
          cases moved
          exact congrArg now.withTables (same now.tables done ran)
    · split at moved
      · cases moved
        rfl
      · cases moved
  · dsimp only
    split <;> exact fun _ _ => trivial

theorem onlyReads_query (read : ApiTables → α) : OnlyReads (query read) := by
  refine onlyReads_statement fun t done ran => ?_
  cases ran
  rfl

theorem onlyReads_access (read : ApiServer → Except ApiError α) : OnlyReads (access id read) := by
  intro state now choice after _ moved
  simp only [ite_eq_iff, Option.some.injEq, reduceCtorEq, and_false, or_false, id_eq] at moved
  exact ⟨moved.2.symm, fun _ _ => trivial⟩

theorem onlyReads_listEvents (params : Api.ListEventsQuery) :
    OnlyReads (Api.listEvents params) := by
  refine onlyReads_statement fun t done ran => ?_
  split at ran
  · cases ran
  · cases ran
    rfl

end

/-- Route by route: what `GET` and `HEAD` reach. -/
theorem onlyReads_handler (context : ApiContext) (auth : AuthUser) {route : Route}
    (served : route.servedBy .get = true) : OnlyReads (route.handler context auth) := by
  cases route with
  | refused rejection => exact Fallible.keeps_throw rejection
  | listDevices | getTelemetry | listPolicies | listJobs | listGroups | listMembers
  | listDeviceSoftware | listRules => exact Fallible.keeps_discard (onlyReads_query _)
  | getDevice | getPolicy | getGroup | getRule =>
      exact Fallible.keeps_discard
        (onlyReads_bind (onlyReads_query _) fun value => onlyReads_orThrow _ value)
  | getJob id =>
      refine Fallible.keeps_discard (onlyReads_bind (onlyReads_query _) fun job => ?_)
      refine onlyReads_bind (onlyReads_orThrow _ job) fun job => ?_
      exact onlyReads_bind (onlyReads_query _) fun logs => onlyReads_pure _
  | devicePatchStatus | deviceCompliance =>
      exact Fallible.keeps_discard (onlyReads_bind (onlyReads_query _) fun rows => onlyReads_pure _)
  | fleetPatchSummary | fleetCompliance =>
      refine Fallible.keeps_discard (onlyReads_bind (onlyReads_query _) fun _ => ?_)
      exact onlyReads_bind (onlyReads_query _) fun _ =>
        onlyReads_bind (onlyReads_query _) fun _ => onlyReads_pure _
  | getSettings => exact onlyReads_pure ()
  | serverStatus =>
      refine Fallible.keeps_discard (onlyReads_bind (onlyReads_query _) fun _ => ?_)
      refine onlyReads_bind (onlyReads_query _) fun _ => ?_
      refine onlyReads_bind (onlyReads_query _) fun _ => ?_
      exact onlyReads_bind (onlyReads_query _) fun _ =>
        onlyReads_bind (onlyReads_query _) fun _ => onlyReads_pure _
  | streamShell session =>
      exact onlyReads_bind (onlyReads_access _) fun _ => onlyReads_access _
  | listEvents params => exact Fallible.keeps_discard (onlyReads_listEvents params)
  | _ => cases served

theorem HttpRequest.reads {request : HttpRequest} (quiet : request.method.audited = false) :
    request.route.servedBy .get = true := by
  have routed := request.routed
  cases method : request.method with
  | get => rwa [method] at routed
  | head =>
      rw [method] at routed
      cases route : request.route <;> rw [route] at routed <;> first | rfl | cases routed
  | post | patch | put | delete =>
      rw [method] at quiet
      cases quiet

/-! ## The user -/

/-- A token that is accepted at one time was accepted before: `Validation::default` checks nothing
but the signature and that the token has not expired. -/
def DecodeToken.Expires (decode : DecodeToken) : Prop :=
  ∀ early late token sub, early ≤ late → decode late token = .ok sub → decode early token = .ok sub

/-- The user that the audit layer has read is the one the request acts as, even where it looked
earlier. -/
theorem extractUserId_of_subject {decode : DecodeToken} (expires : decode.Expires)
    {early late : Nat} (order : early ≤ late) {authorization : Option HeaderValue} {user : Uuid}
    (subject : subjectOf decode late authorization = .ok user) :
    extractUserIdFromRequest decode early authorization = some user := by
  unfold subjectOf extractBearerToken at subject
  unfold extractUserIdFromRequest
  match authorization with
  | none => cases subject
  | some none => cases subject
  | some (some header) =>
      by_cases bearer : bearerScheme.isPrefixOf header.toList
      · simp only [bearer, if_true] at subject ⊢
        split at subject
        · cases subject
        · rename_i sub decoded
          cases subject
          rw [expires _ _ _ _ order decoded]
          rfl
      · simp only [bearer, Bool.false_eq_true, if_false] at subject
        cases subject

theorem authenticate_userId {s : ApiServer} {user : Uuid} {auth : AuthUser}
    (authenticated : s.authenticate user = .ok auth) : auth.userId = user := by
  unfold ApiServer.authenticate at authenticated
  split at authenticated
  · cases authenticated
  · cases authenticated
    rfl

/-! ## Changes -/

section

variable {context : ApiContext} {decode : DecodeToken} {s after : AuditServer}
  {choice : ApiChoice} {new : List AuditTask} {layer : AuditLayer}

/-- What is known of a request on its way. -/
def AuditTask.Known (decode : DecodeToken) (clock : Nat) : AuditTask → Prop
  | .extracts layer => ∃ early ≤ clock,
      layer.userId = extractUserIdFromRequest decode early layer.request.authorization
  | .handles layer auth code => layer.userId = some auth.userId ∧
      (layer.shouldAudit = false → ∀ state,
        code.Meets (fun _ _ => True) (fun s after => after = s) (fun _ _ => True) state)
  | _ => True

theorem AuditTask.Known.later {task : AuditTask} {clock now : Nat} (known : task.Known decode clock)
    (order : clock ≤ now) : task.Known decode now := by
  cases task with
  | extracts layer =>
      obtain ⟨early, before, same⟩ := known
      exact ⟨early, before.trans order, same⟩
  | handles layer auth code => exact known
  | _ => trivial

theorem known_respond (layer : AuditLayer) (status clock : Nat) :
    ∀ task ∈ AuditServer.respond layer status, task.Known decode clock := by
  intro task member
  unfold AuditServer.respond at member
  split at member
  · simp only [List.mem_cons, List.not_mem_nil, or_false] at member
    rcases member with rfl | rfl <;> trivial
  · rw [List.mem_singleton.mp member]
    trivial

theorem known_nothing (clock : Nat) : ∀ task ∈ ([] : List AuditTask), task.Known decode clock :=
  fun _ member => absurd member List.not_mem_nil

theorem known_handler {auth : AuthUser} (same : layer.userId = some auth.userId) (clock : Nat) :
    (AuditTask.handles layer auth (layer.request.route.handler context auth).run).Known decode
      clock := by
  refine ⟨same, fun quiet state => ?_⟩
  have reading := onlyReads_handler context auth (layer.request.reads quiet)
  exact Proc.Meets.weaken (reading state) fun _ _ _ => trivial

/-- A step changes nothing that the API serves, except for one on the way of a request that is
audited, under the name of its user, and what the server does elsewhere. -/
def AuditedChange (s after : AuditServer) : AuditTask → Prop
  | .handles layer auth _ =>
      layer.userId = some auth.userId ∧ (layer.shouldAudit = true ∨ after.api = s.api)
  | .elsewhere _ => True
  | _ => after.api = s.api

/-- What a step leaves. -/
structure AuditTurn (decode : DecodeToken) (s after : AuditServer) (task : AuditTask)
    (new : List AuditTask) : Prop where
  clock : s.clock ≤ after.clock
  known : ∀ next ∈ new, next.Known decode after.clock
  changes : AuditedChange s after task

theorem turn_extracts (expires : decode.Expires)
    (known : (AuditTask.extracts layer).Known decode s.clock)
    (moved : s.turn context decode choice (.extracts layer) = some (after, new)) :
    AuditTurn decode s after (.extracts layer) new := by
  obtain ⟨early, before, same⟩ := known
  simp only [AuditServer.turn] at moved
  split at moved
  · cases moved
    exact ⟨le_rfl, known_respond _ _ _, rfl⟩
  · cases moved
    exact ⟨le_rfl, known_respond _ _ _, rfl⟩
  · rename_i user subject
    split at moved
    · rename_i auth authenticated
      cases moved
      refine ⟨le_rfl, fun next member => ?_, rfl⟩
      rw [List.mem_singleton.mp member]
      refine known_handler ?_ _
      rw [same, extractUserId_of_subject expires before subject, authenticate_userId authenticated]
    · cases moved
      exact ⟨le_rfl, known_respond _ _ _, rfl⟩
  · cases moved

theorem turn_handles {auth : AuthUser} {code : Proc ApiServer ApiChoice (Except ApiError Unit)}
    (known : (AuditTask.handles layer auth code).Known decode s.clock)
    (moved : s.turn context decode choice (.handles layer auth code) = some (after, new)) :
    AuditTurn decode s after (.handles layer auth code) new := by
  obtain ⟨user, reads⟩ := known
  cases code with
  | done answer =>
      cases moved
      exact ⟨le_rfl, known_respond _ _ _, user, .inr rfl⟩
  | step move next =>
      obtain ⟨⟨api, rest⟩, advanced, same⟩ := Option.map_eq_some_iff.mp moved
      cases same
      refine ⟨le_rfl, fun task member => ?_, user, ?_⟩
      · rw [List.mem_singleton.mp member]
        refine ⟨user, fun quiet state => ?_⟩
        have meets := (Proc.Meets.advance (reads quiet s.api) trivial advanced).2
        exact meets.stable (fun _ _ => trivial) fun _ _ => trivial
      · cases audited : layer.shouldAudit with
        | true => exact .inl rfl
        | false => exact .inr (Proc.Meets.advance (reads audited s.api) trivial advanced).1

theorem audit_turn (expires : decode.Expires) {task : AuditTask}
    (known : task.Known decode s.clock)
    (moved : s.turn context decode choice task = some (after, new)) :
    AuditTurn decode s after task new := by
  cases task with
  | arrives request =>
      cases moved
      refine ⟨le_rfl, fun next member => ?_, rfl⟩
      rw [List.mem_singleton.mp member]
      exact ⟨s.clock, le_rfl, rfl⟩
  | extracts layer => exact turn_extracts expires known moved
  | handles layer auth code => exact turn_handles known moved
  | writes row =>
      simp only [AuditServer.turn] at moved
      split at moved
      · split at moved <;> cases moved <;> exact ⟨le_rfl, known_nothing _, rfl⟩
      · cases moved
        exact ⟨le_rfl, known_nothing _, rfl⟩
      · cases moved
  | responded layer status => cases moved
  | elsewhere activity =>
      cases moved
      exact ⟨le_rfl, known_nothing _, trivial⟩
  | tick =>
      cases moved
      exact ⟨Nat.le_succ _, known_nothing _, rfl⟩

variable (context) in
theorem audit_outline (expires : decode.Expires) :
    Outline (auditProgram context decode) Guard.any (fun _ => True)
      fun s task => task.Known decode s.clock where
  arrive shared task _ request := by
    cases task with
    | extracts | handles => cases request
    | _ => trivial
  step shared others task choice shared' new _ known _ _ moved :=
    ⟨trivial, (audit_turn expires known moved).known⟩
  stable shared others task choice shared' new _ known _ moved other _ holds :=
    holds.later (audit_turn expires known moved).clock

variable {tables : ApiTables}

/-- The entry of a request that was answered and is to be audited. -/
def AuditTask.entry : AuditTask → Option AuditRow
  | .responded layer status => if layer.shouldAudit then some (layer.row status) else none
  | _ => none

/-- An entry that is still to be written. -/
def AuditTask.pending : AuditTask → Option AuditRow
  | .writes row => some row
  | _ => none

@[simp] theorem entry_responded (layer : AuditLayer) (status : Nat) :
    (AuditTask.responded layer status).entry =
      if layer.shouldAudit then some (layer.row status) else none := rfl

@[simp] theorem pending_responded (layer : AuditLayer) (status : Nat) :
    (AuditTask.responded layer status).pending = none := rfl

@[simp] theorem entry_writes (row : AuditRow) : (AuditTask.writes row).entry = none := rfl

@[simp] theorem pending_writes (row : AuditRow) : (AuditTask.writes row).pending = some row := rfl

/-- A step adds to what is written, lost or pending as many entries as to what has been answered. -/
structure EntriesKept (s after : AuditServer) (task : AuditTask) (new : List AuditTask) : Prop where
  kept : ∀ row,
    after.auditLog.count row + after.lost.count row + (selected AuditTask.pending new).count row +
        (selected AuditTask.entry [task]).count row =
      s.auditLog.count row + s.lost.count row + (selected AuditTask.pending [task]).count row +
        (selected AuditTask.entry new).count row

theorem entries_respond {task : AuditTask} (entry : task.entry = none)
    (pending : task.pending = none) (layer : AuditLayer) (status : Nat) :
    EntriesKept s s task (AuditServer.respond layer status) := by
  refine ⟨fun row => ?_⟩
  unfold AuditServer.respond
  split <;> simp [*]

theorem entries_same {task next : AuditTask} (entry : next.entry = task.entry)
    (pending : next.pending = task.pending) (auditLog : after.auditLog = s.auditLog)
    (lost : after.lost = s.lost) : EntriesKept s after task [next] := by
  refine ⟨fun row => ?_⟩
  simp [entry, pending, auditLog, lost]

theorem entries_none {task : AuditTask} (entry : task.entry = none) (pending : task.pending = none)
    (auditLog : after.auditLog = s.auditLog) (lost : after.lost = s.lost) :
    EntriesKept s after task [] := by
  refine ⟨fun row => ?_⟩
  simp [entry, pending, auditLog, lost]

/-- The `INSERT` is done, or has failed. -/
theorem entries_written {row : AuditRow}
    (one : ∀ other, after.auditLog.count other + after.lost.count other =
      s.auditLog.count other + s.lost.count other + [row].count other) :
    EntriesKept s after (.writes row) [] := by
  refine ⟨fun other => ?_⟩
  simp only [selected_cons, selected_nil, pending_writes, entry_writes, Option.toList_some,
    Option.toList_none, List.append_nil, List.count_nil, one]

theorem turn_entries {task : AuditTask}
    (moved : s.turn context decode choice task = some (after, new)) :
    EntriesKept s after task new := by
  cases task with
  | arrives request =>
      cases moved
      exact entries_same rfl rfl rfl rfl
  | extracts layer =>
      simp only [AuditServer.turn] at moved
      split at moved
      · cases moved
        exact entries_respond rfl rfl _ _
      · cases moved
        exact entries_respond rfl rfl _ _
      · split at moved
        · cases moved
          exact entries_same rfl rfl rfl rfl
        · cases moved
          exact entries_respond rfl rfl _ _
      · cases moved
  | handles layer auth code =>
      cases code with
      | done answer =>
          cases moved
          exact entries_respond rfl rfl _ _
      | step move next =>
          obtain ⟨⟨api, rest⟩, _, same⟩ := Option.map_eq_some_iff.mp moved
          cases same
          exact entries_same rfl rfl rfl rfl
  | writes row =>
      simp only [AuditServer.turn] at moved
      split at moved
      · split at moved
        · cases moved
          exact entries_written fun other => by simp only [List.count_cons, List.count_nil]; omega
        · cases moved
          exact entries_written fun other => by simp only [List.count_cons, List.count_nil]; omega
      · cases moved
        exact entries_written fun other => by simp only [List.count_cons, List.count_nil]; omega
      · cases moved
  | responded layer status => cases moved
  | elsewhere activity =>
      cases moved
      exact entries_none rfl rfl rfl rfl
  | tick =>
      cases moved
      exact entries_none rfl rfl rfl rfl

/-- The requests that were answered and are to be audited have one entry each: written, lost with
its `INSERT`, or still to be written. No other entry exists. -/
theorem one_entry_each {config : Config AuditServer AuditTask}
    (reached : Reach (auditProgram context decode) Guard.any ⟨.start tables, []⟩ config) :
    (config.shared.auditLog ++ config.shared.lost ++
      selected AuditTask.pending config.tasks).Perm (selected AuditTask.entry config.tasks) := by
  rw [List.perm_iff_count]
  intro row
  simp only [List.count_append]
  refine reached.invariant (fun config =>
    config.shared.auditLog.count row + config.shared.lost.count row +
      (selected AuditTask.pending config.tasks).count row =
        (selected AuditTask.entry config.tasks).count row) rfl ?_ ?_
  · intro shared tasks task holds request
    cases task with
    | arrives | elsewhere | tick => simpa [AuditTask.pending, AuditTask.entry] using holds
    | _ => cases request
  · intro shared shared' before after new task choice holds _ moved
    have kept := (turn_entries moved).kept row
    simp only [selected_append, selected_cons, selected_nil, List.append_nil,
      List.count_append] at holds kept ⊢
    omega

end

/-! ## A new group -/

/-- The token of one user, which expires. -/
def DecodeToken.sample : DecodeToken := fun now token =>
  if token = "root" ∧ now ≤ 10 then .ok (Uuid.small 0) else .error "ExpiredSignature"

theorem DecodeToken.sample_expires : DecodeToken.sample.Expires := by
  intro early late token sub order accepted
  unfold DecodeToken.sample at accepted ⊢
  split at accepted
  · rename_i valid
    cases accepted
    exact if_pos ⟨valid.1, order.trans valid.2⟩
  · cases accepted

def postGroup : HttpRequest where
  method := .post
  path := "/api/v1/groups"
  authorization := some (some "Bearer root")
  peer := some "10.0.0.1"
  route := .createGroup { name := "laptops", description := none }
  routed := rfl

/-- The request of the last task, and what its next step makes of the groups. -/
def lastHandled (config : Config AuditServer AuditTask) : Option (Option (Nat × Nat)) :=
  match config.tasks with
  | [.handles layer auth code] =>
      some (((auditProgram sampleContext .sample).step config.shared (.handles layer auth code)
        (.generates (Uuid.small 5))).map fun move =>
          (config.shared.api.app.db.deviceGroups.rows.length,
            move.1.api.app.db.deviceGroups.rows.length))
  | _ => none

/-- The entry of a request that was answered is still to be written. -/
theorem one_entry_each_pending : ∃ config,
    Reach (auditProgram sampleContext .sample) Guard.any ⟨.start sampleTables, []⟩ config ∧
      (selected AuditTask.entry config.tasks).length = 1 ∧
      (config.shared.auditLog ++ config.shared.lost ++
        selected AuditTask.pending config.tasks).Perm (selected AuditTask.entry config.tasks) := by
  obtain ⟨config, reached, seen⟩ := Reach.of_observed (auditProgram sampleContext .sample)
    Guard.any ⟨.start sampleTables, []⟩
    [.arrive (.arrives postGroup), .run 0 .proceeds, .run 0 .proceeds,
      .run 0 (.generates (Uuid.small 5)), .run 0 .proceeds]
    (fun config => (selected AuditTask.entry config.tasks).length) 1 (by decide +kernel)
  exact ⟨config, reached, seen, one_entry_each reached⟩

end OsfmEdm
