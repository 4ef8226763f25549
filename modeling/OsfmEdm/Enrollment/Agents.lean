import OsfmEdm.Agent.Config
import OsfmEdm.Enrollment.Tokens
import OsfmEdm.Library.Utf8Reader
import OsfmEdm.Server.AgentHub

/-!
Agents and their server: enrollments, the starts and crashes of any number of agents, restarts of
the server with another configuration, and revocations, in any order. An agent's connection is taken
to lead to the server.
-/

namespace OsfmEdm

open Files Interleaving JsonText Utf8Lossy

/-- What an answer holds beside the device: the CA, `SERVER_URL` and the signer's public key. -/
structure Site where
  caPem : String
  serverUrl : String
  signingPubkey : String

structure AgentHost where
  dir : ConfigDir
  running : Option AgentConfig

/-- `answers` are what `enroll_device` has answered, `revoked` the devices that were deleted. -/
structure EnrollWorld where
  server : EnrollServer
  site : Site
  answers : List EnrollData
  revoked : List Uuid
  hosts : Nat → AgentHost

inductive AgentTask where
  | server (task : EnrollTask)
  | restart (site : Site)
  | revoke (device : Uuid)
  | start (host : Nat) (cli : Cli) (readError : Option String)
  | stop (host : Nat)

/-- A start takes an answer by its number, if it gets one, and may die. -/
inductive AgentChoice where
  | server (choice : EnrollChoice)
  | goes
  | starts (answer : Option Nat) (dies : Option Nat)

/-- What the credential of a device is checked against. -/
def EnrollServer.credentialOf (s : EnrollServer) (device : Uuid) : Option String :=
  (s.devices.find? device).bind (·.authTokenHash)

/-- `UPDATE devices SET auth_token_hash = NULL … WHERE id = $1` in `delete_device`. -/
def EnrollServer.dropCredential (s : EnrollServer) (device : Uuid) : EnrollServer :=
  { s with devices := s.devices.update device fun row => { row with authTokenHash := none } }

def Site.answer (site : Site) (response : EnrollResponse) : EnrollData where
  deviceId := response.deviceId
  certPem := response.certPem
  keyPem := response.keyPem
  caPem := site.caPem
  serverUrl := site.serverUrl
  deviceToken := response.deviceToken
  serverSigningPubkey := site.signingPubkey

/-- The answer of a request that has just succeeded. -/
def Site.answersOf (site : Site) : List EnrollTask → List EnrollData
  | [.enroll _ (.enrolled response)] => [site.answer response]
  | _ => []

namespace EnrollWorld

def setHost (w : EnrollWorld) (host : Nat) (state : AgentHost) : EnrollWorld :=
  { w with hosts := Function.update w.hosts host state }

def reply (w : EnrollWorld) (answer : Option Nat) : Except String EnrollData :=
  match answer.bind (w.answers[·]?) with
  | some data => .ok data
  | none => .error "Server error"

variable (hexSha256 : String → String) (crates : ConfigCrates) (tls : TlsCrates)

def turn (w : EnrollWorld) (choice : AgentChoice) :
    AgentTask → Option (EnrollWorld × List AgentTask)
  | .server task =>
      match choice with
      | .server choice =>
          (w.server.turn hexSha256 choice task).map fun (server, new) =>
            ({ w with server, answers := w.answers ++ w.site.answersOf new }, new.map .server)
      | _ => none
  | .restart site => some ({ w with site }, [])
  | .revoke device =>
      if w.server.devices.contains device then
        some ({ w with
                server := w.server.dropCredential device
                revoked := device :: w.revoked }, [])
      else some (w, [])
  | .start host cli readError =>
      match choice, (w.hosts host).running with
      | .starts answer dies, none =>
          let dir := (w.hosts host).dir
          match startAgent crates tls dir readError cli (w.reply answer), dies with
          | .error _, _ => some (w, [])
          | .ok (config, writes), none =>
              some (w.setHost host { dir := dir.store writes, running := some config }, [])
          | .ok (_, writes), some left =>
              some (w.setHost host { dir := dir.cutOff writes left, running := none }, [])
      | _, _ => none
  | .stop host => some (w.setHost host { w.hosts host with running := none }, [])

end EnrollWorld

def AgentTask.request : AgentTask → Bool
  | .server task => task.request
  | _ => true

def agentsProgram (hexSha256 : String → String) (crates : ConfigCrates) (tls : TlsCrates) :
    Program EnrollWorld AgentTask AgentChoice where
  request := AgentTask.request
  step w task choice := w.turn hexSha256 crates tls choice task

/-- Agents that have not enrolled, and any server. -/
structure AgentsStart (config : Config EnrollWorld AgentTask) : Prop where
  tasks : config.tasks = []
  answers : config.shared.answers = []
  dirs : ∀ host, (config.shared.hosts host).dir .configToml = none
  running : ∀ host, (config.shared.hosts host).running = none

/-! ## Credentials -/

section

variable {hexSha256 : String → String} {s s' : EnrollServer} {device : Uuid} {hash : String}

theorem credentialOf_dropCredential {other : Uuid} (different : device ≠ other) :
    (s.dropCredential other).credentialOf device = s.credentialOf device := by
  simp [EnrollServer.credentialOf, EnrollServer.dropCredential, different]

theorem credentialOf_inserted {body : EnrollRequest} {tokenHash : String}
    (done : s.insertDevice device body hash tokenHash = some s') :
    s'.credentialOf device = some hash := by
  obtain ⟨devices, inserted, rfl⟩ := Option.map_eq_some_iff.mp done
  simp only [EnrollServer.credentialOf, Table.find?_insert inserted, if_true, Option.bind_some]

theorem credentialOf_insertDevice {own : Uuid} {body : EnrollRequest} {ownHash tokenHash : String}
    (done : s.insertDevice own body ownHash tokenHash = some s')
    (credential : s.credentialOf device = some hash) : s'.credentialOf device = some hash := by
  obtain ⟨devices, inserted, rfl⟩ := Option.map_eq_some_iff.mp done
  have absent := Table.insert_absent inserted
  have different : device ≠ own := by
    intro same
    rw [EnrollServer.credentialOf, same, absent] at credential
    cases credential
  simp only [EnrollServer.credentialOf, Table.find?_insert inserted, if_neg different]
  exact credential

/-- The credential of the device that a request has inserted. -/
def EnrollTask.credential (hexSha256 : String → String) : EnrollTask → Option (Uuid × String)
  | .enroll _ (.issueCert device deviceToken) | .enroll _ (.insertCertificate device deviceToken _)
  | .enroll _ (.markUsed device deviceToken _) => some (device, hexSha256 deviceToken)
  | .enroll _ (.enrolled response) => some (response.deviceId, hexSha256 response.deviceToken)
  | _ => none

theorem credentialOf_same (same : s'.devices = s.devices) (device : Uuid) :
    s'.credentialOf device = s.credentialOf device := by
  unfold EnrollServer.credentialOf
  rw [same]

/-- What a step leaves: every credential, and the one a request goes on with. -/
structure KeepsCredentials (hexSha256 : String → String) (s s' : EnrollServer)
    (task : EnrollTask) (new : List EnrollTask) : Prop where
  kept : ∀ device hash, s.credentialOf device = some hash → s'.credentialOf device = some hash
  own : ∀ next ∈ new, ∀ own, next.credential hexSha256 = some own →
    task.credential hexSha256 = some own ∨ s'.credentialOf own.1 = some own.2

theorem KeepsCredentials.of_same {task : EnrollTask} {new : List EnrollTask}
    (same : s'.devices = s.devices)
    (goesOn : ∀ next ∈ new, ∀ own, next.credential hexSha256 = some own →
      task.credential hexSha256 = some own) : KeepsCredentials hexSha256 s s' task new where
  kept device _ credential := (credentialOf_same same device).trans credential
  own next member own credential := .inl (goesOn next member own credential)

variable {body : EnrollRequest} {phase : EnrollDevice}

theorem KeepsCredentials.ends {task next : EnrollTask} (same : s'.devices = s.devices)
    (none : next.credential hexSha256 = none) : KeepsCredentials hexSha256 s s' task [next] :=
  .of_same same fun other member own credential => by
    rw [List.mem_singleton.mp member, none] at credential
    cases credential

theorem KeepsCredentials.goesOn {task next : EnrollTask} (same : s'.devices = s.devices)
    (goesOn : next.credential hexSha256 = task.credential hexSha256) :
    KeepsCredentials hexSha256 s s' task [next] :=
  .of_same same fun other member own credential => by
    rw [List.mem_singleton.mp member, goesOn] at credential
    exact credential

theorem enrollDevice_credential {choice : EnrollChoice} {next : EnrollDevice}
    (moved : s.enrollDevice hexSha256 body choice phase = some (s', next)) :
    KeepsCredentials hexSha256 s s' (.enroll body phase) [.enroll body next] := by
  cases phase with
  | selectToken =>
      simp only [EnrollServer.enrollDevice] at moved
      repeat' split at moved
      all_goals
        cases moved
        try exact .ends rfl rfl
  | insertDevice =>
      simp only [EnrollServer.enrollDevice] at moved
      split at moved
      · obtain ⟨stored, done, same⟩ := Option.map_eq_some_iff.mp moved
        cases same
        refine ⟨fun _ _ => credentialOf_insertDevice done, fun other member own credential => ?_⟩
        cases List.mem_singleton.mp member
        cases credential
        exact .inr (credentialOf_inserted done)
      · cases moved
        exact .ends rfl rfl
      · cases moved
  | issueCert device deviceToken =>
      simp only [EnrollServer.enrollDevice] at moved
      split at moved
      · cases moved
        exact .ends rfl rfl
      split at moved
      · cases moved
        exact .goesOn rfl rfl
      · cases moved
        exact .ends rfl rfl
      · cases moved
  | insertCertificate device deviceToken issued =>
      simp only [EnrollServer.enrollDevice] at moved
      split at moved
      · split at moved
        · rename_i stored
          cases moved
          exact .goesOn (insertCertificate_frame stored).1 rfl
        · cases moved
          exact .ends rfl rfl
      · cases moved
        exact .ends rfl rfl
      · cases moved
  | markUsed device deviceToken issued =>
      simp only [EnrollServer.enrollDevice] at moved
      split at moved
      · cases moved
        exact .goesOn rfl rfl
      · cases moved
        exact .ends rfl rfl
      · cases moved
  | enrolled _ | refused _ | abandoned _ _ => cases moved

theorem createToken_devices {auth : AuthUser} {choice : EnrollChoice} {new : List EnrollTask}
    (moved : s.createToken hexSha256 auth choice = some (s', new)) :
    s'.devices = s.devices ∧ ∃ answer, new = [.createToken auth (some answer)] := by
  unfold EnrollServer.createToken at moved
  split at moved
  · cases moved
    exact ⟨rfl, _, rfl⟩
  · split at moved
    · rename_i stored
      cases moved
      exact ⟨(used_insertToken "" stored).2.1, _, rfl⟩
    · cases moved
      exact ⟨rfl, _, rfl⟩
  · cases moved
    exact ⟨rfl, _, rfl⟩
  · cases moved

theorem turn_credential {task : EnrollTask} {choice : EnrollChoice} {new : List EnrollTask}
    (moved : s.turn hexSha256 choice task = some (s', new)) :
    KeepsCredentials hexSha256 s s' task new := by
  cases task with
  | createToken auth answer =>
      cases answer with
      | none =>
          obtain ⟨same, answer, rfl⟩ := createToken_devices moved
          exact .ends same rfl
      | some answer => cases moved
  | enroll body phase =>
      obtain ⟨⟨stored, next⟩, done, same⟩ := Option.map_eq_some_iff.mp moved
      cases same
      exact enrollDevice_credential done
  | clock =>
      cases moved
      exact .of_same rfl fun _ member => nomatch member

/-! ## The system -/

/-- The credential of a device that has not been deleted is the one it was given. -/
def EnrollWorld.Stands (w : EnrollWorld) (own : Uuid × String) : Prop :=
  own.1 ∉ w.revoked → w.server.credentialOf own.1 = some own.2

/-- The request goes on with a credential that stands. -/
def AgentTask.Stands (hexSha256 : String → String) (w : EnrollWorld) : AgentTask → Prop
  | .server task => ∀ own, task.credential hexSha256 = some own → w.Stands own
  | _ => True

/-- A configuration on a host comes with the files of its answer, and is what runs. -/
structure Configured (crates : ConfigCrates) (w : EnrollWorld) (host : AgentHost) : Prop where
  files : ∀ content, host.dir .configToml = some content →
    ∃ data ∈ w.answers, ∃ text, EnrolledFiles crates data content text host.dir
  running : ∀ config, host.running = some config →
    ∃ content, host.dir .configToml = some content ∧ crates.fromStr content = .ok config

structure AgentsKnown (hexSha256 : String → String) (crates : ConfigCrates) (w : EnrollWorld) :
    Prop where
  answers : ∀ data ∈ w.answers, w.Stands (data.deviceId, hexSha256 data.deviceToken)
  hosts : ∀ host, Configured crates w (w.hosts host)

variable {crates : ConfigCrates} {tls : TlsCrates} {w w' : EnrollWorld}

theorem Configured.later {host : AgentHost} (configured : Configured crates w host)
    (answers : ∀ data ∈ w.answers, data ∈ w'.answers) : Configured crates w' host where
  files content found := by
    obtain ⟨data, member, text, files⟩ := configured.files content found
    exact ⟨data, answers data member, text, files⟩
  running := configured.running

/-- What a step leaves of the others: credentials and answers stay, unless a device is deleted. -/
structure WorldLeft (w w' : EnrollWorld) : Prop where
  stands : ∀ own, w.Stands own → w'.Stands own
  answers : ∀ data ∈ w.answers, data ∈ w'.answers

theorem WorldLeft.stable {task : AgentTask} (left : WorldLeft w w')
    (stands : task.Stands hexSha256 w) : task.Stands hexSha256 w' := by
  cases task with
  | server task => exact fun own same => left.stands own (stands own same)
  | _ => trivial

/-- A host that starts: what its directory and its configuration are afterwards. -/
theorem configured_start {host : AgentHost} {answer : Option Nat} {config : AgentConfig}
    {writes : List (FileWrite ConfigFile UInt8)} (configured : Configured crates w host)
    (starts : Starts crates host.dir (w.reply answer) config writes) :
    Configured crates w { dir := host.dir.store writes, running := some config } ∧
      ∀ left, Configured crates w { dir := host.dir.cutOff writes left, running := none } := by
  have known : ∀ data, w.reply answer = .ok data → data ∈ w.answers := by
    intro data same
    unfold EnrollWorld.reply at same
    split at same
    · rename_i found
      cases same
      obtain ⟨number, _, at'⟩ := Option.bind_eq_some_iff.mp found
      exact List.mem_of_getElem? at'
    · cases same
  cases found : host.dir .configToml with
  | some content =>
      have complete := starts.completes
      refine ⟨⟨?_, ?_⟩, fun left => ⟨?_, nofun⟩⟩
      · rw [complete.1 content found]
        exact configured.files
      · intro other same
        cases same
        exact complete.2.2
      · rw [(starts.leaves left).1 content found]
        exact configured.files
  | none =>
      have complete := starts.completes
      obtain ⟨data, text, answered, files⟩ := complete.2.1 found
      refine ⟨⟨fun content at' => ?_, ?_⟩, fun left => ⟨fun content at' => ?_, nofun⟩⟩
      · cases files.configToml.symm.trans at'
        exact ⟨data, known data answered, text, files⟩
      · intro other same
        cases same
        exact complete.2.2
      · obtain ⟨own, text, answered, files⟩ := (starts.leaves left).2 found content at'
        exact ⟨own, known own answered, text, files⟩

variable (hexSha256) in
theorem mem_answersOf {site : Site} {new : List EnrollTask} {data : EnrollData}
    (member : data ∈ site.answersOf new) : ∃ next ∈ new,
      next.credential hexSha256 = some (data.deviceId, hexSha256 data.deviceToken) := by
  unfold Site.answersOf at member
  split at member
  · rename_i body response
    cases List.mem_singleton.mp member
    exact ⟨_, List.mem_cons_self, rfl⟩
  · cases member

theorem setHost_same (w : EnrollWorld) (host : Nat) (state : AgentHost) :
    (w.setHost host state).hosts host = state :=
  Function.update_self ..

theorem setHost_other (w : EnrollWorld) {host other : Nat} (different : other ≠ host)
    (state : AgentHost) : (w.setHost host state).hosts other = w.hosts other :=
  Function.update_of_ne different ..

theorem AgentsKnown.setHost (known : AgentsKnown hexSha256 crates w) {host : Nat}
    {state : AgentHost} (configured : Configured crates w state) :
    AgentsKnown hexSha256 crates (w.setHost host state) where
  answers := known.answers
  hosts other := by
    by_cases same : other = host
    · rw [same, setHost_same]
      exact configured.later fun _ member => member
    · rw [setHost_other w same]
      exact (known.hosts other).later fun _ member => member

theorem worldLeft_refl (w : EnrollWorld) : WorldLeft w w := ⟨fun _ own => own, fun _ own => own⟩

theorem worldLeft_setHost (w : EnrollWorld) (host : Nat) (state : AgentHost) :
    WorldLeft w (w.setHost host state) :=
  ⟨fun _ own => own, fun _ own => own⟩

/-- What a step leaves of the world, and what its task becomes. -/
structure WorldTurn (hexSha256 : String → String) (crates : ConfigCrates) (w w' : EnrollWorld)
    (new : List AgentTask) : Prop where
  known : AgentsKnown hexSha256 crates w'
  left : WorldLeft w w'
  stands : ∀ task ∈ new, task.Stands hexSha256 w'

theorem server_turn {task : EnrollTask} {choice : EnrollChoice} {server : EnrollServer}
    {new : List EnrollTask} (known : AgentsKnown hexSha256 crates w)
    (stands : (AgentTask.server task).Stands hexSha256 w)
    (moved : w.server.turn hexSha256 choice task = some (server, new)) :
    WorldTurn hexSha256 crates w
      { w with server, answers := w.answers ++ w.site.answersOf new } (new.map .server) := by
  have keeps := turn_credential moved
  have left : WorldLeft w { w with server, answers := w.answers ++ w.site.answersOf new } :=
    ⟨fun own stands live => keeps.kept _ _ (stands live),
      fun _ member => List.mem_append_left _ member⟩
  have goesOn : ∀ next ∈ new, ∀ own, next.credential hexSha256 = some own →
      EnrollWorld.Stands { w with server, answers := w.answers ++ w.site.answersOf new } own := by
    intro next member own credential
    rcases keeps.own next member own credential with before | now
    · exact left.stands own (stands own before)
    · exact fun _ => now
  refine ⟨⟨fun data member => ?_, fun host => (known.hosts host).later left.answers⟩, left, ?_⟩
  · rcases List.mem_append.mp member with old | new
    · exact left.stands _ (known.answers data old)
    · obtain ⟨next, inNew, credential⟩ := mem_answersOf hexSha256 new
      exact goesOn next inNew _ credential
  · intro task member
    obtain ⟨next, inNew, rfl⟩ := List.mem_map.mp member
    exact goesOn next inNew

theorem revoke_left (device : Uuid) :
    WorldLeft w { w with
      server := w.server.dropCredential device
      revoked := device :: w.revoked } where
  stands own stands live := by
    have different : own.1 ≠ device := fun same => live (same ▸ List.mem_cons_self)
    exact (credentialOf_dropCredential different).trans
      (stands fun member => live (List.mem_cons_of_mem _ member))
  answers _ member := member

theorem world_turn {task : AgentTask} {choice : AgentChoice} {new : List AgentTask}
    (known : AgentsKnown hexSha256 crates w) (stands : task.Stands hexSha256 w)
    (moved : w.turn hexSha256 crates tls choice task = some (w', new)) :
    WorldTurn hexSha256 crates w w' new := by
  have none : ∀ task ∈ ([] : List AgentTask), task.Stands hexSha256 w' :=
    fun _ member => absurd member List.not_mem_nil
  cases task with
  | server task =>
      cases choice with
      | server choice =>
          obtain ⟨⟨server, own⟩, done, same⟩ := Option.map_eq_some_iff.mp moved
          cases same
          exact server_turn known stands done
      | goes | starts => cases moved
  | restart site =>
      cases moved
      refine ⟨⟨known.answers, fun host => ?_⟩, ⟨fun _ own => own, fun _ own => own⟩, none⟩
      exact (known.hosts host).later fun _ member => member
  | revoke device =>
      simp only [EnrollWorld.turn] at moved
      split at moved
      · cases moved
        have left := revoke_left (w := w) device
        refine ⟨⟨fun data member => ?_, fun host => ?_⟩, left, none⟩
        · exact left.stands _ (known.answers data member)
        · exact (known.hosts host).later left.answers
      · cases moved
        exact ⟨known, worldLeft_refl _, none⟩
  | start host cli readError =>
      simp only [EnrollWorld.turn] at moved
      split at moved
      · rename_i answer dies idle
        split at moved
        · cases moved
          exact ⟨known, worldLeft_refl _, none⟩
        · rename_i config writes started
          cases moved
          have configured := configured_start (known.hosts host) (startAgent_starts started)
          exact ⟨known.setHost configured.1, worldLeft_setHost .., none⟩
        · rename_i config writes left started
          cases moved
          have configured := configured_start (known.hosts host) (startAgent_starts started)
          exact ⟨known.setHost (configured.2 left), worldLeft_setHost .., none⟩
      · cases moved
  | stop host =>
      cases moved
      refine ⟨known.setHost ⟨(known.hosts host).files, fun _ running => ?_⟩, worldLeft_setHost .., none⟩
      cases running

variable (hexSha256 crates tls) in
theorem agents_outline : Outline (agentsProgram hexSha256 crates tls) Guard.any
    (AgentsKnown hexSha256 crates) fun w task => task.Stands hexSha256 w where
  arrive shared task _ request := by
    cases task with
    | server task =>
        intro own credential
        cases task with
        | enroll body phase =>
            cases phase with
            | selectToken => cases credential
            | _ => cases request
        | _ => cases credential
    | _ => trivial
  step shared others task choice shared' new known stands _ _ moved := by
    have turn := world_turn known stands moved
    exact ⟨turn.known, turn.stands⟩
  stable shared others task choice shared' new known stands _ moved other _ holds :=
    (world_turn known stands moved).left.stable holds

variable {start config last : Config EnrollWorld AgentTask}

theorem agents_known (started : AgentsStart start)
    (reached : Reach (agentsProgram hexSha256 crates tls) Guard.any start config) :
    AgentsKnown hexSha256 crates config.shared := by
  have outline := agents_outline hexSha256 crates tls
  refine (outline.holds ⟨⟨?_, fun host => ⟨?_, ?_⟩⟩, ?_⟩ reached).shared
  · intro data member
    rw [started.answers] at member
    cases member
  · intro content found
    cases (started.dirs host).symm.trans found
  · intro own running
    cases (started.running host).symm.trans running
  · intro task member
    rw [started.tasks] at member
    cases member

/-- An agent runs with the files of one enrollment. Unless that enrollment was cut off within the
configuration, the agent is accepted with what it runs with until its device is deleted. -/
theorem running_agent_accepted (started : AgentsStart start)
    (reached : Reach (agentsProgram hexSha256 crates tls) Guard.any start config) {host : Nat}
    {agent : AgentConfig} (running : (config.shared.hosts host).running = some agent) :
    ∃ data ∈ config.shared.answers, ∃ content text,
      EnrolledFiles crates data content text (config.shared.hosts host).dir ∧
      (content = text → agent = data.config crates ∧
        (agent.deviceId ∉ config.shared.revoked → ∀ db : Database,
          (∀ device, (db.devices.find? device).bind (·.authTokenHash) =
            config.shared.server.credentialOf device) →
          authenticateAgent hexSha256 db agent.deviceId (some agent.deviceToken) = true)) := by
  have known := agents_known started reached
  obtain ⟨content, found, parsed⟩ := (known.hosts host).running agent running
  obtain ⟨data, member, text, files⟩ := (known.hosts host).files content found
  refine ⟨data, member, content, text, files, fun whole => ?_⟩
  cases parsed.symm.trans (files.loads whole)
  refine ⟨rfl, fun live db same => ?_⟩
  have stored := known.answers data member live
  simp only [authenticateAgent, same]
  have own : config.shared.server.credentialOf (data.config crates).deviceId =
      some (hexSha256 data.deviceToken) := stored
  rw [own]
  exact decide_eq_true rfl

theorem turn_dir {task : AgentTask} {choice : AgentChoice} {new : List AgentTask} {host : Nat}
    {content : List UInt8} (found : (w.hosts host).dir .configToml = some content)
    (moved : w.turn hexSha256 crates tls choice task = some (w', new)) :
    (w'.hosts host).dir = (w.hosts host).dir := by
  have setHost : ∀ other state, (other = host → state.dir = (w.hosts host).dir) →
      ((w.setHost other state).hosts host).dir = (w.hosts host).dir := by
    intro other state kept
    by_cases same : host = other
    · rw [same, setHost_same]
      exact (kept same.symm).trans (by rw [same])
    · rw [setHost_other w same]
  cases task with
  | server task =>
      cases choice with
      | server choice =>
          obtain ⟨_, _, same⟩ := Option.map_eq_some_iff.mp moved
          cases same
          rfl
      | goes | starts => cases moved
  | restart site =>
      cases moved
      rfl
  | revoke device =>
      simp only [EnrollWorld.turn] at moved
      split at moved <;> cases moved <;> rfl
  | start other cli readError =>
      simp only [EnrollWorld.turn] at moved
      split at moved
      · split at moved
        · cases moved
          rfl
        · rename_i config writes started
          cases moved
          refine setHost other _ fun same => ?_
          subst same
          exact (startAgent_starts started).completes.1 content found
        · rename_i config writes left started
          cases moved
          refine setHost other _ fun same => ?_
          subst same
          exact ((startAgent_starts started).leaves left).1 content found
      · cases moved
  | stop other =>
      cases moved
      refine setHost other _ fun same => ?_
      subst same
      rfl

/-- Once a host has a configuration, no start changes any of its files: it never enrolls again. -/
theorem configured_host_stays {host : Nat} {content : List UInt8}
    (found : (config.shared.hosts host).dir .configToml = some content)
    (later : Reach (agentsProgram hexSha256 crates tls) Guard.any config last) :
    (last.shared.hosts host).dir = (config.shared.hosts host).dir := by
  refine later.invariant
    (fun last => (last.shared.hosts host).dir = (config.shared.hosts host).dir) rfl ?_ ?_
  · intro shared tasks task kept _
    exact kept
  · intro shared shared' before after new task choice kept _ moved
    have still : (shared.hosts host).dir .configToml = some content := by
      rw [kept]
      exact found
    exact (turn_dir still moved).trans kept

end

/-! ## One agent -/

def AgentConfig.codec : Codec AgentConfig where
  encode config :=
    .array [.string config.serverUrl, Uuid.codec.encode config.deviceId, .string config.certPath,
      .string config.keyPath, .string config.caPath,
      Codec.uint64.encode config.heartbeatInterval, Codec.uint64.encode config.telemetryInterval,
      .bool config.monitorEnabled, Codec.uint64.encode config.monitorBatchInterval,
      Codec.text.list.encode config.monitorPaths, .string config.deviceToken,
      .string config.serverPubkey]
  decode
    | .array [serverUrl, deviceId, certPath, keyPath, caPath, heartbeatInterval, telemetryInterval,
        monitorEnabled, monitorBatchInterval, monitorPaths, deviceToken, serverPubkey] => do
        let serverUrl ← Codec.text.decode serverUrl
        let deviceId ← Uuid.codec.decode deviceId
        let certPath ← Codec.text.decode certPath
        let keyPath ← Codec.text.decode keyPath
        let caPath ← Codec.text.decode caPath
        let heartbeatInterval ← Codec.uint64.decode heartbeatInterval
        let telemetryInterval ← Codec.uint64.decode telemetryInterval
        let monitorEnabled ← Codec.flag.decode monitorEnabled
        let monitorBatchInterval ← Codec.uint64.decode monitorBatchInterval
        let monitorPaths ← Codec.text.list.decode monitorPaths
        let deviceToken ← Codec.text.decode deviceToken
        let serverPubkey ← Codec.text.decode serverPubkey
        return { serverUrl, deviceId, certPath, keyPath, caPath, heartbeatInterval,
                 telemetryInterval, monitorEnabled, monitorBatchInterval, monitorPaths,
                 deviceToken, serverPubkey }
    | _ => none
  decode_encode config := by simp

/-- JSON for TOML. -/
def ConfigCrates.sample : ConfigCrates where
  toStringPretty config := .ok (utf8 (AgentConfig.codec.toText config))
  fromStr bytes := ((AgentConfig.codec.fromText (lossyText bytes)).map .ok).getD (.error "expected")
  pathOf _ := "/root/.osfm_edm"
  reads_back config _ := ⟨_, rfl, by simp [Codec.fromText_toText]⟩

def TlsCrates.none : TlsCrates where
  certs _ := []
  addRoot _ := .ok ()
  sha256Hex _ := ""
  clientRoots _ := .ok []

def sampleAgents : Config EnrollWorld AgentTask where
  shared :=
    { server := sampleEnroll.shared
      site := { caPem := "", serverUrl := "https://edm", signingPubkey := "" }
      answers := []
      revoked := []
      hosts := fun _ => { dir := .empty, running := none } }
  tasks := []

theorem sampleAgents_start : AgentsStart sampleAgents where
  tasks := rfl
  answers := rfl
  dirs _ := rfl
  running _ := rfl

def laptopCli : Cli where
  server := some "https://edm"
  token := some "token"
  opts := { caPath := none, caFingerprint := none, insecure := false }

def laptopEnrolls : List (Label AgentTask AgentChoice) :=
  [.arrive (.server (.enroll laptop .selectToken)), .run 0 (.server .proceeds),
    .run 0 (.server (.generatesDevice (Uuid.small 1) "secret")),
    .run 0 (.server (.issues (laptopCert "first"))), .run 0 (.server .proceeds),
    .run 0 (.server .proceeds), .arrive (.start 0 laptopCli none),
    .run 1 (.starts (some 0) none)]

theorem running_agent_accepted_laptop : ∃ config,
    Reach (agentsProgram id .sample .none) Guard.any sampleAgents config ∧
      ∃ agent, (config.shared.hosts 0).running = some agent ∧
        ∃ data ∈ config.shared.answers, ∃ content text,
          EnrolledFiles .sample data content text (config.shared.hosts 0).dir := by
  obtain ⟨config, reached, seen⟩ := Reach.of_observed (agentsProgram id .sample .none) Guard.any
    sampleAgents laptopEnrolls (fun config => (config.shared.hosts 0).running.map (·.deviceId))
    (some (Uuid.small 1)) (by decide +kernel)
  obtain ⟨agent, running, _⟩ := Option.map_eq_some_iff.mp seen
  obtain ⟨data, member, content, text, files, _⟩ :=
    running_agent_accepted sampleAgents_start reached running
  exact ⟨config, reached, agent, running, data, member, content, text, files⟩

/-- A second start with the configuration that the first one wrote. -/
theorem configured_host_stays_laptop : ∃ config last,
    Reach (agentsProgram id .sample .none) Guard.any config last ∧
      (config.shared.hosts 0).running.isSome ∧
      (last.shared.hosts 0).dir = (config.shared.hosts 0).dir := by
  obtain ⟨config, last, _, later, found, _⟩ := Reach.of_observed_twice
    (agentsProgram id .sample .none) Guard.any sampleAgents laptopEnrolls
    [.arrive (.stop 0), .run 1 .goes, .arrive (.start 0 laptopCli (some "busy")),
      .run 1 (.starts (some 0) none)]
    (fun config => ((config.shared.hosts 0).running.isSome,
      ((config.shared.hosts 0).dir .configToml).isSome)) (true, true) (false, true)
    (by decide +kernel)
  obtain ⟨running, present⟩ := Prod.mk.inj found
  obtain ⟨content, there⟩ := Option.isSome_iff_exists.mp present
  exact ⟨config, last, later, running, configured_host_stays there later⟩

end OsfmEdm
