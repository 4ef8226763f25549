import OsfmEdm.Agent.Tls
import OsfmEdm.Common.Uuid
import OsfmEdm.Library.Files

/-!
The configuration directory of an agent (`osfm-edm-agent/src/config.rs`), what `enroll` writes to it
(`enrollment.rs`), and `main` until it has its configuration.
-/

namespace OsfmEdm

open Files JsonText

structure AgentConfig where
  serverUrl : String
  deviceId : Uuid
  certPath : String
  keyPath : String
  caPath : String
  heartbeatInterval : UInt64
  telemetryInterval : UInt64
  monitorEnabled : Bool
  monitorBatchInterval : UInt64
  monitorPaths : List String
  deviceToken : String
  serverPubkey : String
deriving DecidableEq

inductive ConfigFile where
  | deviceCrt
  | deviceKey
  | caCrt
  | configToml
deriving DecidableEq

abbrev ConfigDir := Directory ConfigFile UInt8

inductive ConfigError where
  | notEnrolled
  | io (error : String)
  | parse (error : String)
deriving DecidableEq

/-- A TOML integer has 64 bits and a sign. -/
def AgentConfig.InToml (config : AgentConfig) : Prop :=
  config.heartbeatInterval.toNat < 2 ^ 63 ∧ config.telemetryInterval.toNat < 2 ^ 63 ∧
    config.monitorBatchInterval.toNat < 2 ^ 63

/-- What the agent takes from its platform: the `toml` crate on bytes, which are text as
`read_to_string` requires, and the paths of its files. -/
structure ConfigCrates where
  toStringPretty : AgentConfig → Except String (List UInt8)
  fromStr : List UInt8 → Except String AgentConfig
  pathOf : ConfigFile → String
  reads_back : ∀ config, config.InToml →
    ∃ text, toStringPretty config = .ok text ∧ fromStr text = .ok config

/-- The `data` of a server's answer to `POST /api/v1/enroll`. -/
structure EnrollData where
  deviceId : Uuid
  certPem : String
  keyPem : String
  caPem : String
  serverUrl : String
  deviceToken : String
  serverSigningPubkey : String
deriving DecidableEq

structure Cli where
  server : Option String
  token : Option String
  opts : EnrollOpts

inductive StartError where
  | usage (text : String)
  | enroll (error : String)
  | config (error : ConfigError)
deriving DecidableEq

section

variable (crates : ConfigCrates) (tls : TlsCrates)

/-- `AgentConfig::load`; `readError` is why the file cannot be read, if so. -/
def AgentConfig.load (dir : ConfigDir) (readError : Option String) :
    Except ConfigError AgentConfig :=
  match dir .configToml, readError with
  | none, _ => .error .notEnrolled
  | some _, some error => .error (.io error)
  | some content, none =>
      match crates.fromStr content with
      | .ok config => .ok config
      | .error error => .error (.parse error)

/-- The configuration that `enroll` makes of an answer. -/
def EnrollData.config (data : EnrollData) : AgentConfig where
  serverUrl := data.serverUrl
  deviceId := data.deviceId
  certPath := crates.pathOf .deviceCrt
  keyPath := crates.pathOf .deviceKey
  caPath := crates.pathOf .caCrt
  heartbeatInterval := 60
  telemetryInterval := 60
  monitorEnabled := true
  monitorBatchInterval := 5
  monitorPaths := ["/"]
  deviceToken := data.deviceToken
  serverPubkey := data.serverSigningPubkey

/-- `AgentConfig::save_pem`. -/
def savePem (file : ConfigFile) (content : String) : FileWrite ConfigFile UInt8 :=
  ⟨file, utf8 content.toList⟩

def EnrollData.pems (data : EnrollData) : List (FileWrite ConfigFile UInt8) :=
  [savePem .deviceCrt data.certPem, savePem .deviceKey data.keyPem, savePem .caCrt data.caPem]

/-- `enroll` after the answer: the configuration, and the writes in their order. The configuration
itself is written last. -/
def enrollAgent (opts : EnrollOpts) (reply : Except String EnrollData) :
    Except StartError (AgentConfig × List (FileWrite ConfigFile UInt8)) :=
  match reply with
  | .error error => .error (.enroll error)
  | .ok data =>
      match tls.savedCa opts data.caPem with
      | .error error => .error (.enroll error)
      | .ok _ =>
          match crates.toStringPretty (data.config crates) with
          | .error error => .error (.config (.parse error))
          | .ok text => .ok (data.config crates, data.pems ++ [⟨.configToml, text⟩])

/-- `main` until it has its configuration. -/
def startAgent (dir : ConfigDir) (readError : Option String) (cli : Cli)
    (reply : Except String EnrollData) :
    Except StartError (AgentConfig × List (FileWrite ConfigFile UInt8)) :=
  match AgentConfig.load crates dir readError with
  | .ok config => .ok (config, [])
  | .error .notEnrolled =>
      match cli.token with
      | none => .error (.usage "Not enrolled. Use --server <url> --token <token> to enroll.")
      | some _ => enrollAgent crates tls cli.opts reply
  | .error error => .error (.config error)

end

/-! ## The directory -/

section

variable {crates : ConfigCrates} {tls : TlsCrates} {dir : ConfigDir} {readError : Option String}
  {cli : Cli} {reply : Except String EnrollData} {config : AgentConfig}
  {writes : List (FileWrite ConfigFile UInt8)}

theorem EnrollData.config_inToml (data : EnrollData) : (data.config crates).InToml := by
  refine ⟨?_, ?_, ?_⟩ <;> simp [EnrollData.config]

variable (crates) in
theorem EnrollData.config_text (data : EnrollData) :
    ∃ text, crates.toStringPretty (data.config crates) = .ok text ∧
      crates.fromStr text = .ok (data.config crates) :=
  crates.reads_back _ data.config_inToml

theorem EnrollData.pems_others (data : EnrollData) :
    ∀ write ∈ data.pems, write.file ≠ .configToml := by
  intro write member
  simp only [EnrollData.pems, List.mem_cons, List.not_mem_nil, or_false] at member
  rcases member with rfl | rfl | rfl <;> exact nofun

theorem EnrollData.pems_distinct (data : EnrollData) : (data.pems.map (·.file)).Nodup := by
  simp [EnrollData.pems, savePem]

/-- The files an enrollment leaves when its configuration, which is `text`, is written as far as
`content`. -/
structure EnrolledFiles (crates : ConfigCrates) (data : EnrollData) (content text : List UInt8)
    (dir : ConfigDir) : Prop where
  deviceCrt : dir .deviceCrt = some (utf8 data.certPem.toList)
  deviceKey : dir .deviceKey = some (utf8 data.keyPem.toList)
  caCrt : dir .caCrt = some (utf8 data.caPem.toList)
  configToml : dir .configToml = some content
  rendered : crates.toStringPretty (data.config crates) = .ok text
  part : content <+: text

theorem enrolledFiles_put (data : EnrollData) (dir : ConfigDir) {text content : List UInt8}
    (rendered : crates.toStringPretty (data.config crates) = .ok text) (part : content <+: text) :
    EnrolledFiles crates data content text ((dir.store data.pems).put .configToml content) := by
  have pem : ∀ write ∈ data.pems,
      (dir.store data.pems).put .configToml content write.file = some write.content := by
    intro write member
    rw [Directory.put_other _ (data.pems_others write member)]
    exact Directory.store_written data.pems_distinct member dir
  exact
    { deviceCrt := pem (savePem .deviceCrt data.certPem) (by simp [EnrollData.pems])
      deviceKey := pem (savePem .deviceKey data.keyPem) (by simp [EnrollData.pems])
      caCrt := pem (savePem .caCrt data.caPem) (by simp [EnrollData.pems])
      configToml := Directory.put_same ..
      rendered
      part }

/-- The whole text is what a later start loads. -/
theorem EnrolledFiles.loads {data : EnrollData} {content text : List UInt8}
    (files : EnrolledFiles crates data content text dir) (whole : content = text) :
    crates.fromStr content = .ok (data.config crates) := by
  obtain ⟨own, rendered, read⟩ := data.config_text crates
  cases files.rendered.symm.trans rendered
  rw [whole]
  exact read

/-- What a start does: it loads the configuration, or enrolls where there is none. -/
inductive Starts (crates : ConfigCrates) (dir : ConfigDir) (reply : Except String EnrollData) :
    AgentConfig → List (FileWrite ConfigFile UInt8) → Prop where
  | loaded {config content} (found : dir .configToml = some content)
      (parsed : crates.fromStr content = .ok config) : Starts crates dir reply config []
  | enrolled {data text} (absent : dir .configToml = none) (answered : reply = .ok data)
      (rendered : crates.toStringPretty (data.config crates) = .ok text) :
      Starts crates dir reply (data.config crates) (data.pems ++ [⟨.configToml, text⟩])

theorem startAgent_starts (started : startAgent crates tls dir readError cli reply =
    .ok (config, writes)) : Starts crates dir reply config writes := by
  unfold startAgent AgentConfig.load at started
  cases found : dir .configToml with
  | some content =>
      rw [found] at started
      cases readError with
      | some error => cases started
      | none =>
          cases parsed : crates.fromStr content with
          | ok own =>
              simp only [parsed] at started
              cases started
              exact .loaded found parsed
          | error error =>
              simp only [parsed] at started
              cases started
  | none =>
      rw [found] at started
      cases token : cli.token with
      | none => simp only [token, reduceCtorEq] at started
      | some token' =>
          simp only [token, enrollAgent] at started
          split at started
          · cases started
          split at started
          · cases started
          split at started
          · cases started
          · rename_i data _ _ _ text rendered
            cases started
            exact .enrolled found rfl rendered

/-- A start that dies at any point, or comes to its end: the directory is untouched once there is a
configuration, and one that appears comes with the files it names. -/
theorem Starts.leaves (starts : Starts crates dir reply config writes) (left : Nat) :
    (∀ content, dir .configToml = some content → dir.cutOff writes left = dir) ∧
    (dir .configToml = none → ∀ content, dir.cutOff writes left .configToml = some content →
      ∃ data text, reply = .ok data ∧
        EnrolledFiles crates data content text (dir.cutOff writes left)) := by
  cases starts with
  | loaded found parsed =>
      refine ⟨fun _ _ => rfl, fun absent => ?_⟩
      cases absent.symm.trans found
  | @enrolled data text absent answered rendered =>
      refine ⟨fun content found => ?_, fun _ content found => ⟨data, text, answered, ?_⟩⟩
      · cases absent.symm.trans found
      · obtain ⟨part, same⟩ := Directory.cutOff_last absent data.pems_others found
        rw [same]
        exact enrolledFiles_put data dir rendered part

/-- A start that comes to its end runs with what the directory then holds. -/
theorem Starts.completes (starts : Starts crates dir reply config writes) :
    (∀ content, dir .configToml = some content → dir.store writes = dir) ∧
    (dir .configToml = none → ∃ data text, reply = .ok data ∧
      EnrolledFiles crates data text text (dir.store writes)) ∧
    ∃ content, dir.store writes .configToml = some content ∧
      crates.fromStr content = .ok config := by
  cases starts with
  | loaded found parsed =>
      refine ⟨fun _ _ => rfl, fun absent => ?_, _, found, parsed⟩
      cases absent.symm.trans found
  | @enrolled data text absent answered rendered =>
      have files := enrolledFiles_put data dir rendered List.prefix_rfl
      have same : dir.store (data.pems ++ [⟨.configToml, text⟩]) =
          (dir.store data.pems).put .configToml text := Directory.store_append ..
      rw [← same] at files
      refine ⟨fun content found => ?_, fun _ => ⟨data, text, answered, files⟩, text,
        files.configToml, files.loads rfl⟩
      cases absent.symm.trans found

end

end OsfmEdm
