import Mathlib.Logic.Equiv.Defs
import OsfmEdm.Agent.Verification
import OsfmEdm.Library.Files
import OsfmEdm.Library.Interleaving

/-!
The key file of the job signer (`JobSigner::load_or_create`, `services/signing.rs`) over the starts
of a server, the agents that enroll and the jobs that are dispatched meanwhile.
-/

namespace OsfmEdm

open Files Interleaving

abbrev Bytes32 := { bytes : List UInt8 // bytes.length = 32 }

/-- `SigningKey::to_bytes` and `SigningKey::from_bytes`. -/
abbrev Crypto.SecretBytes (crypto : Crypto) := crypto.ed25519.SigningKey ≃ Bytes32

def KEY_FILE : String := "job_signing.key"

inductive SigningError where
  | io (error : String)
  | invalidKey (reason : String)
deriving DecidableEq

/-- How the file operations of `load_or_create` go. A write that fails leaves what `left` allows. -/
inductive SigningIo where
  | works
  | cannotRead (error : String)
  | cannotCreateDir (error : String)
  | cannotWrite (left : Nat) (error : String)
deriving DecidableEq

namespace JobSigner

variable {crypto : Crypto} (secret : crypto.SecretBytes)

def keyWrite (key : crypto.ed25519.SigningKey) : FileWrite String UInt8 := ⟨KEY_FILE, (secret key).val⟩

/-- The signer, and the data directory as it is left. `exists` is taken to answer rightly. -/
def loadOrCreate (dataDir : Directory String UInt8) (generated : crypto.ed25519.SigningKey)
    (io : SigningIo) : Except SigningError (JobSigner crypto) × Directory String UInt8 :=
  match dataDir KEY_FILE, io with
  | some _, .cannotRead error => (.error (.io error), dataDir)
  | some raw, _ =>
      if exact : raw.length = 32 then (.ok ⟨secret.symm ⟨raw, exact⟩⟩, dataDir)
      else
        (.error (.invalidKey ("expected 32 bytes, found " ++ toString raw.length)), dataDir)
  | none, .cannotCreateDir error => (.error (.io error), dataDir)
  | none, .cannotWrite left error =>
      (.error (.io error), dataDir.cutOff [keyWrite secret generated] left)
  | none, _ => (.ok ⟨generated⟩, dataDir.store [keyWrite secret generated])

end JobSigner

/-- `server_signing_pubkey` of an enrollment: empty without a signer. -/
def serverSigningPubkey {crypto : Crypto} (jobSigner : Option (JobSigner crypto)) : String :=
  (jobSigner.map (·.publicKeyB64)).getD ""

structure SignedJob where
  job : Uuid
  payload : JobPayload
  signature : String
deriving DecidableEq

/-- The data directory, the signer of the server that runs, and what has been handed out so far: the
public keys to agents at their enrollment, and the signatures with their jobs. -/
structure SigningWorld (crypto : Crypto) where
  dataDir : Directory String UInt8
  running : Option (Option (JobSigner crypto))
  pubkeys : List String
  dispatched : List SignedJob

inductive SigningMove (crypto : Crypto) where
  | start (generated : crypto.ed25519.SigningKey) (io : SigningIo)
  | diesInStart (generated : crypto.ed25519.SigningKey) (left : Nat)
  | stop
  | writeOther (file : String) (content : List UInt8)
  | enroll
  | dispatch (job : Uuid) (payload : JobPayload)

namespace SigningWorld

variable {crypto : Crypto} (secret : crypto.SecretBytes)

def ofDataDir (dataDir : Directory String UInt8) : SigningWorld crypto where
  dataDir
  running := none
  pubkeys := []
  dispatched := []

/-- One step; a server that fails to get its signer runs without one. -/
def act (world : SigningWorld crypto) (move : SigningMove crypto) : Option (SigningWorld crypto) :=
  match world.running, move with
  | none, .start generated io =>
      let (signer, dataDir) := JobSigner.loadOrCreate secret world.dataDir generated io
      some { world with dataDir, running := some signer.toOption }
  | none, .diesInStart generated left =>
      if (world.dataDir KEY_FILE).isSome then some world
      else
        some { world with
               dataDir := world.dataDir.cutOff [JobSigner.keyWrite secret generated] left }
  | some _, .stop => some { world with running := none }
  | _, .writeOther file content =>
      if file = KEY_FILE then none
      else some { world with dataDir := world.dataDir.put file content }
  | some signer, .enroll =>
      some { world with pubkeys := world.pubkeys ++ [serverSigningPubkey signer] }
  | some signer, .dispatch job payload =>
      some { world with
             dispatched := world.dispatched ++ [⟨job, payload, signJob signer job payload⟩] }
  | _, _ => none

end SigningWorld

/-! ## One key -/

section

variable {crypto : Crypto} (secret : crypto.SecretBytes)

/-- The signer of the key that the file holds, if it is one. -/
def keptSigner (dataDir : Directory String UInt8) : Option (JobSigner crypto) :=
  (dataDir KEY_FILE).bind fun raw =>
    if exact : raw.length = 32 then some ⟨secret.symm ⟨raw, exact⟩⟩ else none

/-- Whatever has been handed out comes from the key in the file. -/
structure OneKey (world : SigningWorld crypto) : Prop where
  running : ∀ signer, world.running = some (some signer) →
    keptSigner secret world.dataDir = some signer
  pubkeys : ∀ pubkey ∈ world.pubkeys, pubkey ≠ "" →
    ∃ signer, keptSigner secret world.dataDir = some signer ∧ pubkey = signer.publicKeyB64
  dispatched : ∀ sent ∈ world.dispatched, sent.signature ≠ "" →
    ∃ signer, keptSigner secret world.dataDir = some signer ∧
      sent.signature = signer.signJob sent.job sent.payload

variable {secret} {dataDir : Directory String UInt8} {generated : crypto.ed25519.SigningKey}

theorem keptSigner_of_same {other : Directory String UInt8}
    (same : other KEY_FILE = dataDir KEY_FILE) :
    keptSigner secret other = keptSigner secret dataDir :=
  congrArg (Option.bind · _) same

theorem keptSigner_stored (dataDir : Directory String UInt8) (key : crypto.ed25519.SigningKey) :
    keptSigner secret (dataDir.store [JobSigner.keyWrite secret key]) = some ⟨key⟩ := by
  have written : dataDir.store [JobSigner.keyWrite secret key] KEY_FILE = some (secret key).val :=
    Directory.put_same dataDir KEY_FILE _
  simp only [keptSigner, written, Option.bind_some, (secret key).property, dif_pos,
    Subtype.coe_eta, Equiv.symm_apply_apply]

theorem loadOrCreate_signer {io : SigningIo} {signer : JobSigner crypto} :
    (JobSigner.loadOrCreate secret dataDir generated io).1.toOption = some signer →
      keptSigner secret (JobSigner.loadOrCreate secret dataDir generated io).2 = some signer := by
  unfold JobSigner.loadOrCreate
  split
  · exact nofun
  · rename_i raw found _
    split
    · rename_i exact
      intro loaded
      cases loaded
      simp only [keptSigner, found, Option.bind_some, dif_pos exact]
    · exact nofun
  · exact nofun
  · exact nofun
  · intro loaded
    cases loaded
    exact keptSigner_stored dataDir generated

theorem loadOrCreate_found {raw : List UInt8} (found : dataDir KEY_FILE = some raw)
    (io : SigningIo) : (JobSigner.loadOrCreate secret dataDir generated io).2 = dataDir := by
  unfold JobSigner.loadOrCreate
  rw [found]
  cases io with
  | cannotRead error => rfl
  | works | cannotCreateDir | cannotWrite =>
      dsimp only
      split <;> rfl

variable {world after : SigningWorld crypto} {move : SigningMove crypto}

/-- The file is never written twice. -/
theorem act_found {raw : List UInt8} (found : world.dataDir KEY_FILE = some raw)
    (moved : world.act secret move = some after) : after.dataDir KEY_FILE = some raw := by
  unfold SigningWorld.act at moved
  split at moved
  · cases moved
    exact (congrFun (loadOrCreate_found found _) KEY_FILE).trans found
  · simp only [found, Option.isSome_some, if_true] at moved
    cases moved
    exact found
  · cases moved
    exact found
  · split at moved
    · cases moved
    · rename_i other
      cases moved
      exact (Directory.put_other _ (Ne.symm other) _).trans found
  · cases moved
    exact found
  · cases moved
    exact found
  · cases moved

theorem act_keptSigner {signer : JobSigner crypto}
    (kept : keptSigner secret world.dataDir = some signer)
    (moved : world.act secret move = some after) :
    keptSigner secret after.dataDir = some signer := by
  obtain ⟨raw, found, _⟩ := Option.bind_eq_some_iff.mp kept
  exact (keptSigner_of_same ((act_found found moved).trans found.symm)).trans kept

/-- What a step hands out, and the signer it leaves running. -/
structure HandsOut (secret : crypto.SecretBytes) (world after : SigningWorld crypto) : Prop where
  running : ∀ signer, after.running = some (some signer) →
    world.running = some (some signer) ∨ keptSigner secret after.dataDir = some signer
  pubkeys : ∀ pubkey ∈ after.pubkeys, pubkey ∈ world.pubkeys ∨
    ∃ signer, world.running = some signer ∧ pubkey = serverSigningPubkey signer
  dispatched : ∀ sent ∈ after.dispatched, sent ∈ world.dispatched ∨
    ∃ signer, world.running = some signer ∧
      sent.signature = signJob signer sent.job sent.payload

theorem act_handsOut (moved : world.act secret move = some after) :
    HandsOut secret world after := by
  unfold SigningWorld.act at moved
  split at moved
  · cases moved
    refine ⟨fun signer running => ?_, fun _ old => .inl old, fun _ old => .inl old⟩
    exact .inr (loadOrCreate_signer (Option.some.inj running))
  · split at moved <;> cases moved
    · exact ⟨fun _ running => .inl running, fun _ old => .inl old, fun _ old => .inl old⟩
    · exact ⟨fun _ running => .inl running, fun _ old => .inl old, fun _ old => .inl old⟩
  · cases moved
    refine ⟨fun _ running => ?_, fun _ old => .inl old, fun _ old => .inl old⟩
    cases running
  · split at moved
    · cases moved
    · cases moved
      exact ⟨fun _ running => .inl running, fun _ old => .inl old, fun _ old => .inl old⟩
  · rename_i signer running
    cases moved
    refine ⟨fun _ same => .inl same, fun pubkey member => ?_, fun _ old => .inl old⟩
    rcases List.mem_append.mp member with old | new
    · exact .inl old
    · exact .inr ⟨signer, running, List.mem_singleton.mp new⟩
  · rename_i signer job payload running
    cases moved
    refine ⟨fun _ same => .inl same, fun _ old => .inl old, fun sent member => ?_⟩
    rcases List.mem_append.mp member with old | new
    · exact .inl old
    · obtain rfl := List.mem_singleton.mp new
      exact .inr ⟨signer, running, rfl⟩
  · cases moved

theorem OneKey.act (one : OneKey secret world) (moved : world.act secret move = some after) :
    OneKey secret after := by
  have out := act_handsOut moved
  have kept : ∀ {signer}, keptSigner secret world.dataDir = some signer →
      keptSigner secret after.dataDir = some signer := fun kept => act_keptSigner kept moved
  constructor
  · intro signer running
    rcases out.running signer running with before | now
    · exact kept (one.running signer before)
    · exact now
  · intro pubkey member nonempty
    rcases out.pubkeys pubkey member with old | ⟨running, found, same⟩
    · obtain ⟨signer, from', same⟩ := one.pubkeys pubkey old nonempty
      exact ⟨signer, kept from', same⟩
    · cases running with
      | none => exact absurd same nonempty
      | some signer => exact ⟨signer, kept (one.running signer found), same⟩
  · intro sent member nonempty
    rcases out.dispatched sent member with old | ⟨running, found, same⟩
    · obtain ⟨signer, from', same⟩ := one.dispatched sent old nonempty
      exact ⟨signer, kept from', same⟩
    · cases running with
      | none => exact absurd same nonempty
      | some signer => exact ⟨signer, kept (one.running signer found), same⟩

/-! ## Runs -/

abbrev SigningReach (secret : crypto.SecretBytes)
    (start config : Config (SigningWorld crypto) Unit) : Prop :=
  Reach (Program.single (SigningWorld.act secret)) Guard.any start config

variable {config last : Config (SigningWorld crypto) Unit}

theorem oneKey_reached (reached : SigningReach secret (.single (.ofDataDir dataDir)) config) :
    OneKey secret config.shared := by
  refine reached.single_invariant (OneKey secret) ⟨?_, ?_, ?_⟩
    fun _ _ _ one _ moved => one.act moved
  · exact fun _ running => nomatch running
  · exact fun _ member => absurd member List.not_mem_nil
  · exact fun _ member => absurd member List.not_mem_nil

theorem found_reached {raw : List UInt8} (found : config.shared.dataDir KEY_FILE = some raw)
    (alone : config.tasks = [()]) (later : SigningReach secret config last) :
    last.shared.dataDir KEY_FILE = some raw := by
  obtain ⟨shared, tasks⟩ := config
  subst alone
  exact later.single_invariant (fun world => world.dataDir KEY_FILE = some raw) found
    fun _ _ _ found _ moved => act_found found moved

/-- Starts, crashes and failed writes may come between an enrollment and a dispatch: the agent runs
the job unless one of them found the server without a signer. -/
theorem dispatched_accepted_iff
    (reached : SigningReach secret (.single (.ofDataDir dataDir)) config) {pubkey : String}
    (enrolled : pubkey ∈ config.shared.pubkeys) {sent : SignedJob}
    (dispatched : sent ∈ config.shared.dispatched) :
    verifyJobSignature crypto pubkey sent.job sent.payload sent.signature = .ok () ↔
      pubkey ≠ "" ∧ sent.signature ≠ "" := by
  have one := oneKey_reached reached
  constructor
  · intro accepted
    constructor
    · intro empty
      simp [verifyJobSignature, empty] at accepted
    · intro empty
      obtain ⟨reason, rejected⟩ :
          ∃ reason, verifyJobSignature crypto pubkey sent.job sent.payload "" = .error reason :=
        verifyJobSignature_empty pubkey sent.job sent.payload
      rw [empty, rejected] at accepted
      cases accepted
  · rintro ⟨someKey, signed⟩
    obtain ⟨signer, kept, rfl⟩ := one.pubkeys pubkey enrolled someKey
    obtain ⟨other, same, signature⟩ := one.dispatched sent dispatched signed
    cases kept.symm.trans same
    rw [signature]
    exact verifyJobSignature_signJob signer sent.job sent.payload

/-- A key file that is not 32 bytes long, as a crash or a full disk leaves it, is never repaired: no
signer runs from then on, and no agent accepts a job. -/
theorem damaged_key_stays
    (reached : SigningReach secret (.single (.ofDataDir dataDir)) config) {raw : List UInt8}
    (found : config.shared.dataDir KEY_FILE = some raw) (damaged : raw.length ≠ 32)
    (later : SigningReach secret config last) :
    last.shared.dataDir KEY_FILE = some raw ∧
      (∀ signer, last.shared.running ≠ some (some signer)) ∧
      (∀ pubkey ∈ last.shared.pubkeys, pubkey = "") ∧
      ∀ sent ∈ last.shared.dispatched, ∀ pubkey, ∃ reason,
        verifyJobSignature crypto pubkey sent.job sent.payload sent.signature = .error reason := by
  have still := found_reached found reached.single_alone later
  have none : keptSigner secret last.shared.dataDir = none := by
    simp only [keptSigner, still, Option.bind_some, dif_neg damaged]
  have one := oneKey_reached (reached.trans later)
  refine ⟨still, fun signer running => ?_, fun pubkey member => ?_, fun sent member pubkey => ?_⟩
  · cases none.symm.trans (one.running signer running)
  · by_contra nonempty
    obtain ⟨signer, kept, _⟩ := one.pubkeys pubkey member nonempty
    cases none.symm.trans kept
  · have empty : sent.signature = "" := by
      by_contra nonempty
      obtain ⟨signer, kept, _⟩ := one.dispatched sent member nonempty
      cases none.symm.trans kept
    rw [empty]
    exact verifyJobSignature_empty pubkey sent.job sent.payload

end

/-! ## Two starts -/

/-- A scheme whose keys are their bytes and whose signatures begin with the key. -/
def Ed25519.keyed : Ed25519 where
  SigningKey := Bytes32
  VerifyingKey := Bytes32
  Signature := List UInt8
  verifyingKey key := key
  keyToBytes key := key.val
  keyFromBytes bytes :=
    if exact : bytes.length = 32 then .ok ⟨bytes, exact⟩ else .error "signature error"
  sign key message := key.val ++ message
  signatureToBytes signature := 0 :: signature
  signatureFromSlice bytes := bytes.tail?.elim (.error "signature error") .ok
  verify key message signature := decide (key.val ++ message = signature)
  keyToBytes_length key := key.property
  keyFromBytes_keyToBytes key := dif_pos key.property
  signatureFromSlice_signatureToBytes _ := rfl
  signatureToBytes_nonempty _ := List.cons_ne_nil _ _
  verify_sign _ _ := decide_eq_true rfl

def Crypto.keyed : Crypto := ⟨.keyed, .standard⟩

def Bytes32.fill (byte : UInt8) : Bytes32 := ⟨List.replicate 32 byte, List.length_replicate⟩

def Crypto.keyed.secret : Crypto.keyed.SecretBytes := Equiv.refl Bytes32

/-- The agent has enrolled before the restart. -/
theorem dispatched_accepted_restarted :
    ∃ config, SigningReach Crypto.keyed.secret (.single (.ofDataDir .empty)) config ∧
      ∃ pubkey ∈ config.shared.pubkeys, ∃ sent ∈ config.shared.dispatched,
        verifyJobSignature .keyed pubkey sent.job sent.payload sent.signature = .ok () := by
  let signer : JobSigner .keyed := ⟨Bytes32.fill 1⟩
  let sent : SignedJob := ⟨Uuid.small 7, .reboot 0, signer.signJob (Uuid.small 7) (.reboot 0)⟩
  obtain ⟨config, reached, same⟩ := Reach.of_observed
    (Program.single (SigningWorld.act Crypto.keyed.secret)) Guard.any
    (.single (.ofDataDir .empty))
    [.run 0 (.start (Bytes32.fill 1) .works), .run 0 .enroll, .run 0 .stop,
      .run 0 (.start (Bytes32.fill 2) .works), .run 0 (.dispatch (Uuid.small 7) (.reboot 0))]
    (fun config => (config.shared.pubkeys, config.shared.dispatched))
    ([signer.publicKeyB64], [sent]) rfl
  obtain ⟨pubkeys, dispatched⟩ := Prod.mk.inj same
  have enrolled : signer.publicKeyB64 ∈ config.shared.pubkeys := pubkeys ▸ List.mem_cons_self
  have member : sent ∈ config.shared.dispatched := dispatched ▸ List.mem_cons_self
  refine ⟨config, reached, _, enrolled, sent, member, ?_⟩
  exact (dispatched_accepted_iff reached enrolled member).mpr
    ⟨signer.publicKeyB64_ne_empty, signer.signJob_ne_empty _ _⟩

/-- The first start dies with half of the key written. -/
theorem damaged_key_half :
    ∃ config last, SigningReach Crypto.keyed.secret config last ∧
      last.shared.running = some none ∧
      ∀ sent ∈ last.shared.dispatched, ∀ pubkey, ∃ reason,
        verifyJobSignature .keyed pubkey sent.job sent.payload sent.signature = .error reason := by
  obtain ⟨config, last, reached, later, found, running⟩ := Reach.of_observed_twice
    (Program.single (SigningWorld.act Crypto.keyed.secret)) Guard.any
    (.single (.ofDataDir .empty))
    [.run 0 (.diesInStart (Bytes32.fill 1) 17)]
    [.run 0 (.start (Bytes32.fill 2) .works), .run 0 (.dispatch (Uuid.small 7) (.reboot 0))]
    (fun config => (config.shared.dataDir KEY_FILE, config.shared.running.map Option.isSome))
    (some (List.replicate 16 1), none) (some (List.replicate 16 1), some false) rfl
  have stays := damaged_key_stays reached (Prod.mk.inj found).1 (by decide) later
  refine ⟨config, last, later, ?_, stays.2.2.2⟩
  obtain ⟨signer, started, none⟩ := Option.map_eq_some_iff.mp (Prod.mk.inj running).2
  cases signer with
  | none => exact started
  | some signer => cases none

end OsfmEdm
