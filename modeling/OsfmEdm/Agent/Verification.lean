import OsfmEdm.Common.Protocol
import OsfmEdm.Server.Signing

/-!
`verify_job_signature` (`osfm-edm-agent/src/main.rs`) and what it accepts. The server's
text of a dispatch decodes to the very payload it signed, so a genuine signature always
verifies.
-/

namespace OsfmEdm

open JsonText

variable (crypto : Crypto)

def verifyJobSignature (serverPubkeyB64 : String) (jobId : Uuid) (payload : JobPayload)
    (signatureB64 : String) : Except String Unit :=
  if serverPubkeyB64 = "" then
    .error "no server signing key configured — re-enroll the agent"
  else if signatureB64 = "" then
    .error "job has no signature"
  else
    match crypto.base64.decode serverPubkeyB64 with
    | .error e => .error ("invalid server pubkey encoding: " ++ e)
    | .ok pkBytes =>
      if pkBytes.length ≠ 32 then .error "server pubkey is not 32 bytes"
      else
        match crypto.ed25519.keyFromBytes pkBytes with
        | .error e => .error ("invalid server pubkey: " ++ e)
        | .ok vk =>
          match crypto.base64.decode signatureB64 with
          | .error e => .error ("invalid signature encoding: " ++ e)
          | .ok sigBytes =>
            match crypto.ed25519.signatureFromSlice sigBytes with
            | .error e => .error ("invalid signature: " ++ e)
            | .ok sig =>
              if crypto.ed25519.verify vk (canonicalJobSigningBytes jobId payload) sig then .ok ()
              else .error "signature verification failed"

variable {crypto}

/-- The signature the agent reads out of an accepted dispatch. -/
structure Verified (serverPubkeyB64 : String) (jobId : Uuid) (payload : JobPayload)
    (signatureB64 : String) (vk : crypto.ed25519.VerifyingKey)
    (sig : crypto.ed25519.Signature) : Prop where
  key : ∃ pkBytes, crypto.base64.decode serverPubkeyB64 = .ok pkBytes ∧
    crypto.ed25519.keyFromBytes pkBytes = .ok vk
  signature : ∃ sigBytes, crypto.base64.decode signatureB64 = .ok sigBytes ∧
    crypto.ed25519.signatureFromSlice sigBytes = .ok sig
  accepted : crypto.ed25519.verify vk (canonicalJobSigningBytes jobId payload) sig = true

theorem verifyJobSignature_ok {serverPubkeyB64 : String} {jobId : Uuid} {payload : JobPayload}
    {signatureB64 : String}
    (ok : verifyJobSignature crypto serverPubkeyB64 jobId payload signatureB64 = .ok ()) :
    ∃ (vk : crypto.ed25519.VerifyingKey) (sig : crypto.ed25519.Signature),
      Verified serverPubkeyB64 jobId payload signatureB64 vk sig := by
  unfold verifyJobSignature at ok
  split at ok
  · cases ok
  split at ok
  · cases ok
  split at ok
  · cases ok
  rename_i pkBytes pkDecoded
  split at ok
  · cases ok
  split at ok
  · cases ok
  rename_i vk vkRead
  split at ok
  · cases ok
  rename_i sigBytes sigDecoded
  split at ok
  · cases ok
  rename_i sig sigRead
  split at ok
  · rename_i accepted
    exact ⟨vk, sig, ⟨pkBytes, pkDecoded, vkRead⟩, ⟨sigBytes, sigDecoded, sigRead⟩, accepted⟩
  · cases ok

theorem verifyJobSignature_signJob (signer : JobSigner crypto) (jobId : Uuid)
    (payload : JobPayload) :
    verifyJobSignature crypto signer.publicKeyB64 jobId payload (signer.signJob jobId payload) =
      .ok () := by
  have keyText := signer.publicKeyB64_ne_empty
  have signatureText := signer.signJob_ne_empty jobId payload
  have keyDecoded : crypto.base64.decode signer.publicKeyB64 = .ok _ :=
    crypto.base64.decode_encode _
  have signatureDecoded : crypto.base64.decode (signer.signJob jobId payload) = .ok _ :=
    crypto.base64.decode_encode _
  simp only [verifyJobSignature, keyText, signatureText, if_false, keyDecoded, signatureDecoded,
    crypto.ed25519.keyToBytes_length, ne_eq, not_true, crypto.ed25519.keyFromBytes_keyToBytes,
    crypto.ed25519.signatureFromSlice_signatureToBytes, crypto.ed25519.verify_sign, if_true]

theorem verifyJobSignature_empty (serverPubkeyB64 : String) (jobId : Uuid) (payload : JobPayload) :
    ∃ reason, verifyJobSignature crypto serverPubkeyB64 jobId payload "" = .error reason := by
  unfold verifyJobSignature
  split
  · exact ⟨_, rfl⟩
  · exact ⟨_, if_pos rfl⟩

/-- The canonical bytes identify job and payload, and they are the same on both sides of the
transport. -/
theorem canonicalBytes_identify_and_transport (crypto : Crypto) :
    (∀ i j p q, canonicalJobSigningBytes i p = canonicalJobSigningBytes j q → i = j ∧ p = q) ∧
    (∀ jobId payload signature, ∃ received,
      ServerMessage.codec.fromText
          (ServerMessage.codec.toText (.dispatchJob jobId payload signature)) =
        some (.dispatchJob jobId received signature) ∧
      canonicalJobSigningBytes jobId received = canonicalJobSigningBytes jobId payload ∧
      ∀ signer : JobSigner crypto,
        verifyJobSignature crypto signer.publicKeyB64 jobId received
          (signer.signJob jobId payload) = .ok ()) := by
  constructor
  · intro i j p q same
    obtain ⟨sameId, sameText⟩ := canonicalJobSigningBytes_split same
    exact ⟨sameId, JobPayload.codec.encode_injective (write_injective sameText)⟩
  · intro jobId payload signature
    refine ⟨payload, ServerMessage.codec.fromText_toText _, rfl, ?_⟩
    intro signer
    exact verifyJobSignature_signJob signer jobId payload

end OsfmEdm
