import OsfmEdm.Common.Crypto
import OsfmEdm.Common.Jobs

/-!
Job signing (`services/signing.rs`) and `AppState::sign_job` (`state.rs`).
-/

namespace OsfmEdm

structure JobSigner (crypto : Crypto) where
  signingKey : crypto.ed25519.SigningKey

namespace JobSigner

variable {crypto : Crypto}

def publicKeyB64 (signer : JobSigner crypto) : String :=
  crypto.base64.encode (crypto.ed25519.keyToBytes (crypto.ed25519.verifyingKey signer.signingKey))

def signJob (signer : JobSigner crypto) (jobId : Uuid) (payload : JobPayload) : String :=
  crypto.base64.encode (crypto.ed25519.signatureToBytes
    (crypto.ed25519.sign signer.signingKey (canonicalJobSigningBytes jobId payload)))

theorem signJob_ne_empty (signer : JobSigner crypto) (jobId : Uuid) (payload : JobPayload) :
    signer.signJob jobId payload ≠ "" :=
  crypto.base64.encode_ne_empty (crypto.ed25519.signatureToBytes_nonempty _)

theorem publicKeyB64_ne_empty (signer : JobSigner crypto) : signer.publicKeyB64 ≠ "" := by
  apply crypto.base64.encode_ne_empty
  intro empty
  have length := crypto.ed25519.keyToBytes_length (crypto.ed25519.verifyingKey signer.signingKey)
  rw [empty] at length
  exact absurd length (by decide)

end JobSigner

/-- Empty when the signing service is unavailable: agents refuse such jobs. -/
def signJob {crypto : Crypto} (jobSigner : Option (JobSigner crypto)) (jobId : Uuid)
    (payload : JobPayload) : String :=
  match jobSigner with
  | some signer => signer.signJob jobId payload
  | none => ""

end OsfmEdm
