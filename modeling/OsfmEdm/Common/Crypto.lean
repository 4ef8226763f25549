import OsfmEdm.Library.Base64

/-!
The crates that server and agent sign and verify with: `ed25519_dalek` and the standard
engine of `base64`. Each is a parameter that carries what the code relies on.
-/

namespace OsfmEdm

structure Ed25519 where
  SigningKey : Type
  VerifyingKey : Type
  Signature : Type
  verifyingKey : SigningKey → VerifyingKey
  keyToBytes : VerifyingKey → List UInt8
  keyFromBytes : List UInt8 → Except String VerifyingKey
  sign : SigningKey → List UInt8 → Signature
  signatureToBytes : Signature → List UInt8
  signatureFromSlice : List UInt8 → Except String Signature
  verify : VerifyingKey → List UInt8 → Signature → Bool
  keyToBytes_length : ∀ key, (keyToBytes key).length = 32
  keyFromBytes_keyToBytes : ∀ key, keyFromBytes (keyToBytes key) = .ok key
  signatureFromSlice_signatureToBytes : ∀ signature,
    signatureFromSlice (signatureToBytes signature) = .ok signature
  signatureToBytes_nonempty : ∀ signature, signatureToBytes signature ≠ []
  verify_sign : ∀ key message, verify (verifyingKey key) message (sign key message) = true

structure Base64Engine where
  encode : List UInt8 → String
  decode : String → Except String (List UInt8)
  decode_encode : ∀ bytes, decode (encode bytes) = .ok bytes
  decode_empty : decode "" = .ok []

structure Crypto where
  ed25519 : Ed25519
  base64 : Base64Engine

theorem Base64Engine.encode_ne_empty (engine : Base64Engine) {bytes : List UInt8}
    (nonempty : bytes ≠ []) : engine.encode bytes ≠ "" := by
  intro empty
  have decoded := engine.decode_encode bytes
  rw [empty, engine.decode_empty] at decoded
  exact nonempty (Except.ok.inj decoded).symm

def Base64Engine.standard : Base64Engine where
  encode bytes := String.ofList (Base64.encode bytes)
  decode text :=
    match Base64.decode text.toList with
    | some bytes => .ok bytes
    | none => .error "Invalid padding"
  decode_encode bytes := by simp [Base64.decode_encode]
  decode_empty := by simp [Base64.decode]

/-- A scheme with one key whose signature of a message is the message after a marker. -/
def Ed25519.transparent : Ed25519 where
  SigningKey := Unit
  VerifyingKey := Unit
  Signature := List UInt8
  verifyingKey _ := ()
  keyToBytes _ := List.replicate 32 0
  keyFromBytes _ := .ok ()
  sign _ message := message
  signatureToBytes signature := 0 :: signature
  signatureFromSlice
    | _ :: signature => .ok signature
    | [] => .error "signature error"
  verify _ message signature := message == signature
  keyToBytes_length _ := rfl
  keyFromBytes_keyToBytes _ := rfl
  signatureFromSlice_signatureToBytes _ := rfl
  signatureToBytes_nonempty _ := by simp
  verify_sign _ _ := by simp

def Crypto.sample : Crypto := ⟨.transparent, .standard⟩

end OsfmEdm
