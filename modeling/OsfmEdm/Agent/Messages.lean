import OsfmEdm.Agent.Verification

/-!
The agent's message loop (`handle_server_message` in `osfm-edm-agent/src/main.rs`) and its
job registry (`jobs/registry.rs`).
-/

namespace OsfmEdm

/-- What a server message makes the agent do, as far as jobs go. -/
inductive Reaction where
  | execute (job : Uuid) (payload : JobPayload)
  | reject (job : Uuid) (reason : String)
  | cancel (job : Uuid)
  | other
deriving DecidableEq

def handleServerMessage (crypto : Crypto) (serverPubkey : String) : ServerMessage → Reaction
  | .dispatchJob job payload signature =>
      match verifyJobSignature crypto serverPubkey job payload signature with
      | .ok () => .execute job payload
      | .error reason => .reject job reason
  | .revokeJob job => .cancel job
  | _ => .other

theorem handleServerMessage_execute {crypto : Crypto} {serverPubkey : String}
    {message : ServerMessage} {job : Uuid} {payload : JobPayload}
    (handled : handleServerMessage crypto serverPubkey message = .execute job payload) :
    ∃ signature, message = .dispatchJob job payload signature ∧
      verifyJobSignature crypto serverPubkey job payload signature = .ok () := by
  cases message with
  | dispatchJob sent carried signature =>
      simp only [handleServerMessage] at handled
      split at handled
      · rename_i verified
        cases handled
        exact ⟨signature, rfl, verified⟩
      · cases handled
  | _ => cases handled

theorem handleServerMessage_cancel {crypto : Crypto} {serverPubkey : String}
    {message : ServerMessage} {job : Uuid}
    (handled : handleServerMessage crypto serverPubkey message = .cancel job) :
    message = .revokeJob job := by
  cases message with
  | dispatchJob sent carried signature =>
      simp only [handleServerMessage] at handled
      split at handled <;> cases handled
  | revokeJob sent =>
      cases handled
      rfl
  | _ => cases handled

/-- The kill channel of each job in flight. -/
abbrev JobRegistry := Uuid → Option Nat

namespace JobRegistry

def register (registry : JobRegistry) (job : Uuid) (channel : Nat) : JobRegistry :=
  Function.update registry job (some channel)

/-- `cancel` and `remove`: both take the entry out, which ends the sender either way. -/
def remove (registry : JobRegistry) (job : Uuid) : JobRegistry := Function.update registry job none

@[simp] theorem register_apply (registry : JobRegistry) (job other : Uuid) (channel : Nat) :
    registry.register job channel other = if other = job then some channel else registry other := by
  simp [register, Function.update_apply]

@[simp] theorem remove_apply (registry : JobRegistry) (job other : Uuid) :
    registry.remove job other = if other = job then none else registry other := by
  simp [remove, Function.update_apply]

end JobRegistry

/-- How far a run of `execute_job` has come. -/
inductive Execution where
  | spawned
  | registered (channel : Nat)
  /-- In the `select!` on the child, its timeout and the kill channel. -/
  | waiting (channel : Nat)
  /-- Work without a child: an inventory, or a file written on Windows. -/
  | working
  | exited (exitCode : Int32)
  | reporting (exitCode : Int32)
deriving DecidableEq

/-- Whether a payload becomes a child process that `execute_script` waits for. -/
def runsScript (windows : Bool) : JobPayload → Bool
  | .collectInventory => false
  | .pushFile .. => !windows
  | _ => true

end OsfmEdm
