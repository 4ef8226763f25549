import OsfmEdm.Agent.Commands
import OsfmEdm.Library.Base64
import OsfmEdm.Transport.Step

/-!
Runs of `execute_job` beside each other, with the job registry and the outbound channel they share.
A run includes the two tasks that stream its output. `revoked` and `returned` record what has
happened; no step reads them.
-/

namespace OsfmEdm

open Interleaving

/-- A task that streams lines of the child. -/
inductive LogReader where
  | reading
  | sending (line : String)
  | ended
deriving DecidableEq

inductive JobPhase where
  | dispatching
  | waiting
  | exited (exitCode : Int32)
  | joining (exitCode : Int32)
  /-- The messages that are still to be sent. -/
  | reporting (messages : List AgentMessage)
deriving DecidableEq

structure JobRun where
  job : Uuid
  payload : JobPayload
  /-- The kill channel; the registry holds its sender. -/
  channel : Nat
  phase : JobPhase
  stdout : LogReader
  stderr : LogReader
  /-- The messages this run has sent. -/
  sent : List AgentMessage
  spawnFailed : Bool
deriving DecidableEq

/-- A run that has returned, and what the registry held for its job then. -/
structure ReturnedRun where
  run : JobRun
  entry : Option Nat
  revoked : Bool
deriving DecidableEq

structure Jobs where
  registry : JobRegistry
  nextChannel : Nat
  outbound : List AgentMessage
  /-- Whether a `RevokeJob` came after the last registration of a job. -/
  revoked : Uuid → Bool
  returned : List ReturnedRun

inductive JobTask where
  | dispatched (job : Uuid) (payload : JobPayload)
  | run (run : JobRun)
  | cancels (job : Uuid)
  | sends (message : AgentMessage)
  | connectionTakes
deriving DecidableEq

/-- What `push_file_windows` finds; the decoder's text is read only when the decoding fails. -/
structure FileOutcome where
  decodeError : String
  created : Except String Unit
  wrote : Except String Unit

inductive JobChoice where
  | proceeds
  | spawnFails (error : String)
  | writesFile (outcome : FileOutcome)
  | collects (software : List SoftwareItem) (patches : List PatchItem)
  /-- `child.wait()` gives a status; none for a signal. -/
  | exits (code : Option Int32)
  | waitFails
  | killed
  | timesOut
  | stdout (line : Option String)
  | stderr (line : Option String)

/-- `str::trim`. -/
def isWhiteSpace (char : Char) : Bool :=
  let code := char.toNat
  (0x9 ≤ code && code ≤ 0xD) || (0x2000 ≤ code && code ≤ 0x200A) ||
    code ∈ [0x20, 0x85, 0xA0, 0x1680, 0x2028, 0x2029, 0x202F, 0x205F, 0x3000]

def trim (text : String) : List Char :=
  ((text.toList.dropWhile isWhiteSpace).reverse.dropWhile isWhiteSpace).reverse

/-- The messages of `push_file_windows`. -/
def pushFileWindows (job : Uuid) (destination contentB64 : String) (outcome : FileOutcome) :
    List AgentMessage :=
  let fail (line : String) : List AgentMessage := [.jobLog job line "stderr", .jobCompleted job (-1)]
  match Base64.decode (trim contentB64) with
  | none => fail ("base64 decode failed: " ++ outcome.decodeError)
  | some bytes =>
      match outcome.created with
      | .error error => fail ("create parent dir failed: " ++ error)
      | .ok () =>
          match outcome.wrote with
          | .error error => fail ("write failed: " ++ error)
          | .ok () =>
              [.jobLog job ("wrote " ++ toString bytes.length ++ " bytes to " ++ destination) "stdout",
                .jobCompleted job 0]

namespace Jobs

def remove (s : Jobs) (job : Uuid) : Jobs := { s with registry := s.registry.remove job }

def post (s : Jobs) (message : AgentMessage) : Option Jobs :=
  if s.outbound.length < OUTBOUND_CAPACITY then
    some { s with outbound := s.outbound ++ [message] }
  else none

/-- One step of a reader: the next line, or the send it waits in. -/
def stream (s : Jobs) (job : Uuid) (name : String) (line : Option String) :
    LogReader → Option (Jobs × LogReader × List AgentMessage)
  | .reading =>
      match line with
      | some line => some (s, .sending line, [])
      | none => some (s, .ended, [])
  | .sending line =>
      (s.post (.jobLog job line name)).map fun s => (s, .reading, [.jobLog job line name])
  | .ended => none

end Jobs

namespace JobRun

def started (job : Uuid) (payload : JobPayload) (channel : Nat) : JobRun where
  job
  payload
  channel
  phase := .dispatching
  stdout := .ended
  stderr := .ended
  sent := []
  spawnFailed := false

/-- `execute_job` up to the first wait. -/
def dispatch (platform : Platform) (s : Jobs) (r : JobRun) (choice : JobChoice) :
    Option (Jobs × JobRun) :=
  match r.payload.script platform, r.payload, choice with
  | some _, _, .proceeds =>
      some (s, { r with phase := .waiting, stdout := .reading, stderr := .reading })
  | some _, _, .spawnFails error =>
      some (s, { r with
        phase := .reporting
          [.jobLog r.job ("Failed to spawn: " ++ error) "stderr", .jobCompleted r.job (-1)]
        spawnFailed := true })
  | none, .collectInventory, .collects software patches =>
      some (s.remove r.job, { r with
        phase := .reporting [.inventoryReport software patches, .jobCompleted r.job 0] })
  | none, .pushFile destination contentB64 _, .writesFile outcome =>
      some (s.remove r.job, { r with
        phase := .reporting (pushFileWindows r.job destination contentB64 outcome) })
  | _, _, _ => none

/-- The `select!` on the child, the kill channel and the timeout. -/
def select (s : Jobs) (r : JobRun) : JobChoice → Option Int32
  | .exits code => some (code.getD (-1))
  | .waitFails => some (-1)
  -- the receiver resolves when the sender is used or dropped
  | .killed => if s.registry r.job = some r.channel then none else some (-4)
  | .timesOut => some (-2)
  | _ => none

def advance (platform : Platform) (s : Jobs) (r : JobRun) (choice : JobChoice) :
    Option (Jobs × List JobTask) :=
  match r.phase with
  | .dispatching =>
      (r.dispatch platform s choice).map fun (s, r) => (s, [.run r])
  | .waiting =>
      (r.select s choice).map fun code => (s, [.run { r with phase := .exited code }])
  | .exited code => some (s.remove r.job, [.run { r with phase := .joining code }])
  | .joining code =>
      if r.stdout = .ended ∧ r.stderr = .ended then
        some (s, [.run { r with phase := .reporting [.jobCompleted r.job code] }])
      else none
  | .reporting (message :: rest) =>
      (s.post message).map fun s =>
        (s, [.run { r with phase := .reporting rest, sent := r.sent ++ [message] }])
  | .reporting [] =>
      some ({ s with
        returned := s.returned ++
          [{ run := r, entry := s.registry r.job, revoked := s.revoked r.job }] }, [])

def turn (platform : Platform) (s : Jobs) (r : JobRun) :
    JobChoice → Option (Jobs × List JobTask)
  | .stdout line =>
      (s.stream r.job "stdout" line r.stdout).map fun (s, stdout, sent) =>
        (s, [.run { r with stdout, sent := r.sent ++ sent }])
  | .stderr line =>
      (s.stream r.job "stderr" line r.stderr).map fun (s, stderr, sent) =>
        (s, [.run { r with stderr, sent := r.sent ++ sent }])
  | choice => r.advance platform s choice

end JobRun

def Jobs.turn (platform : Platform) (s : Jobs) (task : JobTask) (choice : JobChoice) :
    Option (Jobs × List JobTask) :=
  match task with
  | .dispatched job payload =>
      some ({ s with
        registry := s.registry.register job s.nextChannel
        nextChannel := s.nextChannel + 1
        revoked := Function.update s.revoked job false },
        [.run (.started job payload s.nextChannel)])
  | .run r => r.turn platform s choice
  | .cancels job =>
      some ({ s with
        registry := s.registry.remove job
        revoked := Function.update s.revoked job true }, [])
  | .sends message => (s.post message).map fun s => (s, [])
  | .connectionTakes =>
      match s.outbound with
      | _ :: rest => some ({ s with outbound := rest }, [])
      | [] => none

def JobTask.request : JobTask → Bool
  | .run _ => false
  | _ => true

def jobProgram (platform : Platform) : Program Jobs JobTask JobChoice where
  request := JobTask.request
  step := Jobs.turn platform

def jobStart : Config Jobs JobTask where
  shared :=
    { registry := fun _ => none
      nextChannel := 0
      outbound := []
      revoked := fun _ => false
      returned := [] }
  tasks := []

end OsfmEdm
