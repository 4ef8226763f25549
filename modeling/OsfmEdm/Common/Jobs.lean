import OsfmEdm.Common.Uuid

/-!
Job payloads, their JSON form, and the bytes the server signs for a job
(`crates/osfm-edm-common/src/jobs.rs`). Payloads are internally tagged: the member
`type` names the variant in snake case and the fields follow in declaration order.
-/

namespace OsfmEdm

open JsonText

inductive ShellType where
  | bash
  | powershell
  | sh
  | cmd
deriving DecidableEq

inductive PackageManager where
  | winget
  | chocolatey
  | homebrew
  | apt
  | dnf
  | pacman
deriving DecidableEq

inductive JobPayload where
  | runScript (shell : ShellType) (script : String)
  | installPackage (manager : PackageManager) (package : String) (version : Option String)
  | uninstallPackage (manager : PackageManager) (package : String)
  | pushFile (destination contentB64 : String) (permissions : Option String)
  | reboot (delaySeconds : UInt32)
  | collectInventory
  | runPatchUpdate (patchIds : List String)
deriving DecidableEq

namespace ShellType

def name : ShellType → String
  | .bash => "bash"
  | .powershell => "powershell"
  | .sh => "sh"
  | .cmd => "cmd"

def ofName : String → Option ShellType
  | "bash" => some .bash
  | "powershell" => some .powershell
  | "sh" => some .sh
  | "cmd" => some .cmd
  | _ => none

def codec : Codec ShellType := Codec.variants name ofName fun shell => by cases shell <;> rfl

end ShellType

namespace PackageManager

def name : PackageManager → String
  | .winget => "winget"
  | .chocolatey => "chocolatey"
  | .homebrew => "homebrew"
  | .apt => "apt"
  | .dnf => "dnf"
  | .pacman => "pacman"

def ofName : String → Option PackageManager
  | "winget" => some .winget
  | "chocolatey" => some .chocolatey
  | "homebrew" => some .homebrew
  | "apt" => some .apt
  | "dnf" => some .dnf
  | "pacman" => some .pacman
  | _ => none

def codec : Codec PackageManager :=
  Codec.variants name ofName fun manager => by cases manager <;> rfl

end PackageManager

namespace JobPayload

def tag : JobPayload → String
  | .runScript .. => "run_script"
  | .installPackage .. => "install_package"
  | .uninstallPackage .. => "uninstall_package"
  | .pushFile .. => "push_file"
  | .reboot .. => "reboot"
  | .collectInventory => "collect_inventory"
  | .runPatchUpdate .. => "run_patch_update"

/-- The fields of a variant, in order. -/
def fields : String → List String
  | "run_script" => ["shell", "script"]
  | "install_package" => ["manager", "package", "version"]
  | "uninstall_package" => ["manager", "package"]
  | "push_file" => ["destination", "content_b64", "permissions"]
  | "reboot" => ["delay_seconds"]
  | "run_patch_update" => ["patch_ids"]
  | _ => []

def members : JobPayload → List (String × Json)
  | .runScript shell script =>
      [("shell", ShellType.codec.encode shell), ("script", .string script)]
  | .installPackage manager package version =>
      [("manager", PackageManager.codec.encode manager), ("package", .string package),
        ("version", encodeOptional .string version)]
  | .uninstallPackage manager package =>
      [("manager", PackageManager.codec.encode manager), ("package", .string package)]
  | .pushFile destination contentB64 permissions =>
      [("destination", .string destination), ("content_b64", .string contentB64),
        ("permissions", encodeOptional .string permissions)]
  | .reboot delaySeconds => [("delay_seconds", Codec.uint32.encode delaySeconds)]
  | .collectInventory => []
  | .runPatchUpdate patchIds => [("patch_ids", Codec.text.list.encode patchIds)]

def ofMembers (members : List (String × Json)) : String → Option JobPayload
  | "run_script" => do
      let shell ← requiredMember members "shell" ShellType.codec.decode
      let script ← requiredMember members "script" Codec.text.decode
      return .runScript shell script
  | "install_package" => do
      let manager ← requiredMember members "manager" PackageManager.codec.decode
      let package ← requiredMember members "package" Codec.text.decode
      let version ← optionalMember members "version" Codec.text.decode
      return .installPackage manager package version
  | "uninstall_package" => do
      let manager ← requiredMember members "manager" PackageManager.codec.decode
      let package ← requiredMember members "package" Codec.text.decode
      return .uninstallPackage manager package
  | "push_file" => do
      let destination ← requiredMember members "destination" Codec.text.decode
      let contentB64 ← requiredMember members "content_b64" Codec.text.decode
      let permissions ← optionalMember members "permissions" Codec.text.decode
      return .pushFile destination contentB64 permissions
  | "reboot" => do
      let delaySeconds ← requiredMember members "delay_seconds" Codec.uint32.decode
      return .reboot delaySeconds
  | "collect_inventory" => some .collectInventory
  | "run_patch_update" => do
      let patchIds ← requiredMember members "patch_ids" Codec.text.list.decode
      return .runPatchUpdate patchIds
  | _ => none

theorem ofMembers_members (payload : JobPayload) :
    ofMembers payload.members payload.tag = some payload := by
  cases payload with
  | runScript shell script => cases shell <;> rfl
  | installPackage manager package version => cases manager <;> cases version <;> rfl
  | uninstallPackage manager package => cases manager <;> rfl
  | pushFile destination contentB64 permissions => cases permissions <;> rfl
  | reboot delaySeconds => simp [ofMembers, members, tag, requiredMember, once]
  | collectInventory => rfl
  | runPatchUpdate patchIds => simp [ofMembers, members, tag, requiredMember, once]

/-- Internally tagged with `type`. -/
def codec : Codec JobPayload :=
  Codec.tagged "type" fields tag members ofMembers (fun payload => by cases payload <;> rfl)
    ofMembers_members

end JobPayload

/-! ## Signing bytes -/

/-- `b"OSFM-EDM-JOB-SIGN-v1\0"`, so that a signature cannot be replayed in another context. -/
def JOB_SIGN_DOMAIN : List UInt8 :=
  [0x4F, 0x53, 0x46, 0x4D, 0x2D, 0x45, 0x44, 0x4D, 0x2D, 0x4A, 0x4F, 0x42, 0x2D, 0x53, 0x49, 0x47,
    0x4E, 0x2D, 0x76, 0x31, 0x00]

example : JOB_SIGN_DOMAIN = utf8 "OSFM-EDM-JOB-SIGN-v1".toList ++ [0] := by decide

/-- `DOMAIN || job_id (16 raw bytes) || serde_json(payload)`. -/
def canonicalJobSigningBytes (jobId : Uuid) (payload : JobPayload) : List UInt8 :=
  JOB_SIGN_DOMAIN ++ jobId.bytes ++ utf8 (JobPayload.codec.toText payload)

theorem canonicalJobSigningBytes_split {first second : Uuid} {left right : JobPayload}
    (same : canonicalJobSigningBytes first left = canonicalJobSigningBytes second right) :
    first = second ∧ JobPayload.codec.toText left = JobPayload.codec.toText right := by
  simp only [canonicalJobSigningBytes, List.append_assoc, List.append_cancel_left_eq] at same
  have ids : first.bytes.length = second.bytes.length := by rw [first.size, second.size]
  obtain ⟨sameId, sameText⟩ := List.append_inj same ids
  exact ⟨Uuid.ext sameId, utf8_injective sameText⟩

end OsfmEdm
