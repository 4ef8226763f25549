import OsfmEdm.Agent.Messages

/-!
What a job payload runs (`osfm-edm-agent/src/jobs/executor.rs`): the interpreter, its script and
the timeout.
-/

namespace OsfmEdm

def DEFAULT_TIMEOUT_SECS : Nat := 300

inductive Platform where
  | linux
  | macos
  | windows
deriving DecidableEq

structure Script where
  shell : ShellType
  text : String
  timeoutSecs : Nat
deriving DecidableEq

/-- A quote in the value closes the quoting, is quoted in double quotes, and opens it again. -/
def shellQuote (value : String) : String :=
  String.ofList ('\'' :: value.toList.flatMap (fun char =>
    if char = '\'' then ['\'', '"', '\'', '"', '\''] else [char]) ++ ['\''])

def sanitizePackage (package : String) : String :=
  let clean := package.toList.filter fun char => char.isAlphanum || char ∈ ['.', '_', '-']
  if clean = [] then "invalid" else String.ofList clean

def packageCmd (manager : PackageManager) (action package : String) : ShellType × String :=
  let pkg := sanitizePackage package
  match manager with
  | .apt => (.bash, "apt-get " ++ action ++ " -y " ++ pkg ++ " 2>&1")
  | .dnf => (.bash, "dnf " ++ action ++ " -y " ++ pkg ++ " 2>&1")
  | .pacman =>
      let flag := if action = "install" then "-S --noconfirm" else "-R --noconfirm"
      (.bash, "pacman " ++ flag ++ " " ++ pkg ++ " 2>&1")
  | .homebrew => (.bash, "brew " ++ action ++ " " ++ pkg ++ " 2>&1")
  | .winget => (.cmd, "winget " ++ action ++ " --accept-source-agreements " ++ pkg)
  | .chocolatey => (.cmd, "choco " ++ action ++ " -y " ++ pkg)

def rebootCmd (platform : Platform) (delaySeconds : UInt32) : ShellType × String :=
  match platform with
  | .windows => (.cmd, "shutdown /r /t " ++ toString delaySeconds.toNat)
  | _ => (.bash, "shutdown -r +" ++ toString (delaySeconds.toNat / 60))

def patchCmd (platform : Platform) (patchIds : List String) : ShellType × String :=
  let ids := " ".intercalate (patchIds.map sanitizePackage)
  match platform with
  | .windows => (.cmd, "winget upgrade --accept-source-agreements " ++ ids ++ " 2>&1")
  | .macos => (.bash, "brew upgrade " ++ ids ++ " 2>&1")
  | .linux => (.bash, "apt-get install -y " ++ ids ++ " 2>&1")

def pushFileCmd (destination contentB64 : String) (permissions : Option String) : String :=
  let dest := shellQuote destination
  let write := "echo " ++ shellQuote contentB64 ++ " | base64 -d > " ++ dest
  match permissions with
  | some perms => write ++ " && chmod " ++ shellQuote perms ++ " " ++ dest
  | none => write

def ShellType.program : ShellType → String
  | .bash => "bash"
  | .sh => "sh"
  | .powershell => "powershell"
  | .cmd => "cmd"

def ShellType.args (script : String) : ShellType → List String
  | .bash | .sh => ["-c", script]
  | .powershell => ["-Command", script]
  | .cmd => ["/C", script]

/-- The call of `execute_script` that `execute_job` makes, if it makes one. -/
def JobPayload.script (platform : Platform) : JobPayload → Option Script
  | .runScript shell script => some ⟨shell, script, DEFAULT_TIMEOUT_SECS⟩
  | .installPackage manager package _ =>
      let (shell, cmd) := packageCmd manager "install" package
      some ⟨shell, cmd, 600⟩
  | .uninstallPackage manager package =>
      let (shell, cmd) := packageCmd manager "remove" package
      some ⟨shell, cmd, 600⟩
  | .pushFile destination contentB64 permissions =>
      match platform with
      | .windows => none
      | _ => some ⟨.bash, pushFileCmd destination contentB64 permissions, DEFAULT_TIMEOUT_SECS⟩
  | .reboot delaySeconds =>
      let (shell, cmd) := rebootCmd platform delaySeconds
      some ⟨shell, cmd, 30⟩
  | .collectInventory => none
  | .runPatchUpdate patchIds =>
      let (shell, cmd) := patchCmd platform patchIds
      some ⟨shell, cmd, 600⟩

theorem script_isSome (platform : Platform) (payload : JobPayload) :
    (payload.script platform).isSome = runsScript (platform = .windows) payload := by
  cases payload with
  | pushFile => cases platform <;> rfl
  | _ => rfl

end OsfmEdm
