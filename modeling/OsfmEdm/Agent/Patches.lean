import OsfmEdm.Agent.Packages
import OsfmEdm.Agent.Probes

/-!
The updates an agent reports (`telemetry/patches.rs`), and the command that installs them.
-/

namespace OsfmEdm

open Lines

/-! ## Collectors -/

/-- `" ".join`. -/
def joinWords (words : List (List Char)) : List Char := [' '].intercalate words

def available (patchId title : List Char) : PatchItem where
  patchId := String.ofList patchId
  title := some (String.ofList title)
  severity := none
  status := "available"

/-- `package/source version arch [upgradable from: old_version]`. -/
def aptItem (line : List Char) : Option PatchItem :=
  if '/' ∈ line then
    let name := line.takeWhile (· ≠ '/')
    let rest := (line.dropWhile (· ≠ '/')).drop 1
    let version := (splitWhitespace rest)[1]?.getD "unknown".toList
    some (available name (name ++ " → ".toList ++ version))
  else none

def collectAptUpgradable (apt : CommandResult) : Option (List PatchItem) := do
  let output ← apt
  if output.success then some (((textLines output.text).drop 1).filterMap aptItem) else none

def dnfItem (line : List Char) : Option PatchItem :=
  match splitWhitespace line with
  | name :: version :: _ => some (available name (name ++ " → ".toList ++ version))
  | _ => none

/-- The exit code is 100 where there are updates; it is not looked at. -/
def collectDnfUpdates (dnf : CommandResult) : Option (List PatchItem) := do
  let output ← dnf
  some ((textLines output.text).filterMap dnfItem)

/-- All but the last three words of a row. -/
def wingetItem (line : List Char) : Option PatchItem :=
  let parts := splitWhitespace line
  if parts.length ≥ 4 then
    some (available (joinWords (parts.take (parts.length - 3))) (trim (String.ofList line)))
  else none

def collectWingetUpgrades (winget : CommandResult) : Option (List PatchItem) := do
  let output ← winget
  if output.success then some (((textLines output.text).drop 2).filterMap wingetItem) else none

def brewItem (line : List Char) : Option PatchItem :=
  match splitWhitespace line with
  | name :: _ => some (available name (name ++ " update available".toList))
  | [] => none

def collectBrewOutdated (brew : CommandResult) : Option (List PatchItem) := do
  let output ← brew
  if output.success then some ((textLines output.text).filterMap brewItem) else none

/-- What the four tools give: `apt list --upgradable`, `dnf check-update --quiet`,
`winget upgrade --disable-interactivity` and `brew outdated`. -/
structure PatchTools where
  apt : CommandResult
  dnf : CommandResult
  winget : CommandResult
  brew : CommandResult

def collectPatches (platform : Platform) (tools : PatchTools) : List PatchItem :=
  match platform with
  | .linux =>
      ((collectAptUpgradable tools.apt).orElse fun _ => collectDnfUpdates tools.dnf).getD []
  | .windows => (collectWingetUpgrades tools.winget).getD []
  | .macos => (collectBrewOutdated tools.brew).getD []

/-- The package manager whose tool has given the patches. -/
def PatchTools.reporter (tools : PatchTools) : Platform → PackageManager
  | .linux => if (collectAptUpgradable tools.apt).isSome then .apt else .dnf
  | .windows => .winget
  | .macos => .homebrew

/-! ## Upgrades -/

/-- The words with which a package manager upgrades the packages that follow. -/
def PackageManager.upgradeWords : PackageManager → List String
  | .apt => ["apt-get", "install", "-y"]
  | .dnf => ["dnf", "upgrade", "-y"]
  | .pacman => ["pacman", "-S", "--noconfirm"]
  | .homebrew => ["brew", "upgrade"]
  | .winget => ["winget", "upgrade", "--accept-source-agreements"]
  | .chocolatey => ["choco", "upgrade", "-y"]

/-- Whether all packages are upgraded where none follows; `winget` only lists them. -/
def PackageManager.upgradesAll : PackageManager → Bool
  | .dnf | .homebrew => true
  | _ => false

/-- The manager that has reported the patches is asked to upgrade these, each of them an operand;
with none of them, no manager is asked to upgrade all. -/
def upgradesExactly (platform : Platform) (tools : PatchTools) : List String → Prop
  | [] => ∀ manager : PackageManager,
      commandWords (patchCmd platform []) = some (manager.upgradeWords ++ platform.afterPatches) →
        manager.upgradesAll = false
  | id :: rest =>
      commandWords (patchCmd platform (id :: rest)) =
          some ((tools.reporter platform).upgradeWords ++ id :: rest ++ platform.afterPatches) ∧
        ∀ other ∈ id :: rest, other.toList.head? ≠ some '-'

theorem patchWords_eq (platform : Platform) (tools : PatchTools) :
    platform.patchWords = (tools.reporter platform).upgradeWords ↔
      tools.reporter platform ≠ .dnf := by
  cases platform with
  | windows | macos => exact iff_of_true rfl nofun
  | linux =>
      rw [PatchTools.reporter]
      split <;> decide

theorem sanitized_all (ids : List String) :
    ids.map sanitizePackage = ids ↔ ∀ id ∈ ids, sanitizePackage id = id := by
  induction ids with
  | nil => simp
  | cons id rest ih => simp [ih]

theorem isOperand_iff (id : String) :
    isOperand id ↔ sanitizePackage id = id ∧ id.toList.head? ≠ some '-' := by
  rw [isOperand, sanitizePackage_eq_self, and_assoc]

theorem upgradesExactly_nil (platform : Platform) (tools : PatchTools) :
    upgradesExactly platform tools [] ↔ platform ≠ .macos := by
  simp only [upgradesExactly, patchCmd_words, List.map_nil, List.append_nil, Option.some.injEq,
    List.append_cancel_right_eq]
  cases platform with
  | linux | windows =>
      refine ⟨fun _ => nofun, fun _ manager words => ?_⟩
      cases manager <;> first | rfl | exact absurd words (by decide)
  | macos =>
      refine iff_of_false (fun nothing => ?_) fun other => other rfl
      exact absurd (nothing .homebrew rfl) (by decide)

theorem upgradesExactly_cons (platform : Platform) (tools : PatchTools) (id : String)
    (rest : List String) : upgradesExactly platform tools (id :: rest) ↔
      tools.reporter platform ≠ .dnf ∧ ∀ other ∈ id :: rest, isOperand other := by
  rw [upgradesExactly, patchCmd_words, Option.some.injEq, List.append_cancel_right_eq,
    ← patchWords_eq]
  simp only [isOperand_iff, forall_and, ← sanitized_all, ← and_assoc]
  refine and_congr_left fun _ => ⟨fun words => ?_, fun ⟨fixed, same⟩ => by rw [fixed, same]⟩
  exact List.append_inj' words (List.length_map _)

/-- Patches are upgraded as reported where `dnf` has not reported them and every id is an operand;
with no id at all, where it is not `brew` that gets none. -/
theorem patches_upgraded (platform : Platform) (tools : PatchTools) (ids : List String) :
    upgradesExactly platform tools ids ↔
      if ids = [] then platform ≠ .macos
      else tools.reporter platform ≠ .dnf ∧ ∀ id ∈ ids, isOperand id := by
  cases ids with
  | nil =>
      rw [if_pos rfl]
      exact upgradesExactly_nil platform tools
  | cons id rest =>
      rw [if_neg (List.cons_ne_nil id rest)]
      exact upgradesExactly_cons platform tools id rest

/-- A row of `winget` with a source, or with a blank in its name. -/
theorem winget_row_joined {line : List Char} (more : 4 < (splitWhitespace line).length)
    {item : PatchItem} (read : wingetItem line = some item) : ¬ isOperand item.patchId := by
  rw [wingetItem, if_pos (by omega), Option.some.injEq] at read
  subst read
  intro operand
  have length : 2 ≤ ((splitWhitespace line).take ((splitWhitespace line).length - 3)).length := by
    rw [List.length_take]
    omega
  rcases parts : (splitWhitespace line).take ((splitWhitespace line).length - 3) with
    _ | ⟨first, _ | ⟨second, rest⟩⟩
  · simp [parts] at length
  · simp [parts] at length
  · have blank := operand.2.1 ' '
    simp only [available, parts, joinWords, String.toList_ofList, List.intercalate_cons_cons]
      at blank
    exact absurd (blank (by simp)) (by decide)

theorem collectAptUpgradable_printed (text : List Char) :
    collectAptUpgradable (some (printed text)) =
      some (((textLines text).drop 1).filterMap aptItem) := by
  conv_rhs => rw [← text_printed text]
  rfl

theorem collectWingetUpgrades_printed (text : List Char) :
    collectWingetUpgrades (some (printed text)) =
      some (((textLines text).drop 2).filterMap wingetItem) := by
  conv_rhs => rw [← text_printed text]
  rfl

theorem patches_changed :
    let apt := printed "Listing...\nlibstdc++6/jammy 12.3 amd64 [upgradable from: 12.1]\n".toList
    let winget := printed "Name Id Version Available Source\n---\nGit Git.Git 2.40 2.41 winget".toList
    let tools := PatchTools.mk (some apt) none (some winget) (some (printed "git\n".toList))
    ((collectPatches .linux tools).map PatchItem.patchId = ["libstdc++6"] ∧
        ¬ upgradesExactly .linux tools ["libstdc++6"]) ∧
      ((collectPatches .windows tools).map PatchItem.patchId = ["Git Git.Git"] ∧
        ¬ upgradesExactly .windows tools ["Git Git.Git"]) ∧
      ¬ upgradesExactly .macos tools [] := by
  intro apt winget tools
  simp only [upgradesExactly_nil, upgradesExactly_cons]
  refine ⟨⟨?_, fun asked => ?_⟩, ⟨?_, fun asked => ?_⟩, fun asked => asked rfl⟩
  · rw [collectPatches, collectAptUpgradable_printed]
    decide
  · exact absurd ((asked.2 _ (List.mem_singleton_self _)).2.1 '+' (by decide)) (by decide)
  · rw [collectPatches, collectWingetUpgrades_printed]
    decide
  · exact absurd ((asked.2 _ (List.mem_singleton_self _)).2.1 ' ' (by decide)) (by decide)

end OsfmEdm
