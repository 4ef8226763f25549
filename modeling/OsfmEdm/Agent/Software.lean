import OsfmEdm.Agent.Patches

/-!
The software an agent reports (`telemetry/software.rs`).
-/

namespace OsfmEdm

open JsonText Lines Utf8Lossy

/-! ## Collectors -/

def installed (name : List Char) (version publisher : Option (List Char)) : SoftwareItem where
  name := String.ofList name
  version := version.map String.ofList
  publisher := publisher.map String.ofList
  installDate := none

def dpkgItem (line : List Char) : Option SoftwareItem :=
  match line.splitOn '\t' with
  | name :: version :: rest =>
      if rest.head?.all (containsText · "installed") then some (installed name version none) else none
  | _ => none

/-- `dpkg-query -W -f '${Package}\t${Version}\t${Status}\n'`. -/
def collectDpkg (dpkg : CommandResult) : Option (List SoftwareItem) := do
  let output ← dpkg
  if output.success then some ((textLines output.text).filterMap dpkgItem) else none

def rpmItem (line : List Char) : Option SoftwareItem :=
  match line.splitOn '\t' with
  | name :: version :: rest => some (installed name version rest.head?)
  | _ => none

/-- `rpm -qa --queryformat '%{NAME}\t%{VERSION}-%{RELEASE}\t%{VENDOR}\n'`. -/
def collectRpm (rpm : CommandResult) : Option (List SoftwareItem) := do
  let output ← rpm
  if output.success then some ((textLines output.text).filterMap rpmItem) else none

/-- All but the last two words of a row are its name. -/
def wingetSoftware (line : List Char) : Option SoftwareItem :=
  let line := (line.reverse.dropWhile isWhiteSpace).reverse
  if (utf8 line).length < 8 ∨ line.all (· = '-') then none
  else
    let parts := splitWhitespace line
    if parts.length ≥ 3 then
      some (installed (joinWords (parts.take (parts.length - 2))) parts[parts.length - 2]? none)
    else none

/-- `winget list --disable-interactivity`. -/
def collectWinget (winget : CommandResult) : Option (List SoftwareItem) := do
  let output ← winget
  if output.success then some (((textLines output.text).drop 2).filterMap wingetSoftware) else none

def brewSoftware (line : List Char) : Option SoftwareItem :=
  match splitWhitespace line with
  | name :: rest => some (installed name rest.head? none)
  | [] => none

/-- `brew list --versions`. -/
def collectBrew (brew : CommandResult) : Option (List SoftwareItem) := do
  let output ← brew
  if output.success then some ((textLines output.text).filterMap brewSoftware) else none

/-- What the four tools give. -/
structure SoftwareTools where
  dpkg : CommandResult
  rpm : CommandResult
  winget : CommandResult
  brew : CommandResult

def collectSoftware (platform : Platform) (tools : SoftwareTools) : List SoftwareItem :=
  match platform with
  | .linux => ((collectDpkg tools.dpkg).orElse fun _ => collectRpm tools.rpm).getD []
  | .windows => (collectWinget tools.winget).getD []
  | .macos => (collectBrew tools.brew).getD []

/-! ## The output of `dpkg-query` -/

structure DpkgEntry where
  package : List Char
  version : List Char
  want : List Char
  error : List Char
  state : List Char
  oneLine : ∀ field ∈ [package, version, want, error, state],
    '\t' ∉ field ∧ '\n' ∉ field ∧ '\r' ∉ field
  oneWord : ∀ word ∈ [want, error, state], ' ' ∉ word

namespace DpkgEntry

def status (entry : DpkgEntry) : List Char :=
  entry.want ++ ' ' :: (entry.error ++ ' ' :: entry.state)

def line (entry : DpkgEntry) : List Char :=
  entry.package ++ '\t' :: (entry.version ++ '\t' :: entry.status)

def item (entry : DpkgEntry) : SoftwareItem := installed entry.package entry.version none

theorem status_oneLine (entry : DpkgEntry) :
    '\t' ∉ entry.status ∧ '\n' ∉ entry.status ∧ '\r' ∉ entry.status := by
  have fields := entry.oneLine
  simp only [List.forall_mem_cons] at fields
  simp [status, fields]

theorem line_oneLine (entry : DpkgEntry) : '\n' ∉ entry.line ∧ '\r' ∉ entry.line := by
  have fields := entry.oneLine
  simp only [List.forall_mem_cons] at fields
  simp [line, fields, entry.status_oneLine]

theorem dpkgItem_line (entry : DpkgEntry) :
    dpkgItem entry.line =
      if containsText entry.status "installed" then some entry.item else none := by
  have fields := entry.oneLine
  simp only [List.forall_mem_cons] at fields
  rw [dpkgItem, line, List.splitOn_append_cons_self_of_not_mem fields.1.1,
    List.splitOn_append_cons_self_of_not_mem fields.2.1.1,
    List.splitOn_eq_singleton entry.status_oneLine.1]
  rfl

end DpkgEntry

def dpkgText (entries : List DpkgEntry) : List Char :=
  entries.flatMap fun entry => entry.line ++ ['\n']

theorem textLines_dpkgText (entries : List DpkgEntry) :
    textLines (dpkgText entries) = entries.map DpkgEntry.line := by
  induction entries with
  | nil => rfl
  | cons entry entries ih =>
      obtain ⟨feed, carriage⟩ := entry.line_oneLine
      rw [dpkgText, List.flatMap_cons, List.append_assoc, List.singleton_append,
        textLines_append_cons feed, chop_eq_self carriage, ← dpkgText, ih, List.map_cons]

theorem collectDpkg_dpkgText (entries : List DpkgEntry) :
    collectDpkg (some (printed (dpkgText entries))) =
      some ((entries.filter fun entry => containsText entry.status "installed").map
        DpkgEntry.item) := by
  have read : (textLines (printed (dpkgText entries)).text).filterMap dpkgItem =
      (entries.filter fun entry => containsText entry.status "installed").map DpkgEntry.item := by
    rw [text_printed, textLines_dpkgText, List.filterMap_map]
    induction entries with
    | nil => rfl
    | cons entry entries ih =>
        rw [List.filterMap_cons, Function.comp_apply, entry.dpkgItem_line, List.filter_cons]
        cases containsText entry.status "installed" with
        | true => exact congrArg (entry.item :: ·) ih
        | false => exact ih
  exact congrArg some read

/-! ## Installed packages -/

theorem contains_of_installed {entry : DpkgEntry} (done : entry.state = "installed".toList) :
    containsText entry.status "installed" = true := by
  refine decide_eq_true (List.IsSuffix.isInfix ⟨entry.want ++ ' ' :: (entry.error ++ [' ']), ?_⟩)
  rw [DpkgEntry.status, done]
  simp

/-- Two filters, of which one keeps more, keep as many just when they keep the same. -/
theorem length_filter_eq_iff {α : Type} {more less : α → Bool} {items : List α}
    (wider : ∀ item ∈ items, less item = true → more item = true) :
    (items.filter more).length = (items.filter less).length ↔
      ∀ item ∈ items, more item = true → less item = true := by
  rw [← List.countP_eq_length_filter, ← List.countP_eq_length_filter]
  induction items with
  | nil => simp
  | cons item items ih =>
      rw [List.forall_mem_cons] at wider
      have later := List.countP_mono_left wider.2
      rw [List.forall_mem_cons, ← ih wider.2, List.countP_cons, List.countP_cons]
      cases kept : more item with
      | false =>
          have dropped : less item = false := by
            cases own : less item with
            | false => rfl
            | true => exact absurd (wider.1 own) (by simp [kept])
          simp [dropped]
      | true =>
          cases own : less item with
          | true => simp
          | false =>
              simp only [if_true, Bool.false_eq_true, if_false, forall_const, false_and, iff_false]
              omega

/-- `collect_dpkg` reports exactly the installed packages of an output in which no other status has
the text `installed`. -/
theorem dpkg_exact (entries : List DpkgEntry) :
    collectDpkg (some (printed (dpkgText entries))) =
        some ((entries.filter fun entry => entry.state = "installed".toList).map DpkgEntry.item) ↔
      ∀ entry ∈ entries, containsText entry.status "installed" = true →
        entry.state = "installed".toList := by
  rw [collectDpkg_dpkgText, Option.some.injEq]
  have wider : ∀ entry ∈ entries, decide (entry.state = "installed".toList) = true →
      containsText entry.status "installed" = true :=
    fun entry _ done => contains_of_installed (of_decide_eq_true done)
  constructor
  · intro same entry member mentions
    have lengths := congrArg List.length same
    rw [List.length_map, List.length_map, length_filter_eq_iff wider] at lengths
    exact of_decide_eq_true (lengths entry member mentions)
  · intro others
    congr 1
    refine List.filter_congr fun entry member => ?_
    rw [Bool.eq_iff_iff, decide_eq_true_eq]
    exact ⟨others entry member, contains_of_installed⟩

/-- A package whose installation was interrupted. -/
def interrupted : DpkgEntry where
  package := "libfoo".toList
  version := "1.2".toList
  want := "install".toList
  error := "reinstreq".toList
  state := "half-installed".toList
  oneLine := by decide
  oneWord := by decide

theorem dpkg_half_installed :
    collectDpkg (some (printed (dpkgText [interrupted]))) = some [interrupted.item] ∧
      [interrupted].filter (fun entry => entry.state = "installed".toList) = [] := by
  rw [collectDpkg_dpkgText]
  decide

def dpkgWants : List (List Char) :=
  ["unknown", "install", "hold", "deinstall", "purge"].map String.toList

def dpkgErrors : List (List Char) := ["ok", "reinstreq"].map String.toList

def dpkgStates : List (List Char) :=
  ["not-installed", "config-files", "half-installed", "unpacked", "half-configured",
    "triggers-awaited", "triggers-pending", "installed"].map String.toList

/-- Among the words of dpkg the filter lets two states pass that are not `installed`. -/
theorem contains_installed_iff {entry : DpkgEntry} (want : entry.want ∈ dpkgWants)
    (error : entry.error ∈ dpkgErrors) (state : entry.state ∈ dpkgStates) :
    containsText entry.status "installed" =
      decide (entry.state ∈ ["installed", "half-installed", "not-installed"].map String.toList) := by
  have table : dpkgWants.all (fun want => dpkgErrors.all fun error => dpkgStates.all fun state =>
      containsText (want ++ ' ' :: (error ++ ' ' :: state)) "installed" ==
        decide (state ∈ ["installed", "half-installed", "not-installed"].map String.toList)) := by
    decide +kernel
  have errors := List.all_eq_true.mp table _ want
  have states := List.all_eq_true.mp errors _ error
  exact eq_of_beq (List.all_eq_true.mp states _ state)

end OsfmEdm
