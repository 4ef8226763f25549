import OsfmEdm.Agent.Enforcement

/-!
The processes that `kill_blacklisted_processes` kills and those that `check_blacklisted_processes`
reports (`policy/engine.rs`), for deny lists that may have blank entries.
-/

namespace OsfmEdm

open JsonText

structure RunningProcess where
  pid : Nat
  name : String
deriving DecidableEq

def killBlacklistedProcesses (deny : List String) : List RunningProcess → List RunningProcess
  | [] => []
  | process :: rest =>
      if deny.any fun denied => containsText process.name.toList denied then
        process :: killBlacklistedProcesses deny rest
      else killBlacklistedProcesses deny rest

def checkBlacklistedProcesses (deny : List String) (table : List RunningProcess) : List String :=
  table.foldl (fun found process =>
    if deny.any fun denied => containsText process.name.toList denied then found ++ [process.name]
    else found) []

/-- `entry.trim().is_empty()`. -/
def isBlank (entry : String) : Bool := entry.toList.all isWhiteSpace

/-- What is asked of the kills; the two functions may see the table in different orders. -/
structure KillsOnlyDenied (deny : List String) (table : List RunningProcess) : Prop where
  reported : ∀ order, order.Perm table →
    ((killBlacklistedProcesses deny order).map (·.name)).Perm (checkBlacklistedProcesses deny table)
  killed : ∀ process, process ∈ killBlacklistedProcesses deny table ↔
    process ∈ table ∧ process.name ∈ checkBlacklistedProcesses deny table
  denied : ∀ process ∈ killBlacklistedProcesses deny table, ∃ entry ∈ deny,
    isBlank entry = false ∧ entry.toList <:+: process.name.toList
  blank : ∀ entry ∈ deny, isBlank entry = true → ∀ process ∈ table,
    ¬ entry.toList <:+: process.name.toList
  spares : ∀ process ∈ table,
    (∀ entry ∈ deny, isBlank entry = false → ¬ entry.toList <:+: process.name.toList) →
      killBlacklistedProcesses deny table ≠ table

/-! ## The two loops -/

variable {deny : List String} {table : List RunningProcess}

theorem killBlacklistedProcesses_eq (deny : List String) (table : List RunningProcess) :
    killBlacklistedProcesses deny table =
      table.filter fun process => deny.any fun denied => containsText process.name.toList denied := by
  induction table with
  | nil => rfl
  | cons process rest ih =>
      rw [killBlacklistedProcesses, List.filter_cons, ih]

theorem checkBlacklistedProcesses_eq (deny : List String) (table : List RunningProcess) :
    checkBlacklistedProcesses deny table =
      (killBlacklistedProcesses deny table).map (·.name) := by
  have pushed (found : List String) :
      table.foldl (fun found process =>
        if deny.any fun denied => containsText process.name.toList denied then
          found ++ [process.name]
        else found) found = found ++ (killBlacklistedProcesses deny table).map (·.name) := by
    induction table generalizing found with
    | nil => simp [killBlacklistedProcesses]
    | cons process rest ih =>
        rw [List.foldl_cons, killBlacklistedProcesses]
        split
        · rw [ih, List.map_cons, List.append_assoc, List.singleton_append]
        · exact ih found
  exact (pushed []).trans (List.nil_append _)

theorem mem_killed {process : RunningProcess} :
    process ∈ killBlacklistedProcesses deny table ↔
      process ∈ table ∧ ∃ entry ∈ deny, entry.toList <:+: process.name.toList := by
  simp [killBlacklistedProcesses_eq, containsText]

theorem check_eq_blacklisted {host : Host} (processes : host.processes = table.map (·.name)) :
    checkBlacklistedProcesses deny table = host.blacklisted deny := by
  rw [checkBlacklistedProcesses_eq, killBlacklistedProcesses_eq, Host.blacklisted, processes,
    List.filter_map]
  rfl

/-- What is left of the table is what the enforcement leaves of the host's processes. -/
theorem killBlacklisted_eq (deny : List String) (table : List RunningProcess) :
    killBlacklisted (table.map (·.name)) deny =
      (table.filter fun process => decide (process ∉ killBlacklistedProcesses deny table)).map
        (·.name) := by
  rw [killBlacklisted, List.filter_map]
  congr 1
  refine List.filter_congr fun process member => Bool.eq_iff_iff.mpr ?_
  simp [mem_killed, member]

/-! ## Blank entries -/

theorem reported_perm {order : List RunningProcess} (perm : order.Perm table) :
    ((killBlacklistedProcesses deny order).map (·.name)).Perm
      (checkBlacklistedProcesses deny table) := by
  rw [checkBlacklistedProcesses_eq, killBlacklistedProcesses_eq, killBlacklistedProcesses_eq]
  exact (perm.filter _).map _

theorem killed_iff {process : RunningProcess} :
    process ∈ killBlacklistedProcesses deny table ↔
      process ∈ table ∧ process.name ∈ checkBlacklistedProcesses deny table := by
  rw [checkBlacklistedProcesses_eq]
  constructor
  · intro killed
    exact ⟨(mem_killed.mp killed).1, List.mem_map_of_mem killed⟩
  · rintro ⟨member, reported⟩
    obtain ⟨other, killed, same⟩ := List.mem_map.mp reported
    obtain ⟨-, entry, listed, part⟩ := mem_killed.mp killed
    exact mem_killed.mpr ⟨member, entry, listed, same ▸ part⟩

theorem killsOnlyDenied_iff_blank : KillsOnlyDenied deny table ↔
    ∀ entry ∈ deny, isBlank entry = true → ∀ process ∈ table,
      ¬ entry.toList <:+: process.name.toList := by
  refine ⟨KillsOnlyDenied.blank, fun blank => ?_⟩
  have denied (process) (killed : process ∈ killBlacklistedProcesses deny table) :
      ∃ entry ∈ deny, isBlank entry = false ∧ entry.toList <:+: process.name.toList := by
    obtain ⟨member, entry, listed, part⟩ := mem_killed.mp killed
    refine ⟨entry, listed, ?_, part⟩
    by_contra empty
    exact blank entry listed (by simpa using empty) process member part
  refine ⟨fun order => reported_perm, fun process => killed_iff, denied, blank, ?_⟩
  intro process member spared all
  rw [← all] at member
  obtain ⟨entry, listed, some, part⟩ := denied process member
  exact spared entry listed some part

theorem blank_iff : (∀ entry ∈ deny, isBlank entry = true → ∀ process ∈ table,
      ¬ entry.toList <:+: process.name.toList) ↔ ("" ∈ deny → table = []) ∧
    ∀ entry ∈ deny, entry ≠ "" → isBlank entry = true → ∀ process ∈ table,
      ¬ entry.toList <:+: process.name.toList := by
  constructor
  · intro blank
    refine ⟨fun empty => ?_, fun entry listed _ => blank entry listed⟩
    refine List.eq_nil_iff_forall_not_mem.mpr fun process member => ?_
    exact blank "" empty rfl process member List.nil_infix
  · rintro ⟨empty, blank⟩ entry listed white process member
    by_cases none : entry = ""
    · subst none
      rw [empty listed] at member
      cases member
    · exact blank entry listed none white process member

theorem blacklist_kills_iff (deny : List String) :
    (∀ table, KillsOnlyDenied deny table ↔ ("" ∈ deny → table = []) ∧
      ∀ entry ∈ deny, entry ≠ "" → isBlank entry = true → ∀ process ∈ table,
        ¬ entry.toList <:+: process.name.toList) ∧
    ((∀ table, KillsOnlyDenied deny table) ↔ ∀ entry ∈ deny, isBlank entry = false) := by
  refine ⟨fun table => killsOnlyDenied_iff_blank.trans blank_iff, ?_⟩
  simp only [killsOnlyDenied_iff_blank]
  constructor
  · intro blank entry listed
    by_contra white
    exact blank [{ pid := 1, name := entry }] entry listed (by simpa using white) _
      (List.mem_singleton.mpr rfl) (List.infix_refl _)
  · intro some table entry listed white
    rw [some entry listed] at white
    cases white

/-- A rule read from raw JSON whose list has the empty string kills every process. -/
theorem empty_entry_kills :
    PolicyRule.codec.decode (.object [("type", .string "process_blacklist"),
      ("deny", .array [.string ""])]) = some (.processBlacklist [""]) ∧
    enforceRule (.processBlacklist [""]) = some (.killBlacklisted [""]) ∧
    killBlacklistedProcesses [""] [⟨1, "systemd"⟩, ⟨800, "sshd"⟩] =
      [⟨1, "systemd"⟩, ⟨800, "sshd"⟩] ∧
    ¬ KillsOnlyDenied [""] [⟨1, "systemd"⟩, ⟨800, "sshd"⟩] := by
  have killed : killBlacklistedProcesses [""] [⟨1, "systemd"⟩, ⟨800, "sshd"⟩] =
      [⟨1, "systemd"⟩, ⟨800, "sshd"⟩] := by decide
  refine ⟨rfl, rfl, killed, fun only => ?_⟩
  exact only.blank "" (List.mem_singleton.mpr rfl) rfl ⟨1, "systemd"⟩ List.mem_cons_self
    List.nil_infix

end OsfmEdm
