import OsfmEdm.Common.Events
import OsfmEdm.Library.Table

/-!
The file watcher of the polling monitors (`system_monitor/windows.rs` and `macos.rs`).
-/

namespace OsfmEdm

def MAX_FILES_PER_SCAN : Nat := 5000

/-! ## File systems -/

/-- The modification time, in nanoseconds from the epoch, and the size. -/
structure Stamp where
  modified : Int
  len : UInt64
deriving DecidableEq

mutual

/-- What a path leads to, and whether its metadata or its entries can be read. -/
inductive Node where
  | file (stamp : Stamp) (readable : Bool)
  | dir (readable : Bool) (entries : Entries)

/-- The entries of a directory in the order of `read_dir`. -/
inductive Entries where
  | nil
  | cons (name : String) (node : Node) (rest : Entries)

end

/-- What the two monitors do differently. -/
structure FileRules where
  join : String → String → String
  skips : String → Bool

/-- `Path::join` of a name, with the separators of a platform. -/
def joinPath (separators : List Char) (main : String) (dir name : String) : String :=
  match dir.toList.getLast? with
  | none => name
  | some last => if last ∈ separators then dir ++ name else dir ++ main ++ name

def windowsFiles : FileRules where
  join := joinPath ['\\', '/'] "\\"
  skips _ := false

/-- Without the heaviest system trees. -/
def macosFiles : FileRules where
  join := joinPath ['/'] "/"
  skips name :=
    name ∈ ["System", "Library", ".DocumentRevisions-V100", ".Spotlight-V100", ".Trashes"]

def Node.isDir : Node → Bool
  | .file .. => false
  | .dir .. => true

mutual

/-- The files at and below a path. -/
def Node.files (rules : FileRules) (path : String) : Node → List (String × Stamp)
  | .file stamp _ => [(path, stamp)]
  | .dir _ entries => entries.files rules path

def Entries.files (rules : FileRules) (dir : String) : Entries → List (String × Stamp)
  | .nil => []
  | .cons name node rest => node.files rules (rules.join dir name) ++ rest.files rules dir

end

/-- The roots that are watched with what they lead to. A path names one file. -/
structure FileSystem (rules : FileRules) where
  roots : List (String × Node)
  one : ∀ path stamp other, (path, stamp) ∈ roots.flatMap (fun root => root.2.files rules root.1) →
    (path, other) ∈ roots.flatMap (fun root => root.2.files rules root.1) → stamp = other

def FileSystem.files {rules : FileRules} (fs : FileSystem rules) : List (String × Stamp) :=
  fs.roots.flatMap fun root => root.2.files rules root.1

def FileSystem.exists {rules : FileRules} (fs : FileSystem rules) (path : String) : Prop :=
  ∃ stamp, (path, stamp) ∈ fs.files

/-! ## Scans -/

/-- The seconds since the epoch and the size; the time is 0 before the epoch. -/
def Stamp.read (stamp : Stamp) : Nat × UInt64 := ((stamp.modified / 1000000000).toNat, stamp.len)

abbrev Scan := Table String (Nat × UInt64)

mutual

/-- What the loop of `walk_dir` does with an entry; for a directory this is the call for it. -/
def Node.walk (rules : FileRules) (path : String) (depth : Nat) (out : Scan) : Node → Scan
  | .file stamp readable =>
      if readable then out.upsert path stamp.read fun _ => stamp.read else out
  | .dir readable entries =>
      if depth > 6 ∨ out.rows.length ≥ MAX_FILES_PER_SCAN then out
      else if readable then entries.walk rules path depth out
      else out

def Entries.walk (rules : FileRules) (dir : String) (depth : Nat) (out : Scan) : Entries → Scan
  | .nil => out
  | .cons name node rest =>
      let out :=
        if node.isDir && rules.skips name then out
        else node.walk rules (rules.join dir name) (depth + 1) out
      if out.rows.length ≥ MAX_FILES_PER_SCAN then out else rest.walk rules dir depth out

end

def scanRoots (rules : FileRules) (out : Scan) : List (String × Node) → Scan
  | [] => out
  | (root, node) :: rest =>
      -- `read_dir` fails where the root is no directory
      let out := if node.isDir then node.walk rules root 0 out else out
      if out.rows.length ≥ MAX_FILES_PER_SCAN then out else scanRoots rules out rest

def FileSystem.scan {rules : FileRules} (fs : FileSystem rules) : Scan :=
  scanRoots rules .empty fs.roots

/-- The events between two scans; a send that fails ends the watcher, and the list with it. -/
def scanEvents (timestamp : Int64) (known current : Scan) : List SystemEvent :=
  let event (path : String) (operation : FileOperation) : SystemEvent :=
    .fileAccessed 0 path operation timestamp
  let changed := current.rows.filterMap fun (path, now) =>
    match known.find? path with
    | none => some (event path .create)
    | some before => if before ≠ now then some (event path .write) else none
  let gone := known.rows.filterMap fun (path, _) =>
    if current.contains path then none else some (event path .delete)
  changed ++ gone

/-- What the watcher knows before each scan; it starts in state 0 with nothing. -/
def known {rules : FileRules} (states : Nat → FileSystem rules) : Nat → Scan
  | 0 => .empty
  | scan + 1 => (states (scan + 1)).scan

/-- The events of a scan, which finds the state after its number. -/
def pollFiles {rules : FileRules} (states : Nat → FileSystem rules) (timestamp : Nat → Int64)
    (scan : Nat) : List SystemEvent :=
  scanEvents (timestamp scan) (known states scan) (states (scan + 1)).scan

/-! ## Files that can be walked -/

mutual

def Node.walkable (rules : FileRules) (path : String) (depth : Nat) : Node → List (String × Stamp)
  | .file stamp readable => if readable then [(path, stamp)] else []
  | .dir readable entries =>
      if depth > 6 ∨ readable = false then [] else entries.walkable rules path depth

def Entries.walkable (rules : FileRules) (dir : String) (depth : Nat) :
    Entries → List (String × Stamp)
  | .nil => []
  | .cons name node rest =>
      (if node.isDir && rules.skips name then []
        else node.walkable rules (rules.join dir name) (depth + 1)) ++
      rest.walkable rules dir depth

end

def FileSystem.walkable {rules : FileRules} (fs : FileSystem rules) : List (String × Stamp) :=
  fs.roots.flatMap fun root => if root.2.isDir then root.2.walkable rules root.1 0 else []

/-- The paths within the reach of a scan: the first ones in the order of the directories. -/
def FileSystem.reached {rules : FileRules} (fs : FileSystem rules) : List String :=
  (fs.walkable.map Prod.fst).eraseDups.take MAX_FILES_PER_SCAN

def readings (files : List (String × Stamp)) : List (String × (Nat × UInt64)) :=
  files.map fun file => (file.1, file.2.read)

theorem readings_append (first second : List (String × Stamp)) :
    readings (first ++ second) = readings first ++ readings second := List.map_append

mutual

theorem Node.walk_eq (rules : FileRules) (path : String) (depth : Nat) (out : Scan)
    (room : out.rows.length < MAX_FILES_PER_SCAN) (node : Node) :
    node.walk rules path depth out =
      out.putUntil MAX_FILES_PER_SCAN (readings (node.walkable rules path depth)) := by
  cases node with
  | file stamp readable =>
      cases readable with
      | false => rfl
      | true => simp [Node.walk, Node.walkable, readings, Table.putUntil]
  | dir readable entries =>
      have below : ¬ out.rows.length ≥ MAX_FILES_PER_SCAN := Nat.not_le_of_lt room
      rw [Node.walk, Node.walkable]
      by_cases deep : depth > 6
      · simp [deep, readings, Table.putUntil]
      · cases readable with
        | false => simp [readings, Table.putUntil]
        | true =>
            simp only [deep, below, Bool.true_eq_false, or_self, if_false, if_true]
            exact Entries.walk_eq rules path depth out room entries

theorem Entries.walk_eq (rules : FileRules) (dir : String) (depth : Nat) (out : Scan)
    (room : out.rows.length < MAX_FILES_PER_SCAN) (entries : Entries) :
    entries.walk rules dir depth out =
      out.putUntil MAX_FILES_PER_SCAN (readings (entries.walkable rules dir depth)) := by
  cases entries with
  | nil => rfl
  | cons name node rest =>
      have first : (if node.isDir && rules.skips name then out
          else node.walk rules (rules.join dir name) (depth + 1) out) =
          out.putUntil MAX_FILES_PER_SCAN (readings (if node.isDir && rules.skips name then []
            else node.walkable rules (rules.join dir name) (depth + 1))) := by
        split
        · rfl
        · exact Node.walk_eq rules (rules.join dir name) (depth + 1) out room node
      rw [Entries.walk, Entries.walkable, readings_append, Table.putUntil_append room, first]
      generalize out.putUntil MAX_FILES_PER_SCAN (readings
        (if node.isDir && rules.skips name then []
          else node.walkable rules (rules.join dir name) (depth + 1))) = next
      split
      · rfl
      · rename_i more
        exact Entries.walk_eq rules dir depth next (Nat.lt_of_not_le more) rest

end

theorem scanRoots_eq (rules : FileRules) (out : Scan) (roots : List (String × Node))
    (room : out.rows.length < MAX_FILES_PER_SCAN) :
    scanRoots rules out roots = out.putUntil MAX_FILES_PER_SCAN (readings (roots.flatMap fun root =>
      if root.2.isDir then root.2.walkable rules root.1 0 else [])) := by
  induction roots generalizing out with
  | nil => rfl
  | cons root roots ih =>
      obtain ⟨path, node⟩ := root
      have first : (if node.isDir then node.walk rules path 0 out else out) =
          out.putUntil MAX_FILES_PER_SCAN (readings
            (if node.isDir then node.walkable rules path 0 else [])) := by
        split
        · exact Node.walk_eq rules path 0 out room node
        · rfl
      rw [scanRoots, List.flatMap_cons, readings_append, Table.putUntil_append room, first]
      generalize out.putUntil MAX_FILES_PER_SCAN
        (readings (if node.isDir then node.walkable rules path 0 else [])) = next
      split
      · rfl
      · rename_i more
        exact ih next (Nat.lt_of_not_le more)

theorem FileSystem.scan_eq {rules : FileRules} (fs : FileSystem rules) :
    fs.scan = Table.empty.putUntil MAX_FILES_PER_SCAN (readings fs.walkable) :=
  scanRoots_eq rules .empty fs.roots (by decide)

mutual

theorem Node.walkable_files (rules : FileRules) (path : String) (depth : Nat) (node : Node) :
    ∀ file ∈ node.walkable rules path depth, file ∈ node.files rules path := by
  intro file member
  cases node with
  | file stamp readable =>
      cases readable with
      | false => cases member
      | true => exact member
  | dir readable entries =>
      rw [Node.walkable] at member
      split at member
      · cases member
      · exact Entries.walkable_files rules path depth entries file member

theorem Entries.walkable_files (rules : FileRules) (dir : String) (depth : Nat)
    (entries : Entries) :
    ∀ file ∈ entries.walkable rules dir depth, file ∈ entries.files rules dir := by
  intro file member
  cases entries with
  | nil => cases member
  | cons name node rest =>
      rw [Entries.walkable] at member
      rw [Entries.files]
      rcases List.mem_append.mp member with here | later
      · split at here
        · cases here
        · exact List.mem_append_left _
            (Node.walkable_files rules (rules.join dir name) (depth + 1) node file here)
      · exact List.mem_append_right _ (Entries.walkable_files rules dir depth rest file later)

end

namespace FileSystem

variable {rules : FileRules} (fs : FileSystem rules)

theorem walkable_files : ∀ file ∈ fs.walkable, file ∈ fs.files := by
  intro file member
  obtain ⟨root, listed, inside⟩ := List.mem_flatMap.mp member
  split at inside
  · exact List.mem_flatMap.mpr ⟨root, listed, root.2.walkable_files rules root.1 0 file inside⟩
  · cases inside

theorem scan_keys : fs.scan.rows.map Prod.fst = fs.reached := by
  rw [scan_eq, Table.keys_putUntil (by decide), reached]
  simp [Table.empty, readings, Function.comp_def]

theorem scan_found {path : String} {now : Nat × UInt64} (found : fs.scan.find? path = some now) :
    ∃ stamp, (path, stamp) ∈ fs.files ∧ now = stamp.read := by
  have member := (Table.find?_eq_some ..).mp found
  rw [scan_eq] at member
  rcases Table.mem_putUntil member with none | reading
  · cases none
  · obtain ⟨file, walked, same⟩ := List.mem_map.mp reading
    cases same
    exact ⟨file.2, fs.walkable_files file walked, rfl⟩

theorem scan_missing {path : String} : fs.scan.find? path = none ↔ path ∉ fs.reached := by
  rw [Table.find?_eq_none, scan_keys]

theorem reached_exists {path : String} (reached : path ∈ fs.reached) : fs.exists path := by
  cases found : fs.scan.find? path with
  | none => exact absurd reached (fs.scan_missing.mp found)
  | some now =>
      obtain ⟨stamp, member, -⟩ := fs.scan_found found
      exact ⟨stamp, member⟩

end FileSystem

/-! ## Events -/

theorem mem_scanEvents {timestamp : Int64} {known current : Scan} {event : SystemEvent} :
    event ∈ scanEvents timestamp known current ↔
      (∃ path now, current.find? path = some now ∧ known.find? path = none ∧
        event = .fileAccessed 0 path .create timestamp) ∨
      (∃ path now before, current.find? path = some now ∧ known.find? path = some before ∧
        before ≠ now ∧ event = .fileAccessed 0 path .write timestamp) ∨
      (∃ path before, known.find? path = some before ∧ current.find? path = none ∧
        event = .fileAccessed 0 path .delete timestamp) := by
  simp only [scanEvents, List.mem_append, List.mem_filterMap]
  constructor
  · rintro (⟨⟨path, now⟩, member, sent⟩ | ⟨⟨path, before⟩, member, sent⟩)
    · have found := (Table.find?_eq_some ..).mpr member
      dsimp only at sent
      split at sent
      · rename_i missing
        exact .inl ⟨path, now, found, missing, (Option.some.inj sent).symm⟩
      · rename_i before located
        split at sent
        · rename_i different
          exact .inr (.inl ⟨path, now, before, found, located, different,
            (Option.some.inj sent).symm⟩)
        · cases sent
    · have found := (Table.find?_eq_some ..).mpr member
      dsimp only at sent
      split at sent
      · cases sent
      · rename_i missing
        exact .inr (.inr ⟨path, before, found, by simpa [Table.contains] using missing,
          (Option.some.inj sent).symm⟩)
  · rintro (⟨path, now, found, missing, rfl⟩ | ⟨path, now, before, found, located, different, rfl⟩ |
      ⟨path, before, found, missing, rfl⟩)
    · exact .inl ⟨(path, now), (Table.find?_eq_some ..).mp found, by simp [missing]⟩
    · exact .inl ⟨(path, now), (Table.find?_eq_some ..).mp found, by simp [located, different]⟩
    · exact .inr ⟨(path, before), (Table.find?_eq_some ..).mp found,
        by simp [Table.contains, missing]⟩

/-- What an event says of the states before and after it. -/
def RealEvent {rules : FileRules} (before after : FileSystem rules) : SystemEvent → Prop
  | .fileAccessed _ path .create _ => ¬ before.exists path
  | .fileAccessed _ path .delete _ => ¬ after.exists path
  | .fileAccessed _ path .write _ =>
      ∃ old new, (path, old) ∈ before.files ∧ (path, new) ∈ after.files ∧ old ≠ new
  | _ => False

/-- The first scan reaches no file of the state at the start, and two scans that follow each other
reach the same of the files that stay. -/
structure SameReach {rules : FileRules} (states : Nat → FileSystem rules) : Prop where
  start : ∀ path, (states 0).exists path → path ∉ (states 1).reached
  stays : ∀ scan path, (states (scan + 1)).exists path → (states (scan + 2)).exists path →
    (path ∈ (states (scan + 1)).reached ↔ path ∈ (states (scan + 2)).reached)

theorem reached_found {rules : FileRules} {fs : FileSystem rules} {path : String} :
    path ∈ fs.reached ↔ ∃ now, fs.scan.find? path = some now := by
  rw [← Option.isSome_iff_exists, Option.isSome_iff_ne_none, ne_eq, fs.scan_missing, not_not]

theorem real_of_sameReach {rules : FileRules} {states : Nat → FileSystem rules}
    (same : SameReach states) (timestamp : Nat → Int64) (scan : Nat) :
    ∀ event ∈ pollFiles states timestamp scan,
      RealEvent (states scan) (states (scan + 1)) event := by
  intro event sent
  rcases mem_scanEvents.mp sent with ⟨path, now, found, missing, rfl⟩ |
    ⟨path, now, before, found, located, different, rfl⟩ | ⟨path, before, found, missing, rfl⟩
  · have reached := reached_found.mpr ⟨now, found⟩
    intro existed
    cases scan with
    | zero => exact same.start path existed reached
    | succ scan =>
        have stays := FileSystem.reached_exists _ reached
        have earlier := (same.stays scan path existed stays).mpr reached
        exact (FileSystem.scan_missing _).mp missing earlier
  · cases scan with
    | zero => cases located
    | succ scan =>
        obtain ⟨old, first, rfl⟩ := FileSystem.scan_found _ located
        obtain ⟨new, second, rfl⟩ := FileSystem.scan_found _ found
        exact ⟨old, new, first, second, fun eq => different (congrArg Stamp.read eq)⟩
  · intro stays
    cases scan with
    | zero => cases found
    | succ scan =>
        have reached := reached_found.mpr ⟨before, found⟩
        have existed := FileSystem.reached_exists _ reached
        have later := (same.stays scan path existed stays).mp reached
        exact (FileSystem.scan_missing _).mp missing later

theorem sameReach_of_real {rules : FileRules} {states : Nat → FileSystem rules}
    {timestamp : Nat → Int64} (real : ∀ scan, ∀ event ∈ pollFiles states timestamp scan,
      RealEvent (states scan) (states (scan + 1)) event) : SameReach states := by
  have created (scan : Nat) (path : String) (existed : (states scan).exists path)
      (missing : (known states scan).find? path = none) : path ∉ (states (scan + 1)).reached := by
    intro reached
    obtain ⟨now, found⟩ := reached_found.mp reached
    exact real scan _ (mem_scanEvents.mpr (.inl ⟨path, now, found, missing, rfl⟩)) existed
  refine ⟨fun path existed => created 0 path existed rfl, fun scan path existed stays => ⟨?_, ?_⟩⟩
  · intro reached
    obtain ⟨before, found⟩ := reached_found.mp reached
    by_contra missing
    exact real (scan + 1) _ (mem_scanEvents.mpr (.inr (.inr
      ⟨path, before, found, (FileSystem.scan_missing _).mpr missing, rfl⟩))) stays
  · intro reached
    by_contra missing
    exact created (scan + 1) path existed ((FileSystem.scan_missing _).mpr missing) reached

/-- A file in a directory that can be read or not. -/
def oneFile (readable : Bool) : FileSystem windowsFiles where
  roots := [("C:\\Data", .dir readable (.cons "notes.txt" (.file ⟨0, 12⟩ true) .nil))]
  one := by
    intro path stamp other first second
    simp [Node.files, Entries.files] at first second
    rw [first.2, second.2]

example : pollFiles (fun scan => oneFile (decide (scan ≤ 1))) (fun _ => 0) 1 =
    [.fileAccessed 0 "C:\\Data\\notes.txt" .delete 0] := by decide

end OsfmEdm
