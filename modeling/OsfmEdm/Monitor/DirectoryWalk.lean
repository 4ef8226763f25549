import Mathlib.Logic.Relation
import OsfmEdm.Library.Utf8Lossy
import OsfmEdm.Monitor.FilePolling

/-!
The walk of the file watchers (`walk_dir` of `system_monitor/windows.rs` and `macos.rs`) over what
`read_dir` and `is_dir` answer: a graph that may have cycles and may change while it is walked.
-/

namespace OsfmEdm

/-! ## Paths -/

/-- What the two monitors do differently. -/
structure PathRules (Path Name Text : Type) where
  join : Path → Name → Path
  /-- `to_string_lossy`. -/
  text : Path → Text
  skips : Name → Bool

/-- `Path::join` of a name, in the units of a platform. -/
def joinUnits {υ : Type} [DecidableEq υ] (separators : List υ) (main : υ) (dir name : List υ) :
    List υ :=
  match dir.getLast? with
  | none => name
  | some last => if separators.any (· = last) then dir ++ name else dir ++ main :: name

def isSurrogate (unit : UInt16) : Bool := 0xD800 ≤ unit && unit < 0xE000

/-- UTF-16 with U+FFFD for each surrogate that is not one of a pair. -/
def utf16Lossy : List UInt16 → List Char
  | [] => []
  | [unit] => [if isSurrogate unit then '\uFFFD' else Char.ofNat unit.toNat]
  | unit :: low :: rest =>
      if isSurrogate unit then
        if unit < 0xDC00 ∧ isSurrogate low ∧ 0xDC00 ≤ low then
          Char.ofNat (0x10000 + 1024 * (unit.toNat - 0xD800) + (low.toNat - 0xDC00)) ::
            utf16Lossy rest
        else '\uFFFD' :: utf16Lossy (low :: rest)
      else Char.ofNat unit.toNat :: utf16Lossy (low :: rest)

example : utf16Lossy [0x41, 0xD83D, 0xDE00, 0xD800, 0x42] = ['A', '😀', '\uFFFD', 'B'] := by decide

/-- Paths of 16-bit units. A drive takes a name without a separator. -/
def windowsPaths : PathRules (List UInt16) (List UInt16) (List Char) where
  join dir name :=
    match dir with
    | [_, 0x3A] => dir ++ name
    | _ => joinUnits [0x5C, 0x2F] 0x5C dir name
  text := utf16Lossy
  skips _ := false

/-- Paths of bytes, without the heaviest system trees. A text is written in UTF-8. -/
def macosPaths : PathRules (List UInt8) (List UInt8) (List UInt8) where
  join := joinUnits [0x2F] 0x2F
  text := Utf8Lossy.lossy
  skips name :=
    ["System", "Library", ".DocumentRevisions-V100", ".Spotlight-V100", ".Trashes"].any
      fun skipped => name = skipped.toList.map fun char => char.toNat.toUInt8

/-! ## The walk -/

/-- What the calls find. -/
structure DirGraph (Path Name : Type) where
  /-- The entries, none for one that cannot be read; none where the directory cannot be read. -/
  readDir : Path → Option (List (Option Name))
  isDir : Path → Bool
  metadata : Path → Option Stamp

structure WalkState (Path Text : Type) where
  out : Table Text (Nat × UInt64)
  calls : Nat
  /-- The directories read, with their depths. -/
  reads : List (Path × Nat)
  /-- The files put into the map, with what was put. -/
  written : List (Path × (Nat × UInt64))

section

variable {Path Name Text : Type} [DecidableEq Text]

namespace WalkState

def start : WalkState Path Text := ⟨.empty, 0, [], []⟩

def call (state : WalkState Path Text) : WalkState Path Text :=
  { state with calls := state.calls + 1 }

def read (state : WalkState Path Text) (dir : Path) (depth : Nat) : WalkState Path Text :=
  { state with calls := state.calls + 1, reads := state.reads ++ [(dir, depth)] }

def write (rules : PathRules Path Name Text) (state : WalkState Path Text) (path : Path)
    (found : Nat × UInt64) : WalkState Path Text :=
  { state with
    calls := state.calls + 1
    out := state.out.upsert (rules.text path) found fun _ => found
    written := state.written ++ [(path, found)] }

def Full (state : WalkState Path Text) : Prop := state.out.rows.length ≥ MAX_FILES_PER_SCAN

instance (state : WalkState Path Text) : Decidable state.Full := Nat.decLe _ _

end WalkState

variable (rules : PathRules Path Name Text) (fs : Nat → DirGraph Path Name)

/-- An entry with `is_dir` asked, and the call for a directory. -/
def visit (walk : Path → WalkState Path Text → Option (WalkState Path Text)) (isDir : Bool)
    (path : Path) (state : WalkState Path Text) : Option (WalkState Path Text) :=
  if isDir then walk path state
  else
    match (fs state.calls).metadata path with
    | some stamp => some (state.write rules path stamp.read)
    | none => some state.call

/-- The loop of `walk_dir`. -/
def walkEntries (walk : Path → WalkState Path Text → Option (WalkState Path Text)) (dir : Path) :
    List (Option Name) → WalkState Path Text → Option (WalkState Path Text)
  | [], state => some state
  | none :: entries, state => walkEntries walk dir entries state
  | some name :: entries, state =>
      let path := rules.join dir name
      let isDir := (fs state.calls).isDir path
      if isDir && rules.skips name then walkEntries walk dir entries state.call
      else
        (visit rules fs walk isDir path state.call).bind fun state =>
          if state.Full then some state else walkEntries walk dir entries state

/-- None where the calls go deeper than the fuel. The answers may differ from call to call. -/
def walkDir : Nat → Path → Nat → WalkState Path Text → Option (WalkState Path Text)
  | 0, _, _, _ => none
  | fuel + 1, dir, depth, state =>
      if depth > 6 ∨ state.Full then some state
      else
        match (fs state.calls).readDir dir with
        | none => some (state.read dir depth)
        | some entries =>
            walkEntries rules fs (fun path => walkDir fuel path (depth + 1)) dir entries
              (state.read dir depth)

/-- The loop of `poll_files` over the roots. -/
def walkRoots (fuel : Nat) : List Path → WalkState Path Text → Option (WalkState Path Text)
  | [], state => some state
  | root :: roots, state =>
      (walkDir rules fs fuel root 0 state).bind fun state =>
        if state.Full then some state else walkRoots fuel roots state

/-! ## It ends -/

theorem visit_isSome {walk : Path → WalkState Path Text → Option (WalkState Path Text)}
    (ends : ∀ path state, (walk path state).isSome) (isDir : Bool) (path : Path)
    (state : WalkState Path Text) : (visit rules fs walk isDir path state).isSome := by
  rw [visit]
  split
  · exact ends path state
  · split <;> rfl

variable {rules fs}

theorem walkEntries_isSome {walk : Path → WalkState Path Text → Option (WalkState Path Text)}
    (ends : ∀ path state, (walk path state).isSome) (dir : Path) (entries : List (Option Name))
    (state : WalkState Path Text) : (walkEntries rules fs walk dir entries state).isSome := by
  induction entries generalizing state with
  | nil => rfl
  | cons entry entries ih =>
      cases entry with
      | none => exact ih state
      | some name =>
          rw [walkEntries]
          obtain ⟨after, visited⟩ := Option.isSome_iff_exists.mp (visit_isSome rules fs ends
            ((fs state.calls).isDir (rules.join dir name)) (rules.join dir name) state.call)
          simp only [visited, Option.bind_some]
          split
          · exact ih _
          · split
            · rfl
            · exact ih _

/-- The calls go no deeper than one beyond the depth that is read. -/
theorem walkDir_isSome {fuel depth : Nat} (enough : 7 - depth < fuel) (dir : Path)
    (state : WalkState Path Text) : (walkDir rules fs fuel dir depth state).isSome := by
  induction fuel generalizing dir depth state with
  | zero => omega
  | succ fuel ih =>
      rw [walkDir]
      split
      · rfl
      · rename_i more
        split
        · rfl
        · exact walkEntries_isSome (fun path state => ih (by omega) path state) dir _ _

theorem walkDir_fuel {fuel other depth : Nat} (enough : 7 - depth < fuel)
    (enough' : 7 - depth < other) (dir : Path) (state : WalkState Path Text) :
    walkDir rules fs fuel dir depth state = walkDir rules fs other dir depth state := by
  induction fuel generalizing other dir depth state with
  | zero => omega
  | succ fuel ih =>
      obtain ⟨other, rfl⟩ : ∃ before, other = before + 1 := ⟨other - 1, by omega⟩
      rw [walkDir, walkDir]
      split
      · rfl
      · rename_i more
        have same : (fun path => walkDir rules fs fuel path (depth + 1)) =
            fun path => walkDir rules fs other path (depth + 1) := by
          funext path state
          exact ih (by omega) (by omega) path state
        rw [same]

/-! ## What it does -/

variable (rules fs) in
/-- The calls of a walk with what they do to its state. -/
inductive WalkStep : WalkState Path Text → WalkState Path Text → Prop
  | call (state) : WalkStep state state.call
  | read (state dir depth) (shallow : depth ≤ 6) : WalkStep state (state.read dir depth)
  | write (state path stamp) (room : ¬ state.Full)
      (found : (fs state.calls).metadata path = some stamp) :
      WalkStep state (state.write rules path stamp.read)

variable (rules fs) in
abbrev WalkSteps : WalkState Path Text → WalkState Path Text → Prop :=
  Relation.ReflTransGen (WalkStep rules fs)

theorem visit_steps {walk : Path → WalkState Path Text → Option (WalkState Path Text)}
    (steps : ∀ {path state result}, walk path state = some result → WalkSteps rules fs state result)
    {isDir : Bool} {path : Path} {state result : WalkState Path Text} (room : ¬ state.Full)
    (visited : visit rules fs walk isDir path state = some result) :
    WalkSteps rules fs state result := by
  rw [visit] at visited
  split at visited
  · exact steps visited
  · split at visited
    · rename_i stamp found
      cases visited
      exact .single (.write state path stamp room found)
    · cases visited
      exact .single (.call state)

theorem walkEntries_steps {walk : Path → WalkState Path Text → Option (WalkState Path Text)}
    (steps : ∀ {path state result}, walk path state = some result → WalkSteps rules fs state result)
    {dir : Path} {entries : List (Option Name)} {state result : WalkState Path Text}
    (room : ¬ state.Full) (walked : walkEntries rules fs walk dir entries state = some result) :
    WalkSteps rules fs state result := by
  induction entries generalizing state with
  | nil =>
      cases walked
      exact .refl
  | cons entry entries ih =>
      cases entry with
      | none => exact ih room walked
      | some name =>
          have asked : WalkSteps rules fs state state.call := .single (.call state)
          rw [walkEntries] at walked
          split at walked
          · exact asked.trans (ih room walked)
          · obtain ⟨after, visited, rest⟩ := Option.bind_eq_some_iff.mp walked
            have entered := asked.trans (visit_steps steps room visited)
            split at rest
            · cases rest
              exact entered
            · rename_i more
              exact entered.trans (ih more rest)

theorem walkDir_steps {fuel depth : Nat} {dir : Path} {state result : WalkState Path Text}
    (walked : walkDir rules fs fuel dir depth state = some result) :
    WalkSteps rules fs state result := by
  induction fuel generalizing dir depth state result with
  | zero => cases walked
  | succ fuel ih =>
      rw [walkDir] at walked
      split at walked
      · cases walked
        exact .refl
      · rename_i more
        obtain ⟨shallow, room⟩ := not_or.mp more
        have read : WalkSteps rules fs state (state.read dir depth) :=
          .single (.read state dir depth (Nat.not_lt.mp shallow))
        split at walked
        · cases walked
          exact read
        · exact read.trans (walkEntries_steps ih room walked)

theorem walkRoots_steps {fuel : Nat} {roots : List Path} {state result : WalkState Path Text}
    (walked : walkRoots rules fs fuel roots state = some result) :
    WalkSteps rules fs state result := by
  induction roots generalizing state with
  | nil =>
      cases walked
      exact .refl
  | cons root roots ih =>
      obtain ⟨after, first, rest⟩ := Option.bind_eq_some_iff.mp walked
      split at rest
      · cases rest
        exact walkDir_steps first
      · exact (walkDir_steps first).trans (ih rest)

/-! ## What it keeps -/

theorem WalkState.find_write (state : WalkState Path Text) (path : Path) (found : Nat × UInt64)
    (key : Text) : (state.write rules path found).out.find? key =
      if key = rules.text path then some found else state.out.find? key := by
  rw [write, Table.find?_upsert]
  split
  · split <;> rfl
  · rfl

/-- No row is removed from the map, and a row changes only to what is found of a path with its
text. -/
structure Keeps (rules : PathRules Path Name Text) (before after : WalkState Path Text) : Prop where
  size : before.out.rows.length ≤ MAX_FILES_PER_SCAN → after.out.rows.length ≤ MAX_FILES_PER_SCAN
  shallow : ∀ read ∈ after.reads, read ∈ before.reads ∨ read.2 ≤ 6
  written : before.written ⊆ after.written
  rows : ∀ key row, before.out.find? key = some row → ∃ now, after.out.find? key = some now ∧
    (now = row ∨ ∃ path, rules.text path = key ∧ (path, now) ∈ after.written)

theorem Keeps.refl (state : WalkState Path Text) : Keeps rules state state where
  size := id
  shallow _ := .inl
  written := List.Subset.refl _
  rows _ row found := ⟨row, found, .inl rfl⟩

theorem Keeps.trans {first second third : WalkState Path Text} (one : Keeps rules first second)
    (two : Keeps rules second third) : Keeps rules first third where
  size := two.size ∘ one.size
  shallow read member := (two.shallow read member).elim (one.shallow read) .inr
  written := List.Subset.trans one.written two.written
  rows key row found := by
    obtain ⟨middle, between, own⟩ := one.rows key row found
    obtain ⟨now, after, later⟩ := two.rows key middle between
    refine ⟨now, after, ?_⟩
    rcases later with rfl | written
    · exact own.imp_right fun ⟨path, text, member⟩ => ⟨path, text, two.written member⟩
    · exact .inr written

theorem WalkStep.keeps {before after : WalkState Path Text}
    (step : WalkStep rules fs before after) : Keeps rules before after := by
  cases step with
  | call => exact { Keeps.refl before with }
  | read dir depth shallow =>
      refine { Keeps.refl before with shallow := ?_ }
      intro read member
      rcases List.mem_append.mp member with old | new
      · exact .inl old
      · rw [List.mem_singleton.mp new]
        exact .inr shallow
  | write path stamp room found =>
      refine ⟨fun _ => ?_, fun _ => .inl, List.subset_append_left _ _, ?_⟩
      · have longer := before.out.length_upsert_le (rules.text path) stamp.read fun _ => stamp.read
        exact longer.trans (Nat.lt_of_not_le room)
      · intro key row old
        rw [WalkState.find_write]
        split
        · rename_i same
          exact ⟨stamp.read, rfl, .inr ⟨path, same.symm, List.mem_append_right _ (.head _)⟩⟩
        · exact ⟨row, old, .inl rfl⟩

theorem WalkSteps.keeps {before after : WalkState Path Text}
    (steps : WalkSteps rules fs before after) : Keeps rules before after := by
  induction steps with
  | refl => exact .refl before
  | tail _ step ih => exact ih.trans step.keeps

/-- The rows are those of the paths written, and every path written has a row for its text. -/
structure Sourced (rules : PathRules Path Name Text) (fs : Nat → DirGraph Path Name)
    (state : WalkState Path Text) : Prop where
  found : ∀ entry ∈ state.written, ∃ call stamp,
    (fs call).metadata entry.1 = some stamp ∧ entry.2 = stamp.read
  there : ∀ entry ∈ state.written, ∃ row, state.out.find? (rules.text entry.1) = some row
  rows : ∀ key row, state.out.find? key = some row →
    ∃ path, rules.text path = key ∧ (path, row) ∈ state.written

theorem WalkStep.sourced {before after : WalkState Path Text}
    (step : WalkStep rules fs before after) (sourced : Sourced rules fs before) :
    Sourced rules fs after := by
  cases step with
  | call => exact { sourced with }
  | read => exact { sourced with }
  | write path stamp room found =>
      refine ⟨?_, ?_, ?_⟩
      · intro entry member
        rcases List.mem_append.mp member with old | new
        · exact sourced.found entry old
        · rw [List.mem_singleton.mp new]
          exact ⟨before.calls, stamp, found, rfl⟩
      · intro entry member
        rw [WalkState.find_write]
        split
        · exact ⟨_, rfl⟩
        · rename_i other
          rcases List.mem_append.mp member with old | new
          · exact sourced.there entry old
          · exact absurd (by rw [List.mem_singleton.mp new]) other
      · intro key row located
        rw [WalkState.find_write] at located
        split at located
        · rename_i same
          cases located
          exact ⟨path, same.symm, List.mem_append_right _ (.head _)⟩
        · obtain ⟨other, text, member⟩ := sourced.rows key row located
          exact ⟨other, text, List.mem_append_left _ member⟩

theorem WalkSteps.sourced {before after : WalkState Path Text}
    (steps : WalkSteps rules fs before after) (sourced : Sourced rules fs before) :
    Sourced rules fs after := by
  induction steps with
  | refl => exact sourced
  | tail _ step ih => exact step.sourced ih

theorem Sourced.start : Sourced rules fs (WalkState.start : WalkState Path Text) where
  found _ member := nomatch member
  there _ member := nomatch member
  rows _ _ found := nomatch found

/-- Each path written has data of its own under its text. -/
def OwnData (rules : PathRules Path Name Text) (state : WalkState Path Text) : Prop :=
  ∀ entry ∈ state.written, ∃ row, state.out.find? (rules.text entry.1) = some row ∧
    (entry.1, row) ∈ state.written

theorem Sourced.ownData {state : WalkState Path Text} (sourced : Sourced rules fs state)
    (apart : ∀ first ∈ state.written, ∀ second ∈ state.written,
      rules.text first.1 = rules.text second.1 → first.1 = second.1) : OwnData rules state := by
  intro entry member
  obtain ⟨row, located⟩ := sourced.there entry member
  obtain ⟨path, text, written⟩ := sourced.rows _ row located
  have same : path = entry.1 := apart _ written _ member text
  exact ⟨row, located, same ▸ written⟩

theorem walkDir_result (rules : PathRules Path Name Text) (fs : Nat → DirGraph Path Name)
    (dir : Path) (depth : Nat) (state : WalkState Path Text) :
    ∃ result, ∀ fuel > 7 - depth, walkDir rules fs fuel dir depth state = some result := by
  obtain ⟨result, walked⟩ := Option.isSome_iff_exists.mp
    (walkDir_isSome (Nat.lt_succ_self (7 - depth)) dir state : (walkDir rules fs _ _ _ _).isSome)
  exact ⟨result, fun fuel enough =>
    (walkDir_fuel enough (Nat.lt_succ_self _) dir state).trans walked⟩

theorem walkRoots_result (rules : PathRules Path Name Text) (fs : Nat → DirGraph Path Name)
    (roots : List Path) (state : WalkState Path Text) :
    ∃ result, ∀ fuel ≥ 8, walkRoots rules fs fuel roots state = some result := by
  induction roots generalizing state with
  | nil => exact ⟨state, fun _ _ => rfl⟩
  | cons root roots ih =>
      obtain ⟨after, walked⟩ := walkDir_result rules fs root 0 state
      obtain ⟨result, rest⟩ := ih after
      by_cases full : after.Full
      · refine ⟨after, fun fuel enough => ?_⟩
        rw [walkRoots, walked fuel enough, Option.bind_some, if_pos full]
      · refine ⟨result, fun fuel enough => ?_⟩
        rw [walkRoots, walked fuel enough, Option.bind_some, if_neg full, rest fuel enough]

/-- Whatever the calls answer, a walk ends, and so does a scan of all roots. It reads no directory
below depth 6, it leaves no more rows than the bound, and where two paths have one text the later
one has the row. -/
theorem walk_bounded (rules : PathRules Path Name Text) (fs : Nat → DirGraph Path Name) :
    (∀ dir depth (state : WalkState Path Text), ∃ result,
      (∀ fuel > 7 - depth, walkDir rules fs fuel dir depth state = some result) ∧
        Keeps rules state result) ∧
    ∀ roots, ∃ result : WalkState Path Text,
      (∀ fuel ≥ 8, walkRoots rules fs fuel roots .start = some result) ∧
        (∀ read ∈ result.reads, read.2 ≤ 6) ∧
        result.out.rows.length ≤ MAX_FILES_PER_SCAN ∧ Sourced rules fs result ∧
        ((∀ first ∈ result.written, ∀ second ∈ result.written,
          rules.text first.1 = rules.text second.1 → first.1 = second.1) →
            OwnData rules result) := by
  constructor
  · intro dir depth state
    obtain ⟨result, walked⟩ := walkDir_result rules fs dir depth state
    exact ⟨result, walked, (walkDir_steps (walked _ (Nat.lt_succ_self _))).keeps⟩
  · intro roots
    obtain ⟨result, walked⟩ := walkRoots_result rules fs roots (.start : WalkState Path Text)
    have steps := walkRoots_steps (walked 8 le_rfl)
    have keeps := steps.keeps
    have sourced := steps.sourced .start
    refine ⟨result, walked, ?_, keeps.size (Nat.zero_le _), sourced, sourced.ownData⟩
    intro read member
    exact (keeps.shallow read member).resolve_left List.not_mem_nil

theorem not_ownData {state : WalkState Path Text} {entry : Path × (Nat × UInt64)}
    {row : Nat × UInt64} (member : entry ∈ state.written)
    (located : state.out.find? (rules.text entry.1) = some row)
    (other : (entry.1, row) ∉ state.written) : ¬ OwnData rules state := by
  intro own
  obtain ⟨_, found, written⟩ := own entry member
  cases found.symm.trans located
  exact other written

/-- A directory with two files of different sizes. -/
def twoFiles {υ : Type} [DecidableEq υ] (rules : PathRules (List υ) (List υ) Text)
    (dir first second : List υ) : DirGraph (List υ) (List υ) where
  readDir path := if path = dir then some [some first, some second] else none
  isDir path := path = dir
  metadata path := some ⟨0, if path = rules.join dir first then 1 else 2⟩

end

/-! ## Trees -/

/-- The rules for names that are Unicode. -/
def FileRules.paths (rules : FileRules) : PathRules String String String where
  join := rules.join
  text := id
  skips := rules.skips

def Entries.names : Entries → List String
  | .nil => []
  | .cons name _ rest => name :: rest.names

mutual

/-- The calls answer at and below a path what a tree has there. -/
def Node.Answers (rules : FileRules) (graph : DirGraph String String) (path : String) : Node → Prop
  | .file stamp readable =>
      graph.isDir path = false ∧ graph.readDir path = none ∧
        graph.metadata path = if readable then some stamp else none
  | .dir readable entries =>
      graph.isDir path = true ∧
        (graph.readDir path = if readable then some (entries.names.map some) else none) ∧
        entries.Answers rules graph path

def Entries.Answers (rules : FileRules) (graph : DirGraph String String) (dir : String) :
    Entries → Prop
  | .nil => True
  | .cons name node rest =>
      node.Answers rules graph (rules.join dir name) ∧ rest.Answers rules graph dir

end

theorem Node.Answers.isDir {rules : FileRules} {graph : DirGraph String String} {path : String}
    {node : Node} (answers : node.Answers rules graph path) : graph.isDir path = node.isDir := by
  cases node with
  | file => exact answers.1
  | dir => exact answers.1

section

variable {rules : FileRules} {graph : DirGraph String String}

/-- Where the map is full both loops stop. -/
theorem WalkState.out_of_full {state result : WalkState String String}
    {walk : WalkState String String → Option (WalkState String String)}
    {scanned : Table String (Nat × UInt64)}
    (walked : (if state.Full then some state else walk state) = some result)
    (same : ¬ state.Full → walk state = some result → result.out = scanned) :
    result.out =
      if state.out.rows.length ≥ MAX_FILES_PER_SCAN then state.out else scanned := by
  by_cases full : state.Full
  · rw [if_pos full] at walked
    cases walked
    exact (if_pos full).symm
  · rw [if_neg full] at walked
    exact (same full walked).trans (if_neg full).symm

mutual

theorem Node.visit_out (fuel depth : Nat) {path : String} {state result : WalkState String String}
    (node : Node) (answers : node.Answers rules graph path)
    (visited : visit rules.paths (fun _ => graph)
      (fun path => walkDir rules.paths (fun _ => graph) fuel path depth) node.isDir path state =
        some result) : result.out = node.walk rules path depth state.out := by
  cases node with
  | file stamp readable =>
      obtain ⟨-, -, metadata⟩ := answers
      cases readable with
      | true =>
          simp only [visit, Node.isDir, metadata, Bool.false_eq_true, if_false, if_true] at visited
          cases visited
          rfl
      | false =>
          simp only [visit, Node.isDir, metadata, Bool.false_eq_true, if_false] at visited
          cases visited
          rfl
  | dir readable entries =>
      obtain ⟨-, read, below⟩ := answers
      cases fuel with
      | zero => cases visited
      | succ fuel =>
          simp only [visit, Node.isDir, if_true] at visited
          rw [walkDir] at visited
          rw [Node.walk]
          split at visited
          · rename_i stop
            cases visited
            exact (if_pos stop).symm
          · rename_i more
            have goes : ¬ (depth > 6 ∨ state.out.rows.length ≥ MAX_FILES_PER_SCAN) := more
            rw [if_neg goes]
            cases readable with
            | true =>
                have room : ¬ (state.read path depth).Full := (not_or.mp more).2
                simp only [read, if_true] at visited ⊢
                have walked := Entries.walk_out fuel depth entries below room visited
                exact walked
            | false =>
                simp only [read, Bool.false_eq_true, if_false] at visited ⊢
                cases visited
                rfl

theorem Entries.walk_out (fuel depth : Nat) {dir : String} {state result : WalkState String String}
    (entries : Entries) (answers : entries.Answers rules graph dir) (room : ¬ state.Full)
    (walked : walkEntries rules.paths (fun _ => graph)
      (fun path => walkDir rules.paths (fun _ => graph) fuel path (depth + 1)) dir
        (entries.names.map some) state = some result) :
    result.out = entries.walk rules dir depth state.out := by
  cases entries with
  | nil =>
      cases walked
      rfl
  | cons name node rest =>
      obtain ⟨here, later⟩ := answers
      rw [Entries.names, List.map_cons, walkEntries] at walked
      rw [Entries.walk]
      have isDir : graph.isDir (rules.paths.join dir name) = node.isDir := here.isDir
      simp only [isDir] at walked
      split at walked
      · rename_i skipped
        have skips : (node.isDir && rules.skips name) = true := skipped
        have asked : ¬ state.call.Full := room
        have below : ¬ state.out.rows.length ≥ MAX_FILES_PER_SCAN := room
        simp only [skips, if_true, if_neg below]
        have passed := Entries.walk_out fuel depth rest later asked walked
        exact passed
      · rename_i entered
        have enters : ¬ (node.isDir && rules.skips name) = true := entered
        obtain ⟨after, visited, others⟩ := Option.bind_eq_some_iff.mp walked
        have own : node.walk rules (rules.join dir name) (depth + 1) state.out = after.out :=
          (Node.visit_out fuel (depth + 1) node here visited).symm
        simp only [if_neg enters, own]
        exact WalkState.out_of_full others fun more others =>
          Entries.walk_out fuel depth rest later more others

end

/-- The tree that the calls show is scanned as the tree is. -/
theorem walkRoots_out {fuel : Nat} {roots : List (String × Node)}
    (answers : ∀ root ∈ roots, root.2.Answers rules graph root.1)
    {state result : WalkState String String}
    (walked : walkRoots rules.paths (fun _ => graph) fuel (roots.map Prod.fst) state =
      some result) : result.out = scanRoots rules state.out roots := by
  induction roots generalizing state with
  | nil =>
      cases walked
      rfl
  | cons root roots ih =>
      obtain ⟨path, node⟩ := root
      have here := answers _ List.mem_cons_self
      obtain ⟨after, first, others⟩ := Option.bind_eq_some_iff.mp walked
      have own : after.out =
          if node.isDir then node.walk rules path 0 state.out else state.out := by
        cases node with
        | file stamp readable =>
            cases fuel with
            | zero => cases first
            | succ fuel =>
                rw [walkDir, here.2.1] at first
                split at first
                · cases first
                  rfl
                · cases first
                  rfl
        | dir readable entries => exact Node.visit_out fuel 0 (.dir readable entries) here first
      rw [scanRoots, ← own]
      exact WalkState.out_of_full others fun _ others =>
        ih (fun root member => answers root (List.mem_cons_of_mem _ member)) others

theorem FileSystem.scan_walkRoots (fs : FileSystem rules)
    (answers : ∀ root ∈ fs.roots, root.2.Answers rules graph root.1) :
    ∃ result, walkRoots rules.paths (fun _ => graph) 8 (fs.roots.map Prod.fst) .start =
      some result ∧ result.out = fs.scan := by
  obtain ⟨result, walked⟩ := walkRoots_result rules.paths (fun _ => graph) (fs.roots.map Prod.fst)
    .start
  exact ⟨result, walked 8 le_rfl, walkRoots_out answers (walked 8 le_rfl)⟩

end

/-- Two names that are not Unicode have one text, and the data of the first file is replaced. -/
theorem walk_replaces :
    (∃ result, walkRoots windowsPaths
        (fun _ => twoFiles windowsPaths [0x43, 0x3A, 0x5C] [0xD800] [0xD801]) 8 [[0x43, 0x3A, 0x5C]]
          .start = some result ∧ ¬ OwnData windowsPaths result) ∧
      ∃ result, walkRoots macosPaths (fun _ => twoFiles macosPaths [0x2F] [0x80] [0x81]) 8 [[0x2F]]
        .start = some result ∧ ¬ OwnData macosPaths result := by
  constructor
  · refine ⟨_, (Option.some_get (by decide : Option.isSome _ = true)).symm, ?_⟩
    exact @not_ownData _ _ _ _ windowsPaths _ ([0x43, 0x3A, 0x5C, 0xD800], (0, 1)) (0, 2)
      (by decide) (by decide) (by decide)
  · refine ⟨_, (Option.some_get (by decide : Option.isSome _ = true)).symm, ?_⟩
    exact @not_ownData _ _ _ _ macosPaths _ ([0x2F, 0x80], (0, 1)) (0, 2) (by decide) (by decide)
      (by decide)

end OsfmEdm
