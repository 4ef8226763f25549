import OsfmEdm.Library.Lines

/-!
Server-sent events: the fields an event is written as, and the blocks a reader takes out of the text
it has so far.
-/

namespace EventStream

open Lines

/-! ## Writing -/

/-- A field is one line, and a value with a line end in it is refused. -/
def field (name value : List Char) : Option (List Char) :=
  if '\n' ∈ value ∨ '\r' ∈ value then none else some (name ++ [':', ' '] ++ value ++ ['\n'])

def fields (name : List Char) : List (List Char) → Option (List Char)
  | [] => some []
  | value :: rest => do
      let first ← field name value
      let later ← fields name rest
      return first ++ later

/-- An event with its data, which takes a field for each of its lines. -/
def frame (event data : List Char) : Option (List Char) := do
  let name ← field "event".toList event
  let lines ← fields "data".toList (data.splitOn '\n')
  return name ++ lines ++ ['\n']

/-- What stands before the empty line that ends an event. -/
def block (event : List Char) (lines : List (List Char)) : List Char :=
  "event: ".toList ++ event ++ lines.flatMap fun line => '\n' :: ("data: ".toList ++ line)

theorem field_isSome (name : List Char) {value : List Char} :
    (field name value).isSome ↔ '\n' ∉ value ∧ '\r' ∉ value := by
  unfold field
  split
  · rename_i ends
    exact ⟨nofun, fun plain => absurd ends (not_or.mpr plain)⟩
  · rename_i plain
    exact ⟨fun _ => not_or.mp plain, fun _ => rfl⟩

theorem fields_isSome {name : List Char} {values : List (List Char)} :
    (fields name values).isSome ↔ ∀ value ∈ values, '\n' ∉ value ∧ '\r' ∉ value := by
  induction values with
  | nil => simp [fields]
  | cons value rest ih =>
      rw [List.forall_mem_cons, ← ih, ← field_isSome name, fields]
      cases field name value <;> cases fields name rest <;> simp

theorem dataFields_isSome (data : List Char) :
    (fields "data".toList (data.splitOn '\n')).isSome ↔ '\r' ∉ data := by
  rw [fields_isSome, mem_parts (by decide : '\r' ≠ '\n')]
  constructor
  · rintro plain ⟨line, member, returns⟩
    exact (plain line member).2 returns
  · intro plain line member
    exact ⟨not_mem_part member, fun returns => plain ⟨line, member, returns⟩⟩

theorem frame_isSome {event data : List Char} :
    (frame event data).isSome ↔ ('\n' ∉ event ∧ '\r' ∉ event) ∧ '\r' ∉ data := by
  have name : (field "event".toList event).isSome ↔ '\n' ∉ event ∧ '\r' ∉ event :=
    field_isSome _
  rw [← dataFields_isSome data, ← name, frame]
  cases field "event".toList event <;>
    cases fields "data".toList (data.splitOn '\n') <;> simp

theorem field_eq {name value : List Char} (line : '\n' ∉ value) (plain : '\r' ∉ value) :
    field name value = some (name ++ [':', ' '] ++ value ++ ['\n']) := by
  simp [field, line, plain]

@[simp] theorem event_label : "event".toList ++ [':', ' '] = "event: ".toList := by decide

@[simp] theorem data_label : "data".toList ++ [':', ' '] = "data: ".toList := by decide

theorem dataFields_eq {lines : List (List Char)} (one : ∀ line ∈ lines, '\n' ∉ line)
    (plain : ∀ line ∈ lines, '\r' ∉ line) : ∃ text, fields "data".toList lines = some text ∧
      '\n' :: text = (lines.flatMap fun line => '\n' :: ("data: ".toList ++ line)) ++ ['\n'] := by
  induction lines with
  | nil => exact ⟨[], rfl, rfl⟩
  | cons line rest ih =>
      obtain ⟨text, written, same⟩ := ih (fun other member => one other (.tail _ member))
        fun other member => plain other (.tail _ member)
      refine ⟨"data: ".toList ++ line ++ '\n' :: text, ?_, ?_⟩
      · rw [fields, field_eq (one _ List.mem_cons_self) (plain _ List.mem_cons_self), written,
          data_label]
        simp
      · simp [same]

theorem frame_eq {event data : List Char} (line : '\n' ∉ event) (named : '\r' ∉ event)
    (plain : '\r' ∉ data) :
    frame event data = some (block event (data.splitOn '\n') ++ ['\n', '\n']) := by
  have one : ∀ part ∈ data.splitOn '\n', '\n' ∉ part := fun _ member => not_mem_part member
  have returns : ∀ part ∈ data.splitOn '\n', '\r' ∉ part := fun part member inside =>
    plain ((mem_parts (by decide)).mpr ⟨part, member, inside⟩)
  obtain ⟨text, written, same⟩ := dataFields_eq one returns
  have ends : block event (data.splitOn '\n') ++ ['\n', '\n'] =
      "event: ".toList ++ event ++ ('\n' :: text) ++ ['\n'] := by
    unfold block
    generalize "event: ".toList = label, "data: ".toList = other at same ⊢
    rw [same]
    simp only [List.append_assoc, List.cons_append, List.nil_append]
  rw [frame, field_eq line named, written, ends, event_label]
  simp only [Option.bind_eq_bind, Option.bind_some, Option.pure_def, List.append_assoc,
    List.cons_append, List.nil_append]

theorem label_line {label value : List Char} (one : '\n' ∉ label) (line : '\n' ∉ value) :
    '\n' ∉ label ++ value := by
  simp [one, line]

theorem splitOn_block {event : List Char} {lines : List (List Char)} (line : '\n' ∉ event)
    (one : ∀ line ∈ lines, '\n' ∉ line) : (block event lines).splitOn '\n' =
      ("event: ".toList ++ event) :: lines.map ("data: ".toList ++ ·) := by
  have start : '\n' ∉ "event: ".toList ++ event := label_line (by decide) line
  unfold block
  generalize "event: ".toList ++ event = first at start ⊢
  induction lines generalizing first with
  | nil => simpa using List.splitOn_eq_singleton start
  | cons next rest ih =>
      have later := ih (fun other member => one other (.tail _ member)) ("data: ".toList ++ next)
        (label_line (by decide) (one next List.mem_cons_self))
      rw [List.flatMap_cons, List.cons_append, List.splitOn_append_cons_self_of_not_mem start, later,
        List.map_cons]

/-! ## Reading -/

/-- The blocks that have come to their empty line, and the text after them. -/
def blocks : List Char → List (List Char) × List Char
  | '\n' :: '\n' :: rest => ([] :: (blocks rest).1, (blocks rest).2)
  | char :: rest =>
      match blocks rest with
      | (first :: later, left) => ((char :: first) :: later, left)
      | ([], left) => ([], char :: left)
  | [] => ([], [])

theorem blocks_cons {char : Char} {rest : List Char}
    (goes : char = '\n' → ∀ later, rest ≠ '\n' :: later) : blocks (char :: rest) =
      match blocks rest with
      | (first :: later, left) => ((char :: first) :: later, left)
      | ([], left) => ([], char :: left) := by
  rw [blocks]
  rintro later rfl rfl
  exact goes rfl later rfl

theorem left_of_none (text : List Char) (none : (blocks text).1 = []) : (blocks text).2 = text := by
  fun_induction blocks text with
  | case1 => cases none
  | case2 => cases none
  | case3 char rest _ left found ih =>
      have same := ih (by rw [found])
      rw [found] at same
      exact congrArg _ same
  | case4 => rfl

/-- Blocks may be taken out as the text comes in. -/
theorem blocks_append (text more : List Char) : blocks (text ++ more) =
    ((blocks text).1 ++ (blocks ((blocks text).2 ++ more)).1,
      (blocks ((blocks text).2 ++ more)).2) := by
  fun_induction blocks text with
  | case1 rest ih => simp [blocks, ih]
  | case2 char rest goes first later left found ih =>
      rw [found] at ih
      have inside : char = '\n' → ∀ next, rest ++ more ≠ '\n' :: next := by
        rintro rfl next same
        cases rest with
        | nil => cases found
        | cons head rest =>
            cases same
            exact goes rest rfl rfl
      rw [List.cons_append, blocks_cons inside, ih]
      rfl
  | case3 char rest goes left found ih =>
      have same := left_of_none rest (by rw [found])
      rw [found] at same
      simp only at same
      subst same
      simp
  | case4 => simp

theorem left_again (text : List Char) : (blocks (blocks text).2).1 = [] := by
  have again := congrArg Prod.fst (blocks_append text [])
  simpa using again

/-- A line that is not empty stands in a block. -/
theorem blocks_line {line rest first left : List Char} {later : List (List Char)}
    (one : '\n' ∉ line) (found : blocks ('\n' :: rest) = (first :: later, left)) :
    blocks (line ++ '\n' :: rest) = ((line ++ first) :: later, left) := by
  induction line with
  | nil => exact found
  | cons char line ih =>
      obtain ⟨other, outside⟩ := not_or.mp fun either => one (List.mem_cons.mpr either)
      rw [List.cons_append, blocks_cons (fun same => absurd same.symm other), ih outside]
      rfl

theorem blocks_block {event : List Char} {lines : List (List Char)} (line : '\n' ∉ event)
    (one : ∀ line ∈ lines, '\n' ∉ line) (rest : List Char) :
    blocks (block event lines ++ '\n' :: '\n' :: rest) =
      (block event lines :: (blocks rest).1, (blocks rest).2) := by
  have start : '\n' ∉ "event: ".toList ++ event := label_line (by decide) line
  unfold block
  generalize "event: ".toList ++ event = first at start ⊢
  induction lines generalizing first with
  | nil =>
      have ends : blocks ('\n' :: '\n' :: rest) = ([] :: (blocks rest).1, (blocks rest).2) := by
        rw [blocks]
      simpa using blocks_line start ends
  | cons next others ih =>
      have inside := ih (fun other member => one other (.tail _ member)) ("data: ".toList ++ next)
        (label_line (by decide) (one next List.mem_cons_self))
      have goes : '\n' = '\n' → ∀ later, "data: ".toList ++ next ++
          (others.flatMap fun line => '\n' :: ("data: ".toList ++ line)) ++ '\n' :: '\n' :: rest ≠
            '\n' :: later := by
        intro _ later same
        have head := congrArg List.head? same
        simp at head
      have later := blocks_line start ((blocks_cons goes).trans (by rw [inside]))
      simpa only [List.flatMap_cons, List.append_assoc, List.cons_append] using later

end EventStream
