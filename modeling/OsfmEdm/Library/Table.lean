import Mathlib.Data.List.Basic
import Mathlib.Data.List.Nodup

/-!
Tables with a primary key. A table carries the uniqueness of its keys, so the statements
below read and write at most one row for a key.
-/

structure Table (κ ρ : Type) where
  rows : List (κ × ρ)
  unique : (rows.map Prod.fst).Nodup

namespace Table

variable {κ ρ : Type} [DecidableEq κ]

def empty : Table κ ρ := ⟨[], List.nodup_nil⟩

def find? (table : Table κ ρ) (key : κ) : Option ρ :=
  (table.rows.find? fun row => decide (row.1 = key)).map Prod.snd

def contains (table : Table κ ρ) (key : κ) : Bool := (table.find? key).isSome

theorem find?_eq_some (table : Table κ ρ) (key : κ) (row : ρ) :
    table.find? key = some row ↔ (key, row) ∈ table.rows := by
  constructor
  · intro found
    simp only [find?, Option.map_eq_some_iff] at found
    obtain ⟨entry, located, same⟩ := found
    have key_eq : entry.1 = key := by simpa using List.find?_some located
    have member := List.mem_of_find?_eq_some located
    rwa [← key_eq, ← same]
  · intro member
    obtain ⟨rows, unique⟩ := table
    simp only [find?] at member ⊢
    induction rows with
    | nil => cases member
    | cons first rest ih =>
        simp only [List.map_cons, List.nodup_cons] at unique
        rcases List.mem_cons.mp member with same | later
        · simp [← same]
        · have different : first.1 ≠ key := by
            intro same
            exact unique.1 (List.mem_map.mpr ⟨(key, row), later, same.symm⟩)
          simpa [List.find?_cons, different] using ih unique.2 later

theorem find?_eq_none (table : Table κ ρ) (key : κ) :
    table.find? key = none ↔ key ∉ table.rows.map Prod.fst := by
  constructor
  · intro absent member
    obtain ⟨entry, entryMember, same⟩ := List.mem_map.mp member
    have found := (table.find?_eq_some key entry.2).mpr (same ▸ entryMember)
    rw [absent] at found
    cases found
  · intro absent
    cases found : table.find? key with
    | none => rfl
    | some row =>
        have member := (table.find?_eq_some key row).mp found
        exact absurd (List.mem_map.mpr ⟨(key, row), member, rfl⟩) absent

/-- `INSERT`: refused when the key is taken. -/
def insert (table : Table κ ρ) (key : κ) (row : ρ) : Option (Table κ ρ) :=
  if absent : key ∈ table.rows.map Prod.fst then none
  else
    some ⟨table.rows ++ [(key, row)], by
      simp only [List.map_append, List.map_cons, List.map_nil]
      exact List.nodup_append.mpr ⟨table.unique, by simp, by
        intro first member second last
        rw [List.mem_singleton.mp last]
        intro same
        exact absent (same ▸ member)⟩⟩

/-- `UPDATE … WHERE key = …`. -/
def update (table : Table κ ρ) (key : κ) (change : ρ → ρ) : Table κ ρ where
  rows := table.rows.map fun row => if row.1 = key then (row.1, change row.2) else row
  unique := by
    have keys : (table.rows.map fun row => if row.1 = key then (row.1, change row.2) else row).map
        Prod.fst = table.rows.map Prod.fst := by
      rw [List.map_map]
      apply List.map_congr_left
      intro row _
      simp only [Function.comp_apply]
      split <;> rfl
    rw [keys]
    exact table.unique

/-- `INSERT … ON CONFLICT DO UPDATE`. -/
def upsert (table : Table κ ρ) (key : κ) (row : ρ) (change : ρ → ρ) : Table κ ρ :=
  match table.insert key row with
  | some inserted => inserted
  | none => table.update key change

/-- `DELETE`: the rows that stay. -/
def keep (table : Table κ ρ) (stays : κ → ρ → Bool) : Table κ ρ where
  rows := table.rows.filter fun row => stays row.1 row.2
  unique := table.unique.sublist (List.filter_sublist.map Prod.fst)

theorem find?_insert {table inserted : Table κ ρ} {key : κ} {row : ρ}
    (done : table.insert key row = some inserted) (other : κ) :
    inserted.find? other = if other = key then some row else table.find? other := by
  unfold insert at done
  split at done
  · cases done
  rename_i absent
  cases done
  have missing := (table.find?_eq_none key).mpr absent
  simp only [find?, List.find?_append, Option.map_eq_none_iff] at missing ⊢
  by_cases same : other = key
  · simp [same, missing]
  · have different : ¬ key = other := fun eq => same eq.symm
    cases found : table.rows.find? fun row => decide (row.1 = other) <;> simp [same, different]

theorem insert_isSome {table : Table κ ρ} {key : κ} (row : ρ) (absent : table.find? key = none) :
    ∃ inserted, table.insert key row = some inserted := by
  have missing := (table.find?_eq_none key).mp absent
  exact ⟨_, dif_neg missing⟩

theorem insert_absent {table inserted : Table κ ρ} {key : κ} {row : ρ}
    (done : table.insert key row = some inserted) : table.find? key = none := by
  unfold insert at done
  split at done
  · cases done
  · rename_i absent
    exact (table.find?_eq_none key).mpr absent

@[simp] theorem find?_update (table : Table κ ρ) (key other : κ) (change : ρ → ρ) :
    (table.update key change).find? other =
      if other = key then (table.find? other).map change else table.find? other := by
  have keys : ((fun row : κ × ρ => decide (row.1 = other)) ∘
      fun row => if row.1 = key then (row.1, change row.2) else row) =
      fun row => decide (row.1 = other) := by
    funext row
    simp only [Function.comp_apply]
    split <;> rfl
  simp only [find?, update, List.find?_map, keys]
  cases found : table.rows.find? fun row => decide (row.1 = other) with
  | none => simp
  | some row =>
      have rowKey : row.1 = other := by simpa using List.find?_some found
      by_cases same : other = key
      · simp [rowKey, same]
      · simp [rowKey, same]

theorem find?_upsert (table : Table κ ρ) (key other : κ) (row : ρ) (change : ρ → ρ) :
    (table.upsert key row change).find? other =
      if other = key then
        match table.find? key with
        | some old => some (change old)
        | none => some row
      else table.find? other := by
  unfold upsert
  split
  · rename_i inserted done
    rw [find?_insert done, insert_absent done]
  · rename_i refused
    rw [find?_update]
    by_cases same : other = key
    · cases found : table.find? key with
      | none =>
          obtain ⟨inserted, done⟩ := insert_isSome row found
          rw [refused] at done
          cases done
      | some old => simp [same, found]
    · simp [same]

theorem find?_keep (table : Table κ ρ) (stays : κ → ρ → Bool) (key : κ) :
    (table.keep stays).find? key = (table.find? key).filter (stays key) := by
  cases found : table.find? key with
  | none =>
      have missing := (table.find?_eq_none key).mp found
      apply (find?_eq_none _ _).mpr
      intro member
      obtain ⟨entry, entryMember, same⟩ := List.mem_map.mp member
      exact missing (List.mem_map.mpr ⟨entry, (List.mem_filter.mp entryMember).1, same⟩)
  | some row =>
      have member := (table.find?_eq_some key row).mp found
      simp only [Option.filter]
      by_cases kept : stays key row = true
      · rw [if_pos kept]
        exact (find?_eq_some _ _ _).mpr (List.mem_filter.mpr ⟨member, kept⟩)
      · rw [if_neg kept]
        apply (find?_eq_none _ _).mpr
        intro keyMember
        obtain ⟨entry, entryMember, same⟩ := List.mem_map.mp keyMember
        obtain ⟨present, stayed⟩ := List.mem_filter.mp entryMember
        have other := (table.find?_eq_some key entry.2).mpr (same ▸ present)
        rw [found] at other
        cases other
        exact kept (same ▸ stayed)

/-! ## Whole rows -/

theorem keys_upsert (table : Table κ ρ) (key : κ) (row : ρ) (change : ρ → ρ) :
    (table.upsert key row change).rows.map Prod.fst =
      if key ∈ table.rows.map Prod.fst then table.rows.map Prod.fst
      else table.rows.map Prod.fst ++ [key] := by
  by_cases taken : key ∈ table.rows.map Prod.fst
  · rw [if_pos taken, upsert, insert, dif_pos taken]
    simp only [update, List.map_map]
    apply List.map_congr_left
    intro entry _
    simp only [Function.comp_apply]
    split <;> rfl
  · rw [if_neg taken, upsert, insert, dif_neg taken]
    simp

theorem mem_upsert {table : Table κ ρ} {key : κ} {row : ρ} {entry : κ × ρ}
    (member : entry ∈ (table.upsert key row fun _ => row).rows) :
    entry = (key, row) ∨ entry ∈ table.rows := by
  rw [← find?_eq_some, find?_upsert] at member
  split at member
  · rename_i same
    left
    cases found : table.find? key <;> simp_all [Prod.ext_iff]
  · exact .inr ((find?_eq_some ..).mp member)

/-- `INSERT … ON CONFLICT DO UPDATE` of all columns, entry by entry. -/
def putAll (table : Table κ ρ) (entries : List (κ × ρ)) : Table κ ρ :=
  entries.foldl (fun table entry => table.upsert entry.1 entry.2 fun _ => entry.2) table

theorem find?_putAll (table : Table κ ρ) (entries : List (κ × ρ)) (key : κ) :
    (table.putAll entries).find? key =
      ((entries.reverse.find? fun entry => entry.1 = key).map Prod.snd).or (table.find? key) := by
  induction entries generalizing table with
  | nil => rfl
  | cons entry entries ih =>
      rw [putAll, List.foldl_cons, ← putAll, ih, List.reverse_cons, List.find?_append,
        find?_upsert]
      cases entries.reverse.find? fun entry => entry.1 = key with
      | some last => rfl
      | none =>
          by_cases same : entry.1 = key
          · subst same
            cases table.find? entry.1 <;> simp
          · simp [same, Ne.symm same]

theorem mem_putAll {table : Table κ ρ} {entries : List (κ × ρ)} {entry : κ × ρ}
    (member : entry ∈ (table.putAll entries).rows) : entry ∈ table.rows ∨ entry ∈ entries := by
  induction entries generalizing table with
  | nil => exact .inl member
  | cons first entries ih =>
      rw [putAll, List.foldl_cons, ← putAll] at member
      rcases ih member with kept | later
      · rcases mem_upsert kept with new | old
        · exact .inr (new ▸ List.mem_cons_self)
        · exact .inl old
      · exact .inr (List.mem_cons_of_mem _ later)

theorem mem_keys_putAll {table : Table κ ρ} {entries : List (κ × ρ)} {key : κ} :
    key ∈ (table.putAll entries).rows.map Prod.fst ↔
      key ∈ table.rows.map Prod.fst ∨ key ∈ entries.map Prod.fst := by
  induction entries generalizing table with
  | nil => simp [putAll]
  | cons entry entries ih =>
      rw [putAll, List.foldl_cons, ← putAll, ih, keys_upsert, List.map_cons, List.mem_cons]
      split
      · rename_i taken
        constructor
        · rintro (old | later)
          · exact .inl old
          · exact .inr (.inr later)
        · rintro (old | rfl | later)
          · exact .inl old
          · exact .inl taken
          · exact .inr later
      · rw [List.mem_append, List.mem_singleton, or_assoc]

/-! ## Tables with a bound -/

/-- Entry by entry, until the table has `bound` rows. -/
def putUntil (bound : Nat) (table : Table κ ρ) : List (κ × ρ) → Table κ ρ
  | [] => table
  | entry :: entries =>
      let next := table.upsert entry.1 entry.2 fun _ => entry.2
      if next.rows.length ≥ bound then next else next.putUntil bound entries

theorem putUntil_append {bound : Nat} {table : Table κ ρ} (room : table.rows.length < bound)
    (first second : List (κ × ρ)) :
    table.putUntil bound (first ++ second) =
      if (table.putUntil bound first).rows.length ≥ bound then table.putUntil bound first
      else (table.putUntil bound first).putUntil bound second := by
  induction first generalizing table with
  | nil =>
      have below : ¬ table.rows.length ≥ bound := Nat.not_le_of_lt room
      simp [putUntil, below]
  | cons entry first ih =>
      simp only [List.cons_append, putUntil]
      by_cases full : (table.upsert entry.1 entry.2 fun _ => entry.2).rows.length ≥ bound
      · simp [full]
      · simp only [if_neg full]
        exact ih (Nat.lt_of_not_le full)

theorem length_upsert_le (table : Table κ ρ) (key : κ) (row : ρ) (change : ρ → ρ) :
    (table.upsert key row change).rows.length ≤ table.rows.length + 1 := by
  have keys := congrArg List.length (table.keys_upsert key row change)
  split at keys <;> simp at keys <;> omega

theorem eraseDups_of_nodup {keys : List κ} (distinct : keys.Nodup) : keys.eraseDups = keys := by
  induction keys with
  | nil => rfl
  | cons key keys ih =>
      have others : keys.filter (fun other => !other == key) = keys := by
        apply List.filter_eq_self.mpr
        intro other member
        have different : other ≠ key := fun same => (List.nodup_cons.mp distinct).1 (same ▸ member)
        simpa using different
      rw [List.eraseDups_cons, others, ih (List.nodup_cons.mp distinct).2]

/-- The table keeps the keys that come first. -/
theorem keys_putUntil {bound : Nat} {table : Table κ ρ} (room : table.rows.length < bound)
    (entries : List (κ × ρ)) :
    (table.putUntil bound entries).rows.map Prod.fst =
      (table.rows.map Prod.fst ++ entries.map Prod.fst).eraseDups.take bound := by
  induction entries generalizing table with
  | nil =>
      rw [putUntil, List.map_nil, List.append_nil, eraseDups_of_nodup table.unique,
        List.take_of_length_le]
      simpa using Nat.le_of_lt room
  | cons entry entries ih =>
      have keys := table.keys_upsert entry.1 entry.2 fun _ => entry.2
      have longer := table.length_upsert_le entry.1 entry.2 fun _ => entry.2
      have erased : (table.rows.map Prod.fst ++ entry.1 :: entries.map Prod.fst).eraseDups =
          ((table.upsert entry.1 entry.2 fun _ => entry.2).rows.map Prod.fst ++
            entries.map Prod.fst).eraseDups := by
        rw [keys]
        split
        · rename_i taken
          rw [List.eraseDups_append, List.eraseDups_append]
          simp [List.removeAll, taken]
        · rw [List.append_assoc, List.singleton_append]
      rw [List.map_cons, erased, putUntil]
      generalize table.upsert entry.1 entry.2 (fun _ => entry.2) = next at longer
      split
      · rename_i full
        have whole : (next.rows.map Prod.fst).length = bound := by
          rw [List.length_map]
          omega
        rw [List.eraseDups_append, eraseDups_of_nodup next.unique, ← whole, List.take_left]
      · rename_i more
        exact ih (Nat.lt_of_not_le more)

theorem mem_putUntil {bound : Nat} {table : Table κ ρ} {entries : List (κ × ρ)} {entry : κ × ρ}
    (member : entry ∈ (table.putUntil bound entries).rows) :
    entry ∈ table.rows ∨ entry ∈ entries := by
  induction entries generalizing table with
  | nil => exact .inl member
  | cons first entries ih =>
      have earlier (kept : entry ∈ (table.upsert first.1 first.2 fun _ => first.2).rows) :
          entry ∈ table.rows ∨ entry ∈ first :: entries := by
        rcases mem_upsert kept with new | old
        · exact .inr (new ▸ List.mem_cons_self)
        · exact .inl old
      rw [putUntil] at member
      split at member
      · exact earlier member
      · rcases ih member with kept | later
        · exact earlier kept
        · exact .inr (List.mem_cons_of_mem _ later)

end Table
