import Mathlib.Data.List.Basic
import Mathlib.Data.List.TakeWhile

/-!
Lists cut at each occurrence of a separator.
-/

namespace Lines

variable {α : Type}

theorem dropWhile_eq_self {p : α → Bool} {part : List α} :
    part.dropWhile p = part ↔ ∀ first ∈ part.head?, p first = false := by
  cases part <;> simp [List.dropWhile_eq_self_iff]

theorem length_dropWhile_le (p : α → Bool) (part : List α) :
    (part.dropWhile p).length ≤ part.length := (part.dropWhile_suffix p).length_le

/-- Where no part grows, the whole is kept just when every part is. -/
theorem flatMap_eq_iff {β : Type} {f g : β → List α}
    (shorter : ∀ item, (f item).length ≤ (g item).length) {items : List β} :
    items.flatMap f = items.flatMap g ↔ ∀ item ∈ items, f item = g item := by
  have lengths (items : List β) : (items.flatMap f).length ≤ (items.flatMap g).length := by
    induction items with
    | nil => simp
    | cons item items ih =>
        have own := shorter item
        simp only [List.flatMap_cons, List.length_append]
        omega
  induction items with
  | nil => simp
  | cons item items ih =>
      rw [List.forall_mem_cons, List.flatMap_cons, List.flatMap_cons]
      constructor
      · intro same
        have own := shorter item
        have rest := lengths items
        have all := congrArg List.length same
        simp only [List.length_append] at all
        obtain ⟨first, later⟩ := List.append_inj same (by omega)
        exact ⟨first, ih.mp later⟩
      · rintro ⟨own, later⟩
        rw [own, ih.mpr later]

/-! ## Parts -/

section

variable {p : α → Bool}

/-- The rule for separators with a property. -/
theorem partsP_rule {motive : List α → Prop}
    (last : ∀ part, (∀ item ∈ part, p item = false) → motive part)
    (more : ∀ part item rest, (∀ other ∈ part, p other = false) → p item = true → motive rest →
      motive (part ++ item :: rest))
    (whole : List α) : motive whole := by
  suffices cut : ∀ before, (∀ item ∈ before, p item = false) → motive (before ++ whole) from
    cut [] (by simp)
  induction whole with
  | nil =>
      intro before none
      simpa using last before none
  | cons item rest ih =>
      intro before none
      cases same : p item with
      | true => exact more before item rest none same (ih [] (by simp))
      | false =>
          have longer := ih (before ++ [item]) (by simpa [or_imp, forall_and, same] using none)
          simpa using longer

theorem infix_of_mem_splitOnP {whole part : List α} (member : part ∈ whole.splitOnP p) :
    part <:+: whole := by
  induction whole using partsP_rule (p := p) with
  | last whole none =>
      rw [List.splitOnP_eq_singleton none] at member
      exact List.mem_singleton.mp member ▸ List.infix_rfl
  | more first item rest none same ih =>
      rw [List.splitOnP_append_cons_of_forall_mem none item same] at member
      rcases List.mem_cons.mp member with rfl | later
      · exact (List.prefix_append _ _).isInfix
      · exact (ih later).trans ((List.suffix_cons item rest).trans
          (List.suffix_append _ _)).isInfix

end

variable [DecidableEq α] {sep : α}

/-- A list is one part, or a part, a separator and the other parts. -/
theorem parts_rule (sep : α) {motive : List α → Prop} (last : ∀ part, sep ∉ part → motive part)
    (more : ∀ part rest, sep ∉ part → motive rest → motive (part ++ sep :: rest))
    (whole : List α) : motive whole := by
  induction whole using partsP_rule (p := (· == sep)) with
  | last part none => exact last part fun member => by simpa using none sep member
  | more part item rest none same ih =>
      rw [eq_of_beq same]
      exact more part rest (fun member => by simpa using none sep member) ih

theorem first_part (sep : α) (whole : List α) :
    sep ∉ whole ∨ ∃ part rest, sep ∉ part ∧ whole = part ++ sep :: rest := by
  induction whole using parts_rule sep with
  | last part none => exact .inl none
  | more part rest none _ => exact .inr ⟨part, rest, none, rfl⟩

theorem cut_last {part : List α} (none : sep ∉ part) :
    part.takeWhile (· ≠ sep) = part ∧ part.dropWhile (· ≠ sep) = [] := by
  have others : ∀ item ∈ part, decide (item ≠ sep) = true := by
    intro item member
    exact decide_eq_true fun same => none (same ▸ member)
  exact ⟨List.takeWhile_eq_self_iff.mpr others, List.dropWhile_eq_nil_iff.mpr others⟩

theorem cut_append_cons {part : List α} (none : sep ∉ part) (rest : List α) :
    (part ++ sep :: rest).takeWhile (· ≠ sep) = part ∧
      (part ++ sep :: rest).dropWhile (· ≠ sep) = sep :: rest := by
  obtain ⟨whole, empty⟩ := cut_last none
  rw [List.takeWhile_append, List.dropWhile_append, whole, empty]
  simp

theorem cut_inj {first second rest others : List α} (none : sep ∉ first) (none' : sep ∉ second)
    (same : first ++ sep :: rest = second ++ sep :: others) : first = second ∧ rest = others := by
  obtain ⟨firstPart, firstRest⟩ := cut_append_cons none rest
  obtain ⟨secondPart, secondRest⟩ := cut_append_cons none' others
  rw [same] at firstPart firstRest
  exact ⟨firstPart.symm.trans secondPart, (List.cons.inj (firstRest.symm.trans secondRest)).2⟩

theorem not_mem_part {whole part : List α} (member : part ∈ whole.splitOn sep) : sep ∉ part := by
  induction whole using parts_rule sep with
  | last whole none =>
      rw [List.splitOn_eq_singleton none] at member
      rwa [List.mem_singleton.mp member]
  | more first rest none ih =>
      rw [List.splitOn_append_cons_self_of_not_mem none] at member
      rcases List.mem_cons.mp member with rfl | later
      · exact none
      · exact ih later

theorem mem_parts {whole : List α} {item : α} (other : item ≠ sep) :
    item ∈ whole ↔ ∃ part ∈ whole.splitOn sep, item ∈ part := by
  induction whole using parts_rule sep with
  | last whole none => simp [List.splitOn_eq_singleton none]
  | more first rest none ih =>
      simp [List.splitOn_append_cons_self_of_not_mem none, other, ih]

theorem count_parts {whole : List α} {item : α} (other : item ≠ sep) :
    (whole.splitOn sep).flatten.count item = whole.count item := by
  induction whole using parts_rule sep with
  | last whole none => simp [List.splitOn_eq_singleton none]
  | more first rest none ih =>
      simp [List.splitOn_append_cons_self_of_not_mem none, ih, Ne.symm other]

/-! ## Lines that end with the separator -/

/-- The parts, without an empty one behind the last separator. -/
def lines (sep : α) (whole : List α) : List (List α) :=
  if (whole.splitOn sep).getLast? = some [] then (whole.splitOn sep).dropLast
  else whole.splitOn sep

@[simp] theorem lines_nil : lines sep [] = [] := rfl

theorem lines_last {part : List α} (none : sep ∉ part) (some : part ≠ []) :
    lines sep part = [part] := by
  simp [lines, List.splitOn_eq_singleton none, some]

theorem lines_append_cons {part rest : List α} (none : sep ∉ part) :
    lines sep (part ++ sep :: rest) = part :: lines sep rest := by
  have cut := List.splitOn_ne_nil sep rest
  unfold lines
  rw [List.splitOn_append_cons_self_of_not_mem none, List.getLast?_cons_of_ne_nil cut,
    List.dropLast_cons_of_ne_nil cut]
  split <;> rfl

/-! ## Parts that lose their ends -/

/-- A part without one item at its end. -/
def chop (item : α) (part : List α) : List α :=
  if part.getLast? = some item then part.dropLast else part

theorem chop_eq_self {item : α} {part : List α} (none : item ∉ part) : chop item part = part :=
  if_neg fun last => none (List.mem_of_getLast? last)

theorem chop_cases (item : α) (part : List α) :
    chop item part = part ∨ chop item part ++ [item] = part := by
  unfold chop
  split
  · rename_i last
    obtain ⟨before, rfl⟩ := List.getLast?_eq_some_iff.mp last
    exact .inr (by rw [List.dropLast_concat])
  · exact .inl rfl

/-! ## Parts that lose their beginnings -/

/-- Run together, the parts lose the separators. -/
theorem length_flatMap_parts_le (sep : α) (p : α → Bool) (whole : List α) :
    ((whole.splitOn sep).flatMap (·.dropWhile p)).length ≤ whole.length := by
  induction whole using parts_rule sep with
  | last whole none =>
      simpa [List.splitOn_eq_singleton none] using length_dropWhile_le p whole
  | more first rest none ih =>
      have part := length_dropWhile_le p first
      simp only [List.splitOn_append_cons_self_of_not_mem none, List.flatMap_cons,
        List.length_append, List.length_cons]
      omega

theorem flatMap_parts_eq {p : α → Bool} {whole : List α} :
    (whole.splitOn sep).flatMap (·.dropWhile p) = whole ↔
      sep ∉ whole ∧ ∀ first ∈ whole.head?, p first = false := by
  induction whole using parts_rule sep with
  | last whole none =>
      rw [List.splitOn_eq_singleton none, List.flatMap_singleton, dropWhile_eq_self]
      exact (and_iff_right none).symm
  | more first rest none ih =>
      have part := length_dropWhile_le p first
      have others := length_flatMap_parts_le sep p rest
      simp only [List.splitOn_append_cons_self_of_not_mem none, List.flatMap_cons, List.mem_append,
        List.mem_cons, true_or, or_true, not_true_eq_false, false_and, iff_false]
      intro same
      have lengths := congrArg List.length same
      simp only [List.length_append, List.length_cons] at lengths
      omega

/-- Joined again, each part has to be kept. -/
theorem length_intercalate_parts_le (sep : α) (p : α → Bool) (whole : List α) :
    ([sep].intercalate ((whole.splitOn sep).map (·.dropWhile p))).length ≤ whole.length := by
  induction whole using parts_rule sep with
  | last whole none =>
      simpa [List.splitOn_eq_singleton none] using length_dropWhile_le p whole
  | more first rest none ih =>
      have part := length_dropWhile_le p first
      rw [List.splitOn_append_cons_self_of_not_mem none, List.map_cons,
        List.intercalate_cons_of_ne_nil (by simp [List.splitOn_ne_nil])]
      simp only [List.length_append, List.length_cons, List.length_nil]
      omega

theorem intercalate_parts_eq {p : α → Bool} {whole : List α} :
    [sep].intercalate ((whole.splitOn sep).map (·.dropWhile p)) = whole ↔
      ∀ part ∈ whole.splitOn sep, ∀ first ∈ part.head?, p first = false := by
  induction whole using parts_rule sep with
  | last whole none =>
      rw [List.splitOn_eq_singleton none, List.map_singleton, List.intercalate_singleton,
        dropWhile_eq_self, List.forall_mem_singleton]
  | more first rest none ih =>
      rw [List.splitOn_append_cons_self_of_not_mem none, List.map_cons,
        List.intercalate_cons_of_ne_nil (by simp [List.splitOn_ne_nil]), List.forall_mem_cons, ← ih,
        ← dropWhile_eq_self]
      constructor
      · intro same
        have part := length_dropWhile_le p first
        have others := length_intercalate_parts_le sep p rest
        have lengths := congrArg List.length same
        simp only [List.length_append, List.length_cons, List.length_nil] at lengths
        have kept := List.append_inj (by simpa using same) (by omega)
        exact ⟨kept.1, by simpa using kept.2⟩
      · rintro ⟨own, later⟩
        simp [own, later]

end Lines
