import Mathlib.Data.List.Nodup

/-!
Statements that each write one column of a row, at the time they run. A write may set bookkeeping of
the row beside its column.
-/

/-- `column` tells the columns of the writes apart, and `Holds` is that the column has the value of a
write. -/
structure Columns (ω ρ : Type) where
  column : ω → Nat
  set : Nat → ω → ρ → ρ
  Holds : ω → ρ → Prop
  holds_set : ∀ now write row, Holds write (set now write row)
  holds_set_other : ∀ now write other row, column other ≠ column write →
    (Holds other (set now write row) ↔ Holds other row)

namespace Columns

variable {ω ρ : Type} (columns : Columns ω ρ)

/-- The row after some writes, each with its time. -/
def setAll (writes : List (Nat × ω)) (row : ρ) : ρ :=
  writes.foldl (fun row write => columns.set write.1 write.2 row) row

@[simp] theorem setAll_nil (row : ρ) : columns.setAll [] row = row := rfl

@[simp] theorem setAll_cons (now : Nat) (write : ω) (writes : List (Nat × ω)) (row : ρ) :
    columns.setAll ((now, write) :: writes) row =
      columns.setAll writes (columns.set now write row) :=
  rfl

theorem holds_setAll_other {writes : List (Nat × ω)} {other : ω}
    (untouched : ∀ write ∈ writes, columns.column write.2 ≠ columns.column other) (row : ρ) :
    columns.Holds other (columns.setAll writes row) ↔ columns.Holds other row := by
  induction writes generalizing row with
  | nil => rfl
  | cons write writes ih =>
      have different := untouched write List.mem_cons_self
      rw [setAll_cons, ih fun later member => untouched later (List.mem_cons_of_mem _ member),
        columns.holds_set_other _ _ _ _ (Ne.symm different)]

/-- Writes of different columns all leave their values. -/
theorem holds_setAll {writes : List (Nat × ω)}
    (different : (writes.map fun write => columns.column write.2).Nodup) (row : ρ) :
    ∀ write ∈ writes, columns.Holds write.2 (columns.setAll writes row) := by
  induction writes generalizing row with
  | nil => exact fun _ member => nomatch member
  | cons write writes ih =>
      rw [List.map_cons, List.nodup_cons] at different
      intro written member
      rw [setAll_cons]
      rcases List.mem_cons.mp member with rfl | later
      · refine (columns.holds_setAll_other ?_ _).mpr (columns.holds_set _ _ _)
        intro later member same
        exact different.1 (List.mem_map.mpr ⟨later, member, same⟩)
      · exact ih different.2 _ written later

/-- A field that may be given writes its column once at most. -/
theorem given_sublist {α : Type} (write : α → ω) (place : Nat) (field : Option α)
    (places : ∀ value, columns.column (write value) = place) :
    ((field.map write).toList.map columns.column).Sublist [place] := by
  cases field with
  | none => exact List.nil_sublist _
  | some value => exact (places value) ▸ List.Sublist.refl _

theorem setAll_frame {α : Type} (observe : ρ → α)
    (kept : ∀ now write row, observe (columns.set now write row) = observe row)
    (writes : List (Nat × ω)) (row : ρ) : observe (columns.setAll writes row) = observe row := by
  induction writes generalizing row with
  | nil => rfl
  | cons write writes ih => rw [setAll_cons, ih, kept]

end Columns
