import Mathlib.Data.List.Induction

/-!
A property that writes decide: a write either leaves it alone or settles it, whatever was written
before.
-/

namespace LastWrite

variable {σ ε : Type}

/-- What the writes do to a property: `verdict` has what a write settles it to, and `ready` the states
in which it does. -/
structure Decides (write : σ → ε → σ) (ready holds : σ → Prop) (verdict : ε → Option Bool) :
    Prop where
  stays : ∀ state entry, ready state → ready (write state entry)
  alone : ∀ state entry, ready state → verdict entry = none →
    (holds (write state entry) ↔ holds state)
  settled : ∀ state entry answer, ready state → verdict entry = some answer →
    (holds (write state entry) ↔ answer = true)

variable {write : σ → ε → σ} {ready holds : σ → Prop} {verdict : ε → Option Bool}

theorem Decides.ready_foldl (decides : Decides write ready holds verdict) (writes : List ε)
    {state : σ} (fit : ready state) : ready (writes.foldl write state) := by
  induction writes generalizing state with
  | nil => exact fit
  | cons entry writes ih => exact ih (decides.stays state entry fit)

/-- After some writes the property is what the last verdict says, or what it was. -/
theorem Decides.foldl_iff (decides : Decides write ready holds verdict) (writes : List ε)
    {state : σ} (fit : ready state) : holds (writes.foldl write state) ↔
      (writes.filterMap verdict).getLast? = some true ∨
        holds state ∧ (writes.filterMap verdict).getLast? = none := by
  induction writes using List.reverseRecOn with
  | nil => simp
  | append_singleton writes entry ih =>
      have last := decides.ready_foldl writes fit
      rw [List.foldl_append, List.foldl_cons, List.foldl_nil, List.filterMap_append]
      cases settles : verdict entry with
      | none => simpa [settles] using (decides.alone _ entry last settles).trans ih
      | some answer => simpa [settles] using decides.settled _ entry answer last settles

/-- Where the property held it is lost just when the last verdict is against it. -/
theorem Decides.kept_iff (decides : Decides write ready holds verdict) (writes : List ε)
    {state : σ} (fit : ready state) (held : holds state) :
    holds (writes.foldl write state) ↔ (writes.filterMap verdict).getLast? ≠ some false := by
  rw [decides.foldl_iff writes fit]
  cases (writes.filterMap verdict).getLast? with
  | none => simp [held]
  | some answer => cases answer <;> simp

theorem Decides.of_kept (undecided : ∀ entry, verdict entry = none)
    (kept : ∀ state entry, holds state → holds (write state entry)) :
    Decides write holds holds verdict where
  stays := kept
  alone state entry held _ := iff_of_true (kept state entry held) held
  settled state entry answer _ settles := by simp [undecided entry] at settles

/-- A property that is asked for only where `free` fails. -/
theorem Decides.of_free {free : Prop} {there proven : σ → Prop}
    (fits : ∀ state, ready state ↔ free ∨ there state)
    (means : ∀ state, holds state ↔ free ∨ proven state)
    (stays : ∀ state entry, there state → there (write state entry))
    (alone : ∀ state entry, verdict entry = none → (proven (write state entry) ↔ proven state))
    (settled : ∀ state entry answer, there state → verdict entry = some answer →
      (free ∨ proven (write state entry) ↔ answer = true))
    (spared : ∀ entry answer, free → verdict entry = some answer → answer = true) :
    Decides write ready holds verdict where
  stays state entry fit := (fits _).mpr (((fits state).mp fit).imp_right (stays state entry))
  alone state entry _ undecided := by rw [means, means, alone state entry undecided]
  settled state entry answer fit settles := by
    rw [means]
    rcases (fits state).mp fit with free | there
    · exact iff_of_true (.inl free) (spared entry answer free settles)
    · exact settled state entry answer there settles

end LastWrite
