import Mathlib.Data.List.Basic

/-!
Loops that compare each snapshot with the one before it, where the listings that make up a snapshot
can fail.
-/

namespace Snapshots

/-! ## Loops -/

section

variable {κ σ ε : Type} (step : κ → σ → List ε × κ)

/-- What a loop knows after some snapshots. -/
def stateAfter (known : κ) (snapshots : List σ) : κ :=
  snapshots.foldl (fun known snapshot => (step known snapshot).2) known

def sent (known : κ) : List σ → List ε
  | [] => []
  | snapshot :: rest => (step known snapshot).1 ++ sent (step known snapshot).2 rest

theorem stateAfter_append (known : κ) (before : List σ) (snapshot : σ) :
    stateAfter step known (before ++ [snapshot]) =
      (step (stateAfter step known before) snapshot).2 := by
  rw [stateAfter, List.foldl_append]
  rfl

end

/-! ## Results -/

section

variable {β : Type}

/-- The last result that is not a failure. -/
def latest (results : List (Option β)) : Option β := (results.filterMap id).getLast?

theorem latest_append (results : List (Option β)) (result : Option β) :
    latest (results ++ [result]) = result.or (latest results) := by
  cases result <;> simp [latest, List.filterMap_append]

theorem latest_eq_none {results : List (Option β)} :
    latest results = none ↔ ∀ result ∈ results, result = none := by
  rw [latest, List.getLast?_eq_none_iff, List.filterMap_eq_nil_iff]
  rfl

end

/-! ## Listings -/

/-- What the sources list. -/
abbrev Listings (ι α : Type) := ι → Option (List α)

variable {ι α : Type}

def Listings.Lists (listings : Listings ι α) (item : α) : Prop :=
  ∃ source items, listings source = some items ∧ item ∈ items

/-- The last listing of each source that has not failed. -/
def latestListings (polls : List (Listings ι α)) : Listings ι α :=
  fun source => latest (polls.map fun poll => poll source)

def previousListings (polls : List (Listings ι α)) : Listings ι α :=
  polls.getLast?.getD fun _ => none

/-- Listed now, and not in the last listings. -/
def Appears (before : List (Listings ι α)) (poll : Listings ι α) (item : α) : Prop :=
  poll.Lists item ∧ ¬ (latestListings before).Lists item

/-- Listed now and in the last listings, but not by the poll between. -/
def Returns (before : List (Listings ι α)) (poll : Listings ι α) (item : α) : Prop :=
  poll.Lists item ∧ (latestListings before).Lists item ∧ ¬ (previousListings before).Lists item

theorem lists_latest_of_previous {before : List (Listings ι α)} {item : α}
    (listed : (previousListings before).Lists item) : (latestListings before).Lists item := by
  obtain ⟨source, items, listed, member⟩ := listed
  rcases List.eq_nil_or_concat before with rfl | ⟨earlier, poll, rfl⟩
  · cases listed
  · refine ⟨source, items, ?_, member⟩
    have last : poll source = some items := by simpa [previousListings] using listed
    rw [latestListings, List.concat_eq_append, List.map_append, List.map_singleton, latest_append,
      last, Option.some_or]

/-- Against the poll before, an item is new just where it appears, unless it returns. -/
theorem new_iff_appears {before : List (Listings ι α)} {poll : Listings ι α} {item : α} :
    (poll.Lists item ∧ ¬ (previousListings before).Lists item ↔ Appears before poll item) ↔
      ¬ Returns before poll item := by
  have kept : (previousListings before).Lists item → (latestListings before).Lists item :=
    lists_latest_of_previous
  unfold Appears Returns
  tauto

/-- After a poll in which no listing has failed nothing returns. -/
theorem not_returns {before : List (Listings ι α)} {last poll : Listings ι α} {item : α}
    (whole : ∀ source, (last source).isSome) : ¬ Returns (before ++ [last]) poll item := by
  rintro ⟨-, ⟨source, items, listed, member⟩, missing⟩
  obtain ⟨own, same⟩ := Option.isSome_iff_exists.mp (whole source)
  refine missing ⟨source, own, by simpa [previousListings] using same, ?_⟩
  rw [latestListings, List.map_append, List.map_singleton, latest_append, same,
    Option.some_or] at listed
  cases listed
  exact member

end Snapshots
