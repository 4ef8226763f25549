import Mathlib.Data.List.Count

/-!
A limiter that keeps the times of its admissions and forgets those that have left the window.
Clearing it forgets all of them.
-/

namespace SlidingWindow

variable (window limit : Nat)

/-- The times that are less than a window ago. -/
def prune (now : Nat) (times : List Nat) : List Nat := times.filter fun time => now - time < window

def admits (now : Nat) (times : List Nat) : Bool := (prune window now times).length < limit

/-- The number of times in the window from `start`. -/
def within (start : Nat) (times : List Nat) : Nat :=
  times.countP fun time => start ≤ time ∧ time < start + window

/-- What a limiter keeps of all admissions and clearings so far. -/
structure Tracks (now : Nat) (kept admitted cleared : List Nat) : Prop where
  admittedBefore : ∀ time ∈ admitted, time ≤ now
  clearedBefore : ∀ time ∈ cleared, time ≤ now
  keptAdmitted : ∀ time ∈ kept, time ∈ admitted
  keptLimit : kept.length ≤ limit
  /-- In a window that is still open and has seen no clearing, nothing was forgotten. -/
  whole : ∀ start, now < start + window → (∀ time ∈ cleared, time < start) →
    kept.countP (start ≤ ·) = admitted.countP (start ≤ ·)
  bounded : ∀ start, (∀ time ∈ cleared, ¬(start ≤ time ∧ time < start + window)) →
    within window start admitted ≤ limit

variable {window limit} {now : Nat} {kept admitted cleared : List Nat}

theorem tracks_nil (now : Nat) : Tracks window limit now [] [] [] where
  admittedBefore := by simp
  clearedBefore := by simp
  keptAdmitted := by simp
  keptLimit := Nat.zero_le _
  whole := by simp
  bounded := by simp [within]

theorem mem_prune {time : Nat} (member : time ∈ prune window now kept) : time ∈ kept :=
  (List.mem_filter.mp member).1

/-- A window that is still open keeps its times. -/
theorem countP_prune {start : Nat} (opened : now < start + window)
    (before : ∀ time ∈ kept, time ≤ now) :
    (prune window now kept).countP (start ≤ ·) = kept.countP (start ≤ ·) := by
  simp only [prune, List.countP_filter]
  refine List.countP_congr fun time member => ?_
  have := before time member
  simp only [Bool.and_eq_true, decide_eq_true_eq]
  omega

namespace Tracks

theorem tick (tracks : Tracks window limit now kept admitted cleared) {later : Nat}
    (grows : now ≤ later) : Tracks window limit later kept admitted cleared where
  admittedBefore time member := Nat.le_trans (tracks.admittedBefore time member) grows
  clearedBefore time member := Nat.le_trans (tracks.clearedBefore time member) grows
  keptAdmitted := tracks.keptAdmitted
  keptLimit := tracks.keptLimit
  whole start opened := tracks.whole start (Nat.lt_of_le_of_lt grows opened)
  bounded := tracks.bounded

theorem prune (tracks : Tracks window limit now kept admitted cleared) :
    Tracks window limit now (prune window now kept) admitted cleared where
  admittedBefore := tracks.admittedBefore
  clearedBefore := tracks.clearedBefore
  keptAdmitted time member := tracks.keptAdmitted time (mem_prune member)
  keptLimit := Nat.le_trans (List.length_filter_le _ _) tracks.keptLimit
  whole start opened uncleared := by
    rw [countP_prune opened fun time member =>
      tracks.admittedBefore time (tracks.keptAdmitted time member)]
    exact tracks.whole start opened uncleared
  bounded := tracks.bounded

/-- An admission while there is room: in a window around it, all that was admitted is kept. -/
theorem allow (tracks : Tracks window limit now kept admitted cleared) (room : kept.length < limit) :
    Tracks window limit now (kept ++ [now]) (admitted ++ [now]) cleared where
  admittedBefore time member := by
    rcases List.mem_append.mp member with old | new
    · exact tracks.admittedBefore time old
    · exact Nat.le_of_eq (List.mem_singleton.mp new)
  clearedBefore := tracks.clearedBefore
  keptAdmitted time member := by
    rcases List.mem_append.mp member with old | new
    · exact List.mem_append_left _ (tracks.keptAdmitted time old)
    · exact List.mem_append_right _ new
  keptLimit := by
    simp only [List.length_append, List.length_singleton]
    omega
  whole start opened uncleared := by
    simp only [List.countP_append, tracks.whole start opened uncleared]
  bounded start uncleared := by
    by_cases around : start ≤ now ∧ now < start + window
    · have before : ∀ time ∈ cleared, time < start := by
        intro time member
        have := uncleared time member
        have := tracks.clearedBefore time member
        omega
      have all := tracks.whole start around.2 before
      have own : within window start admitted ≤ admitted.countP (start ≤ ·) := by
        refine List.countP_mono_left fun time _ inside => ?_
        simp only [decide_eq_true_eq] at inside ⊢
        exact inside.1
      have length : kept.countP (start ≤ ·) ≤ kept.length := List.countP_le_length
      have one : within window start [now] ≤ 1 := List.countP_le_length
      simp only [within, List.countP_append] at own one ⊢
      omega
    · have outside : within window start [now] = 0 := by
        simp only [within, List.countP_singleton, around, decide_false, Bool.false_eq_true, if_false]
      have old := tracks.bounded start uncleared
      simp only [within, List.countP_append] at outside old ⊢
      omega

theorem clear (tracks : Tracks window limit now kept admitted cleared) :
    Tracks window limit now [] admitted (cleared ++ [now]) where
  admittedBefore := tracks.admittedBefore
  clearedBefore time member := by
    rcases List.mem_append.mp member with old | new
    · exact tracks.clearedBefore time old
    · exact Nat.le_of_eq (List.mem_singleton.mp new)
  keptAdmitted := by simp
  keptLimit := Nat.zero_le _
  whole start _ uncleared := by
    have after : now < start := uncleared now (by simp)
    rw [List.countP_nil, eq_comm, List.countP_eq_zero]
    intro time member
    have := tracks.admittedBefore time member
    simp only [decide_eq_true_eq]
    omega
  bounded start uncleared :=
    tracks.bounded start fun time member => uncleared time (List.mem_append_left _ member)

theorem admits_of_passed (tracks : Tracks window limit now kept admitted cleared)
    (positive : 0 < limit) (passed : ∀ time ∈ admitted, time + window ≤ now) :
    admits window limit now kept = true := by
  have none : SlidingWindow.prune window now kept = [] := by
    refine List.filter_eq_nil_iff.mpr fun time member => ?_
    have := passed time (tracks.keptAdmitted time member)
    simp only [decide_eq_true_eq]
    omega
  simp [admits, none, positive]

end Tracks

end SlidingWindow
