import Mathlib.Data.List.Basic

/-!
A broadcast channel of bounded capacity: every receiver sees the values sent after it has
subscribed. A receiver holds the position it reads next. The channel keeps the last `capacity`
values; a receiver that has fallen further behind is told how many it has missed and goes on with
the oldest value that is left.
-/

namespace Broadcast

inductive Received (α : Type) where
  | value (value : α)
  | lagged (missed : Nat)
  | empty
  | closed

variable {α : Type}

def Received.values : Received α → List α
  | .value found => [found]
  | _ => []

/-- What a receiver reads, and the position it reads next. `active` while there is a sender. -/
def recv (capacity : Nat) (sent : List α) (active : Bool) (next : Nat) : Received α × Nat :=
  if next < sent.length - capacity then
    (.lagged (sent.length - capacity - next), sent.length - capacity)
  else
    match sent[next]? with
    | some value => (.value value, next + 1)
    | none => (if active then .empty else .closed, next)

/-- What a receiver can still read. -/
def remaining (capacity : Nat) (sent : List α) (next : Nat) : List α :=
  sent.drop (max next (sent.length - capacity))

variable {capacity next : Nat} {sent : List α}

theorem remaining_eq_drop (kept : sent.length - next ≤ capacity) :
    remaining capacity sent next = sent.drop next := by
  rw [remaining, Nat.max_eq_left (by omega)]

theorem recv_remaining (capacity : Nat) (sent : List α) (active : Bool) (next : Nat) :
    remaining capacity sent next =
      (recv capacity sent active next).1.values ++
        remaining capacity sent (recv capacity sent active next).2 := by
  unfold recv
  split
  · rename_i behind
    simp [remaining, Received.values, Nat.max_eq_right (Nat.le_of_lt behind)]
  · rename_i kept
    split
    · rename_i value found
      obtain ⟨bound, same⟩ := List.getElem?_eq_some_iff.mp found
      rw [remaining_eq_drop (by omega), remaining_eq_drop (by omega),
        List.drop_eq_getElem_cons bound, same]
      rfl
    · split <;> rfl

/-- A receiver that keeps up reads the next value, or has read everything. -/
theorem recv_of_kept (active : Bool) (kept : sent.length - next ≤ capacity) :
    (∃ value, sent[next]? = some value ∧
        recv capacity sent active next = (.value value, next + 1)) ∨
      (sent.length ≤ next ∧
        recv capacity sent active next = (if active then .empty else .closed, next)) := by
  have ahead : ¬ next < sent.length - capacity := by omega
  cases found : sent[next]? with
  | some value => exact .inl ⟨value, rfl, by simp [recv, ahead, found]⟩
  | none =>
      right
      refine ⟨List.getElem?_eq_none_iff.mp found, ?_⟩
      simp [recv, ahead, found]

theorem remaining_send (sent : List α) (value : α) : (remaining capacity (sent ++ [value]) next).Sublist
    (remaining capacity sent next ++ [value]) := by
  unfold remaining
  rw [List.drop_append]
  refine List.Sublist.append ?_ (List.drop_sublist _ _)
  exact List.drop_sublist_drop_left sent (by simp; omega)

end Broadcast
