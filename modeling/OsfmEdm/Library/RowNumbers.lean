import Mathlib.Data.List.Basic
import Mathlib.Data.List.Nodup
import Mathlib.Data.List.Perm.Basic

/-!
`ROW_NUMBER() OVER (PARTITION BY key ORDER BY time DESC)`, and the rows it numbers up to a bound.
Rows of one time are numbered in any order.
-/

namespace RowNumbers

variable {α κ τ : Type} [DecidableEq κ] [LE τ] {key : α → κ} {time : α → τ}
  {rows order : List α} {row other : α} {limit : Nat} {part : κ}

/-- An order in which the rows may be numbered. -/
structure Ranking (time : α → τ) (rows order : List α) : Prop where
  perm : order.Perm rows
  sorted : order.Pairwise fun first second => time second ≤ time first

/-- The rows of a partition in the order of their numbers. -/
def partition (key : α → κ) (part : κ) (rows : List α) : List α :=
  rows.filter fun row => key row = part

theorem mem_partition : row ∈ partition key part rows ↔ row ∈ rows ∧ key row = part := by
  simp [partition]

variable [DecidableEq α]

def rowNumber (key : α → κ) (order : List α) (row : α) : Nat :=
  (partition key (key row) order).idxOf row + 1

/-- The rows that are numbered up to the limit. -/
def latest (key : α → κ) (limit : Nat) (order rows : List α) : List α :=
  rows.filter fun row => rowNumber key order row ≤ limit

theorem mem_latest : row ∈ latest key limit order rows ↔
    row ∈ rows ∧ rowNumber key order row ≤ limit := by
  simp [latest]

theorem rowNumber_le_iff (member : row ∈ order) :
    rowNumber key order row ≤ limit ↔ row ∈ (partition key (key row) order).take limit := by
  rw [List.mem_take_iff_idxOf_lt (mem_partition.mpr ⟨member, rfl⟩), rowNumber, Nat.succ_le_iff]

/-- Of each partition, the first rows in the order stay. -/
theorem partition_latest (ranking : Ranking time rows order) (distinct : rows.Nodup) (part : κ) :
    (partition key part (latest key limit order rows)).Perm
      ((partition key part order).take limit) := by
  have orderly : order.Nodup := ranking.perm.nodup_iff.mpr distinct
  have kept : (partition key part (latest key limit order rows)).Nodup :=
    (distinct.filter _).filter _
  have taken : ((partition key part order).take limit).Nodup :=
    (orderly.filter _).sublist (List.take_sublist ..)
  refine (List.perm_ext_iff_of_nodup kept taken).mpr fun row => ?_
  rw [mem_partition, mem_latest]
  constructor
  · rintro ⟨⟨member, few⟩, rfl⟩
    exact (rowNumber_le_iff (ranking.perm.mem_iff.mpr member)).mp few
  · intro taken
    obtain ⟨there, own⟩ := mem_partition.mp (List.mem_of_mem_take taken)
    subst own
    exact ⟨⟨ranking.perm.mem_iff.mp there, (rowNumber_le_iff there).mpr taken⟩, rfl⟩

theorem length_latest (ranking : Ranking time rows order) (distinct : rows.Nodup) (part : κ) :
    (partition key part (latest key limit order rows)).length =
      min limit (partition key part rows).length := by
  rw [(partition_latest ranking distinct part).length_eq, List.length_take]
  exact congrArg _ (ranking.perm.filter _).length_eq

/-- A row that stays is at least as late as one of its partition that goes. -/
theorem latest_later (ranking : Ranking time rows order)
    (kept : row ∈ latest key limit order rows) (there : other ∈ rows)
    (dropped : other ∉ latest key limit order rows) (same : key other = key row) :
    time other ≤ time row := by
  obtain ⟨member, few⟩ := mem_latest.mp kept
  have first := (rowNumber_le_iff (ranking.perm.mem_iff.mpr member)).mp few
  have inOrder := ranking.perm.mem_iff.mpr there
  have last : other ∈ (partition key (key row) order).drop limit := by
    have inPart : other ∈ partition key (key row) order := mem_partition.mpr ⟨inOrder, same⟩
    rw [← List.take_append_drop limit (partition key (key row) order)] at inPart
    refine (List.mem_append.mp inPart).resolve_left fun taken => ?_
    rw [← same] at taken
    exact dropped (mem_latest.mpr ⟨there, (rowNumber_le_iff inOrder).mpr taken⟩)
  have sorted : (partition key (key row) order).Pairwise fun first second =>
      time second ≤ time first := ranking.sorted.filter _
  rw [← List.take_append_drop limit (partition key (key row) order)] at sorted
  exact (List.pairwise_append.mp sorted).2.2 row first other last

/-- Where no partition is over the limit, all rows stay. -/
theorem latest_eq_self (ranking : Ranking time rows order)
    (few : ∀ part, (partition key part rows).length ≤ limit) :
    latest key limit order rows = rows := by
  refine List.filter_eq_self.mpr fun row member => decide_eq_true ?_
  have inOrder : row ∈ partition key (key row) order :=
    mem_partition.mpr ⟨ranking.perm.mem_iff.mpr member, rfl⟩
  have bound := List.idxOf_lt_length_of_mem inOrder
  have same : (partition key (key row) order).length = (partition key (key row) rows).length :=
    (ranking.perm.filter _).length_eq
  have all := few (key row)
  rw [rowNumber]
  omega

/-- Another ranking of the rows that have stayed drops none of them. -/
theorem latest_again {again : List α} (ranking : Ranking time rows order) (distinct : rows.Nodup)
    (ranked : Ranking time (latest key limit order rows) again) :
    latest key limit again (latest key limit order rows) = latest key limit order rows := by
  refine latest_eq_self ranked fun part => ?_
  rw [length_latest ranking distinct]
  exact Nat.min_le_left ..

end RowNumbers
