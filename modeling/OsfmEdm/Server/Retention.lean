import Mathlib.Order.WithBot
import OsfmEdm.Api.Audit
import OsfmEdm.Library.RowNumbers

/-!
The statements of `migrations/017_retention.sql`, which are to be safe to apply again.
-/

namespace OsfmEdm

open RowNumbers

/-- A column `time`; `NULL` sorts after all times, and a comparison with it is not true. -/
abbrev NullableTime := WithTop Nat

structure StoredLog where
  id : Uuid
  jobId : Uuid
  time : NullableTime
  line : String
  stream : String
deriving DecidableEq

/-- The tables that are trimmed. The primary keys of the others do not matter. -/
@[ext]
structure RetainedTables where
  deviceMetrics : List MetricsRow
  kernelEvents : List KernelEventRow
  jobLogs : List StoredLog
  alertEvents : List AlertEventRow
  auditLog : List (NullableTime × AuditRow)
  jobLogIds : (jobLogs.map (·.id)).Nodup

/-- The deletions before three moments; `ranking` is the order of the logs that `ROW_NUMBER`
follows. -/
def RetainedTables.trim (t : RetainedTables) (month quarter year : Nat)
    (ranking : List StoredLog) : RetainedTables where
  deviceMetrics := t.deviceMetrics.filter fun row => ¬ row.time < month
  kernelEvents := t.kernelEvents.filter fun row => ¬ row.time < month
  jobLogs := latest StoredLog.jobId 500 ranking t.jobLogs
  alertEvents := t.alertEvents.filter fun row => ¬ row.resolvedAt.any (· < quarter)
  auditLog := t.auditLog.filter fun row => ¬ row.1 < (year : NullableTime)
  jobLogIds := t.jobLogIds.sublist (List.filter_sublist.map _)

def RetainedTables.retention (t : RetainedTables) (now : Nat) (ranking : List StoredLog) :
    RetainedTables :=
  t.trim (now - days 30) (now - days 90) (now - days 365) ranking

/-- What some applications leave, the last one at `now`. -/
inductive Retained (t : RetainedTables) : Nat → RetainedTables → Prop where
  | once {now : Nat} {ranking : List StoredLog}
      (ranked : Ranking StoredLog.time t.jobLogs ranking) : Retained t now (t.retention now ranking)
  | again {now later : Nat} {t' : RetainedTables} {ranking : List StoredLog}
      (retained : Retained t now t') (inTime : now ≤ later)
      (ranked : Ranking StoredLog.time t'.jobLogs ranking) :
      Retained t later (t'.retention later ranking)

theorem filter_stricter {α : Type} {wide narrow : α → Bool} {rows : List α}
    (stricter : ∀ row, narrow row = true → wide row = true) :
    (rows.filter wide).filter narrow = rows.filter narrow := by
  rw [List.filter_filter]
  refine List.filter_congr fun row _ => ?_
  cases kept : narrow row with
  | false => rfl
  | true => simp [stricter row kept]

namespace RetainedTables

variable {t : RetainedTables} {now later : Nat} {ranking again : List StoredLog}

theorem distinct (t : RetainedTables) : t.jobLogs.Nodup := t.jobLogIds.of_map _

/-- Trimming again, at later moments, leaves what they alone would leave. -/
theorem trim_again {month quarter year month' quarter' year' : Nat}
    (ranked : Ranking StoredLog.time t.jobLogs ranking)
    (monthly : month ≤ month') (quarterly : quarter ≤ quarter') (yearly : year ≤ year')
    (ranked' : Ranking StoredLog.time (t.trim month quarter year ranking).jobLogs again) :
    (t.trim month quarter year ranking).trim month' quarter' year' again =
      t.trim month' quarter' year' ranking := by
  ext1
  · refine filter_stricter fun row kept => ?_
    simp only [not_lt, decide_eq_true_eq] at kept ⊢
    exact monthly.trans kept
  · refine filter_stricter fun row kept => ?_
    simp only [not_lt, decide_eq_true_eq] at kept ⊢
    exact monthly.trans kept
  · exact latest_again ranked t.distinct ranked'
  · refine filter_stricter fun row kept => ?_
    cases resolved : row.resolvedAt with
    | none => rfl
    | some moment =>
        simp only [resolved, Option.any_some, decide_eq_true_eq, not_lt] at kept ⊢
        exact quarterly.trans kept
  · refine filter_stricter fun row kept => ?_
    simp only [not_lt, decide_eq_true_eq] at kept ⊢
    exact (WithTop.coe_le_coe.mpr yearly).trans kept

theorem retention_again (ranked : Ranking StoredLog.time t.jobLogs ranking) (inTime : now ≤ later)
    (ranked' : Ranking StoredLog.time (t.retention now ranking).jobLogs again) :
    (t.retention now ranking).retention later again = t.retention later ranking :=
  trim_again ranked (Nat.sub_le_sub_right inTime _) (Nat.sub_le_sub_right inTime _)
    (Nat.sub_le_sub_right inTime _) ranked'

end RetainedTables

theorem Retained.single {t t' : RetainedTables} {now : Nat} (retained : Retained t now t') :
    ∃ ranking, Ranking StoredLog.time t.jobLogs ranking ∧ t' = t.retention now ranking := by
  induction retained with
  | once ranked => exact ⟨_, ranked, rfl⟩
  | again _ inTime ranked ih =>
      obtain ⟨first, before, rfl⟩ := ih
      exact ⟨first, before, RetainedTables.retention_again before inTime ranked⟩

/-- However often the migration is applied, what is left is what the last application alone would
leave: of each job the latest 500 lines, or all of fewer. -/
theorem retained_once {t t' : RetainedTables} {now : Nat} (retained : Retained t now t') :
    (∃ ranking, Ranking StoredLog.time t.jobLogs ranking ∧ t' = t.retention now ranking) ∧
    (∀ job, (t'.jobLogs.filter (·.jobId = job)).length =
      min 500 (t.jobLogs.filter (·.jobId = job)).length) ∧
    ∀ kept ∈ t'.jobLogs, ∀ dropped ∈ t.jobLogs, dropped ∉ t'.jobLogs →
      dropped.jobId = kept.jobId → dropped.time ≤ kept.time := by
  obtain ⟨ranking, ranked, rfl⟩ := retained.single
  exact ⟨⟨ranking, ranked, rfl⟩, fun job => length_latest ranked t.distinct job,
    fun kept member dropped there gone same => latest_later ranked member there gone same⟩

def twoLogs : RetainedTables where
  deviceMetrics := []
  kernelEvents := []
  jobLogs :=
    [{ id := .small 1, jobId := .small 9, time := ⊤, line := "a", stream := "stdout" },
      { id := .small 2, jobId := .small 9, time := 5, line := "b", stream := "stderr" }]
  alertEvents := []
  auditLog := []
  jobLogIds := by decide

theorem retained_once_twice :
    ((((twoLogs.retention 0 twoLogs.jobLogs).retention 1 twoLogs.jobLogs).jobLogs.filter
      (·.jobId = .small 9)).length) = min 500 2 := by
  have ranked : Ranking StoredLog.time twoLogs.jobLogs twoLogs.jobLogs :=
    ⟨.refl _, by simp [twoLogs]⟩
  have again : Ranking StoredLog.time (twoLogs.retention 0 twoLogs.jobLogs).jobLogs
      twoLogs.jobLogs := ⟨.refl _, by simp [twoLogs]⟩
  exact (retained_once (.again (.once ranked) (Nat.zero_le 1) again)).2.1 (.small 9)

end OsfmEdm
