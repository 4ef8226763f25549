import Mathlib.Tactic.Linarith
import Mathlib.Tactic.Positivity
import OsfmEdm.Api.Routes

/-!
`fleet_compliance` beside whatever changes the reports: three statements, each on the state it finds.
-/

namespace OsfmEdm

open Interleaving Resumption

/-- `past` has the states that were before, the last one first. -/
structure SummaryServer where
  server : ApiServer
  past : List ApiServer

/-- `compliance_rate` before it is rounded. -/
structure FleetSummary extends Api.ComplianceSummary where
  complianceRate : ℚ

/-- `since` is the number of earlier states when the first statement ran. -/
inductive SummaryPhase where
  | countAll
  | countCompliant (since total : Nat)
  | selectRecent (since total compliant : Nat)
  /-- `seen` are the states from the first statement to the last. -/
  | answered (seen : List ApiServer) (answer : Except ApiError FleetSummary)

inductive SummaryTask where
  | request (phase : SummaryPhase)
  /-- A statement or a step of something else. -/
  | elsewhere (change : ApiServer → ApiServer)

def ApiServer.reports (s : ApiServer) : List ((Uuid × Uuid) × ComplianceRow) :=
  s.app.db.complianceReports.rows

def ApiServer.compliant (s : ApiServer) : Nat := s.reports.countP fun row => row.2.compliant

def fleetSummary (total compliant : Nat) (recent : List ((Uuid × Uuid) × ComplianceRow)) :
    FleetSummary where
  totalEvaluations := total
  compliant
  nonCompliant := total - compliant
  recentViolations := recent
  complianceRate := if total > 0 then compliant / total * 100 else 100

namespace SummaryServer

def seen (s : SummaryServer) (since : Nat) : List ApiServer :=
  s.server :: s.past.take (s.past.length - since)

def request (s : SummaryServer) : SummaryPhase → ApiChoice → Option SummaryPhase
  | .answered _ _, _ => none
  | .countAll, .proceeds => some (.countCompliant s.past.length s.server.reports.length)
  | .countCompliant since total, .proceeds => some (.selectRecent since total s.server.compliant)
  | .selectRecent since total compliant, .proceeds =>
      let recent := ((Api.latestFirst s.server.tables).filter fun row => !row.2.compliant).take 20
      some (.answered (s.seen since) (.ok (fleetSummary total compliant recent)))
  | _, .fails => some (.answered [] (.error .database))
  | _, _ => none

def turn (s : SummaryServer) : SummaryTask → ApiChoice → Option (SummaryServer × List SummaryTask)
  | .request phase, choice => (s.request phase choice).map fun phase => (s, [.request phase])
  | .elsewhere change, _ => some ({ server := change s.server, past := s.server :: s.past }, [])

end SummaryServer

def SummaryTask.request? : SummaryTask → Bool
  | .request .countAll | .elsewhere _ => true
  | _ => false

def summaryProgram : Program SummaryServer SummaryTask ApiChoice where
  request := SummaryTask.request?
  step s task choice := s.turn task choice

/-! ## The handler -/

def SummaryPhase.code : SummaryPhase → Proc ApiServer ApiChoice (Except ApiError Api.ComplianceSummary)
  | .countAll => Api.fleetCompliance.run
  | .countCompliant _ total => ExceptT.run do
      let compliant ← ApiHandler.query fun t =>
        t.db.complianceReports.rows.countP fun row => row.2.compliant
      let recent ← ApiHandler.query fun t =>
        ((Api.latestFirst t).filter fun row => !row.2.compliant).take 20
      pure (fleetSummary total compliant recent).toComplianceSummary
  | .selectRecent _ total compliant => ExceptT.run do
      let recent ← ApiHandler.query fun t =>
        ((Api.latestFirst t).filter fun row => !row.2.compliant).take 20
      pure (fleetSummary total compliant recent).toComplianceSummary
  | .answered _ (.ok summary) => .done (.ok summary.toComplianceSummary)
  | .answered _ (.error error) => .done (.error error)

theorem request_advance (s : SummaryServer) (phase : SummaryPhase) (choice : ApiChoice) :
    phase.code.advance s.server choice =
      (s.request phase choice).map fun phase => (s.server, phase.code) := by
  cases phase with
  | answered seen answer => cases answer <;> rfl
  | countAll => cases choice <;> rfl
  | countCompliant since total => cases choice <;> rfl
  | selectRecent since total compliant => cases choice <;> rfl

/-! ## One state -/

/-- The numbers add up, and they are those of a state that was there during the request. -/
structure FleetSummary.Consistent (summary : FleetSummary) (seen : List ApiServer) : Prop where
  sum : summary.compliant + summary.nonCompliant = summary.totalEvaluations
  nonCompliant : 0 ≤ summary.nonCompliant
  rate : 0 ≤ summary.complianceRate ∧ summary.complianceRate ≤ 100
  snapshot : ∃ s ∈ seen, summary.totalEvaluations = s.reports.length ∧
    summary.compliant = s.compliant ∧
      summary.nonCompliant = s.reports.countP fun row => !row.2.compliant

theorem rate_bounds {total compliant : Nat} (bound : compliant ≤ total)
    (recent : List ((Uuid × Uuid) × ComplianceRow)) :
    0 ≤ (fleetSummary total compliant recent).complianceRate ∧
      (fleetSummary total compliant recent).complianceRate ≤ 100 := by
  rw [fleetSummary]
  by_cases some : total > 0
  · have positive : (0 : ℚ) < total := by exact_mod_cast some
    have part : (compliant : ℚ) / total ≤ 1 := (div_le_one positive).mpr (by exact_mod_cast bound)
    have nonnegative : (0 : ℚ) ≤ compliant / total := by positivity
    simp only [if_pos some]
    constructor <;> linarith
  · simp [some]

theorem consistent_iff {seen : List ApiServer} {total compliant : Nat}
    {recent : List ((Uuid × Uuid) × ComplianceRow)} :
    (fleetSummary total compliant recent).Consistent seen ↔
      ∃ s ∈ seen, s.reports.length = total ∧ s.compliant = compliant := by
  constructor
  · intro consistent
    obtain ⟨s, member, all, good, -⟩ := consistent.snapshot
    exact ⟨s, member, all.symm, good.symm⟩
  · rintro ⟨s, member, rfl, rfl⟩
    have split := List.length_eq_countP_add_countP (fun row => row.2.compliant) (l := s.reports)
    have others : s.reports.countP (fun row => decide (¬ row.2.compliant = true)) =
        s.reports.countP fun row => !row.2.compliant := by
      congr 1
      funext row
      cases row.2.compliant <;> rfl
    rw [others] at split
    have non : ((s.reports.length : Int) - s.compliant) =
        s.reports.countP fun row => !row.2.compliant := by
      rw [ApiServer.compliant]
      omega
    refine ⟨?_, ?_, rate_bounds List.countP_le_length recent, s, member, rfl, rfl, non⟩
    · exact add_sub_cancel _ _
    · exact le_of_le_of_eq (Int.natCast_nonneg _) non.symm

/-! ## Changes between the two counts -/

/-- What a request still between its counts asks of the next state: as many compliant rows as before,
or as many rows as it has counted. -/
def SummaryTask.agrees (before after : ApiServer) : SummaryTask → Bool
  | .request (.countCompliant _ total) =>
      after.compliant = before.compliant || after.reports.length = total
  | _ => true

/-- A change of the number of compliant rows leaves the number of rows that a request has counted. -/
def keepsCounts : Guard SummaryServer SummaryTask ApiChoice
  | s, others, .elsewhere change, _ =>
      (others.all fun task => task.agrees s.server (change s.server)) = true
  | _, _, .request _, _ => True

instance : ∀ s others task choice, Decidable (keepsCounts s others task choice)
  | _, _, .elsewhere _, _ => inferInstanceAs (Decidable (_ = true))
  | _, _, .request _, _ => inferInstanceAs (Decidable True)

/-- A state since the first statement has the numbers that were read, or will be read now. -/
def SummaryTask.Counted (s : SummaryServer) : SummaryTask → Prop
  | .request (.countCompliant since total) => since ≤ s.past.length ∧
      ∃ t ∈ s.seen since, t.reports.length = total ∧ t.compliant = s.server.compliant
  | .request (.selectRecent since total compliant) => since ≤ s.past.length ∧
      ∃ t ∈ s.seen since, t.reports.length = total ∧ t.compliant = compliant
  | .request (.answered seen (.ok summary)) => summary.Consistent seen
  | _ => True

theorem counted_request {s : SummaryServer} {phase phase' : SummaryPhase} {choice : ApiChoice}
    (own : (SummaryTask.request phase).Counted s) (moved : s.request phase choice = some phase') :
    (SummaryTask.request phase').Counted s := by
  unfold SummaryServer.request at moved
  split at moved <;> simp only [Option.some.injEq, reduceCtorEq] at moved
  · cases moved
    exact ⟨le_refl _, s.server, List.mem_cons_self, rfl, rfl⟩
  · cases moved
    exact own
  · cases moved
    exact consistent_iff.mpr own.2
  · cases moved
    trivial

theorem seen_elsewhere {s : SummaryServer} {since : Nat} (change : ApiServer → ApiServer)
    (early : since ≤ s.past.length) :
    SummaryServer.seen ⟨change s.server, s.server :: s.past⟩ since =
      change s.server :: s.seen since := by
  rw [SummaryServer.seen, List.length_cons, Nat.succ_sub early, List.take_succ_cons]
  rfl

theorem counted_elsewhere {s : SummaryServer} {task : SummaryTask} {change : ApiServer → ApiServer}
    (own : task.Counted s) (agrees : task.agrees s.server (change s.server) = true) :
    task.Counted ⟨change s.server, s.server :: s.past⟩ := by
  unfold SummaryTask.Counted at own ⊢
  split at own
  · next since total =>
      obtain ⟨early, t, member, all, good⟩ := own
      rw [seen_elsewhere change early]
      refine ⟨Nat.le_succ_of_le early, ?_⟩
      rw [SummaryTask.agrees, Bool.or_eq_true, decide_eq_true_eq, decide_eq_true_eq] at agrees
      rcases agrees with same | counted
      · exact ⟨t, List.mem_cons_of_mem _ member, all, good.trans same.symm⟩
      · exact ⟨_, List.mem_cons_self, counted, rfl⟩
  · next since total compliant =>
      obtain ⟨early, t, member, all, good⟩ := own
      rw [seen_elsewhere change early]
      exact ⟨Nat.le_succ_of_le early, t, List.mem_cons_of_mem _ member, all, good⟩
  · exact own
  · trivial

theorem counted_outline : Outline summaryProgram keepsCounts (fun _ => True)
    fun s task => task.Counted s where
  arrive s task _ request := by
    have request : task.request? = true := request
    unfold SummaryTask.request? at request
    split at request
    · trivial
    · trivial
    · cases request
  step s others task choice s' new _ own _ _ moved := by
    refine ⟨trivial, ?_⟩
    cases task with
    | request phase =>
        obtain ⟨phase', advanced, same⟩ := Option.map_eq_some_iff.mp moved
        cases same
        simpa using counted_request own advanced
    | elsewhere change =>
        cases moved
        simp
  stable s others task choice s' new _ _ meets moved other member own := by
    cases task with
    | request phase =>
        obtain ⟨phase', -, same⟩ := Option.map_eq_some_iff.mp moved
        cases same
        exact own
    | elsewhere change =>
        cases moved
        exact counted_elsewhere own (List.all_eq_true.mp meets other member)

/-- Beside changes that keep what is being counted every summary is that of one state; a single change
that does not keep it is one too many. -/
theorem summaries_consistent {server : ApiServer} {config : Config SummaryServer SummaryTask}
    (reached : Reach summaryProgram keepsCounts ⟨⟨server, []⟩, []⟩ config) :
    (∀ seen summary, .request (.answered seen (.ok summary)) ∈ config.tasks →
      summary.Consistent seen) ∧
      ∀ (s : ApiServer) (change : ApiServer → ApiServer)
        (recent : List ((Uuid × Uuid) × ComplianceRow)),
        (fleetSummary s.reports.length (change s).compliant recent).Consistent [change s, s] ↔
          (SummaryTask.request (.countCompliant 0 s.reports.length)).agrees s (change s) = true := by
  have held := counted_outline.holds ⟨trivial, by simp⟩ reached
  refine ⟨fun seen summary answered => held.tasks _ answered, fun s change recent => ?_⟩
  rw [consistent_iff, SummaryTask.agrees, Bool.or_eq_true, decide_eq_true_eq, decide_eq_true_eq]
  constructor
  · rintro ⟨t, member, all, good⟩
    rcases List.mem_cons.mp member with rfl | first
    · exact .inr all
    · rw [List.mem_singleton.mp first] at good
      exact .inl good.symm
  · rintro (same | counted)
    · exact ⟨s, by simp, rfl, same.symm⟩
    · exact ⟨change s, by simp, counted, rfl⟩

/-! ## A report between the counts -/

def compliantReport (device : Uuid) : SummaryTask :=
  .elsewhere fun s =>
    let report : ComplianceReport :=
      { deviceId := device, policyId := Uuid.small 3, compliant := true, violations := [],
        checkedAt := 0 }
    { s with app := { s.app with db := s.app.db.upsertReport device report } }

def summaryStart : Config SummaryServer SummaryTask where
  shared :=
    { server := .start
        { db := { Database.ofDevices .empty with
            policies := ⟨[(Uuid.small 3, { name := "base", rules := .array [], enabled := true })],
              List.nodup_singleton _⟩ }
          users := .empty
          hostnames := .empty
          enrollmentTokens := .empty }
      past := [] }
  tasks := []

def SummaryTask.numbers : SummaryTask → Option (Nat × Nat × Int × ℚ)
  | .request (.answered _ (.ok summary)) =>
      some (summary.totalEvaluations, summary.compliant, summary.nonCompliant,
        summary.complianceRate)
  | _ => none

def summaryNumbers (config : Config SummaryServer SummaryTask) : List (Nat × Nat × Int × ℚ) :=
  config.tasks.filterMap (·.numbers)

def firstReport : List (Label SummaryTask ApiChoice) :=
  [.arrive (compliantReport (Uuid.small 1)), .run 0 .proceeds, .arrive (.request .countAll),
    .run 0 .proceeds]

theorem summaries_consistent_alone : ∃ config,
    Reach summaryProgram keepsCounts summaryStart config ∧
      summaryNumbers config = [(1, 1, 0, 100)] ∧
        ∀ seen summary, .request (.answered seen (.ok summary)) ∈ config.tasks →
          summary.Consistent seen := by
  obtain ⟨config, reached, numbers⟩ := Reach.of_observed summaryProgram keepsCounts summaryStart
    (firstReport ++ [.run 0 .proceeds, .run 0 .proceeds]) summaryNumbers [(1, 1, 0, 100)]
    (by decide +kernel)
  exact ⟨config, reached, numbers, (summaries_consistent reached).1⟩

/-- A second report is stored between the counts: minus one violation, and two hundred per cent. -/
theorem summary_of_two_states : ¬ ∀ (server : ApiServer) (config : Config SummaryServer SummaryTask),
    Reach summaryProgram Guard.any ⟨⟨server, []⟩, []⟩ config → ∀ seen summary,
      .request (.answered seen (.ok summary)) ∈ config.tasks → summary.Consistent seen := by
  intro consistent
  obtain ⟨config, reached, numbers⟩ := Reach.of_observed summaryProgram Guard.any summaryStart
    (firstReport ++ [.arrive (compliantReport (Uuid.small 2)), .run 1 .proceeds, .run 0 .proceeds,
      .run 0 .proceeds])
    summaryNumbers [(1, 2, -1, 200)] (by decide +kernel)
  have answered : ((1 : Nat), (2 : Nat), (-1 : Int), (200 : ℚ)) ∈ summaryNumbers config := by
    rw [numbers]
    exact List.mem_singleton_self _
  obtain ⟨task, member, found⟩ := List.mem_filterMap.mp answered
  unfold SummaryTask.numbers at found
  split at found
  · next seen summary =>
      have negative : summary.nonCompliant = -1 :=
        (Prod.mk.inj (Prod.mk.inj (Prod.mk.inj (Option.some.inj found)).2).2).1
      have bound := (consistent _ config reached seen summary member).nonCompliant
      rw [negative] at bound
      exact absurd bound (by decide)
  · cases found

end OsfmEdm
