import OsfmEdm.Transport.Messages

/-!
How long `run_ws_loop` sleeps before its next attempt.
-/

namespace OsfmEdm

open Interleaving

/-! ## Delays -/

/-- The consecutive attempts that have failed to connect, the one under way among them until it has
connected. -/
def failures (history : List TransportEvent) : Nat :=
  history.foldl (fun failed event =>
    match event with
    | .connected => 0
    | .slept _ => failed + 1
    | _ => failed) 1

def TransportEvent.isSlept : TransportEvent → Bool
  | .slept _ => true
  | _ => false

/-- Each delay is the power of two for the failed attempts before it, at most `MAX_BACKOFF`. -/
def DelaysDouble (history : List TransportEvent) : Prop :=
  ∀ before secs after, history = before ++ .slept secs :: after →
    secs = min MAX_BACKOFF (2 ^ failures before)

theorem failures_append (history : List TransportEvent) (event : TransportEvent) :
    failures (history ++ [event]) =
      match event with
      | .connected => 0
      | .slept _ => failures history + 1
      | _ => failures history := by
  rw [failures, List.foldl_append]
  cases event <;> rfl

theorem DelaysDouble.append {history : List TransportEvent} {event : TransportEvent}
    (double : DelaysDouble history)
    (last : ∀ secs, event = .slept secs → secs = min MAX_BACKOFF (2 ^ failures history)) :
    DelaysDouble (history ++ [event]) := by
  intro before secs after cut
  rcases List.eq_nil_or_concat after with rfl | ⟨earlier, final, rfl⟩
  · obtain ⟨same, slept⟩ := List.append_inj' cut rfl
    rw [last secs (List.singleton_inj.mp slept), same]
  · have cut' : history ++ [event] = (before ++ .slept secs :: earlier) ++ [final] := by
      simpa using cut
    exact double before secs earlier (List.append_inj' cut' rfl).1

/-! ## Runs in which the backoff starts again -/

/-- The first attempt connects, and a later connection does not end with an error. -/
def restarts (t : Transport) (choice : TransportChoice) (phase : WsLoop) : Prop :=
  (t.wsLoop choice phase).map Prod.snd = some (.returned false) →
    if phase = .connecting then .connected ∈ t.history else t.history.all (!·.isSlept) = true

instance (t : Transport) (choice : TransportChoice) (phase : WsLoop) :
    Decidable (restarts t choice phase) :=
  inferInstanceAs (Decidable (_ → ite _ _ _))

def backoffRestarts : Guard Transport TransportTask TransportChoice := fun t _ task choice =>
  match task with
  | .wsLoop phase => restarts t choice phase
  | _ => True

instance : ∀ t others task choice, Decidable (backoffRestarts t others task choice) :=
  fun t _ task choice =>
    match task with
    | .wsLoop phase => inferInstanceAs (Decidable (restarts t choice phase))
    | .sends _ | .receives | .dropsSenders | .dropsReceiver => .isTrue trivial

/-- Where the backoff stands in each phase of the loop. -/
def Paced (t : Transport) : WsLoop → Prop
  | .connecting => .connected ∈ t.history → t.backoffSecs = min MAX_BACKOFF (2 ^ failures t.history)
  | .selecting | .forwarding _ | .ponging | .writing _ | .returned true =>
      .connected ∈ t.history ∧ failures t.history = 0
  | .returned false | .sleeping => t.backoffSecs = min MAX_BACKOFF (2 ^ failures t.history)

structure Steady (t : Transport) (phase : WsLoop) : Prop where
  double : DelaysDouble t.history
  /-- Before the first delay. -/
  first : t.history.all (!·.isSlept) = true → t.backoffSecs = 1
  paced : Paced t phase

namespace Transport

variable {t t' : Transport} {choice : TransportChoice} {phase next : WsLoop}

theorem steady_same (steady : Steady t phase) (history : t'.history = t.history)
    (backoff : t'.backoffSecs = t.backoffSecs) : Steady t' phase := by
  obtain ⟨double, first, paced⟩ := steady
  rw [← history] at double first
  refine ⟨double, backoff ▸ first, ?_⟩
  unfold Paced at paced ⊢
  rw [history, backoff]
  exact paced

theorem steady_record {event : TransportEvent} (steady : Steady t phase)
    (delays : event.isSlept = false) (connects : event ≠ .connected) :
    Steady (t.record event) phase := by
  have same : failures (t.record event).history = failures t.history := by
    rw [record, failures_append]
    cases event with
    | connected => exact absurd rfl connects
    | slept => cases delays
    | _ => rfl
  have member : .connected ∈ (t.record event).history ↔ .connected ∈ t.history := by
    simp [record, Ne.symm connects]
  obtain ⟨double, first, paced⟩ := steady
  refine ⟨double.append ?_, ?_, ?_⟩
  · rintro secs rfl
    cases delays
  · simpa [record, delays] using first
  · unfold Paced at paced ⊢
    simp only [same, member]
    exact paced

theorem steady_connected (steady : Steady t phase) : Steady (t.record .connected) .selecting := by
  obtain ⟨double, first, -⟩ := steady
  refine ⟨double.append nofun, by simpa [record, TransportEvent.isSlept] using first, ?_, ?_⟩
  · simp [record]
  · exact failures_append t.history .connected

theorem steady_slept (steady : Steady t .sleeping) :
    Steady ({ t with backoffSecs := min (t.backoffSecs * 2) MAX_BACKOFF }.record
      (.slept t.backoffSecs)) .connecting := by
  obtain ⟨double, -, paced⟩ := steady
  have own : t.backoffSecs = min MAX_BACKOFF (2 ^ failures t.history) := paced
  refine ⟨double.append ?_, ?_, fun _ => ?_⟩
  · intro secs same
    cases same
    exact own
  · intro none
    simp [record, TransportEvent.isSlept] at none
  · have more : failures (t.history ++ [.slept t.backoffSecs]) = failures t.history + 1 :=
      failures_append t.history (.slept t.backoffSecs)
    change min (t.backoffSecs * 2) MAX_BACKOFF =
      min MAX_BACKOFF (2 ^ failures (t.history ++ [.slept t.backoffSecs]))
    rw [more, own, Nat.pow_succ, MAX_BACKOFF]
    omega

theorem steady_failed (steady : Steady t phase) (zero : failures t.history = 0)
    (none : t.history.all (!·.isSlept) = true) : Steady t (.returned false) := by
  refine ⟨steady.double, steady.first, ?_⟩
  rw [Paced, zero, steady.first none]
  rfl

theorem steady_wsLoop (moved : t.wsLoop choice phase = some (t', next))
    (meets : restarts t choice phase) (steady : Steady t phase) : Steady t' next := by
  have error (failed : next = .returned false) :
      if phase = .connecting then .connected ∈ t.history else t.history.all (!·.isSlept) = true :=
    meets (by rw [moved, failed]; rfl)
  obtain ⟨double, first, paced⟩ := steady
  cases phase with
  | connecting =>
      simp only [wsLoop] at moved
      split at moved <;> cases moved
      · exact steady_connected ⟨double, first, paced⟩
      · exact ⟨double, first, paced (error rfl)⟩
  | selecting =>
      simp only [wsLoop] at moved
      split at moved
      case h_8 =>
        split at moved
        · rename_i message rest _
          cases moved
          have took : Steady { t with outbound := rest } (.writing message) := ⟨double, first, paced⟩
          exact steady_record took rfl (by simp)
        · split at moved <;> cases moved
          exact ⟨double, first, paced⟩
      all_goals cases moved
      all_goals
        first
          | exact steady_failed ⟨double, first, paced⟩ paced.2 (error rfl)
          | exact ⟨double, first, paced⟩
  | forwarding message =>
      simp only [wsLoop] at moved
      repeat' split at moved
      all_goals cases moved
      · have forwarded : Steady { t with inbound := t.inbound ++ [message] } .selecting :=
          ⟨double, first, paced⟩
        exact steady_record forwarded rfl (by simp)
      · exact ⟨double, first, paced⟩
  | ponging =>
      simp only [wsLoop] at moved
      split at moved <;> cases moved
      · exact ⟨double, first, paced⟩
      · exact steady_failed ⟨double, first, paced⟩ paced.2 (error rfl)
  | writing message =>
      simp only [wsLoop] at moved
      split at moved <;> cases moved
      · have wrote : Steady t .selecting := ⟨double, first, paced⟩
        exact steady_record wrote rfl (by simp)
      · exact steady_failed ⟨double, first, paced⟩ paced.2 (error rfl)
  | returned ok =>
      cases moved
      cases ok with
      | true =>
          refine ⟨double, fun _ => rfl, ?_⟩
          rw [if_pos rfl, Paced, paced.2]
          rfl
      | false => exact ⟨double, first, paced⟩
  | sleeping =>
      cases moved
      exact steady_slept ⟨double, first, paced⟩

theorem steady_turn {task : TransportTask} {new : List TransportTask}
    (moved : t.turn choice task = some (t', new)) (other : task.loop? = none)
    (steady : Steady t phase) : new = [] ∧ Steady t' phase := by
  cases task with
  | wsLoop phase => cases other
  | sends message =>
      simp only [turn] at moved
      split at moved <;> cases moved
      have queued : Steady { t with outbound := t.outbound ++ [message] } phase :=
        steady_same steady rfl rfl
      exact ⟨rfl, steady_record queued rfl (by simp)⟩
  | receives =>
      simp only [turn] at moved
      split at moved <;> cases moved
      exact ⟨rfl, steady_same steady rfl rfl⟩
  | dropsSenders | dropsReceiver =>
      cases moved
      exact ⟨rfl, steady_same steady rfl rfl⟩

end Transport

theorem steady_reached {config : Config Transport TransportTask}
    (reached : Reach transportProgram backoffRestarts transportStart config) :
    ∃ phase, selected TransportTask.loop? config.tasks = [phase] ∧ Steady config.shared phase := by
  refine reached.invariant (fun config =>
    ∃ phase, selected TransportTask.loop? config.tasks = [phase] ∧ Steady config.shared phase)
    ⟨.connecting, rfl, ?_, fun _ => rfl, fun connected => ?_⟩ ?_ ?_
  · intro before secs after cut
    exact absurd cut (by simp [transportStart])
  · cases connected
  · rintro t tasks task ⟨phase, one, steady⟩ request
    have other := TransportTask.loop?_request request
    exact ⟨phase, by simpa [other] using one, steady⟩
  · rintro t t' before after new task choice ⟨phase, one, steady⟩ meets moved
    cases loop : task.loop? with
    | none =>
        obtain ⟨rfl, kept⟩ := Transport.steady_turn moved loop steady
        exact ⟨phase, by simpa [loop] using one, kept⟩
    | some own =>
        obtain ⟨rfl, next, stepped, loops⟩ := loop_moved loop one moved
        exact ⟨next, loops, Transport.steady_wsLoop stepped meets steady⟩

/-- Where the first attempt connects and no later connection ends with an error, every delay is the
one that the attempts failed since the last connection ask for. -/
theorem backoff_restarts {config : Config Transport TransportTask}
    (reached : Reach transportProgram backoffRestarts transportStart config) :
    DelaysDouble config.shared.history := by
  obtain ⟨phase, -, steady⟩ := steady_reached reached
  exact steady.double

/-- The server closes the first connection, and the next two attempts fail. -/
def twoFailures : List (Label TransportTask TransportChoice) :=
  [.run 0 .proceeds, .run 0 (.reads .close), .run 0 .proceeds, .run 0 .proceeds, .run 0 .fails,
    .run 0 .proceeds, .run 0 .proceeds, .run 0 .fails, .run 0 .proceeds, .run 0 .proceeds]

/-- The server closes two connections. -/
def twoClosed : List (Label TransportTask TransportChoice) :=
  [.run 0 .proceeds, .run 0 (.reads .close), .run 0 .proceeds, .run 0 .proceeds, .run 0 .proceeds,
    .run 0 (.reads .close), .run 0 .proceeds, .run 0 .proceeds]

theorem backoff_restarts_failures : ∃ config,
    Reach transportProgram backoffRestarts transportStart config ∧
      config.shared.history = [.connected, .slept 1, .slept 2, .slept 4] ∧
        DelaysDouble config.shared.history := by
  obtain ⟨config, reached, seen⟩ := Reach.of_observed transportProgram backoffRestarts
    transportStart twoFailures (fun config => config.shared.history)
    [.connected, .slept 1, .slept 2, .slept 4] (by decide +kernel)
  exact ⟨config, reached, seen, backoff_restarts reached⟩

theorem backoff_grows : ¬ ∀ config,
    Reach transportProgram Guard.any transportStart config →
      DelaysDouble config.shared.history := by
  intro double
  obtain ⟨config, reached, seen⟩ := Reach.of_observed transportProgram Guard.any transportStart
    twoClosed (fun config => config.shared.history)
    [.connected, .slept 1, .connected, .slept 2] (by decide +kernel)
  exact absurd (double config reached [.connected, .slept 1, .connected] 2 [] seen) (by decide)

end OsfmEdm
