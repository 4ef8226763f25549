import OsfmEdm.Transport.Step

/-!
What is taken from the outbound queue is written, in order and once, as long as no write of a
message fails.
-/

namespace OsfmEdm

open Interleaving

namespace Transport

def queued (t : Transport) : List AgentMessage :=
  t.history.filterMap fun event => match event with | .queued message => some message | _ => none

def taken (t : Transport) : List AgentMessage :=
  t.history.filterMap fun event => match event with | .took message => some message | _ => none

def written (t : Transport) : List AgentMessage :=
  t.history.filterMap fun event => match event with | .wrote message => some message | _ => none

end Transport

/-- The message the loop has in hand, to be written to this connection or first on the next. -/
def WsLoop.held : WsLoop → List AgentMessage
  | .writing message => [message]
  | _ => []

def TransportTask.loop? : TransportTask → Option WsLoop
  | .wsLoop phase => some phase
  | _ => none

def TransportTask.held (task : TransportTask) : List AgentMessage :=
  (task.loop?.map WsLoop.held).getD []

/-- No `write.send` of a message fails. -/
def writesSucceed : Guard Transport TransportTask TransportChoice := fun _ _ task choice =>
  match task with
  | .wsLoop (.writing _) => choice ≠ .fails
  | _ => True

instance : ∀ t others task choice, Decidable (writesSucceed t others task choice) := by
  intro t others task choice
  unfold writesSucceed
  split <;> infer_instance

/-- Every message taken was written or is in hand, in the order of the queue and once. -/
structure MessagesKept (config : Config Transport TransportTask) : Prop where
  queued : config.shared.queued = config.shared.taken ++ config.shared.outbound
  taken : config.shared.taken =
    config.shared.written ++ config.tasks.flatMap TransportTask.held

variable {t t' : Transport} {choice : TransportChoice}

theorem Transport.wsLoop_kept {phase next : WsLoop} (moved : t.wsLoop choice phase = some (t', next))
    (succeeds : ∀ message, phase = .writing message → choice ≠ .fails) :
    t'.queued = t.queued ∧ t'.taken ++ t'.outbound = t.taken ++ t.outbound ∧
      (t.taken = t.written ++ phase.held → t'.taken = t'.written ++ next.held) := by
  cases phase with
  | connecting | ponging =>
      simp only [wsLoop] at moved
      split at moved <;> cases moved <;>
        simp [queued, taken, written, record, WsLoop.held]
  | selecting =>
      simp only [wsLoop] at moved
      split at moved
      case h_8 =>
        split at moved
        · rename_i message rest waiting
          cases moved
          simp [queued, taken, written, record, WsLoop.held, waiting]
        · split at moved <;> cases moved
          exact ⟨rfl, rfl, id⟩
      all_goals
        cases moved
        try exact ⟨rfl, rfl, id⟩
  | forwarding message =>
      simp only [wsLoop] at moved
      repeat' split at moved
      all_goals
        cases moved
        try simp [queued, taken, written, record, WsLoop.held]
  | writing message =>
      simp only [wsLoop] at moved
      split at moved
      · cases moved
        simp [queued, taken, written, record, WsLoop.held]
      · exact absurd rfl (succeeds message rfl)
      · cases moved
  | returned ok =>
      cases moved
      cases ok <;> exact ⟨rfl, rfl, id⟩
  | sleeping =>
      cases moved
      simp [queued, taken, written, record, WsLoop.held]

theorem Transport.turn_kept {task : TransportTask} {new : List TransportTask}
    (moved : t.turn choice task = some (t', new)) (other : task.loop? = none) :
    new = [] ∧ t'.taken = t.taken ∧ t'.written = t.written ∧
      (t.queued = t.taken ++ t.outbound → t'.queued = t'.taken ++ t'.outbound) := by
  cases task with
  | wsLoop phase => cases other
  | sends message =>
      simp only [turn] at moved
      split at moved <;> cases moved
      refine ⟨rfl, by simp [taken, record], by simp [written, record], ?_⟩
      intro holds
      simp only [queued, taken] at holds
      simp [queued, taken, record, holds]
  | receives =>
      simp only [turn] at moved
      split at moved <;> cases moved
      exact ⟨rfl, rfl, rfl, id⟩
  | dropsSenders | dropsReceiver =>
      cases moved
      exact ⟨rfl, rfl, rfl, id⟩

/-- There is one loop, and what it holds is all that is taken and not yet written. -/
structure LoopKept (config : Config Transport TransportTask) : Prop where
  kept : MessagesKept config
  one : ∃ phase, config.tasks.filterMap TransportTask.loop? = [phase]

theorem held_of_loops (tasks : List TransportTask) :
    tasks.flatMap TransportTask.held =
      (tasks.filterMap TransportTask.loop?).flatMap WsLoop.held := by
  induction tasks with
  | nil => rfl
  | cons task tasks ih =>
      cases task <;> simp [TransportTask.held, TransportTask.loop?, List.filterMap_cons, ih]

theorem TransportTask.loop?_request {task : TransportTask} (request : task.request = true) :
    task.loop? = none := by
  cases task <;> first | rfl | cases request

/-- The loop that moves is the only one, and goes on as the only one. -/
theorem loop_moved {t t' : Transport} {before after new : List TransportTask}
    {task : TransportTask} {own phase : WsLoop} {choice : TransportChoice}
    (loop : task.loop? = some own)
    (one : selected TransportTask.loop? (before ++ task :: after) = [phase])
    (moved : t.turn choice task = some (t', new)) :
    task = .wsLoop phase ∧ ∃ next, t.wsLoop choice phase = some (t', next) ∧
      selected TransportTask.loop? (before ++ new ++ after) = [next] := by
  obtain rfl : task = .wsLoop own := by
    cases task <;> cases loop
    rfl
  obtain ⟨⟨t', next⟩, stepped, same⟩ := Option.map_eq_some_iff.mp moved
  cases same
  obtain ⟨rfl, none, last⟩ := lone_task TransportTask.loop? loop one
  exact ⟨rfl, next, stepped, by simp [TransportTask.loop?, none, last]⟩

theorem loopKept_reached {config : Config Transport TransportTask}
    (reached : Reach transportProgram writesSucceed transportStart config) : LoopKept config := by
  refine reached.invariant LoopKept ⟨⟨rfl, rfl⟩, .connecting, rfl⟩ ?_ ?_
  · rintro t tasks task ⟨⟨queued, taken⟩, one⟩ request
    have other := TransportTask.loop?_request request
    refine ⟨⟨queued, ?_⟩, by simpa [other] using one⟩
    simpa [TransportTask.held, other] using taken
  · rintro t t' before after new task choice ⟨⟨queued, taken⟩, phase, one⟩ succeeds moved
    rw [held_of_loops, one] at taken
    cases loop : task.loop? with
    | none =>
        obtain ⟨rfl, sameTaken, sameWritten, more⟩ := Transport.turn_kept moved loop
        have loops : (before ++ [] ++ after).filterMap TransportTask.loop? = [phase] := by
          simpa [loop] using one
        refine ⟨⟨more queued, ?_⟩, phase, loops⟩
        rw [held_of_loops, loops]
        simpa only [sameTaken, sameWritten] using taken
    | some own =>
        obtain ⟨rfl, next, stepped, loops⟩ := loop_moved loop one moved
        obtain ⟨sameQueued, moreTaken, held⟩ := Transport.wsLoop_kept stepped (by
          rintro message rfl
          exact succeeds)
        refine ⟨⟨by rw [sameQueued, moreTaken, queued], ?_⟩, next, loops⟩
        rw [held_of_loops, show List.filterMap _ _ = [next] from loops]
        simpa using held (by simpa using taken)

/-! ## Messages -/

theorem messages_kept {config : Config Transport TransportTask}
    (reached : Reach transportProgram writesSucceed transportStart config) : MessagesKept config :=
  (loopKept_reached reached).kept

/-- A completion is queued, the first connection breaks before it is taken, and the next one
carries it. -/
def carriedOver : List (Label TransportTask TransportChoice) :=
  [.run 0 .proceeds, .arrive (.sends (.jobCompleted (Uuid.small 9) 0)), .run 1 .proceeds,
    .run 0 (.reads .error), .run 0 .proceeds, .run 0 .proceeds, .run 0 .proceeds, .run 0 .takes,
    .run 0 .proceeds]

/-- The write of a completion fails. -/
def writeFails : List (Label TransportTask TransportChoice) :=
  [.run 0 .proceeds, .arrive (.sends (.jobCompleted (Uuid.small 9) 0)), .run 1 .proceeds,
    .run 0 .takes, .run 0 .fails]

theorem messages_kept_carried : ∃ config,
    Reach transportProgram writesSucceed transportStart config ∧
      config.shared.written = [.jobCompleted (Uuid.small 9) 0] ∧ MessagesKept config := by
  obtain ⟨config, reached, seen⟩ := Reach.of_observed transportProgram writesSucceed transportStart
    carriedOver (fun config => config.shared.written) [.jobCompleted (Uuid.small 9) 0]
    (by decide +kernel)
  exact ⟨config, reached, seen, messages_kept reached⟩

theorem message_dropped : ¬ ∀ config,
    Reach transportProgram Guard.any transportStart config → MessagesKept config := by
  intro kept
  obtain ⟨config, reached, seen⟩ := Reach.of_observed transportProgram Guard.any transportStart
    writeFails (fun config => (config.shared.taken, config.shared.written, config.tasks))
    ([.jobCompleted (Uuid.small 9) 0], [], [.wsLoop (.returned false)]) (by decide +kernel)
  simp only [Prod.mk.injEq] at seen
  obtain ⟨taken, written, tasks⟩ := seen
  have all := (kept config reached).taken
  simp [taken, written, tasks, TransportTask.held, TransportTask.loop?, WsLoop.held] at all

end OsfmEdm
