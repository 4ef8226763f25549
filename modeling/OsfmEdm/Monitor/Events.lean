import OsfmEdm.Monitor.Step

/-!
Every event is stored once and in order as long as no flush finds more events than the server
takes from one message.
-/

namespace OsfmEdm

open Interleaving

/-- The events of a device in `kernel_events`. -/
def Database.eventsOf (db : Database) (device : Uuid) : List SystemEvent :=
  (db.kernelEvents.filter fun row => row.deviceId = device).map (·.payload)

def Collector.batch : Collector → List SystemEvent
  | .selecting batch => batch
  | _ => []

def Collector.flushing? : Collector → List (List SystemEvent)
  | .flushing events _ => [events]
  | _ => []

def Forwarder.sending? : Forwarder → List (List SystemEvent)
  | .sending events => [events]
  | _ => []

namespace Monitor

/-- The batches between the collector and the server. -/
def transit (m : Monitor) : List (List SystemEvent) :=
  m.outbound.flatMap AgentMessage.batches ++
    (m.forwarder.sending? ++ (m.batches ++ m.collector.flushing?))

/-- The events that are neither stored nor discarded, in their order. -/
def pending (m : Monitor) : List SystemEvent :=
  m.hub.flatMap Action.events ++ (m.transit.flatten ++ (m.collector.batch ++ m.events))

end Monitor

/-- What arrived is stored or on its way, once and in order, and no batch was too large. -/
structure StoredOnce (device : Uuid) (first : AppState) (m : Monitor) : Prop where
  inOrder : m.state.db.eventsOf device ++ m.pending = first.db.eventsOf device ++ m.arrived
  bounded : ∀ batch ∈ m.flushed, batch.length ≤ MAX_EVENTS_PER_BATCH

/-- A flush finds no more events than the server takes from one message. -/
def flushesFit : Guard Monitor Unit MonitorChoice := fun m _ _ choice =>
  match m.collector, choice with
  | .selecting batch, .collects tick =>
      tick = true ∨ m.events = [] → batch.length ≤ MAX_EVENTS_PER_BATCH
  | _, _ => True

/-! ## The server's rows -/

section

variable {device other : Uuid} {state : AppState} {fails : Bool} {action : Action}

/-- The rows an action adds to `kernel_events`. -/
def Action.eventRows (device : Uuid) (db : Database) : Action → List KernelEventRow
  | .insertEvent event =>
      [{ deviceId := device, time := db.now, eventType := Database.eventType event,
         payload := event }]
  | _ => []

theorem kernelEvents_apply : (action.apply device state).db.kernelEvents =
    state.db.kernelEvents ++ action.eventRows device state.db := by
  cases action with
  | insertEvent event => rfl
  | insertJobLog job line stream =>
      simp only [Action.apply, Database.insertJobLog, Action.eventRows, List.append_nil]
      split <;> rfl
  | upsertReport report =>
      simp only [Action.apply, Database.upsertReport, Action.eventRows, List.append_nil]
      split <;> rfl
  | persistInventory software patches =>
      simp only [Action.apply, Action.eventRows, List.append_nil]
      split
      · rename_i db stored
        obtain ⟨_, _, rfl⟩ := Database.persistInventory_frame stored
        rfl
      · rfl
  | relay event =>
      simp only [Action.apply, Action.eventRows, List.append_nil]
      split <;> rfl
  | _ => exact (List.append_nil _).symm

theorem eventsOf_apply : (action.apply device state).db.eventsOf device =
    state.db.eventsOf device ++ action.events := by
  have rows : ((action.eventRows device state.db).filter fun row => row.deviceId = device).map
      (·.payload) = action.events := by
    cases action <;> simp [Action.eventRows, Action.events]
  rw [Database.eventsOf, kernelEvents_apply, List.filter_append, List.map_append, rows]
  rfl

theorem eventsOf_perform (stored : action.events = [] ∨ fails = false) :
    (action.perform device state fails).db.eventsOf device =
      state.db.eventsOf device ++ action.events := by
  unfold Action.perform
  split
  next failed =>
    rcases stored with none | succeeds
    · rw [none, List.append_nil]
    · simp [succeeds] at failed
  next => exact eventsOf_apply

theorem eventsOf_elsewhere (apart : other ≠ device) :
    (action.perform other state fails).db.eventsOf device = state.db.eventsOf device := by
  unfold Action.perform
  split
  · rfl
  · have rows : (action.eventRows other state.db).filter (fun row => row.deviceId = device) = [] := by
      cases action <;> simp [Action.eventRows, apart]
    rw [Database.eventsOf, kernelEvents_apply, List.filter_append, rows, List.append_nil]
    rfl

theorem follow_events : (action.follow device state fails).flatMap Action.events = [] := by
  cases action with
  | selectAlertRules | selectLatestMetrics =>
      simp only [Action.follow]
      split
      · rfl
      · split
        · rfl
        · simp [Action.events, List.flatMap_map]
  | selectOpenAlert rule =>
      simp only [Action.follow]
      split <;> rfl
  | _ => rfl

theorem processAgentMessage_events (message : AgentMessage) :
    (processAgentMessage message).flatMap Action.events =
      message.batches.flatMap (List.take MAX_EVENTS_PER_BATCH) := by
  cases message with
  | systemEventBatch events =>
      simp only [processAgentMessage, AgentMessage.batches, List.flatMap_map, Action.events,
        List.flatMap_singleton, List.flatMap_singleton']
  | complianceReport reports =>
      simp [processAgentMessage, AgentMessage.batches, List.flatMap_map, Action.events]
  | _ => rfl

end

/-! ## What is on its way -/

structure Piped (device : Uuid) (first : AppState) (m : Monitor) : Prop where
  stored : m.state.db.eventsOf device ++ m.hub.flatMap Action.events =
    first.db.eventsOf device ++ m.delivered.flatMap (List.take MAX_EVENTS_PER_BATCH)
  sent : m.delivered ++ m.transit = m.flushed
  collected : m.flushed.flatten ++ (m.collector.batch ++ m.events) = m.arrived
  filled : ∀ batch ∈ m.flushed, batch ≠ []

variable {device : Uuid} {first : AppState} {m m' : Monitor}

namespace Piped

theorem flush {batch : List SystemEvent} {last : Bool} (piped : Piped device first m)
    (selecting : m.collector = .selecting batch) (some : batch ≠ []) :
    Piped device first (m.flush batch last) := by
  refine ⟨piped.stored, ?_, ?_, ?_⟩
  · have sent := piped.sent
    simp only [Monitor.transit, selecting, Collector.flushing?, List.append_nil] at sent
    simp [Monitor.transit, Monitor.flush, Collector.flushing?, ← sent]
  · have collected := piped.collected
    simp only [selecting, Collector.batch] at collected
    simp [Monitor.flush, Collector.batch, ← collected]
  · intro other member
    rcases List.mem_append.mp member with old | new
    · exact piped.filled other old
    · rw [List.mem_singleton.mp new]
      exact some

theorem collect {tick : Bool} (piped : Piped device first m) (moved : m.collect tick = some m') :
    Piped device first m' := by
  obtain ⟨stored, sent, collected, filled⟩ := piped
  unfold Monitor.collect at moved
  split at moved
  · rename_i batch selecting
    split at moved
    · split at moved
      · cases moved
        exact ⟨stored, sent, collected, filled⟩
      · rename_i some
        cases moved
        exact flush ⟨stored, sent, collected, filled⟩ selecting some
    · split at moved
      · rename_i event rest waiting
        cases moved
        simp only [Monitor.transit, selecting, Collector.flushing?, Collector.batch, waiting]
          at sent collected
        exact ⟨stored, by simpa [Monitor.transit, Collector.flushing?] using sent,
          by simpa [Collector.batch] using collected, filled⟩
      · split at moved
        · cases moved
        split at moved
        · rename_i empty
          cases moved
          simp only [Monitor.transit, selecting, Collector.flushing?, Collector.batch, empty]
            at sent collected
          exact ⟨stored, sent, collected, filled⟩
        · rename_i some
          cases moved
          exact flush ⟨stored, sent, collected, filled⟩ selecting some
  · rename_i events last flushing
    split at moved
    · cases moved
      simp only [Monitor.transit, flushing, Collector.flushing?, Collector.batch] at sent collected
      refine ⟨stored, ?_, ?_, filled⟩
      · cases last <;> simpa [Monitor.transit, Collector.flushing?] using sent
      · cases last <;> simpa [Collector.batch] using collected
    · cases moved
  · cases moved

theorem forward (piped : Piped device first m) (moved : m.forward = some m') :
    Piped device first m' := by
  obtain ⟨stored, sent, collected, filled⟩ := piped
  unfold Monitor.forward at moved
  split at moved
  · rename_i receiving
    split at moved
    · rename_i events rest waiting
      cases moved
      have some : events ≠ [] := filled events (by simp [← sent, Monitor.transit, waiting])
      simp only [Monitor.transit, receiving, Forwarder.sending?, waiting] at sent
      refine ⟨stored, ?_, collected, filled⟩
      simpa [Monitor.transit, some, Forwarder.sending?] using sent
    · split at moved
      · cases moved
        simp only [Monitor.transit, receiving, Forwarder.sending?] at sent
        exact ⟨stored, sent, collected, filled⟩
      · cases moved
  · rename_i events sending
    split at moved
    · cases moved
      simp only [Monitor.transit, sending, Forwarder.sending?] at sent
      refine ⟨stored, ?_, collected, filled⟩
      simpa [Monitor.transit, AgentMessage.batches, Forwarder.sending?] using sent
    · cases moved
  · cases moved

theorem read {fails : Bool} (piped : Piped device first m) (moved : m.read device fails = some m') :
    Piped device first m' := by
  obtain ⟨stored, sent, collected, filled⟩ := piped
  unfold Monitor.read at moved
  split at moved
  · rename_i idle
    split at moved
    · rename_i message rest waiting
      cases moved
      refine ⟨?_, ?_, collected, filled⟩
      · simp only [idle, List.flatMap_nil, List.append_nil] at stored
        simp [processAgentMessage_events, stored]
      · simp only [Monitor.transit, waiting, List.flatMap_cons] at sent
        simpa [Monitor.transit] using sent
    · cases moved
  · rename_i action rest todo
    split at moved
    · cases moved
    · rename_i succeeds
      cases moved
      refine ⟨?_, sent, collected, filled⟩
      simp only [todo, List.flatMap_cons] at stored
      have kept : action.events = [] ∨ fails = false := by
        by_cases failed : fails = true
        · exact .inl (by simpa [failed] using succeeds)
        · exact .inr (by simpa using failed)
      simp only [eventsOf_perform kept, List.flatMap_append, follow_events, List.nil_append]
      rw [List.append_assoc, stored]

end Piped

theorem piped_reached {config : Config Monitor Unit} {guard : Guard Monitor Unit MonitorChoice}
    (reached : Reach (monitorProgram device) guard (.single (monitorStart first)) config) :
    Piped device first config.shared := by
  refine reached.single_invariant (Piped device first) ?_ ?_
  · exact ⟨rfl, rfl, rfl, by simp [monitorStart]⟩
  · intro m m' choice piped _ moved
    cases choice with
    | produces event =>
        simp only [Monitor.move] at moved
        split at moved
        · cases moved
          refine ⟨piped.stored, piped.sent, ?_, piped.filled⟩
          simp [← piped.collected]
        · cases moved
    | producersExit =>
        cases moved
        exact ⟨piped.stored, piped.sent, piped.collected, piped.filled⟩
    | collects tick => exact piped.collect moved
    | forwards => exact piped.forward moved
    | sends message =>
        simp only [Monitor.move] at moved
        split at moved
        · rename_i admitted
          cases moved
          have none : message.batches = [] := by
            simp only [Bool.and_eq_true, decide_eq_true_eq] at admitted
            exact admitted.1
          refine ⟨piped.stored, ?_, piped.collected, piped.filled⟩
          simpa [Monitor.transit, none] using piped.sent
        · cases moved
    | hub fails => exact piped.read moved
    | elsewhere other action fails =>
        simp only [Monitor.move] at moved
        split at moved
        · cases moved
        · rename_i apart
          cases moved
          exact ⟨by simpa only [eventsOf_elsewhere apart] using piped.stored, piped.sent,
            piped.collected, piped.filled⟩

/-! ## Events -/

theorem flatMap_take_eq_flatten {α : Type} (bound : Nat) (batches : List (List α)) :
    batches.flatMap (List.take bound) = batches.flatten ↔
      ∀ batch ∈ batches, batch.length ≤ bound := by
  have shorter : ∀ rest : List (List α),
      (rest.flatMap (List.take bound)).length ≤ rest.flatten.length := by
    intro rest
    induction rest with
    | nil => simp
    | cons batch rest ih =>
        simp only [List.flatMap_cons, List.flatten_cons, List.length_append, List.length_take]
        omega
  induction batches with
  | nil => simp
  | cons batch rest ih =>
      simp only [List.flatMap_cons, List.flatten_cons, List.forall_mem_cons]
      constructor
      · intro same
        have lengths := congrArg List.length same
        have rest := shorter rest
        simp only [List.length_append, List.length_take] at lengths
        have fits : batch.length ≤ bound := by omega
        rw [List.take_of_length_le fits, List.append_cancel_left_eq] at same
        exact ⟨fits, ih.mp same⟩
      · rintro ⟨fits, others⟩
        rw [List.take_of_length_le fits, ih.mpr others]

theorem Piped.inOrder_iff (piped : Piped device first m) :
    m.state.db.eventsOf device ++ m.pending = first.db.eventsOf device ++ m.arrived ↔
      ∀ batch ∈ m.delivered, batch.length ≤ MAX_EVENTS_PER_BATCH := by
  rw [← flatMap_take_eq_flatten, ← piped.collected, ← piped.sent, Monitor.pending,
    ← List.append_assoc, piped.stored, List.flatten_append, List.append_assoc, List.append_assoc,
    List.append_cancel_left_eq, List.append_cancel_right_eq]

/-- What is flushed is the batch, at a tick or at the end of the producers. -/
theorem move_flushed {choice : MonitorChoice} (moved : m.move device choice = some m') :
    m'.flushed = m.flushed ∨ ∃ batch tick, choice = .collects tick ∧
      m.collector = .selecting batch ∧ (tick = true ∨ m.events = []) ∧
        m'.flushed = m.flushed ++ [batch] := by
  cases choice with
  | collects tick =>
      simp only [Monitor.move, Monitor.collect] at moved
      split at moved
      · rename_i batch selecting
        split at moved
        next ticks =>
          split at moved <;> cases moved
          · exact .inl rfl
          · exact .inr ⟨batch, tick, rfl, selecting, .inl ticks, rfl⟩
        next =>
          split at moved
          · cases moved
            exact .inl rfl
          · rename_i drained
            repeat' split at moved
            all_goals cases moved
            · exact .inl rfl
            · exact .inr ⟨batch, tick, rfl, selecting, .inr drained, rfl⟩
      · split at moved <;> cases moved
        exact .inl rfl
      · cases moved
  | forwards =>
      simp only [Monitor.move, Monitor.forward] at moved
      repeat' split at moved
      all_goals
        cases moved
        try exact .inl rfl
  | hub fails =>
      simp only [Monitor.move, Monitor.read] at moved
      repeat' split at moved
      all_goals
        cases moved
        try exact .inl rfl
  | producersExit =>
      cases moved
      exact .inl rfl
  | produces | sends | elsewhere =>
      simp only [Monitor.move] at moved
      split at moved <;> cases moved
      exact .inl rfl

theorem flushed_fit {config : Config Monitor Unit}
    (reached : Reach (monitorProgram device) flushesFit (.single (monitorStart first)) config) :
    ∀ batch ∈ config.shared.flushed, batch.length ≤ MAX_EVENTS_PER_BATCH := by
  refine reached.single_invariant
    (fun m => ∀ batch ∈ m.flushed, batch.length ≤ MAX_EVENTS_PER_BATCH) ?_ ?_
  · simp [monitorStart]
  · intro m m' choice fit meets moved
    rcases move_flushed moved with same | ⟨batch, tick, rfl, selecting, due, more⟩
    · rw [same]
      exact fit
    · rw [more]
      intro other member
      rcases List.mem_append.mp member with old | new
      · exact fit other old
      · rw [List.mem_singleton.mp new]
        simp only [flushesFit, selecting] at meets
        exact meets due

/-- The events are stored once and in order in every run whose flushes fit; in any run, as long as
no batch that was delivered is larger. -/
theorem events_stored_iff (device : Uuid) (first : AppState) :
    (∀ config, Reach (monitorProgram device) flushesFit (.single (monitorStart first)) config →
      StoredOnce device first config.shared) ∧
    ∀ config, Reach (monitorProgram device) Guard.any (.single (monitorStart first)) config →
      (config.shared.state.db.eventsOf device ++ config.shared.pending =
        first.db.eventsOf device ++ config.shared.arrived ↔
          ∀ batch ∈ config.shared.delivered, batch.length ≤ MAX_EVENTS_PER_BATCH) := by
  constructor
  · intro config reached
    have piped := piped_reached reached
    have fit := flushed_fit reached
    refine ⟨piped.inOrder_iff.mpr fun batch member => fit batch ?_, fit⟩
    rw [← piped.sent]
    exact List.mem_append_left _ member
  · intro config reached
    exact (piped_reached reached).inOrder_iff

/-! ## A batch that is too large -/

/-- The collector has received these events since its last flush. -/
theorem collected_reached (device : Uuid) (first : AppState) (batch : List SystemEvent) :
    Reach (monitorProgram device) Guard.any (.single (monitorStart first))
      (.single { monitorStart first with collector := .selecting batch, arrived := batch }) := by
  induction batch using List.reverseRecOn with
  | nil => exact .start
  | append_singleton batch event ih =>
      have queued : Reach (monitorProgram device) Guard.any (.single (monitorStart first))
          (.single { monitorStart first with
            collector := .selecting batch, events := [event], arrived := batch ++ [event] }) :=
        ih.single_move (.produces event) trivial rfl
      exact queued.single_move (.collects false) trivial rfl

/-- The batch goes out with the next tick, and the server takes it as one message. -/
theorem delivered_reached (device : Uuid) (first : AppState) {batch : List SystemEvent}
    (some : batch ≠ []) : ∃ config, Reach (monitorProgram device) Guard.any
      (.single (monitorStart first)) config ∧ config.shared.delivered = [batch] := by
  let flushed : Monitor := { monitorStart first with flushed := [batch], arrived := batch }
  have flushing : Reach (monitorProgram device) Guard.any (.single (monitorStart first))
      (.single { flushed with collector := .flushing batch false }) :=
    (collected_reached device first batch).single_move (.collects true) trivial (by
      simp [Monitor.move, Monitor.collect, some, Monitor.flush, flushed, monitorStart])
  have handed : Reach (monitorProgram device) Guard.any (.single (monitorStart first))
      (.single { flushed with batches := [batch] }) :=
    flushing.single_move (.collects true) trivial rfl
  have sending : Reach (monitorProgram device) Guard.any (.single (monitorStart first))
      (.single { flushed with forwarder := .sending batch }) :=
    handed.single_move .forwards trivial (by
      simp [Monitor.move, Monitor.forward, some, flushed, monitorStart])
  have sent : Reach (monitorProgram device) Guard.any (.single (monitorStart first))
      (.single { flushed with outbound := [.systemEventBatch batch] }) :=
    sending.single_move .forwards trivial rfl
  have taken : Reach (monitorProgram device) Guard.any (.single (monitorStart first))
      (.single { flushed with
        hub := processAgentMessage (.systemEventBatch batch), delivered := [batch] }) :=
    sent.single_move (.hub false) trivial rfl
  exact ⟨_, taken, rfl⟩

/-- Between two flushes 1001 processes exit. -/
theorem event_lost : ¬ ∀ device first config,
    Reach (monitorProgram device) Guard.any (.single (monitorStart first)) config →
      StoredOnce device first config.shared := by
  intro stored
  let batch : List SystemEvent := List.replicate 1001 (.processExited 7 0 0)
  have large : batch.length = 1001 := List.length_replicate
  have some : batch ≠ [] := by
    intro empty
    simp [empty] at large
  obtain ⟨config, reached, delivered⟩ :=
    delivered_reached (Uuid.small 1) (.ofDatabase (.ofDevices .empty)) some
  have fits := (piped_reached reached).inOrder_iff.mp (stored _ _ _ reached).inOrder batch
    (by simp [delivered])
  rw [large] at fits
  exact absurd fits (by decide)

end OsfmEdm
