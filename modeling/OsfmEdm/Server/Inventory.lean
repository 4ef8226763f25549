import OsfmEdm.Server.Isolation

/-!
What the inventory reports of a device make of its rows (`persist_inventory`).
-/

namespace OsfmEdm

/-! ## Software -/

namespace Database

/-- The names a device has in `installed_software`, with their rows. -/
def softwareOf (db : Database) (device : Uuid) : List (String × SoftwareRow) :=
  (db.installedSoftware.rows.filter fun row => row.1.1 = device).map fun row => (row.1.2, row.2)

/-- No item can be stored: its date is bound as text, even where it has none. -/
theorem insertSoftware_refused (db : Database) (device : Uuid) (item : SoftwareItem) :
    db.insertSoftware device item = none := by
  simp [insertSoftware, ColumnType.takesText]

theorem persistInventory_nil (db : Database) (device : Uuid) (patches : List PatchItem) :
    db.persistInventory device [] patches =
      some (patches.foldl (fun db patch => db.upsertPatch device patch)
        { db with installedSoftware := db.installedSoftware.keep fun key _ => key.1 ≠ device }) :=
  rfl

theorem persistInventory_cons (db : Database) (device : Uuid) (item : SoftwareItem)
    (software : List SoftwareItem) (patches : List PatchItem) :
    db.persistInventory device (item :: software) patches = none := by
  simp [persistInventory, insertSoftware_refused]

end Database

def SoftwareItem.row (item : SoftwareItem) : String × SoftwareRow :=
  (item.name,
    { version := item.version, publisher := item.publisher, installDate := item.installDate })

/-- The report as the hub processes it; `fails` where the database fails a statement. -/
def inventoryStored (device : Uuid) (software : List SoftwareItem) (patches : List PatchItem)
    (fails : Bool) (state : AppState) : Database :=
  ((Action.persistInventory software patches).perform device state fails).db

theorem inventoryStored_eq (device : Uuid) (software : List SoftwareItem)
    (patches : List PatchItem) (fails : Bool) (state : AppState) :
    inventoryStored device software patches fails state =
      if fails then state.db
      else (state.db.persistInventory device software patches).getD state.db := by
  cases fails with
  | true => rfl
  | false =>
      rw [inventoryStored, Action.perform, Bool.false_and, if_neg Bool.false_ne_true, Action.apply]
      cases state.db.persistInventory device software patches <;> rfl

/-- The report replaces the rows of the device, or leaves both tables as they are. -/
structure ReplacesSoftware (device : Uuid) (software : List SoftwareItem)
    (patches : List PatchItem) : Prop where
  replaced : ∀ state, ((inventoryStored device software patches false state).softwareOf device).Perm
    (software.map SoftwareItem.row)
  kept : ∀ state fails,
    fails = true ∨ state.db.persistInventory device software patches = none →
      (inventoryStored device software patches fails state).installedSoftware =
          state.db.installedSoftware ∧
        (inventoryStored device software patches fails state).patches = state.db.patches
  others : ∀ state fails key, key.1 ≠ device →
    (inventoryStored device software patches fails state).installedSoftware.find? key =
        state.db.installedSoftware.find? key ∧
      (inventoryStored device software patches fails state).patches.find? key =
        state.db.patches.find? key

theorem inventory_others (device : Uuid) (software : List SoftwareItem) (patches : List PatchItem)
    (state : AppState) (fails : Bool) {key : Uuid × String} (other : key.1 ≠ device) :
    (inventoryStored device software patches fails state).installedSoftware.find? key =
        state.db.installedSoftware.find? key ∧
      (inventoryStored device software patches fails state).patches.find? key =
        state.db.patches.find? key := by
  rw [inventoryStored_eq]
  cases fails with
  | true => exact ⟨rfl, rfl⟩
  | false =>
      cases stored : state.db.persistInventory device software patches with
      | none => exact ⟨rfl, rfl⟩
      | some db =>
          have views := others_persistInventory device state software patches stored
          have softwareRows := congrFun (congrArg OthersView.installedSoftware views) key
          have patchRows := congrFun (congrArg OthersView.patches views) key
          simp only [AppState.others, if_neg other] at softwareRows patchRows
          exact ⟨softwareRows, patchRows⟩

theorem foldPatches_software (device : Uuid) (patches : List PatchItem) (db : Database) :
    (patches.foldl (fun db patch => db.upsertPatch device patch) db).installedSoftware =
      db.installedSoftware := by
  obtain ⟨stored, same⟩ := Database.foldPatches_frame device patches db
  rw [same]

theorem softwareOf_cleared (db : Database) (device : Uuid) :
    Database.softwareOf
      { db with installedSoftware := db.installedSoftware.keep fun key _ => key.1 ≠ device }
      device = [] := by
  simp [Database.softwareOf, Table.keep, List.filter_filter]

/-- A report replaces the software just when it has none: each statement that inserts an item is
refused, and with it the report. -/
theorem inventory_replaces (device : Uuid) (software : List SoftwareItem)
    (patches : List PatchItem) : ReplacesSoftware device software patches ↔ software = [] := by
  constructor
  · intro replaces
    cases software with
    | nil => rfl
    | cons item software =>
        have stored := replaces.replaced (.ofDatabase (.ofDevices .empty))
        rw [inventoryStored_eq, Database.persistInventory_cons] at stored
        exact absurd stored.length_eq (by simp [Database.softwareOf, AppState.ofDatabase,
          Database.ofDevices, Table.empty])
  · rintro rfl
    refine ⟨?_, ?_, ?_⟩
    · intro state
      rw [inventoryStored_eq, Database.persistInventory_nil]
      simp only [Bool.false_eq_true, if_false, Option.getD_some, Database.softwareOf,
        foldPatches_software]
      exact .of_eq (softwareOf_cleared state.db device)
    · rintro state fails (rfl | refused)
      · exact ⟨rfl, rfl⟩
      · cases refused
    · exact fun state fails key other => inventory_others device [] patches state fails other

/-- A package of `brew`, which has no date. -/
theorem inventory_refused :
    let item : SoftwareItem := ⟨"git", some "2.45.0", none, none⟩
    (Database.ofDevices .empty).persistInventory (.small 1) [item] [] = none ∧
      ¬ ReplacesSoftware (.small 1) [item] [] := by
  intro item
  refine ⟨Database.persistInventory_cons .., fun replaces => ?_⟩
  have stored := replaces.replaced (.ofDatabase (.ofDevices .empty))
  rw [inventoryStored_eq, Database.persistInventory_cons] at stored
  exact absurd stored.length_eq (by decide)

/-! ## Patches -/

def PatchItem.row (patch : PatchItem) : PatchRow where
  title := patch.title
  severity := Database.coerceSeverity patch.severity
  status := Database.coerceStatus patch.status

/-- The last item for a patch. -/
def lastReported (patches : List PatchItem) (id : String) : Option PatchItem :=
  patches.reverse.find? (·.patchId = id)

theorem lastReported_isSome {patches : List PatchItem} {id : String} :
    (lastReported patches id).isSome = true ↔ id ∈ patches.map PatchItem.patchId := by
  simp [lastReported, List.find?_isSome]

theorem upsertPatches_eq (device : Uuid) (patches : List PatchItem) (db : Database) :
    (patches.foldl (fun db patch => db.upsertPatch device patch) db).patches =
      db.patches.putAll (patches.map fun patch => ((device, patch.patchId), patch.row)) := by
  induction patches generalizing db with
  | nil => rfl
  | cons patch patches ih => exact ih _

theorem find?_upsertPatches (device : Uuid) (patches : List PatchItem) (db : Database)
    (id : String) :
    (patches.foldl (fun db patch => db.upsertPatch device patch) db).patches.find? (device, id) =
      ((lastReported patches id).map PatchItem.row).or (db.patches.find? (device, id)) := by
  have named : (fun entry : (Uuid × String) × PatchRow => decide (entry.1 = (device, id))) ∘
      (fun patch : PatchItem => ((device, patch.patchId), patch.row)) =
        fun patch => decide (patch.patchId = id) := by
    funext patch
    simp
  rw [upsertPatches_eq, Table.find?_putAll, ← List.map_reverse, List.find?_map, named,
    Option.map_map]
  rfl

namespace Database

/-- The patches that count as pending for a device. -/
def pending (db : Database) (device : Uuid) (id : String) : Prop :=
  ∃ row, db.patches.find? (device, id) = some row ∧ row.status = "pending"

end Database

/-- The report has the patch, by its last item, with a status other than installed or failed. -/
def reportedPending (patches : List PatchItem) (id : String) : Prop :=
  ∃ patch, lastReported patches id = some patch ∧ patch.status ≠ "installed" ∧
    patch.status ≠ "failed"

theorem coerceStatus_eq_pending (status : String) :
    Database.coerceStatus status = "pending" ↔ status ≠ "installed" ∧ status ≠ "failed" := by
  unfold Database.coerceStatus
  split
  · simp
  · simp
  · rename_i installed failed
    exact iff_of_true rfl ⟨installed, failed⟩

theorem find?_persistInventory {db stored : Database} {device : Uuid}
    {software : List SoftwareItem} {patches : List PatchItem}
    (done : db.persistInventory device software patches = some stored) (id : String) :
    stored.patches.find? (device, id) =
      ((lastReported patches id).map PatchItem.row).or (db.patches.find? (device, id)) := by
  simp only [Database.persistInventory, Option.bind_eq_bind, Option.bind_eq_some_iff] at done
  obtain ⟨middle, first, committed⟩ := done
  obtain ⟨installedSoftware, rfl⟩ := Database.foldSoftware_frame software first
  cases committed
  exact find?_upsertPatches device patches _ id

/-! ## Runs of the hub -/

/-- An action for a device, done or failed. -/
structure HubStep where
  device : Uuid
  action : Action
  fails : Bool

namespace HubStep

def next (state : AppState) (step : HubStep) : AppState :=
  step.action.perform step.device state step.fails

/-- The patches of a report of the device that is committed. -/
def commits (device : Uuid) (state : AppState) (step : HubStep) : Option (List PatchItem) :=
  match step.action with
  | .persistInventory software patches =>
      if step.device = device ∧ step.fails = false ∧
          (state.db.persistInventory device software patches).isSome then some patches
      else none
  | _ => none

/-- A report that is committed mentions every patch that is pending. -/
def covers (device : Uuid) (state : AppState) (step : HubStep) : Prop :=
  ∀ patches, step.commits device state = some patches →
    ∀ id, state.db.pending device id → id ∈ patches.map PatchItem.patchId

theorem patches_of_other {state : AppState} {step : HubStep}
    (other : ∀ software patches, step.action ≠ .persistInventory software patches) :
    (step.next state).db.patches = state.db.patches := by
  obtain ⟨device, action, fails⟩ := step
  simp only [next, Action.perform]
  split
  · rfl
  · cases action with
    | persistInventory software patches => exact absurd rfl (other software patches)
    | insertJobLog | upsertReport =>
        simp only [Action.apply, Database.insertJobLog, Database.upsertReport]
        split <;> rfl
    | relay event =>
        simp only [Action.apply]
        split <;> rfl
    | _ => rfl

theorem find?_of_uncommitted {device : Uuid} {state : AppState} {step : HubStep}
    (none : step.commits device state = none) (id : String) :
    (step.next state).db.patches.find? (device, id) = state.db.patches.find? (device, id) := by
  by_cases report : ∃ software patches, step.action = .persistInventory software patches
  · obtain ⟨reporter, action, fails⟩ := step
    obtain ⟨software, patches, rfl⟩ := report
    by_cases own : device = reporter
    · subst own
      change (inventoryStored device software patches fails state).patches.find? _ = _
      rw [inventoryStored_eq]
      cases fails with
      | true => rfl
      | false =>
          simp only [commits, true_and] at none
          cases stored : state.db.persistInventory device software patches with
          | none => rfl
          | some db => simp [stored] at none
    · exact (inventory_others reporter software patches state fails own).2
  · rw [patches_of_other fun software patches same => report ⟨software, patches, same⟩]

theorem find?_of_committed {device : Uuid} {state : AppState} {step : HubStep}
    {patches : List PatchItem} (committed : step.commits device state = some patches)
    (id : String) :
    (step.next state).db.patches.find? (device, id) =
      ((lastReported patches id).map PatchItem.row).or (state.db.patches.find? (device, id)) := by
  obtain ⟨reporter, action, fails⟩ := step
  cases action with
  | persistInventory software reported =>
      simp only [commits, Option.ite_none_right_eq_some, Option.some.injEq] at committed
      obtain ⟨⟨rfl, rfl, stored⟩, rfl⟩ := committed
      obtain ⟨db, done⟩ := Option.isSome_iff_exists.mp stored
      change (inventoryStored reporter software reported false state).patches.find? _ = _
      rw [inventoryStored_eq, done]
      exact find?_persistInventory done id
  | _ => cases committed

/-- What is pending after a committed report: what it has so, and what it does not mention. -/
theorem pending_of_committed {device : Uuid} {state : AppState} {step : HubStep}
    {patches : List PatchItem} (committed : step.commits device state = some patches)
    (id : String) :
    (step.next state).db.pending device id ↔
      reportedPending patches id ∨
        (id ∉ patches.map PatchItem.patchId ∧ state.db.pending device id) := by
  rw [Database.pending, find?_of_committed committed, ← lastReported_isSome, reportedPending]
  cases lastReported patches id with
  | none => simp [Database.pending]
  | some patch => simp [PatchItem.row, coerceStatus_eq_pending]

/-- The condition is exact for one report. -/
theorem covers_iff {device : Uuid} {state : AppState} {step : HubStep} {patches : List PatchItem}
    (committed : step.commits device state = some patches) :
    step.covers device state ↔
      ∀ id, (step.next state).db.pending device id ↔ reportedPending patches id := by
  simp only [pending_of_committed committed, covers, committed, Option.some.injEq, forall_eq']
  refine forall_congr' fun id => ?_
  constructor
  · intro covered
    exact or_iff_left fun left => left.1 (covered left.2)
  · intro same waiting
    by_contra missing
    obtain ⟨patch, last, -⟩ := same.mp (.inr ⟨missing, waiting⟩)
    exact missing (lastReported_isSome.mp (last ▸ rfl))

end HubStep

/-- The states of runs in which every committed report of the device covers what is pending, each
with the patches of the last one. -/
inductive InventoryRun (device : Uuid) : AppState → Option (List PatchItem) → Prop where
  | start (state : AppState) : InventoryRun device state none
  | step {state : AppState} {last : Option (List PatchItem)} {step : HubStep}
      (before : InventoryRun device state last) (covered : step.covers device state) :
      InventoryRun device (step.next state) ((step.commits device state).or last)

/-- From one report to the next the patches of the device are the ones of the last report. -/
theorem pending_reported {device : Uuid} {state : AppState} {patches : List PatchItem}
    (run : InventoryRun device state (some patches)) :
    (∀ id, state.db.pending device id ↔ reportedPending patches id) ∧
      ∀ id patch, lastReported patches id = some patch →
        state.db.patches.find? (device, id) = some patch.row := by
  generalize known : some patches = last at run
  induction run generalizing patches with
  | start => cases known
  | step before covered ih =>
      rename_i earlier last step
      cases commits : step.commits device earlier with
      | some reported =>
          rw [commits, Option.some_or, Option.some.injEq] at known
          subst known
          refine ⟨(HubStep.covers_iff commits).mp covered, fun id patch reportedLast => ?_⟩
          rw [HubStep.find?_of_committed commits, reportedLast]
          rfl
      | none =>
          rw [commits, Option.none_or] at known
          obtain ⟨pending, rows⟩ := ih known
          simp only [Database.pending, HubStep.find?_of_uncommitted commits] at pending ⊢
          exact ⟨pending, rows⟩

def openssl (status : String) : PatchItem := ⟨"openssl", some "openssl → 3.0.15", none, status⟩

/-- A report of one device in a database that has nothing else. -/
def report (patches : List PatchItem) : HubStep := ⟨.small 1, .persistInventory [] patches, false⟩

def afterFirst : AppState := (report [openssl "available"]).next (.ofDatabase (.ofDevices .empty))

theorem pending_reported_installed :
    ¬ ((report [openssl "installed"]).next afterFirst).db.pending (.small 1) "openssl" := by
  have nothing : (report [openssl "available"]).covers (.small 1)
      (.ofDatabase (.ofDevices .empty)) := by
    rintro patches - id ⟨row, found, -⟩
    cases found
  have first : InventoryRun (.small 1) afterFirst (some [openssl "available"]) :=
    .step (.start _) nothing
  have again : (report [openssl "installed"]).covers (.small 1) afterFirst := by
    intro patches committed id waiting
    cases committed
    obtain ⟨patch, last, -⟩ := ((pending_reported first).1 id).mp waiting
    have member : id ∈ [openssl "available"].map PatchItem.patchId :=
      lastReported_isSome.mp (congrArg Option.isSome last)
    exact member
  have second : InventoryRun (.small 1) ((report [openssl "installed"]).next afterFirst)
      (some [openssl "installed"]) := .step first again
  intro waiting
  obtain ⟨patch, last, installed, -⟩ := ((pending_reported second).1 "openssl").mp waiting
  cases last
  exact installed rfl

theorem pending_applied :
    (report []).commits (.small 1) afterFirst = some [] ∧
      ((report []).next afterFirst).db.pending (.small 1) "openssl" ∧
      ¬ reportedPending [] "openssl" := by
  refine ⟨rfl, ⟨(openssl "available").row, by decide, by decide⟩, ?_⟩
  rintro ⟨patch, last, -⟩
  cases last

end OsfmEdm
