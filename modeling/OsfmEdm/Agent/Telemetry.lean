import OsfmEdm.Server.AgentHub

/-!
The telemetry an agent collects (`telemetry/system.rs`), and what the hub stores of it.
-/

namespace OsfmEdm

/-! ## Collection -/

/-- A build with overflow checks, which panics, and one without, which wraps. -/
inductive Build where
  | debug
  | release

def Build.add : Build → UInt64 → UInt64 → Option UInt64
  | .debug, first, second =>
      if first.toNat + second.toNat < 2 ^ 64 then some (first + second) else none
  | .release, first, second => some (first + second)

def Build.sub : Build → UInt64 → UInt64 → Option UInt64
  | .debug, first, second => if second ≤ first then some (first - second) else none
  | .release, first, second => some (first - second)

structure Disk where
  totalSpace : UInt64
  availableSpace : UInt64

/-- The two sums with a disk more; none where the build panics. -/
def addDisk (build : Build) : UInt64 × UInt64 → Disk → Option (UInt64 × UInt64)
  | (total, used), disk => do
      let total ← build.add total disk.totalSpace
      let taken ← build.sub disk.totalSpace disk.availableSpace
      let used ← build.add used taken
      return (total, used)

/-- `disk_total` and `disk_used`. -/
def diskSpace (build : Build) (disks : List Disk) : Option (UInt64 × UInt64) :=
  disks.foldlM (addDisk build) (0, 0)

/-- `as f64`: the nearest number of 53 bits, and of two the even one. -/
def asF64 (value : Nat) : Nat :=
  let ulp := 2 ^ (Nat.log2 value - 52)
  let rest := 2 * (value % ulp)
  if rest > ulp ∨ rest = ulp ∧ value / ulp % 2 = 1 then (value / ulp + 1) * ulp
  else value / ulp * ulp

/-- What the system reports. -/
structure SystemReadings where
  cpuUsage : ℚ
  totalMemory : UInt64
  usedMemory : UInt64
  disks : List Disk
  uptime : UInt64
  timestamp : Int64

def collectSnapshot (build : Build) (readings : SystemReadings) : Option TelemetrySnapshot := do
  let (diskTotal, diskUsed) ← diskSpace build readings.disks
  return {
    cpuPct := readings.cpuUsage
    ramUsedMb := readings.usedMemory / (1024 * 1024)
    ramTotalMb := readings.totalMemory / (1024 * 1024)
    diskUsedGb := asF64 diskUsed.toNat / (1024 * 1024 * 1024)
    diskTotalGb := asF64 diskTotal.toNat / (1024 * 1024 * 1024)
    uptimeSecs := readings.uptime
    timestamp := readings.timestamp }

/-! ## Disks -/

def totalSpaces (disks : List Disk) : Nat := (disks.map (·.totalSpace.toNat)).sum

/-- What is taken of the disks, which is negative for one with more available than there is. -/
def takenSpaces (disks : List Disk) : Int :=
  (disks.map fun disk => (disk.totalSpace.toNat : Int) - disk.availableSpace.toNat).sum

theorem Build.add_of_lt (build : Build) {first second : UInt64}
    (fits : first.toNat + second.toNat < 2 ^ 64) :
    ∃ sum, build.add first second = some sum ∧ sum.toNat = first.toNat + second.toNat := by
  refine ⟨first + second, ?_, ?_⟩
  · cases build with
    | debug => exact if_pos fits
    | release => rfl
  · rw [UInt64.toNat_add, Nat.mod_eq_of_lt fits]

theorem Build.sub_of_le (build : Build) {first second : UInt64} (le : second ≤ first) :
    ∃ rest, build.sub first second = some rest ∧ rest.toNat = first.toNat - second.toNat := by
  refine ⟨first - second, ?_, UInt64.toNat_sub_of_le _ _ le⟩
  cases build with
  | debug => exact if_pos le
  | release => rfl

theorem Build.add_debug {first second sum : UInt64}
    (added : Build.debug.add first second = some sum) :
    first.toNat + second.toNat < 2 ^ 64 ∧ sum.toNat = first.toNat + second.toNat := by
  rw [add] at added
  split at added
  · rename_i fits
    cases added
    exact ⟨fits, by rw [UInt64.toNat_add, Nat.mod_eq_of_lt fits]⟩
  · cases added

theorem Build.sub_debug {first second rest : UInt64}
    (taken : Build.debug.sub first second = some rest) : second ≤ first := by
  rw [sub] at taken
  split at taken
  · assumption
  · cases taken

theorem addDisk_sound (build : Build) {disk : Disk} {total used : UInt64}
    (available : disk.availableSpace ≤ disk.totalSpace)
    (fits : total.toNat + disk.totalSpace.toNat < 2 ^ 64) (le : used ≤ total) :
    ∃ sums : UInt64 × UInt64, addDisk build (total, used) disk = some sums ∧
      sums.1.toNat = total.toNat + disk.totalSpace.toNat ∧
      sums.2.toNat = used.toNat + (disk.totalSpace.toNat - disk.availableSpace.toNat) ∧
      sums.2 ≤ sums.1 := by
  rw [UInt64.le_iff_toNat_le] at le
  obtain ⟨first, added, firstSum⟩ := build.add_of_lt fits
  obtain ⟨taken, cut, rest⟩ := build.sub_of_le available
  obtain ⟨second, added', secondSum⟩ := build.add_of_lt
    (by omega : used.toNat + taken.toNat < 2 ^ 64)
  refine ⟨(first, second), ?_, firstSum, by rw [secondSum, rest], ?_⟩
  · simp only [addDisk, added, cut, added', Option.bind_eq_bind, Option.bind_some]
    rfl
  · rw [UInt64.le_iff_toNat_le]
    dsimp only
    omega

theorem addDisk_debug {disk : Disk} {sums next : UInt64 × UInt64}
    (added : addDisk .debug sums disk = some next) : disk.availableSpace ≤ disk.totalSpace ∧
      sums.1.toNat + disk.totalSpace.toNat < 2 ^ 64 ∧
      next.1.toNat = sums.1.toNat + disk.totalSpace.toNat := by
  obtain ⟨total, used⟩ := sums
  simp only [addDisk, Option.bind_eq_bind, Option.bind_eq_some_iff] at added
  obtain ⟨first, one, taken, two, second, -, same⟩ := added
  cases same
  exact ⟨Build.sub_debug two, Build.add_debug one⟩

theorem addDisks_sound (build : Build) {disks : List Disk} {sums : UInt64 × UInt64}
    (available : ∀ disk ∈ disks, disk.availableSpace ≤ disk.totalSpace)
    (fits : sums.1.toNat + totalSpaces disks < 2 ^ 64) (le : sums.2 ≤ sums.1) :
    ∃ result, disks.foldlM (addDisk build) sums = some result ∧
      result.1.toNat = sums.1.toNat + totalSpaces disks ∧
      (result.2.toNat : Int) = sums.2.toNat + takenSpaces disks ∧ result.2 ≤ result.1 := by
  induction disks generalizing sums with
  | nil => exact ⟨sums, rfl, by simp [totalSpaces], by simp [takenSpaces], le⟩
  | cons disk disks ih =>
      have whole : totalSpaces (disk :: disks) = disk.totalSpace.toNat + totalSpaces disks := rfl
      have taken : takenSpaces (disk :: disks) =
          (disk.totalSpace.toNat - disk.availableSpace.toNat) + takenSpaces disks := rfl
      have own := available disk List.mem_cons_self
      obtain ⟨next, added, total, used, below⟩ := addDisk_sound build own
        (by omega : sums.1.toNat + disk.totalSpace.toNat < 2 ^ 64) le
      obtain ⟨result, rest, totals, useds, order⟩ := ih
        (fun disk member => available disk (List.mem_cons_of_mem _ member)) (by omega) below
      rw [UInt64.le_iff_toNat_le] at own
      refine ⟨result, ?_, by omega, by omega, order⟩
      rw [List.foldlM_cons, added]
      exact rest

theorem addDisks_debug {disks : List Disk} {sums result : UInt64 × UInt64}
    (added : disks.foldlM (addDisk .debug) sums = some result) (fits : sums.1.toNat < 2 ^ 64) :
    (∀ disk ∈ disks, disk.availableSpace ≤ disk.totalSpace) ∧
      sums.1.toNat + totalSpaces disks < 2 ^ 64 := by
  induction disks generalizing sums with
  | nil => exact ⟨List.forall_mem_nil _, fits⟩
  | cons disk disks ih =>
      have whole : totalSpaces (disk :: disks) = disk.totalSpace.toNat + totalSpaces disks := rfl
      rw [List.foldlM_cons] at added
      obtain ⟨next, first, rest⟩ := Option.bind_eq_some_iff.mp added
      obtain ⟨own, small, total⟩ := addDisk_debug first
      obtain ⟨available, below⟩ := ih rest next.1.toNat_lt
      refine ⟨List.forall_mem_cons.mpr ⟨own, available⟩, by omega⟩

/-! ## Gigabytes -/

theorem asF64_bounds (value : Nat) :
    let ulp := 2 ^ (Nat.log2 value - 52)
    value / ulp * ulp ≤ asF64 value ∧ asF64 value ≤ (value / ulp + 1) * ulp := by
  intro ulp
  have next : value / ulp * ulp ≤ (value / ulp + 1) * ulp :=
    Nat.mul_le_mul_right ulp (Nat.le_succ _)
  rw [asF64]
  split
  · exact ⟨next, le_rfl⟩
  · exact ⟨le_rfl, next⟩

/-- No value rounds over a power of two. -/
theorem asF64_le_pow (value : Nat) : asF64 value ≤ 2 ^ (Nat.log2 value + 1) := by
  have split : 2 ^ (Nat.log2 value + 1) =
      2 ^ (Nat.log2 value + 1 - (Nat.log2 value - 52)) * 2 ^ (Nat.log2 value - 52) := by
    rw [← Nat.pow_add]
    congr 1
    omega
  have quotient : value / 2 ^ (Nat.log2 value - 52) <
      2 ^ (Nat.log2 value + 1 - (Nat.log2 value - 52)) := by
    rw [Nat.div_lt_iff_lt_mul (Nat.two_pow_pos _), ← split]
    exact Nat.lt_log2_self
  exact (asF64_bounds value).2.trans (split ▸ Nat.mul_le_mul_right _ quotient)

theorem pow_le_asF64 {value : Nat} (some : value ≠ 0) : 2 ^ Nat.log2 value ≤ asF64 value := by
  have split : 2 ^ Nat.log2 value =
      2 ^ (Nat.log2 value - (Nat.log2 value - 52)) * 2 ^ (Nat.log2 value - 52) := by
    rw [← Nat.pow_add]
    congr 1
    omega
  have quotient : 2 ^ (Nat.log2 value - (Nat.log2 value - 52)) ≤
      value / 2 ^ (Nat.log2 value - 52) := by
    rw [Nat.le_div_iff_mul_le (Nat.two_pow_pos _), ← split]
    exact Nat.log2_self_le some
  exact (split ▸ Nat.mul_le_mul_right _ quotient).trans (asF64_bounds value).1

theorem asF64_mono {small large : Nat} (le : small ≤ large) : asF64 small ≤ asF64 large := by
  by_cases same : Nat.log2 small = Nat.log2 large
  · have quotients := Nat.div_le_div_right le (c := 2 ^ (Nat.log2 large - 52))
    rcases Nat.lt_or_eq_of_le quotients with less | equal
    · have first := (asF64_bounds small).2
      rw [same] at first
      exact first.trans ((Nat.mul_le_mul_right _ less).trans (asF64_bounds large).1)
    · have rests : small % 2 ^ (Nat.log2 large - 52) ≤ large % 2 ^ (Nat.log2 large - 52) := by
        have first := Nat.div_add_mod small (2 ^ (Nat.log2 large - 52))
        have second := Nat.div_add_mod large (2 ^ (Nat.log2 large - 52))
        rw [equal] at first
        omega
      rw [asF64, asF64, same, equal]
      generalize 2 ^ (Nat.log2 large - 52) = ulp at rests
      generalize small % ulp = rest at rests
      generalize large % ulp = other at rests
      have next : large / ulp * ulp ≤ (large / ulp + 1) * ulp :=
        Nat.mul_le_mul_right ulp (Nat.le_succ _)
      split
      · rename_i up
        rw [if_pos (by omega)]
      · split
        · exact next
        · exact le_rfl
  · rcases Nat.eq_zero_or_pos small with rfl | positive
    · exact Nat.zero_le _
    · have some : large ≠ 0 := by omega
      have below : Nat.log2 small < Nat.log2 large := by
        refine Nat.lt_of_le_of_ne ?_ same
        exact (Nat.le_log2 some).mpr ((Nat.log2_self_le positive.ne').trans le)
      calc
        asF64 small ≤ 2 ^ (Nat.log2 small + 1) := asF64_le_pow small
        _ ≤ 2 ^ Nat.log2 large := Nat.pow_le_pow_right (by decide) below
        _ ≤ asF64 large := pow_le_asF64 some

/-! ## What the hub stores -/

/-- The casts to `i64` keep the numbers. -/
structure MetricsRow.Tells (row : MetricsRow) (snapshot : TelemetrySnapshot) : Prop where
  cpuPct : row.cpuPct = some snapshot.cpuPct
  ramUsedMb : row.ramUsedMb.map Int64.toInt = some (snapshot.ramUsedMb.toNat : Int)
  ramTotalMb : row.ramTotalMb.map Int64.toInt = some (snapshot.ramTotalMb.toNat : Int)
  diskUsedGb : row.diskUsedGb = some snapshot.diskUsedGb
  diskTotalGb : row.diskTotalGb = some snapshot.diskTotalGb
  uptimeSecs : row.uptimeSecs.map Int64.toInt = some (snapshot.uptimeSecs.toNat : Int)

/-- The sums are those of the disks and in order, and the values sent are the values stored. -/
structure TelemetryExact (readings : SystemReadings) : Prop where
  disks : ∀ build, ∃ total used, diskSpace build readings.disks = some (total, used) ∧
    total.toNat = totalSpaces readings.disks ∧ (used.toNat : Int) = takenSpaces readings.disks ∧
      used ≤ total
  stored : ∀ build snapshot, collectSnapshot build readings = some snapshot →
    0 ≤ snapshot.diskUsedGb ∧ snapshot.diskUsedGb ≤ snapshot.diskTotalGb ∧
      ∀ device state after rest,
        Processing device state (processAgentMessage (.telemetryReport snapshot)) after rest →
          ∀ row ∈ after.db.deviceMetrics, row ∈ state.db.deviceMetrics ∨ row.Tells snapshot

/-- No disk has more available than there is, and no number is too large for its type. -/
structure InRange (readings : SystemReadings) : Prop where
  available : ∀ disk ∈ readings.disks, disk.availableSpace ≤ disk.totalSpace
  total : totalSpaces readings.disks < 2 ^ 64
  uptime : readings.uptime.toNat < 2 ^ 63

theorem toInt64_exact {value : UInt64} :
    value.toInt64.toInt = value.toNat ↔ value.toNat < 2 ^ 63 := by
  have bound := value.toNat_lt
  have cast : value.toInt64.toInt =
      if 2 * value.toNat < 2 ^ 64 then (value.toNat : Int) else value.toNat - (2 ^ 64 : Nat) :=
    BitVec.toInt_eq_toNat_cond value.toBitVec
  rw [cast]
  split <;> omega

/-- The actions for a report. -/
def Action.OfTelemetry (snapshot : TelemetrySnapshot) : Action → Prop
  | .insertMetrics inserted => inserted = snapshot
  | .selectAlertRules | .selectLatestMetrics _ | .selectOpenAlert _ | .insertAlertEvent _ => True
  | _ => False

def sentRow (db : Database) (device : Uuid) (snapshot : TelemetrySnapshot) : MetricsRow where
  deviceId := device
  time := db.now
  cpuPct := some snapshot.cpuPct
  ramUsedMb := some snapshot.ramUsedMb.toInt64
  ramTotalMb := some snapshot.ramTotalMb.toInt64
  diskUsedGb := some snapshot.diskUsedGb
  diskTotalGb := some snapshot.diskTotalGb
  uptimeSecs := some snapshot.uptimeSecs.toInt64

theorem Action.OfTelemetry.follow {snapshot : TelemetrySnapshot} {action : Action}
    (own : action.OfTelemetry snapshot) (device : Uuid) (state : AppState) (fails : Bool) :
    ∀ next ∈ action.follow device state fails, next.OfTelemetry snapshot := by
  intro next member
  cases action with
  | insertMetrics | insertAlertEvent => cases member
  | selectAlertRules =>
      rw [Action.follow] at member
      split at member
      · cases member
      · split at member
        · cases member
        · rw [List.mem_singleton.mp member]
          trivial
  | selectLatestMetrics rules =>
      rw [Action.follow] at member
      split at member
      · cases member
      · split at member
        · cases member
        · obtain ⟨rule, -, rfl⟩ := List.mem_map.mp member
          trivial
  | selectOpenAlert rule =>
      rw [Action.follow] at member
      split at member
      · cases member
      · rw [List.mem_singleton.mp member]
        trivial
  | _ => cases own

theorem Action.OfTelemetry.perform {snapshot : TelemetrySnapshot} {action : Action}
    (own : action.OfTelemetry snapshot) (device : Uuid) (state : AppState) (fails : Bool) :
    ∀ row ∈ (action.perform device state fails).db.deviceMetrics,
      row ∈ state.db.deviceMetrics ∨ row = sentRow state.db device snapshot := by
  intro row member
  rw [Action.perform] at member
  split at member
  · exact .inl member
  · cases action with
    | insertMetrics inserted =>
        cases own
        exact (List.mem_append.mp member).imp_right List.mem_singleton.mp
    | selectAlertRules | selectLatestMetrics | selectOpenAlert | insertAlertEvent =>
        exact .inl member
    | _ => cases own

theorem processing_telemetry {snapshot : TelemetrySnapshot} {device : Uuid} {state after : AppState}
    {rest : List Action} (run : Processing device state
      (processAgentMessage (.telemetryReport snapshot)) after rest) :
    (∀ action ∈ rest, action.OfTelemetry snapshot) ∧
      ∀ row ∈ after.db.deviceMetrics,
        row ∈ state.db.deviceMetrics ∨ ∃ db, row = sentRow db device snapshot := by
  induction run with
  | start =>
      refine ⟨?_, fun row => .inl⟩
      intro action member
      rcases List.mem_pair.mp member with rfl | rfl
      · exact rfl
      · trivial
  | @action state rest action before fails ih =>
      obtain ⟨own, rows⟩ := ih
      have here := own action List.mem_cons_self
      refine ⟨?_, ?_⟩
      · intro next member
        rcases List.mem_append.mp member with new | old
        · exact here.follow device state fails next new
        · exact own next (List.mem_cons_of_mem _ old)
      · intro row member
        rcases here.perform device state fails row member with old | new
        · exact rows row old
        · exact .inr ⟨state.db, new⟩

theorem sentRow_tells {db : Database} {device : Uuid} {snapshot : TelemetrySnapshot} :
    (sentRow db device snapshot).Tells snapshot ↔ snapshot.ramUsedMb.toNat < 2 ^ 63 ∧
      snapshot.ramTotalMb.toNat < 2 ^ 63 ∧ snapshot.uptimeSecs.toNat < 2 ^ 63 := by
  have stored {value : UInt64} : (some value.toInt64).map Int64.toInt = some (value.toNat : Int) ↔
      value.toNat < 2 ^ 63 := by
    rw [Option.map_some, Option.some_inj, toInt64_exact]
  constructor
  · intro tells
    exact ⟨stored.mp tells.ramUsedMb, stored.mp tells.ramTotalMb, stored.mp tells.uptimeSecs⟩
  · rintro ⟨used, total, uptime⟩
    exact ⟨rfl, stored.mpr used, stored.mpr total, rfl, rfl, stored.mpr uptime⟩

/-- A number of bytes is small enough in megabytes. -/
theorem megabytes_lt (bytes : UInt64) : (bytes / (1024 * 1024)).toNat < 2 ^ 63 := by
  have bound := bytes.toNat_lt
  rw [UInt64.toNat_div]
  have divisor : (1024 * 1024 : UInt64).toNat = 1048576 := rfl
  rw [divisor]
  omega

theorem collectSnapshot_eq {build : Build} {readings : SystemReadings}
    {snapshot : TelemetrySnapshot} (collected : collectSnapshot build readings = some snapshot) :
    ∃ total used,
      diskSpace build readings.disks = some (total, used) ∧
      snapshot.diskUsedGb = asF64 used.toNat / (1024 * 1024 * 1024) ∧
      snapshot.diskTotalGb = asF64 total.toNat / (1024 * 1024 * 1024) ∧
      snapshot.ramUsedMb = readings.usedMemory / (1024 * 1024) ∧
      snapshot.ramTotalMb = readings.totalMemory / (1024 * 1024) ∧
      snapshot.uptimeSecs = readings.uptime := by
  rw [collectSnapshot] at collected
  obtain ⟨⟨total, used⟩, sums, same⟩ := Option.bind_eq_some_iff.mp collected
  cases same
  exact ⟨total, used, sums, rfl, rfl, rfl, rfl, rfl⟩

theorem diskSpace_of_inRange {readings : SystemReadings} (inRange : InRange readings)
    (build : Build) : ∃ total used, diskSpace build readings.disks = some (total, used) ∧
      total.toNat = totalSpaces readings.disks ∧ (used.toNat : Int) = takenSpaces readings.disks ∧
        used ≤ total := by
  have fits : (0 : UInt64).toNat + totalSpaces readings.disks < 2 ^ 64 := by
    rw [UInt64.toNat_zero, Nat.zero_add]
    exact inRange.total
  obtain ⟨⟨total, used⟩, sums, totals, useds, le⟩ :=
    @addDisks_sound build _ (0, 0) inRange.available fits (UInt64.le_refl 0)
  refine ⟨total, used, sums, ?_, ?_, le⟩
  · rw [totals, UInt64.toNat_zero, Nat.zero_add]
  · rw [useds, UInt64.toNat_zero, Int.natCast_zero, Int.zero_add]

theorem exact_of_inRange {readings : SystemReadings} (inRange : InRange readings) :
    TelemetryExact readings := by
  refine ⟨diskSpace_of_inRange inRange, ?_⟩
  intro build snapshot collected
  obtain ⟨total, used, sums, usedGb, totalGb, ramUsed, ramTotal, uptime⟩ :=
    collectSnapshot_eq collected
  obtain ⟨own, own', sums', -, -, le⟩ := diskSpace_of_inRange inRange build
  cases sums.symm.trans sums'
  refine ⟨?_, ?_, ?_⟩
  · rw [usedGb]
    positivity
  · have rounded := asF64_mono (UInt64.le_iff_toNat_le.mp le)
    rw [usedGb, totalGb]
    gcongr
  · intro device state after rest run row member
    refine ((processing_telemetry run).2 row member).imp_right ?_
    rintro ⟨db, rfl⟩
    rw [sentRow_tells, ramUsed, ramTotal, uptime]
    exact ⟨megabytes_lt _, megabytes_lt _, inRange.uptime⟩

theorem inRange_of_exact {readings : SystemReadings} (sound : TelemetryExact readings) :
    InRange readings := by
  obtain ⟨total, used, sums, -⟩ := sound.disks .debug
  obtain ⟨available, totals⟩ := addDisks_debug sums (by decide)
  refine ⟨available, by simpa using totals, ?_⟩
  -- the first report to a hub without metrics
  let state := AppState.ofDatabase (.ofDevices .empty)
  obtain ⟨snapshot, collected⟩ : ∃ snapshot, collectSnapshot .debug readings = some snapshot := by
    rw [collectSnapshot, sums]
    exact ⟨_, rfl⟩
  obtain ⟨_, _, _, -, -, -, -, uptime⟩ := collectSnapshot_eq collected
  have run : Processing (.small 0) state (processAgentMessage (.telemetryReport snapshot))
      ((Action.insertMetrics snapshot).perform (.small 0) state false) [.selectAlertRules] :=
    .action .start false
  have stored := (sound.stored .debug snapshot collected).2.2 (.small 0) state _ _ run
    (sentRow state.db (.small 0) snapshot) (List.mem_singleton.mpr rfl)
  have tells := stored.resolve_left List.not_mem_nil
  rw [← uptime]
  exact (sentRow_tells.mp tells).2.2

/-- The sums do not wrap and what is sent is stored just when the readings are in range. -/
theorem telemetry_exact_iff (readings : SystemReadings) :
    TelemetryExact readings ↔ InRange readings :=
  ⟨inRange_of_exact, exact_of_inRange⟩

/-- A disk with a reserve that counts as available. -/
def reservedDisk : SystemReadings where
  cpuUsage := 5
  totalMemory := 8589934592
  usedMemory := 4294967296
  disks := [⟨1000, 1001⟩]
  uptime := 3600
  timestamp := 0

/-- More is used than there is. -/
theorem telemetry_wraps : ¬ TelemetryExact reservedDisk := by
  intro sound
  obtain ⟨total, used, sums, -, -, le⟩ := sound.disks .release
  have wrapped : diskSpace .release reservedDisk.disks = some (1000, 18446744073709551615) := by
    decide +kernel
  cases sums.symm.trans wrapped
  exact absurd le (by decide)

end OsfmEdm
