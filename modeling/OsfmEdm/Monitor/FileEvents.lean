import OsfmEdm.Monitor.ProcConnector

/-!
The records of fanotify that `read_fanotify_events` of `system_monitor/linux.rs` reads, and what it
sends and closes for them.
-/

namespace OsfmEdm

/-! ## Records in memory -/

/-- `u64::from_ne_bytes` of two words. -/
def Endian.fromWords (endian : Endian) (first second : UInt32) : UInt64 :=
  match endian with
  | .little => .ofNat (first.toNat + 4294967296 * second.toNat)
  | .big => .ofNat (second.toNat + 4294967296 * first.toNat)

def Endian.words (endian : Endian) (value : UInt64) : UInt32 × UInt32 :=
  match endian with
  | .little => (value.toUInt32, (value >>> 32).toUInt32)
  | .big => ((value >>> 32).toUInt32, value.toUInt32)

structure FanotifyEventMetadata where
  eventLen : UInt32
  /-- `vers`, `reserved` and `metadata_len`, which nothing reads. -/
  unread : UInt32
  mask : UInt64
  fd : Int32
  pid : Int32
deriving DecidableEq

/-- `size_of::<FanotifyEventMetadata>()`. -/
def metaSize : Nat := 24

/-- `u32::from_ne_bytes` of the bytes at a place. -/
def wordAt (endian : Endian) (memory : List UInt8) (place : Nat) : UInt32 :=
  let byte (skip : Nat) : UInt8 := (memory[place + skip]?).getD 0
  endian.fromBytes (byte 0) (byte 1) (byte 2) (byte 3)

def metadataAt (endian : Endian) (memory : List UInt8) (offset : Nat) : FanotifyEventMetadata where
  eventLen := wordAt endian memory offset
  unread := wordAt endian memory (offset + 4)
  mask := endian.fromWords (wordAt endian memory (offset + 8)) (wordAt endian memory (offset + 12))
  fd := (wordAt endian memory (offset + 16)).toInt32
  pid := (wordAt endian memory (offset + 20)).toInt32

def FanotifyEventMetadata.words (endian : Endian) (metadata : FanotifyEventMetadata) :
    List UInt32 :=
  [metadata.eventLen, metadata.unread, (endian.words metadata.mask).1,
    (endian.words metadata.mask).2, metadata.fd.toUInt32, metadata.pid.toUInt32]

def FanotifyEventMetadata.bytes (endian : Endian) (metadata : FanotifyEventMetadata) : List UInt8 :=
  (metadata.words endian).flatMap endian.bytes

/-- A record, with what its length says there is behind the metadata. -/
structure FanotifyRecord where
  metadata : FanotifyEventMetadata
  info : List UInt8
  whole : metadata.eventLen.toNat = metaSize + info.length

def FanotifyRecord.bytes (endian : Endian) (record : FanotifyRecord) : List UInt8 :=
  record.metadata.bytes endian ++ record.info

theorem FanotifyRecord.length_bytes (endian : Endian) (record : FanotifyRecord) :
    (record.bytes endian).length = record.metadata.eventLen.toNat := by
  simp only [bytes, FanotifyEventMetadata.bytes, FanotifyEventMetadata.words, List.flatMap_cons,
    List.flatMap_nil, List.length_append, Endian.length_bytes, List.length_nil, record.whole,
    metaSize]

@[simp] theorem Endian.fromWords_words (endian : Endian) (value : UInt64) :
    endian.fromWords (endian.words value).1 (endian.words value).2 = value := by
  have bound := value.toNat_lt
  have digits : UInt64.ofNat (value.toUInt32.toNat + 4294967296 * (value >>> 32).toUInt32.toNat) =
      value := by
    apply UInt64.toNat_inj.mp
    simp only [UInt64.toNat_toUInt32, UInt64.toNat_shiftRight, UInt64.toNat_ofNat',
      UInt64.reduceToNat, Nat.reduceMod, Nat.shiftRight_eq_div_pow]
    omega
  cases endian with
  | little => exact digits
  | big => exact digits

theorem wordAt_words (endian : Endian) {words : List UInt32} {index : Nat} {word : UInt32}
    (listed : words[index]? = some word) (before after : List UInt8) :
    wordAt endian (before ++ (words.flatMap endian.bytes ++ after)) (before.length + 4 * index) =
      word := by
  induction words generalizing before index with
  | nil => cases listed
  | cons first words ih =>
      cases index with
      | zero =>
          obtain ⟨a, b, c, d, bytes, read⟩ := endian.bytes_eq first
          cases listed
          rw [List.flatMap_cons, bytes, wordAt]
          simpa using read
      | succ index =>
          have later := ih (by simpa using listed) (before ++ endian.bytes first)
          rw [List.length_append, Endian.length_bytes] at later
          rw [List.flatMap_cons, List.append_assoc, ← List.append_assoc before,
            show before.length + 4 * (index + 1) = before.length + 4 + 4 * index by omega]
          exact later

theorem metadataAt_append (endian : Endian) (metadata : FanotifyEventMetadata)
    (before after : List UInt8) :
    metadataAt endian (before ++ (metadata.bytes endian ++ after)) before.length = metadata := by
  have field (index place : Nat) {word : UInt32} (placed : place = before.length + 4 * index)
      (listed : (metadata.words endian)[index]? = some word) :
      wordAt endian (before ++ (metadata.bytes endian ++ after)) place = word := by
    rw [placed]
    exact wordAt_words endian listed before after
  rw [metadataAt, field 0 before.length rfl rfl, field 1 (before.length + 4) rfl rfl,
    field 2 (before.length + 8) rfl rfl, field 3 (before.length + 12) rfl rfl,
    field 4 (before.length + 16) rfl rfl, field 5 (before.length + 20) rfl rfl,
    Endian.fromWords_words, Int32.toInt32_toUInt32, Int32.toInt32_toUInt32]

/-! ## The reader -/

def FAN_ACCESS : UInt64 := 0x01

def FAN_MODIFY : UInt64 := 0x02

/-- What a turn of the inner loop meets: the link of a descriptor under `/proc/self/fd`, none where
it cannot be read, the time, and whether the channel takes an event. -/
structure FanotifyTurn where
  link : Int32 → Option String
  timestamp : Int64
  listening : Bool

inductive FanotifyAction where
  | deref (offset : Nat)
  | close (fd : Int32)
  | send (event : SystemEvent)
deriving DecidableEq

inductive FanotifyStep where
  | next (offset : Nat)
  | break
  | return

/-- The calls of the inner loop, and whether the thread ends in it. -/
structure FanotifyRun where
  actions : List FanotifyAction
  returned : Bool
deriving DecidableEq

namespace FanotifyEventMetadata

def filePath (metadata : FanotifyEventMetadata) (turn : FanotifyTurn) : String :=
  if metadata.fd ≥ 0 then (turn.link metadata.fd).getD "" else ""

def closed (metadata : FanotifyEventMetadata) : List Int32 :=
  if metadata.fd ≥ 0 then [metadata.fd] else []

def operation (metadata : FanotifyEventMetadata) : FileOperation :=
  if metadata.mask &&& FAN_MODIFY ≠ 0 then .write
  else if metadata.mask &&& FAN_ACCESS ≠ 0 then .read
  else .read

def event (metadata : FanotifyEventMetadata) (turn : FanotifyTurn) : SystemEvent :=
  .fileAccessed metadata.pid.toUInt32 (metadata.filePath turn) metadata.operation turn.timestamp

end FanotifyEventMetadata

/-- A turn of the inner loop. No sum leaves a `usize` of 64 bits. -/
def readRecord (endian : Endian) (buf : List UInt8) (len : Nat) (turn : FanotifyTurn)
    (offset : Nat) : List FanotifyAction × FanotifyStep :=
  if offset + metaSize ≤ len then
    let metadata := metadataAt endian buf offset
    if metadata.eventLen.toNat < metaSize then ([.deref offset], .break)
    else
      let actions := .deref offset :: metadata.closed.map .close
      if turn.listening then
        (actions ++ [.send (metadata.event turn)], .next (offset + metadata.eventLen.toNat))
      else (actions, .return)
  else ([], .break)

/-- The inner loop from an offset on; none where the fuel does not last. -/
def readRecords (endian : Endian) (buf : List UInt8) (len : Nat) (turns : Nat → FanotifyTurn) :
    Nat → Nat → Nat → Option FanotifyRun
  | 0, _, _ => none
  | fuel + 1, turn, offset =>
      match readRecord endian buf len (turns turn) offset with
      | (actions, .next offset) =>
          (readRecords endian buf len turns fuel (turn + 1) offset).map fun later =>
            ⟨actions ++ later.actions, later.returned⟩
      | (actions, .break) => some ⟨actions, false⟩
      | (actions, .return) => some ⟨actions, true⟩

/-- What `read` gives, with the turns for what is in it. -/
inductive FanotifyRead where
  | wouldBlock
  | failed
  | filled (bytes : List UInt8) (turns : Nat → FanotifyTurn)

/-- The buffer after a `read`; what it does not reach stays. -/
def fill (buf : Vector UInt8 4096) (bytes : List UInt8) : Vector UInt8 4096 :=
  .ofFn fun place => (bytes[place.val]?).getD buf[place]

/-- The buffers with something in them, each with the run of the inner loop. -/
def readFanotifyEvents (endian : Endian) :
    Vector UInt8 4096 → List FanotifyRead → List (Nat × FanotifyRun)
  | _, [] => []
  | buf, .wouldBlock :: reads => readFanotifyEvents endian buf reads
  | _, .failed :: _ => []
  | buf, .filled bytes turns :: reads =>
      let len := min bytes.length 4096
      let buf := fill buf bytes
      if len < metaSize then readFanotifyEvents endian buf reads
      else
        match readRecords endian buf.toList len turns (len / metaSize + 1) 0 0 with
        | some run =>
            (len, run) :: if run.returned then [] else readFanotifyEvents endian buf reads
        | none => []

/-! ## Turns -/

section

variable {endian : Endian} {buf : List UInt8} {len : Nat}

/-- The turn ends the loop, or it is at a record whose length is no less than its metadata. -/
theorem readRecord_cases (turn : FanotifyTurn) (offset : Nat) :
    let metadata := metadataAt endian buf offset
    let actions := .deref offset :: metadata.closed.map .close
    let read := readRecord endian buf len turn offset
    read = ([], .break) ∨
      offset + metaSize ≤ len ∧ (read = ([.deref offset], .break) ∨ read = (actions, .return) ∨
        metaSize ≤ metadata.eventLen.toNat ∧ read = (actions ++ [.send (metadata.event turn)],
          .next (offset + metadata.eventLen.toNat))) := by
  intro metadata actions read
  by_cases inside : offset + metaSize ≤ len
  · refine .inr ⟨inside, ?_⟩
    by_cases short : metadata.eventLen.toNat < metaSize
    · exact .inl (by simp only [read, readRecord, inside, metadata, if_true, if_pos short])
    · refine .inr ?_
      by_cases listening : turn.listening
      · refine .inr ⟨Nat.not_lt.mp short, ?_⟩
        simp only [read, readRecord, inside, metadata, actions, listening, if_true, if_neg short]
      · refine .inl ?_
        simp only [read, readRecord, inside, metadata, actions, listening, if_true, if_neg short]
        rfl
  · exact .inl (if_neg inside)

theorem readRecord_within {turn : FanotifyTurn} {offset place : Nat}
    (read : .deref place ∈ (readRecord endian buf len turn offset).1) : place + metaSize ≤ len := by
  rcases readRecord_cases turn offset with none | ⟨inside, first | first | ⟨-, first⟩⟩
  · rw [none] at read
    cases read
  all_goals
    rw [first] at read
    have same : place = offset := by simpa using read
    exact same ▸ inside

/-- No turn advances by less than the size of the metadata. -/
theorem readRecord_next {turn : FanotifyTurn} {offset next : Nat}
    (advanced : (readRecord endian buf len turn offset).2 = .next next) :
    offset + metaSize ≤ len ∧ offset + metaSize ≤ next := by
  rcases readRecord_cases turn offset with none | ⟨inside, first | first | ⟨long, first⟩⟩
  · rw [none] at advanced
    cases advanced
  · rw [first] at advanced
    cases advanced
  · rw [first] at advanced
    cases advanced
  · rw [first] at advanced
    cases advanced
    exact ⟨inside, Nat.add_le_add_left long offset⟩

/-! ## The loop -/

variable {turns : Nat → FanotifyTurn}

theorem readRecords_ends {fuel turn offset : Nat} (some : 0 < fuel)
    (enough : len < offset + metaSize * fuel) :
    (readRecords endian buf len turns fuel turn offset).isSome := by
  induction fuel generalizing turn offset with
  | zero => cases some
  | succ fuel ih =>
      rw [readRecords]
      split
      · rename_i actions next step
        obtain ⟨inside, ahead⟩ := readRecord_next (congrArg Prod.snd step)
        rw [Option.isSome_map]
        unfold metaSize at *
        exact ih (by omega) (by omega)
      · rfl
      · rfl

theorem readRecords_more {fuel more turn offset : Nat} {run : FanotifyRun}
    (ended : readRecords endian buf len turns fuel turn offset = some run) (le : fuel ≤ more) :
    readRecords endian buf len turns more turn offset = some run := by
  induction fuel generalizing more turn offset run with
  | zero => cases ended
  | succ fuel ih =>
      obtain ⟨more, rfl⟩ : ∃ other, more = other + 1 := ⟨more - 1, by omega⟩
      rw [readRecords] at ended ⊢
      split at ended
      · rename_i actions next step
        obtain ⟨later, rest, whole⟩ := Option.map_eq_some_iff.mp ended
        simp only [ih rest (Nat.le_of_succ_le_succ le), Option.map_some, whole]
      · exact ended
      · exact ended

theorem readRecords_within {fuel turn offset place : Nat} {run : FanotifyRun}
    (ended : readRecords endian buf len turns fuel turn offset = some run)
    (read : .deref place ∈ run.actions) : place + metaSize ≤ len := by
  induction fuel generalizing turn offset run with
  | zero => cases ended
  | succ fuel ih =>
      have here (actions : List FanotifyAction) (step : FanotifyStep)
          (own : readRecord endian buf len (turns turn) offset = (actions, step))
          (member : .deref place ∈ actions) : place + metaSize ≤ len :=
        readRecord_within (by rw [own]; exact member)
      rw [readRecords] at ended
      split at ended
      · rename_i actions next step
        obtain ⟨later, rest, rfl⟩ := Option.map_eq_some_iff.mp ended
        rcases List.mem_append.mp read with own | after
        · exact here _ _ step own
        · exact ih rest after
      · rename_i actions step
        cases ended
        exact here _ _ step read
      · rename_i actions step
        cases ended
        exact here _ _ step read

end

/-! ## Records -/

def FanotifyAction.sent? : FanotifyAction → Option SystemEvent
  | .send event => some event
  | _ => none

def FanotifyAction.closed? : FanotifyAction → Option Int32
  | .close fd => some fd
  | _ => none

theorem filterMap_sent_close (fds : List Int32) :
    (fds.map FanotifyAction.close).filterMap FanotifyAction.sent? = [] := by
  rw [List.filterMap_map]
  exact List.filterMap_eq_nil_iff.mpr fun _ _ => rfl

theorem filterMap_closed_close (fds : List Int32) :
    (fds.map FanotifyAction.close).filterMap FanotifyAction.closed? = fds := by
  rw [List.filterMap_map]
  exact List.filterMap_some ..

theorem readRecord_record (endian : Endian) {len : Nat} {turn : FanotifyTurn}
    (listening : turn.listening = true) (record : FanotifyRecord) (before after : List UInt8)
    (inside : before.length + record.metadata.eventLen.toNat ≤ len) :
    readRecord endian (before ++ (record.bytes endian ++ after)) len turn before.length =
      (.deref before.length :: record.metadata.closed.map .close ++
        [.send (record.metadata.event turn)],
        .next (before.length + record.metadata.eventLen.toNat)) := by
  have size : metaSize ≤ record.metadata.eventLen.toNat := record.whole ▸ Nat.le_add_right _ _
  have found : metadataAt endian (before ++ (record.bytes endian ++ after)) before.length =
      record.metadata := by
    rw [FanotifyRecord.bytes, List.append_assoc, metadataAt_append]
  have room : before.length + metaSize ≤ len := by omega
  simp only [readRecord, found, room, listening, if_true, if_neg (Nat.not_lt.mpr size)]

/-- Each record is closed and sent in its turn, whatever follows the last one. -/
theorem readRecords_records (endian : Endian) {turns : Nat → FanotifyTurn}
    (listening : ∀ turn, (turns turn).listening = true) (records : List FanotifyRecord)
    (turn : Nat) (before after : List UInt8) :
    ∃ run, readRecords endian (before ++ (records.flatMap (·.bytes endian) ++ after))
        (before.length + (records.flatMap (·.bytes endian)).length) turns (records.length + 1) turn
          before.length = some run ∧ run.returned = false ∧
      run.actions.filterMap FanotifyAction.sent? =
        (records.zipIdx turn).map (fun entry => entry.1.metadata.event (turns entry.2)) ∧
      run.actions.filterMap FanotifyAction.closed? = records.flatMap (·.metadata.closed) := by
  induction records generalizing turn before with
  | nil =>
      have done (memory : List UInt8) : readRecord endian memory
          (before.length + (List.flatMap (·.bytes endian) ([] : List FanotifyRecord)).length)
            (turns turn) before.length = ([], .break) := if_neg (by simp [metaSize])
      exact ⟨⟨[], false⟩, by rw [readRecords, done], rfl, rfl, rfl⟩
  | cons record records ih =>
      obtain ⟨later, rest, stays, sent, closed⟩ := ih (turn + 1) (before ++ record.bytes endian)
      have memory : before ++ (((record :: records).flatMap (·.bytes endian)) ++ after) =
          before ++ (record.bytes endian ++ (records.flatMap (·.bytes endian) ++ after)) := by
        rw [List.flatMap_cons, List.append_assoc]
      have size : ((record :: records).flatMap (·.bytes endian)).length =
          record.metadata.eventLen.toNat + (records.flatMap (·.bytes endian)).length := by
        rw [List.flatMap_cons, List.length_append, record.length_bytes]
      have inside : before.length + record.metadata.eventLen.toNat ≤
          before.length + ((record :: records).flatMap (·.bytes endian)).length := by
        omega
      have first := readRecord_record endian (listening turn) record before
        (records.flatMap (·.bytes endian) ++ after) inside
      rw [List.length_append, record.length_bytes, List.append_assoc, Nat.add_assoc, ← size] at rest
      let actions : List FanotifyAction :=
        .deref before.length :: record.metadata.closed.map .close ++
          [.send (record.metadata.event (turns turn))]
      have ownSent : actions.filterMap FanotifyAction.sent? =
          [record.metadata.event (turns turn)] := by
        rw [List.filterMap_append, List.filterMap_cons_none rfl, filterMap_sent_close]
        rfl
      have ownClosed : actions.filterMap FanotifyAction.closed? = record.metadata.closed := by
        rw [List.filterMap_append, List.filterMap_cons_none rfl, filterMap_closed_close]
        exact List.append_nil _
      refine ⟨⟨actions ++ later.actions, later.returned⟩, ?_, stays, ?_, ?_⟩
      · rw [memory, List.length_cons, readRecords, first]
        exact congrArg (Option.map _) rest
      · rw [List.filterMap_append, ownSent, sent, List.zipIdx_cons]
        rfl
      · rw [List.filterMap_append, ownClosed, closed, List.flatMap_cons]

/-- The fuel of one turn for each time the metadata fits lasts. -/
theorem readRecords_isSome (endian : Endian) (buf : List UInt8) (len : Nat)
    (turns : Nat → FanotifyTurn) :
    ∃ run, readRecords endian buf len turns (len / metaSize + 1) 0 0 = some run := by
  have enough : len < 0 + metaSize * (len / metaSize + 1) := by
    unfold metaSize
    omega
  exact Option.isSome_iff_exists.mp (readRecords_ends (Nat.succ_pos _) enough)

theorem readRecords_of_take {endian : Endian} {buf : List UInt8} {len : Nat}
    {turns : Nat → FanotifyTurn} (fits : len ≤ buf.length) {records : List FanotifyRecord}
    (holds : buf.take len = records.flatMap (·.bytes endian))
    (listening : ∀ turn, (turns turn).listening = true) :
    ∃ run, readRecords endian buf len turns (len / metaSize + 1) 0 0 = some run ∧
      run.returned = false ∧
      run.actions.filterMap FanotifyAction.sent? =
        records.zipIdx.map (fun entry => entry.1.metadata.event (turns entry.2)) ∧
      run.actions.filterMap FanotifyAction.closed? = records.flatMap (·.metadata.closed) := by
  have whole := readRecords_records endian listening records 0 [] (buf.drop len)
  rw [← holds, List.nil_append, List.take_append_drop, List.length_take, List.length_nil,
    Nat.zero_add, Nat.min_eq_left fits] at whole
  obtain ⟨run, ended⟩ := readRecords_isSome endian buf len turns
  obtain ⟨own, done, result⟩ := whole
  have same : run = own := by
    have first := readRecords_more ended (le_max_left _ (records.length + 1))
    have second := readRecords_more done (le_max_right (len / metaSize + 1) _)
    exact Option.some.inj (first.symm.trans second)
  exact ⟨run, ended, same ▸ result⟩

/-! ## Runs of the thread -/

theorem fill_take (buf : Vector UInt8 4096) {bytes : List UInt8} (fits : bytes.length ≤ 4096) :
    (fill buf bytes).toList.take bytes.length = bytes := by
  apply List.ext_getElem
  · simpa using fits
  · intro place _ inside
    simp [fill, inside]

theorem readFanotifyEvents_within (endian : Endian) (buf : Vector UInt8 4096)
    (reads : List FanotifyRead) : ∀ handled ∈ readFanotifyEvents endian buf reads,
      ∀ place, .deref place ∈ handled.2.actions → place + metaSize ≤ handled.1 := by
  induction reads generalizing buf with
  | nil => exact List.forall_mem_nil _
  | cons read reads ih =>
      cases read with
      | wouldBlock => exact ih buf
      | failed => exact List.forall_mem_nil _
      | filled bytes turns =>
          rw [readFanotifyEvents]
          split
          · exact ih _
          · split
            · rename_i run ended
              refine List.forall_mem_cons.mpr ⟨fun place => readRecords_within ended, ?_⟩
              split
              · exact List.forall_mem_nil _
              · exact ih _
            · exact List.forall_mem_nil _

/-- What is in a buffer: the records of a read, none where it would block. -/
abbrev FanotifyBatch := Option (List FanotifyRecord × (Nat → FanotifyTurn))

def FanotifyBatch.read (endian : Endian) : FanotifyBatch → FanotifyRead
  | none => .wouldBlock
  | some (records, turns) => .filled (records.flatMap (·.bytes endian)) turns

def FanotifyBatch.events : FanotifyBatch → List SystemEvent
  | none => []
  | some (records, turns) => records.zipIdx.map fun entry => entry.1.metadata.event (turns entry.2)

/-- Over all reads of a thread, every record is sent. -/
theorem readFanotifyEvents_batches (endian : Endian) {batches : List FanotifyBatch}
    (fits : ∀ batch ∈ batches, ∀ records turns, batch = some (records, turns) →
      (records.flatMap (·.bytes endian)).length ≤ 4096 ∧ ∀ turn, (turns turn).listening = true)
    (buf : Vector UInt8 4096) :
    (readFanotifyEvents endian buf (batches.map (·.read endian))).flatMap
        (fun handled => handled.2.actions.filterMap FanotifyAction.sent?) =
      batches.flatMap (·.events) := by
  induction batches generalizing buf with
  | nil => rfl
  | cons batch batches ih =>
      have later := ih fun batch member => fits batch (List.mem_cons_of_mem _ member)
      cases batch with
      | none => exact later buf
      | some read =>
          obtain ⟨records, turns⟩ := read
          obtain ⟨inside, listening⟩ := fits _ List.mem_cons_self records turns rfl
          rw [List.map_cons, FanotifyBatch.read, readFanotifyEvents, Nat.min_eq_left inside]
          split
          · rename_i short
            have none : records = [] := by
              cases records with
              | nil => rfl
              | cons record records =>
                  rw [List.flatMap_cons, List.length_append, record.length_bytes, record.whole]
                    at short
                  omega
            rw [later, none]
            rfl
          · have room : (records.flatMap (·.bytes endian)).length ≤
                (fill buf (records.flatMap (·.bytes endian))).toList.length := by
              rw [Vector.length_toList]
              exact inside
            obtain ⟨run, ended, stays, sent, -⟩ :=
              readRecords_of_take room (fill_take buf inside) listening
            simp only [ended, stays, Bool.false_eq_true, if_false, List.flatMap_cons, sent, later]
            rfl

/-- However long the records say they are, the loop ends after no more turns than metadata fits into
the bytes read, and it reads within them. Of whole records it sends each and closes each. -/
theorem fanotify_records (endian : Endian) (buf : Vector UInt8 4096) (len : Nat) (fits : len ≤ 4096)
    (turns : Nat → FanotifyTurn) :
    ∃ run, (∀ fuel > len / metaSize, readRecords endian buf.toList len turns fuel 0 0 = some run) ∧
      (∀ place, .deref place ∈ run.actions → place + metaSize ≤ len) ∧
      ∀ records : List FanotifyRecord, buf.toList.take len = records.flatMap (·.bytes endian) →
        (∀ turn, (turns turn).listening = true) →
          run.actions.filterMap FanotifyAction.sent? =
            records.zipIdx.map (fun entry => entry.1.metadata.event (turns entry.2)) ∧
          run.actions.filterMap FanotifyAction.closed? = records.flatMap (·.metadata.closed) := by
  obtain ⟨run, ended⟩ := readRecords_isSome endian buf.toList len turns
  refine ⟨run, fun fuel more => readRecords_more ended more,
    fun place read => readRecords_within ended read, ?_⟩
  intro records holds listening
  obtain ⟨own, whole, -, result⟩ := readRecords_of_take (by simpa using fits) holds listening
  rw [ended] at whole
  exact Option.some.inj whole ▸ result

def modifiedRecord : FanotifyRecord where
  metadata := { eventLen := 24, unread := 0, mask := 2, fd := 7, pid := 42 }
  info := []
  whole := rfl

def openTurn : FanotifyTurn where
  link _ := some "/etc/passwd"
  timestamp := 0
  listening := true

theorem fanotify_records_modified :
    ∃ run, readRecords .little (fill (.replicate 4096 0) (modifiedRecord.bytes .little)).toList 24
        (fun _ => openTurn) 2 0 0 = some run ∧
      run.actions.filterMap FanotifyAction.sent? = [.fileAccessed 42 "/etc/passwd" .write 0] ∧
      run.actions.filterMap FanotifyAction.closed? = [7] := by
  obtain ⟨run, ended, -, whole⟩ := fanotify_records .little
    (fill (.replicate 4096 0) (modifiedRecord.bytes .little)) 24 (by decide) fun _ => openTurn
  have size : (modifiedRecord.bytes .little).length = 24 := modifiedRecord.length_bytes _
  have fits : (modifiedRecord.bytes .little).length ≤ 4096 := by
    rw [size]
    decide
  have holds := fill_take (.replicate 4096 0) fits
  rw [size] at holds
  have one : modifiedRecord.bytes .little = [modifiedRecord].flatMap (·.bytes .little) :=
    (List.append_nil _).symm
  obtain ⟨sent, closed⟩ := whole [modifiedRecord] (holds.trans one) fun _ => rfl
  exact ⟨run, ended 2 (by decide), sent, closed⟩

end OsfmEdm
