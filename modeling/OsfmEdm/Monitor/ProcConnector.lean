import OsfmEdm.Monitor.ProcessInfo

/-!
The proc connector of `system_monitor/linux.rs`: the datagrams `read_proc_events` receives and what
it reads of them.
-/

namespace OsfmEdm

/-! ## Words in memory -/

inductive Endian where
  | little
  | big

/-- `u32::from_ne_bytes`. -/
def Endian.fromBytes (endian : Endian) (first second third fourth : UInt8) : UInt32 :=
  match endian with
  | .little => .ofNat (first.toNat + 256 * second.toNat + 65536 * third.toNat +
      16777216 * fourth.toNat)
  | .big => .ofNat (fourth.toNat + 256 * third.toNat + 65536 * second.toNat +
      16777216 * first.toNat)

def Endian.bytes (endian : Endian) (word : UInt32) : List UInt8 :=
  match endian with
  | .little => leBytes word
  | .big => (leBytes word).reverse

@[simp] theorem Endian.length_bytes (endian : Endian) (word : UInt32) :
    (endian.bytes word).length = 4 := by
  cases endian <;> rfl

theorem Endian.bytes_eq (endian : Endian) (word : UInt32) : ∃ first second third fourth,
    endian.bytes word = [first, second, third, fourth] ∧
      endian.fromBytes first second third fourth = word := by
  have digits : UInt32.ofNat (word.toUInt8.toNat + 256 * (word >>> 8).toUInt8.toNat +
      65536 * (word >>> 16).toUInt8.toNat + 16777216 * (word >>> 24).toUInt8.toNat) = word := by
    have bound := word.toNat_lt
    apply UInt32.toNat_inj.mp
    simp only [UInt32.toNat_toUInt8, UInt32.toNat_shiftRight, UInt32.toNat_ofNat',
      UInt32.reduceToNat, Nat.reduceMod, Nat.shiftRight_eq_div_pow]
    omega
  cases endian with
  | little => exact ⟨_, _, _, _, rfl, digits⟩
  | big => exact ⟨_, _, _, _, rfl, digits⟩

/-! ## The reader -/

/-- `[u8; 4096]`. -/
abbrev RecvBuffer := Fin 4096 → UInt8

/-- The buffer after a `recv`, with the length received; what the datagram does not reach stays. -/
def receive (buf : RecvBuffer) (datagram : List UInt8) : RecvBuffer × Nat :=
  (fun place => (datagram[place.val]?).getD (buf place), min datagram.length 4096)

/-- A value with the places of the buffer that were read for it. -/
structure Reads (α : Type) where
  value : α
  places : List (Fin 4096)

instance : Monad Reads where
  pure value := ⟨value, []⟩
  bind read next := ⟨(next read.value).value, read.places ++ (next read.value).places⟩

def readByte (buf : RecvBuffer) (place : Fin 4096) : Reads UInt8 := ⟨buf place, [place]⟩

def readU32 (endian : Endian) (buf : RecvBuffer) (offset : Fin 4096) : Reads UInt32 := do
  let first ← readByte buf offset
  let second ← readByte buf (offset + 1)
  let third ← readByte buf (offset + 2)
  let fourth ← readByte buf (offset + 3)
  return endian.fromBytes first second third fourth

inductive ProcEvent where
  | exec (pid : UInt32)
  | exit (pid : UInt32) (exitCode : Int32)
deriving DecidableEq

/-- `size_of::<libc::nlmsghdr>()`. -/
def hdrSize : Nat := 16

def procEventOffset : Fin 4096 := 16 + 20

def eventDataOffset : Fin 4096 := procEventOffset + 4 + 4 + 8

def PROC_EVENT_EXEC : UInt32 := 0x00000002

def PROC_EVENT_EXIT : UInt32 := 0x80000000

/-- What is sent for the first `len` bytes of the buffer. -/
def readProcEvent (endian : Endian) (buf : RecvBuffer) (len : Nat) : Reads (Option ProcEvent) := do
  if len < hdrSize then return none
  else if len < procEventOffset.val + 4 then return none
  else
    let what ← readU32 endian buf procEventOffset
    if what = PROC_EVENT_EXEC then
      if eventDataOffset.val + 8 ≤ len then
        let pid ← readU32 endian buf eventDataOffset
        return some (.exec pid)
      else return none
    else if what = PROC_EVENT_EXIT then
      if eventDataOffset.val + 16 ≤ len then
        let pid ← readU32 endian buf eventDataOffset
        let exitCode ← readU32 endian buf (eventDataOffset + 8)
        return some (.exit pid exitCode.toInt32)
      else return none
    else return none

/-- A turn of the loop: the datagram, none where `recv` fails, and whether the channel is open. -/
structure RecvTurn where
  datagram : Option (List UInt8)
  listening : Bool

/-- The datagrams a thread handles, each with what is read of it. -/
def readProcEvents (endian : Endian) :
    RecvBuffer → List RecvTurn → List (List UInt8 × Reads (Option ProcEvent))
  | _, [] => []
  | buf, turn :: turns =>
      match turn.datagram with
      | none | some [] => []
      | some datagram =>
          let (buf, len) := receive buf datagram
          let read := readProcEvent endian buf len
          (datagram, read) ::
            if read.value.isSome ∧ ¬ turn.listening then [] else readProcEvents endian buf turns

/-- What `monitor_processes` makes of an event. -/
def ProcEvent.systemEvent (files : UInt32 → ProcFiles) (passwd : Option (List Char))
    (timestamp : Int64) : ProcEvent → SystemEvent
  | .exec pid => (readProcessInfo (files pid) passwd).started pid timestamp
  | .exit pid exitCode => .processExited pid exitCode timestamp

theorem mem_readProcEvents {endian : Endian} {turns : List RecvTurn} {buf : RecvBuffer}
    {handled : List UInt8 × Reads (Option ProcEvent)}
    (member : handled ∈ readProcEvents endian buf turns) : ∃ buf : RecvBuffer,
      handled.2 = readProcEvent endian (receive buf handled.1).1 (receive buf handled.1).2 := by
  induction turns generalizing buf with
  | nil => cases member
  | cons turn turns ih =>
      rw [readProcEvents] at member
      split at member
      · cases member
      · cases member
      · rcases List.mem_cons.mp member with rfl | later
        · exact ⟨buf, rfl⟩
        · split at later
          · cases later
          · exact ih later

/-- A `ProcessExited` comes from an `Exit` alone. -/
theorem ProcEvent.systemEvent_eq_exited {event : ProcEvent} {files : UInt32 → ProcFiles}
    {passwd : Option (List Char)} {timestamp : Int64} {pid : UInt32} {exitCode : Int32} :
    event.systemEvent files passwd timestamp = .processExited pid exitCode timestamp ↔
      event = .exit pid exitCode := by
  cases event with
  | exec pid => exact iff_of_false nofun nofun
  | exit pid exitCode => simp [systemEvent]

/-! ## Where it reads -/

def Reads.Within {α : Type} (len : Nat) (read : Reads α) : Prop :=
  ∀ place ∈ read.places, place.val < len

theorem Reads.Within.pure {α : Type} (len : Nat) (value : α) : (pure value : Reads α).Within len := by
  rintro place ⟨⟩

theorem Reads.Within.bind {α β : Type} {len : Nat} {read : Reads α} {next : α → Reads β}
    (first : read.Within len) (second : ∀ value, (next value).Within len) :
    (read >>= next).Within len := by
  intro place member
  rcases List.mem_append.mp member with member | member
  · exact first place member
  · exact second _ place member

theorem readU32_within {endian : Endian} {buf : RecvBuffer} {offset : Fin 4096} {len : Nat}
    (bound : offset.val + 4 ≤ 4096) (long : offset.val + 4 ≤ len) :
    (readU32 endian buf offset).Within len := by
  intro place member
  have member : place ∈ [offset, offset + 1, offset + 2, offset + 3] := member
  simp only [List.mem_cons, List.not_mem_nil, or_false] at member
  rcases member with rfl | rfl | rfl | rfl
  · omega
  · simp only [Fin.val_add, Fin.val_one]; omega
  · simp only [Fin.val_add, Fin.val_two]; omega
  · simp only [Fin.val_add, show (3 : Fin 4096).val = 3 from rfl]; omega

/-- The guards keep every read within the bytes received. -/
theorem readProcEvent_within (endian : Endian) (buf : RecvBuffer) (len : Nat) :
    (readProcEvent endian buf len).Within len := by
  have within {offset : Fin 4096} {size : Nat} (bound : offset.val + 4 ≤ 4096)
      (inside : offset.val + 4 ≤ size) (long : size ≤ len) :
      (readU32 endian buf offset).Within len :=
    readU32_within bound (inside.trans long)
  rw [readProcEvent]
  split
  · exact .pure _ _
  split
  · exact .pure _ _
  next long =>
    refine .bind (within (by decide) (by decide) (Nat.not_lt.mp long)) fun what => ?_
    split
    · split
      · next long =>
          exact .bind (within (by decide) (by decide) long) fun pid => .pure _ _
      · exact .pure _ _
    split
    · split
      · next long =>
          exact .bind (within (by decide) (by decide) long) fun pid =>
            .bind (within (by decide) (by decide) long) fun exitCode => .pure _ _
      · exact .pure _ _
    · exact .pure _ _

/-! ## What it reads -/

@[simp] theorem Reads.value_pure {α : Type} (value : α) : (pure value : Reads α).value = value := rfl

@[simp] theorem Reads.value_bind {α β : Type} (read : Reads α) (next : α → Reads β) :
    (read >>= next).value = (next read.value).value :=
  rfl

/-- A word of a datagram is read back at its place, whatever the buffer held. -/
theorem readU32_receive {endian : Endian} {datagram : List UInt8} (before after : List UInt8)
    {word : UInt32} {offset : Fin 4096} (buf : RecvBuffer) (cut : datagram = before ++ endian.bytes word ++ after)
    (placed : before.length = offset.val) (bound : offset.val + 4 ≤ 4096) :
    (readU32 endian (receive buf datagram).1 offset).value = word := by
  obtain ⟨first, second, third, fourth, bytes, read⟩ := endian.bytes_eq word
  have byte (place : Fin 4096) (skip : Nat) (value : UInt8) (at_place : place.val = offset.val + skip)
      (listed : [first, second, third, fourth][skip]? = some value) :
      (receive buf datagram).1 place = value := by
    have inside : skip < 4 := (List.getElem?_eq_some_iff.mp listed).1
    change (datagram[place.val]?).getD (buf place) = value
    rw [cut, bytes, at_place, ← placed, List.append_assoc,
      List.getElem?_append_right (Nat.le_add_right _ _), Nat.add_sub_cancel_left,
      List.getElem?_append_left inside, listed, Option.getD_some]
  change endian.fromBytes ((receive buf datagram).1 offset) ((receive buf datagram).1 (offset + 1))
    ((receive buf datagram).1 (offset + 2)) ((receive buf datagram).1 (offset + 3)) = word
  rw [byte offset 0 first rfl rfl, byte (offset + 1) 1 second _ rfl,
    byte (offset + 2) 2 third _ rfl, byte (offset + 3) 3 fourth _ rfl, read]
  · simp only [Fin.val_add, show (3 : Fin 4096).val = 3 from rfl]; omega
  · simp only [Fin.val_add, Fin.val_two]; omega
  · simp only [Fin.val_add, Fin.val_one]; omega

/-! ## The messages of the kernel -/

inductive ProcEventData where
  | exec (processPid processTgid : UInt32)
  | exit (processPid processTgid : UInt32) (exitCode : Int32) (exitSignal : UInt32)
  | other (what : UInt32) (notExec : what ≠ PROC_EVENT_EXEC) (notExit : what ≠ PROC_EVENT_EXIT)

def ProcEventData.what : ProcEventData → UInt32
  | .exec _ _ => PROC_EVENT_EXEC
  | .exit _ _ _ _ => PROC_EVENT_EXIT
  | .other what _ _ => what

def ProcEventData.bytes (endian : Endian) : ProcEventData → List UInt8
  | .exec processPid processTgid => endian.bytes processPid ++ endian.bytes processTgid
  | .exit processPid processTgid exitCode exitSignal =>
      endian.bytes processPid ++ endian.bytes processTgid ++ endian.bytes exitCode.toUInt32 ++
        endian.bytes exitSignal
  | .other _ _ _ => []

def ProcEventData.ThreadExit : ProcEventData → Prop
  | .exit processPid processTgid _ _ => processPid ≠ processTgid
  | _ => False

/-- What an event says about a process. -/
def ProcEventData.processEvent : ProcEventData → Option ProcEvent
  | .exec processPid _ => some (.exec processPid)
  | .exit processPid processTgid exitCode _ =>
      if processPid = processTgid then some (.exit processPid exitCode) else none
  | .other _ _ _ => none

/-- A netlink message with a `proc_event`. -/
structure ProcMessage where
  nlmsghdr : Vector UInt8 16
  cnMsg : Vector UInt8 20
  cpu : UInt32
  timestamp : Vector UInt8 8
  data : ProcEventData
  rest : List UInt8

def ProcMessage.bytes (endian : Endian) (message : ProcMessage) : List UInt8 :=
  message.nlmsghdr.toList ++ message.cnMsg.toList ++ endian.bytes message.data.what ++
    (endian.bytes message.cpu ++ message.timestamp.toList ++
      (message.data.bytes endian ++ message.rest))

/-- The code compares no thread with its process. -/
def ProcEventData.sent : ProcEventData → Option ProcEvent
  | .exec processPid _ => some (.exec processPid)
  | .exit processPid _ exitCode _ => some (.exit processPid exitCode)
  | .other _ _ _ => none

theorem ProcEventData.sent_eq_iff (data : ProcEventData) :
    data.sent = data.processEvent ↔ ¬ data.ThreadExit := by
  cases data with
  | exec => simp [sent, processEvent, ThreadExit]
  | other => simp [sent, processEvent, ThreadExit]
  | exit processPid processTgid =>
      by_cases whole : processPid = processTgid <;> simp [sent, processEvent, ThreadExit, whole]

variable {endian : Endian} {message : ProcMessage}

variable (endian message) in
theorem receive_length (buf : RecvBuffer) : (receive buf (message.bytes endian)).2 =
    min (52 + (message.data.bytes endian).length + message.rest.length) 4096 := by
  simp only [receive, ProcMessage.bytes, List.length_append, Vector.length_toList,
    Endian.length_bytes]
  omega

theorem what_receive (buf : RecvBuffer) :
    (readU32 endian (receive buf (message.bytes endian)).1 procEventOffset).value =
      message.data.what := by
  refine readU32_receive _ _ buf rfl ?_ (by decide)
  simp only [List.length_append, Vector.length_toList]
  rfl

/-- A word of the data, after the words before it. -/
theorem data_receive (before : List UInt8) {after : List UInt8} (word : UInt32) (offset : Fin 4096)
    (buf : RecvBuffer) (cut : message.data.bytes endian = before ++ endian.bytes word ++ after)
    (placed : 52 + before.length = offset.val) (bound : offset.val + 4 ≤ 4096) :
    (readU32 endian (receive buf (message.bytes endian)).1 offset).value = word := by
  refine readU32_receive (message.nlmsghdr.toList ++ message.cnMsg.toList ++
    endian.bytes message.data.what ++ endian.bytes message.cpu ++ message.timestamp.toList ++ before)
    (after ++ message.rest) buf ?_ ?_ bound
  · rw [ProcMessage.bytes, cut]
    simp only [List.append_assoc]
  · simp only [List.length_append, Vector.length_toList, Endian.length_bytes]
    omega

variable (endian message) in
theorem readProcEvent_message (buf : RecvBuffer) :
    (readProcEvent endian (receive buf (message.bytes endian)).1
      (receive buf (message.bytes endian)).2).value = message.data.sent := by
  have long := receive_length endian message buf
  have header : hdrSize = 16 := rfl
  have placed : procEventOffset.val = 36 ∧ eventDataOffset.val = 52 := ⟨rfl, rfl⟩
  rw [readProcEvent, if_neg (by omega), if_neg (by omega), Reads.value_bind, what_receive]
  cases data : message.data with
  | exec processPid processTgid =>
      have size : (message.data.bytes endian).length = 8 := by
        simp [data, ProcEventData.bytes]
      have pid : (readU32 endian (receive buf (message.bytes endian)).1 eventDataOffset).value =
          processPid :=
        data_receive [] _ _ buf (by rw [data]; rfl) rfl (by decide)
      rw [ProcEventData.what, if_pos rfl, if_pos (by omega), Reads.value_bind, pid]
      rfl
  | exit processPid processTgid exitCode exitSignal =>
      have size : (message.data.bytes endian).length = 16 := by
        simp [data, ProcEventData.bytes]
      have pid : (readU32 endian (receive buf (message.bytes endian)).1 eventDataOffset).value =
          processPid :=
        data_receive [] _ _ buf
          (by rw [data, ProcEventData.bytes, List.append_assoc, List.append_assoc]; rfl) rfl
          (by decide)
      have code : (readU32 endian (receive buf (message.bytes endian)).1
          (eventDataOffset + 8)).value = exitCode.toUInt32 :=
        data_receive (endian.bytes processPid ++ endian.bytes processTgid) _ _ buf (by rw [data]; rfl)
          (by rw [List.length_append, Endian.length_bytes, Endian.length_bytes]; rfl) (by decide)
      rw [ProcEventData.what, if_neg (by decide), if_pos rfl, if_pos (by omega), Reads.value_bind,
        pid, Reads.value_bind, code, Int32.toInt32_toUInt32]
      rfl
  | other what notExec notExit =>
      rw [ProcEventData.what, if_neg notExec, if_neg notExit]
      rfl

/-- Whatever was received before, the thread reads within each datagram, and it reports processes
exactly where no thread ends alone. -/
theorem readProcEvents_iff (endian : Endian) (buf : RecvBuffer) (turns : List RecvTurn) :
    (∀ handled ∈ readProcEvents endian buf turns, handled.2.Within handled.1.length) ∧
      ((∀ handled ∈ readProcEvents endian buf turns, ∀ message : ProcMessage,
          handled.1 = message.bytes endian → handled.2.value = message.data.processEvent) ↔
        ∀ handled ∈ readProcEvents endian buf turns, ∀ message : ProcMessage,
          handled.1 = message.bytes endian → ¬ message.data.ThreadExit) := by
  constructor
  · intro handled member place read
    obtain ⟨buf, eq⟩ := mem_readProcEvents member
    rw [eq] at read
    exact (readProcEvent_within _ _ _ place read).trans_le (min_le_left _ _)
  · refine forall₂_congr fun handled member => forall₂_congr fun message received => ?_
    obtain ⟨buf, eq⟩ := mem_readProcEvents member
    rw [eq, received, readProcEvent_message]
    exact message.data.sent_eq_iff

def exitedThread : ProcMessage where
  nlmsghdr := .replicate 16 0
  cnMsg := .replicate 20 0
  cpu := 0
  timestamp := .replicate 8 0
  data := .exit 101 100 0 0
  rest := []

/-- The process 100 goes on, and the exit of a process 101 is sent. -/
theorem readProcEvents_thread_exit :
    ¬ ∀ handled ∈ readProcEvents .little (fun _ => 0) [⟨some (exitedThread.bytes .little), true⟩],
      ∀ message : ProcMessage, handled.1 = message.bytes .little →
        handled.2.value = message.data.processEvent := by
  intro reported
  have sent := reported _ List.mem_cons_self exitedThread rfl
  have exit := readProcEvent_message .little exitedThread fun _ => 0
  exact absurd (exit.symm.trans sent) (by decide)

end OsfmEdm
