import OsfmEdm.Monitor.SnapshotDiffs

/-!
What `read_process_info` of `system_monitor/linux.rs` finds about a process, and whom it names as its
user.
-/

namespace OsfmEdm

open JsonText

structure ProcessInfo where
  path : String
  cmdline : String
  ppid : UInt32
  user : Option String

def readProcessInfo (files : ProcFiles) (passwd : Option (List Char)) : ProcessInfo :=
  let path := files.exe.getD ""
  let cmdline := String.ofList ((files.cmdline.map fun text =>
    trim (String.ofList (text.map fun char => if char = '\x00' then ' ' else char))).getD [])
  let (ppid, uid) := ((files.status.map textLines).getD []).foldl readStatus (0, 0)
  { path, cmdline, ppid, user := resolveUid passwd uid }

def ProcessInfo.started (info : ProcessInfo) (pid : UInt32) (timestamp : Int64) : SystemEvent :=
  .processStarted pid info.ppid info.path info.cmdline info.user timestamp

/-- A poll reports a new process with the same function. -/
theorem ProcSnapshot.started_eq (snapshot : ProcSnapshot) (pid : UInt32) :
    snapshot.started pid =
      (readProcessInfo (snapshot.files pid) snapshot.passwd).started pid snapshot.timestamp :=
  rfl

/-! ## The uid of the status -/

def firstNumber (value : List Char) : Option UInt32 := (splitWhitespace value).head?.bind parseU32

/-- What follows `Uid:` on a line of the status. -/
def uidField (line : List Char) : Option (List Char) := line.dropPrefix? "Uid:\t".toList

/-- The uid of a status; the last of several `Uid` lines counts. -/
def readUid (status : Option (List Char)) : Option UInt32 :=
  (((status.map textLines).getD []).filterMap uidField).getLast?.bind firstNumber

theorem uidField_eq_some {line value : List Char} (field : uidField line = some value) :
    line = "Uid:\t".toList ++ value := by
  obtain ⟨head, cut, same⟩ := List.dropPrefix?_eq_some_iff.mp field
  rw [cut, eq_of_beq same]

theorem uidField_eq_none_of_ppid {line value : List Char}
    (ppid : line.dropPrefix? "PPid:\t".toList = some value) : uidField line = none := by
  obtain ⟨head, cut, same⟩ := List.dropPrefix?_eq_some_iff.mp ppid
  rw [cut, eq_of_beq same]
  rfl

theorem readStatus_uid (read : UInt32 × UInt32) (line : List Char) :
    (readStatus read line).2 =
      match uidField line with
      | some value => (firstNumber value).getD 0
      | none => read.2 := by
  rw [readStatus]
  cases ppid : line.dropPrefix? "PPid:\t".toList with
  | some value => rw [uidField_eq_none_of_ppid ppid]
  | none => rw [uidField]; cases line.dropPrefix? "Uid:\t".toList <;> rfl

/-- The loop over the status keeps the uid of the last `Uid` line. -/
theorem foldl_readStatus_uid (lines : List (List Char)) (read : UInt32 × UInt32) :
    (lines.foldl readStatus read).2 =
      match (lines.filterMap uidField).getLast? with
      | some value => (firstNumber value).getD 0
      | none => read.2 := by
  induction lines generalizing read with
  | nil => rfl
  | cons line lines ih =>
      rw [List.foldl_cons, ih, readStatus_uid]
      cases field : uidField line with
      | none => rw [List.filterMap_cons_none field]
      | some value =>
          rw [List.filterMap_cons_some field, List.getLast?_cons]
          cases (lines.filterMap uidField).getLast? <;> rfl

/-- A uid that could not be read is taken as 0. -/
theorem readProcessInfo_user (files : ProcFiles) (passwd : Option (List Char)) :
    (readProcessInfo files passwd).user = resolveUid passwd ((readUid files.status).getD 0) := by
  have uid := foldl_readStatus_uid ((files.status.map textLines).getD []) (0, 0)
  change resolveUid passwd (List.foldl readStatus (0, 0) _).2 = _
  rw [uid, readUid]
  cases (((files.status.map textLines).getD []).filterMap uidField).getLast? <;> rfl

/-! ## The users -/

def passwdEntry (line : List Char) : Option (List Char × UInt32) :=
  match line.splitOn ':' with
  | user :: _ :: entryUid :: _ => (parseU32 entryUid).map (user, ·)
  | _ => none

/-- The first entry with this uid has this name. -/
def FirstEntry (passwd : Option (List Char)) (uid : UInt32) (name : String) : Prop :=
  ∃ text before line after user, passwd = some text ∧ textLines text = before ++ line :: after ∧
    passwdEntry line = some (user, uid) ∧ name = String.ofList user ∧
      ∀ earlier ∈ before, ∀ other, passwdEntry earlier ≠ some (other, uid)

theorem resolveUid_eq (passwd : Option (List Char)) (uid : UInt32) :
    resolveUid passwd uid = passwd.bind fun text => (textLines text).findSome? fun line =>
      (passwdEntry line).bind fun entry =>
        if entry.2 = uid then some (String.ofList entry.1) else none := by
  rw [resolveUid]
  congr 2
  funext text
  congr 1
  funext line
  rw [passwdEntry]
  -- The fields of the line: fewer than three are no entry.
  rcases line.splitOn ':' with _ | ⟨user, _ | ⟨second, _ | ⟨entryUid, rest⟩⟩⟩
  · rfl
  · rfl
  · rfl
  · change (if parseU32 entryUid = some uid then _ else none) =
      ((parseU32 entryUid).map (user, ·)).bind _
    generalize parseU32 entryUid = parsed
    cases parsed <;> simp

theorem resolveUid_eq_some {passwd : Option (List Char)} {uid : UInt32} {name : String} :
    resolveUid passwd uid = some name ↔ FirstEntry passwd uid name := by
  rw [resolveUid_eq, Option.bind_eq_some_iff]
  have found (line : List Char) : ((passwdEntry line).bind fun entry =>
      if entry.2 = uid then some (String.ofList entry.1) else none) = some name ↔
        ∃ user, passwdEntry line = some (user, uid) ∧ name = String.ofList user := by
    cases passwdEntry line <;> grind
  have skipped (line : List Char) : ((passwdEntry line).bind fun entry =>
      if entry.2 = uid then some (String.ofList entry.1) else none) = none ↔
        ∀ other, passwdEntry line ≠ some (other, uid) := by
    cases passwdEntry line <;> grind
  simp only [List.findSome?_eq_some_iff, found, skipped]
  constructor
  · rintro ⟨text, given, before, line, after, cut, ⟨user, entry, named⟩, first⟩
    exact ⟨text, before, line, after, user, given, cut, entry, named, first⟩
  · rintro ⟨text, before, line, after, user, given, cut, entry, named, first⟩
    exact ⟨text, given, before, line, after, cut, ⟨user, entry, named⟩, first⟩

/-! ## Whom the agent names -/

/-- The user of an event is proven by the files: the status names the uid and the table its name. -/
structure ProvenUser (files : ProcFiles) (passwd : Option (List Char)) (user : Option String) :
    Prop where
  proven : ∀ name, user = some name → ∃ status, files.status = some status ∧ ∃ value uid,
    "Uid:\t".toList ++ value ∈ textLines status ∧ firstNumber value = some uid ∧
      FirstEntry passwd uid name
  unread : readUid files.status = none → user = none

theorem readUid_eq_some {status : Option (List Char)} {uid : UInt32}
    (read : readUid status = some uid) : ∃ text, status = some text ∧ ∃ value,
      "Uid:\t".toList ++ value ∈ textLines text ∧ firstNumber value = some uid := by
  rw [readUid, Option.bind_eq_some_iff] at read
  obtain ⟨value, last, number⟩ := read
  obtain ⟨line, member, field⟩ := List.mem_filterMap.mp (List.mem_of_getLast? last)
  cases status with
  | none => simp at member
  | some text => exact ⟨text, rfl, value, by rw [← uidField_eq_some field]; exact member, number⟩

/-- Without a uid the process is given to the user with the uid 0. -/
theorem readProcessInfo_proven_iff (files : ProcFiles) (passwd : Option (List Char)) :
    ProvenUser files passwd (readProcessInfo files passwd).user ↔
      (readUid files.status).isSome ∨ ∀ name, ¬ FirstEntry passwd 0 name := by
  rw [readProcessInfo_user]
  cases read : readUid files.status with
  | some uid =>
      refine iff_of_true ⟨fun name named => ?_, fun unread => ?_⟩ (.inl rfl)
      · obtain ⟨status, given, value, line, number⟩ := readUid_eq_some read
        exact ⟨status, given, value, uid, line, number, resolveUid_eq_some.mp named⟩
      · rw [read] at unread
        cases unread
  | none =>
      have root : (∀ name, ¬ FirstEntry passwd 0 name) ↔ resolveUid passwd 0 = none := by
        simp only [← resolveUid_eq_some, Option.eq_none_iff_forall_ne_some, ne_eq]
      simp only [Option.getD_none, Option.isSome_none, Bool.false_eq_true, false_or, root]
      constructor
      · exact fun user => user.unread read
      · intro nobody
        refine ⟨fun name named => ?_, fun _ => nobody⟩
        rw [nobody] at named
        cases named

/-- The process ended before its status was read. -/
theorem readProcessInfo_not_proven :
    ¬ ProvenUser ⟨none, none, none⟩ (some "root:x:0:0:root:/root:/bin/sh\n".toList)
      (readProcessInfo ⟨none, none, none⟩ (some "root:x:0:0:root:/root:/bin/sh\n".toList)).user := by
  intro user
  have root : (readProcessInfo ⟨none, none, none⟩
      (some "root:x:0:0:root:/root:/bin/sh\n".toList)).user = some "root" := by decide +kernel
  rw [user.unread rfl] at root
  cases root

end OsfmEdm
