import Mathlib.Data.Finset.Basic
import OsfmEdm.Agent.Probes
import OsfmEdm.Common.Events
import OsfmEdm.Library.Snapshots
import OsfmEdm.Library.Table

/-!
The process and network watchers that poll (`system_monitor/linux.rs`, `windows.rs` and `macos.rs`).
A send that fails ends a watcher, and the list of its events with it.
-/

namespace OsfmEdm

open JsonText Snapshots

/-! ## Processes -/

/-- The files of a process under `/proc`; none where one cannot be read. -/
structure ProcFiles where
  exe : Option String
  cmdline : Option (List Char)
  status : Option (List Char)

def resolveUid (passwd : Option (List Char)) (uid : UInt32) : Option String :=
  passwd.bind fun passwd => (textLines passwd).findSome? fun line =>
    match line.splitOn ':' with
    | user :: _ :: entryUid :: _ =>
        if parseU32 entryUid = some uid then some (String.ofList user) else none
    | _ => none

/-- The parent and the user read so far, with what a line of the status says of them. -/
def readStatus (read : UInt32 × UInt32) (line : List Char) : UInt32 × UInt32 :=
  match line.dropPrefix? "PPid:\t".toList with
  | some value => ((parseU32 (trim (String.ofList value))).getD 0, read.2)
  | none =>
      match line.dropPrefix? "Uid:\t".toList with
      | some value => (read.1, ((splitWhitespace value).head?.bind parseU32).getD 0)
      | none => read

structure ProcSnapshot where
  /-- The names under `/proc`, none where the directory cannot be read. -/
  proc : Option (List (List Char))
  files : UInt32 → ProcFiles
  passwd : Option (List Char)
  timestamp : Int64

/-- `ProcessStarted` with what `read_process_info` finds. -/
def ProcSnapshot.started (snapshot : ProcSnapshot) (pid : UInt32) : SystemEvent :=
  let files := snapshot.files pid
  let path := files.exe.getD ""
  let spaced (text : List Char) := text.map fun char => if char = '\x00' then ' ' else char
  let cmdline := String.ofList ((files.cmdline.map fun text =>
    trim (String.ofList (spaced text))).getD [])
  let (ppid, uid) := ((files.status.map textLines).getD []).foldl readStatus (0, 0)
  .processStarted pid ppid path cmdline (resolveUid snapshot.passwd uid) snapshot.timestamp

def procPids (names : List (List Char)) : List UInt32 := (names.filterMap parseU32).eraseDups

def currentPids (proc : Option (List (List Char))) : List UInt32 :=
  match proc with
  | some names => procPids names
  | none => []

/-- One turn of the loop. -/
def pollProcessesFallback (knownPids : List UInt32) (snapshot : ProcSnapshot) :
    List SystemEvent × List UInt32 :=
  let currentPids := currentPids snapshot.proc
  let started := (currentPids.filter fun pid => pid ∉ knownPids).map snapshot.started
  let exited := (knownPids.filter fun pid => pid ∉ currentPids).map fun pid =>
    .processExited pid (-1) snapshot.timestamp
  (started ++ exited, currentPids)

/-! ## Connections -/

structure TcpEntry where
  localAddr : String
  remoteAddr : String
  state : UInt8
  inode : UInt64

def leBytes (word : UInt32) : List UInt8 :=
  [word.toUInt8, (word >>> 8).toUInt8, (word >>> 16).toUInt8, (word >>> 24).toUInt8]

/-- The fields of the kernel are ASCII. -/
def parseHexAddr (hex : List Char) : List Char :=
  match hex.splitOn ':' with
  | [addrHex, port] =>
      let port := (((parseRadix 16 hexValue? port).filter (· < 65536)).getD 0).toNat
      let bytes (word : List Char) := leBytes ((parseRadix 16 hexValue? word).getD 0)
      if addrHex.length = 8 then
        ['.'].intercalate ((bytes addrHex).map fun byte => writeNat byte.toNat) ++
          ':' :: writeNat port
      else if addrHex.length = 32 then
        let groups := [0, 8, 16, 24].map fun start =>
          let bytes := bytes ((addrHex.drop start).take 8)
          Uuid.hexBytes (bytes.take 2) ++ ':' :: Uuid.hexBytes (bytes.drop 2)
        '[' :: ([':'].intercalate groups ++ "]:".toList ++ writeNat port)
      else hex
  | _ => hex

def parseU64 (token : List Char) : Option UInt64 :=
  if (dropPlus token).isEmpty then none
  else
    ((dropPlus token).foldlM (fun value char =>
      (digitValue? char).map (10 * value + Fin.val ·)) 0).bind fun value =>
        if value < 2 ^ 64 then some (UInt64.ofNat value) else none

def tcpEntry? (line : List Char) : Option TcpEntry :=
  match splitWhitespace line with
  | _ :: localHex :: remoteHex :: state :: _ :: _ :: _ :: _ :: _ :: inode :: _ =>
      some {
        localAddr := String.ofList (parseHexAddr localHex)
        remoteAddr := String.ofList (parseHexAddr remoteHex)
        state := (((parseRadix 16 hexValue? state).filter (· < 256)).getD 0).toUInt8
        inode := (parseU64 inode).getD 0 }
  | _ => none

/-- The lines of a file; none where it cannot be opened, and no line where one cannot be read. -/
abbrev ProcFile := Option (List (Option (List Char)))

def parseProcNetTcp (file : ProcFile) : Option (List TcpEntry) := do
  let lines ← file
  let lines ← (lines.drop 1).mapM id
  return lines.filterMap tcpEntry?

/-- The names under `/proc`, each with the links of the descriptors there that can be read. -/
def resolveSocketPid (proc : Option (List (List Char × List (List Char)))) (inode : UInt64) :
    Option UInt32 :=
  if inode = 0 then none
  else
    let target := "socket:[".toList ++ writeNat inode.toNat ++ "]".toList
    proc.bind fun entries => entries.findSome? fun (name, links) =>
      (parseU32 name).bind fun pid => if links.any (· = target) then some pid else none

inductive TcpFile where
  | tcp
  | tcp6

structure LinuxConnections where
  file : TcpFile → ProcFile
  proc : Option (List (List Char × List (List Char)))
  timestamp : Int64

def TcpEntry.key (entry : TcpEntry) : String := entry.localAddr ++ ":" ++ entry.remoteAddr

/-- The established connections of a file. -/
def establishedEntries (entries : List TcpEntry) : List (String × TcpEntry) :=
  (entries.filter fun entry => entry.state = 1).map fun entry => (entry.key, entry)

def LinuxConnections.current (snapshot : LinuxConnections) : Table String TcpEntry :=
  [TcpFile.tcp, .tcp6].foldl (fun out path =>
    match parseProcNetTcp (snapshot.file path) with
    | some entries => out.putAll (establishedEntries entries)
    | none => out) .empty

structure NetstatConnections where
  output : CommandResult
  timestamp : Int64

/-- The addresses and the process of an established connection, from the columns of its line. -/
abbrev NetstatRow := List (List Char) → Option (List Char × List Char × UInt32)

def windowsRow : NetstatRow
  | proto :: src :: dst :: state :: pid :: _ =>
      if proto = "TCP".toList ∧ state = "ESTABLISHED".toList then
        some (src, dst, (parseU32 pid).getD 0)
      else none
  | _ => none

/-- No process is named. -/
def macosRow : NetstatRow
  | proto :: _ :: _ :: src :: dst :: state :: _ =>
      if (proto = "tcp4".toList ∨ proto = "tcp6".toList ∨ proto = "tcp".toList) ∧
          state = "ESTABLISHED".toList then
        some (src, dst, 0)
      else none
  | _ => none

def netstatEntries (row : NetstatRow) (text : List Char) : List (String × UInt32) :=
  (textLines text).filterMap fun line => (row (splitWhitespace line)).map fun (src, dst, pid) =>
    (String.ofList (src ++ "->".toList ++ dst), pid)

def tcpConnections (row : NetstatRow) (output : CommandResult) : Table String UInt32 :=
  match output with
  | some output =>
      if output.success then Table.empty.putAll (netstatEntries row output.text) else .empty
  | none => .empty

/-- `splitn(2, "->")`. -/
def splitArrow : List Char → List Char × List Char
  | [] => ([], [])
  | '-' :: '>' :: dst => ([], dst)
  | char :: rest => (char :: (splitArrow rest).1, (splitArrow rest).2)

/-- A watcher of connections: the table each poll gives, with what an event says of a row, and the
listings the table is made from. -/
structure ConnectionWatcher (Source Snapshot Row : Type) where
  current : Snapshot → Table String Row
  /-- The process and the two addresses. -/
  connection : Snapshot → String → Row → UInt32 × String × String
  timestamp : Snapshot → Int64
  listings : Snapshot → Listings Source String
  separator : String
  keys : ∀ snapshot key,
    key ∈ (current snapshot).rows.map Prod.fst ↔ (listings snapshot).Lists key
  joined : ∀ snapshot row, row ∈ (current snapshot).rows →
    (connection snapshot row.1 row.2).2.1 ++ separator ++ (connection snapshot row.1 row.2).2.2 =
      row.1

/-- One turn of the loop. -/
def ConnectionWatcher.poll {Source Snapshot Row : Type}
    (watcher : ConnectionWatcher Source Snapshot Row) (known : List String) (snapshot : Snapshot) :
    List SystemEvent × List String :=
  let current := watcher.current snapshot
  (current.rows.filterMap fun (key, row) =>
    if key ∈ known then none
    else
      let (pid, src, dst) := watcher.connection snapshot key row
      some (.networkConnected pid src dst .tcp (watcher.timestamp snapshot)),
    current.rows.map Prod.fst)

/-- What a listing gives for the table; a failure gives nothing. -/
def rowsOf {Row : Type} (listing : Option (List (String × Row))) : List (String × Row) :=
  listing.getD []

theorem mem_rowsOf {Row : Type} {listing : Option (List (String × Row))} {key : String} :
    key ∈ (rowsOf listing).map Prod.fst ↔
      ∃ keys, listing.map (·.map Prod.fst) = some keys ∧ key ∈ keys := by
  cases listing <;> simp [rowsOf]

def LinuxConnections.listing (snapshot : LinuxConnections) (path : TcpFile) :
    Option (List (String × TcpEntry)) :=
  (parseProcNetTcp (snapshot.file path)).map establishedEntries

theorem LinuxConnections.current_eq (snapshot : LinuxConnections) :
    snapshot.current = (Table.empty.putAll (rowsOf (snapshot.listing .tcp))).putAll
      (rowsOf (snapshot.listing .tcp6)) := by
  simp only [current, List.foldl_cons, List.foldl_nil, listing]
  cases parseProcNetTcp (snapshot.file .tcp) <;> cases parseProcNetTcp (snapshot.file .tcp6) <;> rfl

/-- `monitor_network`. -/
def monitorNetwork : ConnectionWatcher TcpFile LinuxConnections TcpEntry where
  current := LinuxConnections.current
  connection snapshot _ entry :=
    ((resolveSocketPid snapshot.proc entry.inode).getD 0, entry.localAddr, entry.remoteAddr)
  timestamp := LinuxConnections.timestamp
  listings snapshot path := (snapshot.listing path).map (·.map Prod.fst)
  separator := ":"
  keys snapshot key := by
    rw [snapshot.current_eq, Table.mem_keys_putAll, Table.mem_keys_putAll, mem_rowsOf, mem_rowsOf]
    constructor
    · rintro ((none | tcp) | tcp6)
      · cases none
      · exact ⟨.tcp, tcp⟩
      · exact ⟨.tcp6, tcp6⟩
    · rintro ⟨path, listed⟩
      cases path with
      | tcp => exact .inl (.inr listed)
      | tcp6 => exact .inr listed
  joined snapshot row member := by
    have keyed (path : TcpFile) (listed : row ∈ rowsOf (snapshot.listing path)) :
        row.2.key = row.1 := by
      rw [rowsOf, LinuxConnections.listing] at listed
      cases entries : parseProcNetTcp (snapshot.file path) with
      | none => simp [entries] at listed
      | some entries' =>
          simp only [entries, Option.map_some, Option.getD_some, establishedEntries,
            List.mem_map] at listed
          obtain ⟨entry, -, rfl⟩ := listed
          rfl
    rw [snapshot.current_eq] at member
    rcases Table.mem_putAll member with earlier | tcp6
    · rcases Table.mem_putAll earlier with none | tcp
      · cases none
      · exact keyed .tcp tcp
    · exact keyed .tcp6 tcp6

/-- The rows of `netstat`; none where it cannot be run or fails. -/
def NetstatConnections.listing (row : NetstatRow) (snapshot : NetstatConnections) :
    Option (List (String × UInt32)) :=
  (snapshot.output.filter (·.success)).map fun output => netstatEntries row output.text

theorem tcpConnections_eq (row : NetstatRow) (snapshot : NetstatConnections) :
    tcpConnections row snapshot.output = Table.empty.putAll (rowsOf (snapshot.listing row)) := by
  obtain ⟨output, timestamp⟩ := snapshot
  cases output with
  | none => rfl
  | some output =>
      rw [tcpConnections, NetstatConnections.listing]
      cases success : output.success <;> simp [success, rowsOf, Table.putAll, Option.filter]

theorem netstat_named {row : NetstatRow} {snapshot : NetstatConnections} {entry : String × UInt32}
    (listed : entry ∈ rowsOf (snapshot.listing row)) :
    ∃ src dst, entry.1 = String.ofList (src ++ "->".toList ++ dst) := by
  rw [rowsOf, NetstatConnections.listing] at listed
  cases given : snapshot.output.filter (·.success) with
  | none => simp [given] at listed
  | some output =>
      simp only [given, Option.map_some, Option.getD_some, netstatEntries, List.mem_filterMap,
        Option.map_eq_some_iff] at listed
      obtain ⟨line, -, ⟨src, dst, pid⟩, -, rfl⟩ := listed
      exact ⟨src, dst, rfl⟩

theorem splitArrow_join (before after : List Char) :
    (splitArrow (before ++ "->".toList ++ after)).1 ++ "->".toList ++
      (splitArrow (before ++ "->".toList ++ after)).2 = before ++ "->".toList ++ after := by
  induction before with
  | nil => rfl
  | cons char before ih =>
      by_cases arrow : char = '-' ∧ (before ++ "->".toList ++ after).head? = some '>'
      · obtain ⟨rfl, next⟩ := arrow
        obtain ⟨rest, cut⟩ := List.head?_eq_some_iff.mp next
        rw [List.cons_append, List.cons_append, cut]
        rfl
      · have split : splitArrow (char :: (before ++ "->".toList ++ after)) =
            (char :: (splitArrow (before ++ "->".toList ++ after)).1,
              (splitArrow (before ++ "->".toList ++ after)).2) := by
          rw [splitArrow]
          rintro dst rfl rest
          exact arrow ⟨rfl, by rw [rest]; rfl⟩
        rw [List.cons_append, List.cons_append, split, List.cons_append, List.cons_append, ih]

/-- `poll_network`, with the rows `tcp_connections` takes. -/
def pollNetwork (row : NetstatRow) : ConnectionWatcher Unit NetstatConnections UInt32 where
  current snapshot := tcpConnections row snapshot.output
  connection _ key pid :=
    (pid, String.ofList (splitArrow key.toList).1, String.ofList (splitArrow key.toList).2)
  timestamp := NetstatConnections.timestamp
  listings snapshot _ := (snapshot.listing row).map (·.map Prod.fst)
  separator := "->"
  keys snapshot key := by
    rw [tcpConnections_eq, Table.mem_keys_putAll, mem_rowsOf]
    constructor
    · rintro (none | listed)
      · cases none
      · exact ⟨(), listed⟩
    · exact fun ⟨_, listed⟩ => .inr listed
  joined snapshot entry member := by
    rw [tcpConnections_eq] at member
    rcases Table.mem_putAll member with none | listed
    · cases none
    · obtain ⟨src, dst, named⟩ := netstat_named listed
      rw [← String.toList_inj, named]
      simpa using splitArrow_join src dst

def pollNetworkWindows := pollNetwork windowsRow

def pollNetworkMacos := pollNetwork macosRow

/-! ## Processes that are reported -/

/-- The pids of the last listing of `/proc` that has not failed, the first one among them. -/
def listedPids (seed : Option (List (List Char))) (before : List ProcSnapshot) :
    Option (List UInt32) := latest ((seed :: before.map ProcSnapshot.proc).map (·.map procPids))

def replay (pids : Finset UInt32) (events : List SystemEvent) : Finset UInt32 :=
  events.foldl (fun pids event =>
    match event with
    | .processStarted pid .. => insert pid pids
    | .processExited pid .. => pids.erase pid
    | _ => pids) pids

/-- The pid of an event is in one of two listings only. -/
def Differs (last current : Option (List UInt32)) : SystemEvent → Prop
  | .processStarted pid .. =>
      ∃ old new, last = some old ∧ current = some new ∧ pid ∉ old ∧ pid ∈ new
  | .processExited pid .. =>
      ∃ old new, last = some old ∧ current = some new ∧ pid ∈ old ∧ pid ∉ new
  | _ => False

structure ProcessesTracked (seed : Option (List (List Char))) (snapshots : List ProcSnapshot) :
    Prop where
  differs : ∀ before snapshot after, snapshots = before ++ snapshot :: after →
    ∀ event ∈ (pollProcessesFallback (stateAfter pollProcessesFallback (currentPids seed) before)
      snapshot).1, Differs (listedPids seed before) (snapshot.proc.map procPids) event
  folded : ∀ before after, snapshots = before ++ after →
    ∀ pids, listedPids seed before = some pids →
      replay (currentPids seed).toFinset (sent pollProcessesFallback (currentPids seed) before) =
        pids.toFinset

/-- Where a listing fails or none before it has succeeded, it is empty, and so is the last one that
has succeeded. -/
def EmptyAtFailures (seed : Option (List (List Char))) (snapshots : List ProcSnapshot) : Prop :=
  ∀ before snapshot after, snapshots = before ++ snapshot :: after →
    snapshot.proc = none ∨ listedPids seed before = none →
      (listedPids seed before).getD [] = [] ∧ currentPids snapshot.proc = []

theorem replay_append (pids : Finset UInt32) (first second : List SystemEvent) :
    replay pids (first ++ second) = replay (replay pids first) second := List.foldl_append

theorem replay_started (pids : Finset UInt32) (snapshot : ProcSnapshot) (started : List UInt32) :
    replay pids (started.map snapshot.started) = pids ∪ started.toFinset := by
  induction started generalizing pids with
  | nil => simp [replay]
  | cons pid started ih =>
      rw [List.map_cons, ← List.singleton_append, replay_append, ih]
      simp [replay, ProcSnapshot.started, Finset.insert_union]

theorem replay_exited (pids : Finset UInt32) (timestamp : Int64) (exited : List UInt32) :
    replay pids (exited.map fun pid => .processExited pid (-1) timestamp) =
      pids \ exited.toFinset := by
  induction exited generalizing pids with
  | nil => simp [replay]
  | cons pid exited ih =>
      rw [List.map_cons, ← List.singleton_append, replay_append, ih]
      simp [replay, Finset.sdiff_insert, Finset.erase_sdiff_comm]

theorem replay_poll (known : List UInt32) (snapshot : ProcSnapshot) :
    replay known.toFinset (pollProcessesFallback known snapshot).1 =
      (pollProcessesFallback known snapshot).2.toFinset := by
  rw [pollProcessesFallback, replay_append, replay_started, replay_exited]
  ext pid
  simp only [Finset.mem_sdiff, Finset.mem_union, List.mem_toFinset, List.mem_filter,
    decide_eq_true_eq]
  tauto

theorem replay_sent (known : List UInt32) (snapshots : List ProcSnapshot) :
    replay known.toFinset (sent pollProcessesFallback known snapshots) =
      (stateAfter pollProcessesFallback known snapshots).toFinset := by
  induction snapshots generalizing known with
  | nil => rfl
  | cons snapshot snapshots ih =>
      rw [sent, replay_append, replay_poll, ih]
      rfl

theorem currentPids_eq (proc : Option (List (List Char))) :
    currentPids proc = (proc.map procPids).getD [] := by
  cases proc <;> rfl

theorem listedPids_append (seed : Option (List (List Char))) (before : List ProcSnapshot)
    (snapshot : ProcSnapshot) : listedPids seed (before ++ [snapshot]) =
      (snapshot.proc.map procPids).or (listedPids seed before) := by
  rw [listedPids, List.map_append, List.map_singleton, ← List.cons_append, List.map_append,
    List.map_singleton, latest_append]
  rfl

theorem poll_known (known : List UInt32) (snapshot : ProcSnapshot) :
    (pollProcessesFallback known snapshot).2 = (snapshot.proc.map procPids).getD [] :=
  currentPids_eq snapshot.proc

/-- Where no listing has succeeded the watcher knows nothing. -/
theorem known_of_none {seed : Option (List (List Char))} {before : List ProcSnapshot}
    (none : listedPids seed before = none) :
    stateAfter pollProcessesFallback (currentPids seed) before = [] := by
  induction before using List.reverseRecOn with
  | nil =>
      have failed := latest_eq_none.mp none (seed.map procPids) (by simp)
      rw [stateAfter, List.foldl_nil, currentPids_eq, failed]
      rfl
  | append_singleton before snapshot ih =>
      rw [listedPids_append, Option.or_eq_none_iff] at none
      rw [stateAfter_append, poll_known, none.1]
      rfl

/-- Otherwise it knows the last listing. -/
theorem known_of_empty {seed : Option (List (List Char))} {before after : List ProcSnapshot}
    (empty : EmptyAtFailures seed (before ++ after)) :
    stateAfter pollProcessesFallback (currentPids seed) before =
      (listedPids seed before).getD [] := by
  induction before using List.reverseRecOn generalizing after with
  | nil => cases seed <;> rfl
  | append_singleton before snapshot ih =>
      rw [stateAfter_append, poll_known, listedPids_append]
      cases failed : snapshot.proc with
      | some names => rfl
      | none => exact (empty before snapshot after (by simp) (.inl failed)).1.symm

theorem mem_poll {known : List UInt32} {snapshot : ProcSnapshot} {event : SystemEvent}
    (sent : event ∈ (pollProcessesFallback known snapshot).1) :
    (∃ pid ∈ currentPids snapshot.proc, pid ∉ known ∧ event = snapshot.started pid) ∨
      ∃ pid ∈ known, pid ∉ currentPids snapshot.proc ∧
        event = .processExited pid (-1) snapshot.timestamp := by
  rw [pollProcessesFallback] at sent
  simp only [List.mem_append, List.mem_map, List.mem_filter, decide_eq_true_eq] at sent
  rcases sent with ⟨pid, ⟨listed, new⟩, rfl⟩ | ⟨pid, ⟨knew, gone⟩, rfl⟩
  · exact .inl ⟨pid, listed, new, rfl⟩
  · exact .inr ⟨pid, knew, gone, rfl⟩

theorem tracked_of_empty {seed : Option (List (List Char))} {snapshots : List ProcSnapshot}
    (empty : EmptyAtFailures seed snapshots) : ProcessesTracked seed snapshots := by
  refine ⟨?_, ?_⟩
  · rintro before snapshot after rfl event sent
    rw [known_of_empty empty] at sent
    have listed (some : currentPids snapshot.proc ≠ [] ∨ (listedPids seed before).getD [] ≠ []) :
        ∃ old new, listedPids seed before = .some old ∧ snapshot.proc.map procPids = .some new := by
      have whole : ¬ (snapshot.proc = none ∨ listedPids seed before = none) := by
        intro failed
        have nothing := empty before snapshot after rfl failed
        exact some.elim (· nothing.2) (· nothing.1)
      rw [not_or] at whole
      obtain ⟨names, found⟩ := Option.ne_none_iff_exists'.mp whole.1
      obtain ⟨old, last⟩ := Option.ne_none_iff_exists'.mp whole.2
      exact ⟨old, procPids names, last, by rw [found]; rfl⟩
    rcases mem_poll sent with ⟨pid, running, new, rfl⟩ | ⟨pid, knew, gone, rfl⟩
    · obtain ⟨old, pids, last, found⟩ := listed (.inl (List.ne_nil_of_mem running))
      rw [currentPids_eq, found] at running
      rw [last] at new
      exact ⟨old, pids, last, found, new, running⟩
    · obtain ⟨old, pids, last, found⟩ := listed (.inr (List.ne_nil_of_mem knew))
      rw [currentPids_eq, found] at gone
      rw [last] at knew
      exact ⟨old, pids, last, found, knew, gone⟩
  · rintro before after rfl pids last
    rw [replay_sent, known_of_empty empty, last]
    rfl

theorem empty_of_tracked {seed : Option (List (List Char))} {snapshots : List ProcSnapshot}
    (tracked : ProcessesTracked seed snapshots) : EmptyAtFailures seed snapshots := by
  rintro before snapshot after cut failed
  cases proc : snapshot.proc with
  | none =>
      refine ⟨?_, rfl⟩
      cases last : listedPids seed before with
      | none => rfl
      | some pids =>
          -- the watcher knows nothing after the failure
          have folded := tracked.folded (before ++ [snapshot]) after (by simpa using cut) pids
            (by rw [listedPids_append, proc, last]; rfl)
          rw [replay_sent, stateAfter_append, poll_known, proc] at folded
          exact (List.toFinset_eq_empty_iff pids).mp folded.symm
  | some names =>
      have none : listedPids seed before = none := failed.resolve_left (by simp [proc])
      refine ⟨by rw [none]; rfl, ?_⟩
      -- the first process listed would be a start
      apply List.eq_nil_iff_forall_not_mem.mpr
      intro pid running
      have sent : snapshot.started pid ∈ (pollProcessesFallback
          (stateAfter pollProcessesFallback (currentPids seed) before) snapshot).1 := by
        rw [known_of_none none, pollProcessesFallback, proc]
        exact List.mem_append_left _ (List.mem_map_of_mem (by simpa using running))
      obtain ⟨old, new, last, -⟩ := tracked.differs before snapshot after cut _ sent
      rw [none] at last
      cases last

/-! ## Connections that are reported -/

def connectionKey? (separator : String) : SystemEvent → Option String
  | .networkConnected _ src dst _ _ => some (src ++ separator ++ dst)
  | _ => none

namespace ConnectionWatcher

variable {Source Snapshot Row : Type} (watcher : ConnectionWatcher Source Snapshot Row)

/-- How often the turn after some snapshots reports a connection. -/
def reports (before : List Snapshot) (snapshot : Snapshot) (key : String) : Nat :=
  ((watcher.poll (stateAfter watcher.poll [] before) snapshot).1.filterMap
    (connectionKey? watcher.separator)).count key

/-- A connection is reported once when it appears, and not again until a listing without it. -/
def ReportsOnce (snapshots : List Snapshot) : Prop :=
  ∀ before snapshot after, snapshots = before ++ snapshot :: after → ∀ key,
    let appears := Appears (before.map watcher.listings) (watcher.listings snapshot) key
    (appears → watcher.reports before snapshot key = 1) ∧
      (¬ appears → watcher.reports before snapshot key = 0)

/-- No connection is listed again after a poll in which its listing has failed. -/
def NoneReturns (snapshots : List Snapshot) : Prop :=
  ∀ before snapshot after, snapshots = before ++ snapshot :: after → ∀ key,
    ¬ Returns (before.map watcher.listings) (watcher.listings snapshot) key

theorem poll_keys (known : List String) (snapshot : Snapshot) :
    (watcher.poll known snapshot).1.filterMap (connectionKey? watcher.separator) =
      ((watcher.current snapshot).rows.map Prod.fst).filter fun key => key ∉ known := by
  rw [poll, List.filterMap_filterMap, List.filter_map, ← List.filterMap_eq_filter,
    List.map_filterMap]
  apply List.filterMap_congr
  rintro ⟨key, row⟩ member
  by_cases knew : key ∈ known
  · simp [knew, Option.guard]
  · simpa [knew, Option.guard, connectionKey?] using watcher.joined snapshot (key, row) member

theorem mem_known (before : List Snapshot) (key : String) :
    key ∈ stateAfter watcher.poll [] before ↔
      (previousListings (before.map watcher.listings)).Lists key := by
  rcases List.eq_nil_or_concat before with rfl | ⟨earlier, last, rfl⟩
  · constructor
    · intro member
      cases member
    · rintro ⟨source, items, listed, -⟩
      cases listed
  · rw [List.concat_eq_append, stateAfter_append, List.map_append, previousListings]
    simpa [poll] using watcher.keys last key

/-- Reported once or not at all, against the poll before. -/
theorem reports_eq (before : List Snapshot) (snapshot : Snapshot) (key : String) :
    ((watcher.listings snapshot).Lists key ∧
        ¬ (previousListings (before.map watcher.listings)).Lists key ∧
          watcher.reports before snapshot key = 1) ∨
      (¬ ((watcher.listings snapshot).Lists key ∧
        ¬ (previousListings (before.map watcher.listings)).Lists key) ∧
          watcher.reports before snapshot key = 0) := by
  rw [reports, poll_keys, ← watcher.keys, ← watcher.mem_known]
  by_cases new : key ∈ ((watcher.current snapshot).rows.map Prod.fst).filter fun key =>
      key ∉ stateAfter watcher.poll [] before
  · have once := List.count_eq_one_of_mem ((watcher.current snapshot).unique.filter _) new
    simp only [List.mem_filter, decide_eq_true_eq] at new
    exact .inl ⟨new.1, new.2, once⟩
  · have never := List.count_eq_zero_of_not_mem new
    simp only [List.mem_filter, decide_eq_true_eq] at new
    exact .inr ⟨new, never⟩

theorem reportsOnce_iff (snapshots : List Snapshot) :
    watcher.ReportsOnce snapshots ↔ watcher.NoneReturns snapshots := by
  unfold ReportsOnce NoneReturns
  refine forall_congr' fun before => forall_congr' fun snapshot => forall_congr' fun after =>
    forall_congr' fun _ => forall_congr' fun key => ?_
  rw [← new_iff_appears]
  rcases watcher.reports_eq before snapshot key with ⟨listed, new, once⟩ | ⟨old, never⟩
  · simp [once, listed, new]
  · simp [never, old]

/-- The ordinary run, in which no listing fails. -/
theorem noneReturns_of_whole {snapshots : List Snapshot}
    (whole : ∀ snapshot ∈ snapshots, ∀ source, (watcher.listings snapshot source).isSome) :
    watcher.NoneReturns snapshots := by
  rintro before snapshot after rfl key
  rcases List.eq_nil_or_concat before with rfl | ⟨earlier, last, rfl⟩
  · rintro ⟨-, ⟨source, items, listed, -⟩, -⟩
    cases listed
  · rw [List.concat_eq_append, List.map_append, List.map_singleton]
    exact not_returns (whole last (by simp))

end ConnectionWatcher

/-- The watchers report what differs between listings that succeed just where nothing stands on
either side of one that fails: no process at all, and no connection that is listed before it and
again after it. -/
theorem snapshot_diffs_iff (seed : Option (List (List Char))) (processes : List ProcSnapshot)
    (linux : List LinuxConnections) (netstat : List NetstatConnections) :
    (ProcessesTracked seed processes ↔ EmptyAtFailures seed processes) ∧
      (monitorNetwork.ReportsOnce linux ↔ monitorNetwork.NoneReturns linux) ∧
      (pollNetworkWindows.ReportsOnce netstat ↔ pollNetworkWindows.NoneReturns netstat) ∧
      (pollNetworkMacos.ReportsOnce netstat ↔ pollNetworkMacos.NoneReturns netstat) :=
  ⟨⟨empty_of_tracked, tracked_of_empty⟩, monitorNetwork.reportsOnce_iff linux,
    pollNetworkWindows.reportsOnce_iff netstat, pollNetworkMacos.reportsOnce_iff netstat⟩

/-- A snapshot without `/proc`. -/
def noProc : ProcSnapshot where
  proc := none
  files _ := ⟨none, none, none⟩
  passwd := none
  timestamp := 0

def netstatPrints : NetstatConnections where
  output := some (printed "TCP 10.0.0.2:50000 10.0.0.7:443 ESTABLISHED 4242".toList)
  timestamp := 0

/-- A snapshot without `netstat`. -/
def noNetstat : NetstatConnections := ⟨none, 0⟩

/-- The one process is reported to have exited, and the one connection to be new again. -/
theorem snapshot_diffs_fail :
    ¬ ProcessesTracked (some ["1".toList]) [noProc] ∧
      ¬ pollNetworkWindows.ReportsOnce [netstatPrints, noNetstat, netstatPrints] := by
  constructor
  · intro tracked
    have folded := tracked.folded [noProc] [] rfl [1] (by decide)
    exact absurd folded (by decide)
  · intro once
    have reported : pollNetworkWindows.reports [netstatPrints, noNetstat] netstatPrints
        "10.0.0.2:50000->10.0.0.7:443" = 1 := by decide +kernel
    have listed : ¬ Appears ([netstatPrints, noNetstat].map pollNetworkWindows.listings)
        (pollNetworkWindows.listings netstatPrints) "10.0.0.2:50000->10.0.0.7:443" :=
      fun appears => appears.2 ⟨(), ["10.0.0.2:50000->10.0.0.7:443"], by decide +kernel, by simp⟩
    have never := (once _ _ [] rfl _).2 listed
    rw [reported] at never
    cases never

end OsfmEdm
