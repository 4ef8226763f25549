import OsfmEdm.Monitor.ProcConnector

/-!
The addresses of `/proc/net/tcp` and `/proc/net/tcp6`: what the kernel prints of the two ends of a
socket, and what `parse_hex_addr` makes of it.
-/

namespace OsfmEdm

open JsonText

/-! ## Endpoints -/

/-- Four parts in the order of the network. -/
structure Quad (α : Type) where
  first : α
  second : α
  third : α
  fourth : α
deriving DecidableEq

def Quad.toList {α : Type} (quad : Quad α) : List α :=
  [quad.first, quad.second, quad.third, quad.fourth]

theorem Quad.toList_injective {α : Type} : Function.Injective (@Quad.toList α) := by
  rintro ⟨_, _, _, _⟩ ⟨_, _, _, _⟩ same
  cases same
  rfl

inductive Endpoint where
  | v4 (address : Quad UInt8) (port : UInt16)
  /-- The address in its four words. -/
  | v6 (address : Quad (Quad UInt8)) (port : UInt16)
deriving DecidableEq

/-- The word a little-endian kernel has where the bytes stand. -/
def Quad.word (bytes : Quad UInt8) : UInt32 :=
  Endian.little.fromBytes bytes.first bytes.second bytes.third bytes.fourth

def upperHexDigit (value : Nat) : Char :=
  if value < 10 then Char.ofNat (48 + value) else Char.ofNat (55 + value)

/-- `%0*X` of a value that has no more digits than the width. -/
def upperHex : Nat → Nat → List Char
  | 0, _ => []
  | width + 1, value => upperHex width (value / 16) ++ [upperHexDigit (value % 16)]

/-- An IPv4 address in decimal. -/
def dotted (address : Quad UInt8) : List Char :=
  ['.'].intercalate (address.toList.map fun byte => writeNat byte.toNat)

/-- An IPv6 address in eight groups. -/
def grouped (address : Quad (Quad UInt8)) : List Char :=
  [':'].intercalate (address.toList.flatMap fun word =>
    [Uuid.hexBytes [word.first, word.second], Uuid.hexBytes [word.third, word.fourth]])

namespace Endpoint

def kernelText : Endpoint → List Char
  | .v4 address port => upperHex 8 address.word.toNat ++ ':' :: upperHex 4 port.toNat
  | .v6 address port =>
      address.toList.flatMap (fun word => upperHex 8 word.word.toNat) ++
        ':' :: upperHex 4 port.toNat

def text : Endpoint → List Char
  | .v4 address port => dotted address ++ ':' :: writeNat port.toNat
  | .v6 address port => '[' :: (grouped address ++ "]:".toList ++ writeNat port.toNat)

end Endpoint

/-! ## Digits -/

theorem hexValue_upperHexDigit : ∀ value < 16, hexValue? (upperHexDigit value) = some value := by
  decide

theorem upperHexDigit_plain : ∀ value < 16,
    upperHexDigit value ≠ '+' ∧ upperHexDigit value ≠ ':' := by
  decide

theorem upperHex_plain (width value : Nat) : ∀ char ∈ upperHex width value,
    char ≠ '+' ∧ char ≠ ':' := by
  induction width generalizing value with
  | zero => exact fun _ member => nomatch member
  | succ width ih =>
      intro char member
      rcases List.mem_append.mp member with high | low
      · exact ih _ char high
      · rw [List.mem_singleton.mp low]
        exact upperHexDigit_plain _ (Nat.mod_lt _ (by decide))

@[simp] theorem length_upperHex (width value : Nat) : (upperHex width value).length = width := by
  induction width generalizing value with
  | zero => rfl
  | succ width ih => rw [upperHex, List.length_append, ih]; rfl

theorem foldlM_upperHex (width value : Nat) (fits : value < 16 ^ width) :
    (upperHex width value).foldlM
      (fun value char => (hexValue? char).map (16 * value + ·)) 0 = some value := by
  induction width generalizing value with
  | zero =>
      rw [Nat.pow_zero, Nat.lt_one_iff] at fits
      subst fits
      rfl
  | succ width ih =>
      have high : value / 16 < 16 ^ width := by
        rw [Nat.div_lt_iff_lt_mul (by decide), ← Nat.pow_succ]
        exact fits
      have low := hexValue_upperHexDigit (value % 16) (Nat.mod_lt _ (by decide))
      rw [upperHex, List.foldlM_append, ih _ high]
      simp only [Option.bind_eq_bind, Option.bind_some, List.foldlM_cons, low, Option.map_some,
        List.foldlM_nil, Nat.div_add_mod]
      rfl

theorem parseRadix_upperHex {width value : Nat} (some : width ≠ 0) (fits : value < 16 ^ width)
    (small : value < 2 ^ 32) :
    parseRadix 16 hexValue? (upperHex width value) = .some (UInt32.ofNat value) := by
  have plain := dropPlus_of_plain fun char member => (upperHex_plain width value char member).1
  have filled : (upperHex width value).isEmpty = false := by
    rw [List.isEmpty_eq_false_iff, ← List.length_pos_iff, length_upperHex]
    exact Nat.pos_of_ne_zero some
  rw [parseRadix, plain, filled, if_neg (by decide), foldlM_upperHex _ _ fits, Option.bind_some,
    if_pos small]

/-- What stands in memory comes back, byte for byte. -/
theorem leBytes_word (bytes : Quad UInt8) : leBytes bytes.word = bytes.toList := by
  obtain ⟨first, second, third, fourth⟩ := bytes
  have bounds := And.intro (And.intro first.toNat_lt second.toNat_lt)
    (And.intro third.toNat_lt fourth.toNat_lt)
  simp only [leBytes, Quad.word, Endian.fromBytes, Quad.toList, List.cons.injEq, and_true,
    ← UInt8.toNat_inj, UInt32.toNat_toUInt8, UInt32.toNat_shiftRight, UInt32.toNat_ofNat',
    UInt32.reduceToNat, Nat.reduceMod, Nat.shiftRight_eq_div_pow]
  omega

theorem parseRadix_word (bytes : Quad UInt8) :
    leBytes ((parseRadix 16 hexValue? (upperHex 8 bytes.word.toNat)).getD 0) = bytes.toList := by
  have bound := bytes.word.toNat_lt
  rw [parseRadix_upperHex (by decide) bound bound, Option.getD_some, UInt32.ofNat_toNat,
    leBytes_word]

theorem parseRadix_below {width value : Nat} {bound : UInt32} (some : width ≠ 0)
    (fits : value < 16 ^ width) (small : value < bound.toNat) :
    ((parseRadix 16 hexValue? (upperHex width value)).filter (· < bound)).getD 0 =
      UInt32.ofNat value := by
  have word : value < 2 ^ 32 := small.trans bound.toNat_lt
  have below : UInt32.ofNat value < bound := by
    rw [UInt32.lt_iff_toNat_lt, UInt32.toNat_ofNat_of_lt' word]
    exact small
  rw [parseRadix_upperHex some fits word, Option.filter_some, if_pos (by simpa using below),
    Option.getD_some]

theorem parseRadix_port (port : UInt16) :
    (((parseRadix 16 hexValue? (upperHex 4 port.toNat)).filter (· < 65536)).getD 0).toNat =
      port.toNat := by
  have bound := port.toNat_lt
  rw [parseRadix_below (by decide) bound bound,
    UInt32.toNat_ofNat_of_lt' (bound.trans (by decide))]

theorem parseRadix_state (state : UInt8) :
    (((parseRadix 16 hexValue? (upperHex 2 state.toNat)).filter (· < 256)).getD 0).toUInt8 =
      state := by
  have bound := state.toNat_lt
  rw [parseRadix_below (by decide) bound bound, ← UInt8.toNat_inj, UInt32.toNat_toUInt8,
    UInt32.toNat_ofNat_of_lt' (bound.trans (by decide)), Nat.mod_eq_of_lt bound]

/-! ## What is read -/

theorem splitOn_upperHex {address : List Char} (plain : ':' ∉ address) (port : Nat) :
    (address ++ ':' :: upperHex 4 port).splitOn ':' = [address, upperHex 4 port] := by
  have ends : ':' ∉ upperHex 4 port := fun member => (upperHex_plain 4 port ':' member).2 rfl
  rw [List.splitOn_append_cons_self_of_not_mem plain, List.splitOn_eq_singleton ends]

/-- The slices of eight digits are the words. -/
theorem slices_words (words : Quad (Quad UInt8)) {digits : Quad UInt8 → List Char}
    (eight : ∀ word, (digits word).length = 8) : [0, 8, 16, 24].map (fun start =>
      ((words.toList.flatMap digits).drop start).take 8) = words.toList.map digits := by
  obtain ⟨first, second, third, fourth⟩ := words
  have kept (word : Quad UInt8) (rest : List Char) :
      (digits word ++ rest).take 8 = digits word := by
    rw [← eight word, List.take_left]
  have dropped (word : Quad UInt8) (rest : List Char) (more : Nat) :
      (digits word ++ rest).drop (8 + more) = rest.drop more := by
    rw [← List.drop_drop, ← eight word, List.drop_left]
  have two := dropped first (digits second ++ (digits third ++ (digits fourth ++ []))) 0
  have three := dropped first (digits second ++ (digits third ++ (digits fourth ++ []))) 8
  have four := dropped first (digits second ++ (digits third ++ (digits fourth ++ []))) 16
  simp only [Quad.toList, List.flatMap_cons, List.flatMap_nil, List.map_cons, List.map_nil,
    List.drop_zero, kept, two, three, four, dropped _ _ 0, dropped _ _ 8]

theorem parseHexAddr_kernelText (endpoint : Endpoint) :
    parseHexAddr endpoint.kernelText = endpoint.text := by
  cases endpoint with
  | v4 address port =>
      have plain : ':' ∉ upperHex 8 address.word.toNat := fun member =>
        (upperHex_plain _ _ ':' member).2 rfl
      rw [parseHexAddr, Endpoint.kernelText, splitOn_upperHex plain]
      simp only [length_upperHex, if_true, parseRadix_word, parseRadix_port]
      rfl
  | v6 address port =>
      have plain : ':' ∉ address.toList.flatMap fun word => upperHex 8 word.word.toNat := by
        intro member
        obtain ⟨word, -, digit⟩ := List.mem_flatMap.mp member
        exact (upperHex_plain _ _ ':' digit).2 rfl
      rw [parseHexAddr, Endpoint.kernelText, splitOn_upperHex plain]
      have length :
          (address.toList.flatMap fun word => upperHex 8 word.word.toNat).length = 32 := by
        simp [Quad.toList]
      let group (bytes : List UInt8) : List Char :=
        Uuid.hexBytes (bytes.take 2) ++ ':' :: Uuid.hexBytes (bytes.drop 2)
      have slices := congrArg (List.map fun digits =>
          group (leBytes ((parseRadix 16 hexValue? digits).getD 0)))
        (slices_words address fun word => length_upperHex 8 word.word.toNat)
      simp only [List.map_map, Function.comp_def, parseRadix_word] at slices
      simp only [length, parseRadix_port, if_true]
      calc
        _ = '[' :: ([':'].intercalate (address.toList.map fun word => group word.toList) ++
              "]:".toList ++ writeNat port.toNat) := by rw [← slices]; rfl
        _ = (Endpoint.v6 address port).text := rfl

/-! ## Endpoints are told apart -/

theorem writeNat_plain (value : Nat) : ∀ char ∈ writeNat value,
    char ≠ '.' ∧ char ≠ ':' ∧ char ≠ '[' :=
  forall_mem_writeNat (by decide) value

theorem hexDigit_plain : ∀ value < 16, hexDigit value ≠ ':' ∧ hexDigit value ≠ ']' := by
  decide

theorem hexBytes_plain (bytes : List UInt8) : ∀ char ∈ Uuid.hexBytes bytes,
    char ≠ ':' ∧ char ≠ ']' := by
  intro char member
  obtain ⟨byte, -, digit⟩ := List.mem_flatMap.mp member
  have bound := byte.toNat_lt
  rcases List.mem_pair.mp digit with rfl | rfl
  · exact hexDigit_plain _ (by omega)
  · exact hexDigit_plain _ (by omega)

theorem hexBytes_injective : Function.Injective Uuid.hexBytes := by
  intro first second same
  have both := (Uuid.readHexBytes_hexBytes first).symm.trans
    (same ▸ Uuid.readHexBytes_hexBytes second)
  exact Option.some.inj both

theorem splitOn_dotted (address : Quad UInt8) :
    (dotted address).splitOn '.' = address.toList.map fun byte => writeNat byte.toNat := by
  refine List.splitOn_intercalate '.' ?_ (by simp [Quad.toList])
  intro part member dot
  obtain ⟨byte, -, rfl⟩ := List.mem_map.mp member
  exact (writeNat_plain _ '.' dot).1 rfl

theorem splitOn_grouped (address : Quad (Quad UInt8)) :
    (grouped address).splitOn ':' = (address.toList.flatMap fun word =>
      [[word.first, word.second], [word.third, word.fourth]]).map Uuid.hexBytes := by
  rw [List.map_flatMap]
  refine List.splitOn_intercalate ':' ?_ (by simp [Quad.toList])
  intro part member colon
  obtain ⟨word, -, half⟩ := List.mem_flatMap.mp member
  rcases List.mem_pair.mp half with rfl | rfl
  · exact (hexBytes_plain _ ':' colon).1 rfl
  · exact (hexBytes_plain _ ':' colon).1 rfl

theorem dotted_plain (address : Quad UInt8) : ':' ∉ dotted address := by
  intro colon
  obtain ⟨part, member, inside⟩ := (Lines.mem_parts (by decide : ':' ≠ '.')).mp colon
  rw [splitOn_dotted] at member
  obtain ⟨byte, -, rfl⟩ := List.mem_map.mp member
  exact (writeNat_plain _ ':' inside).2.1 rfl

theorem grouped_plain (address : Quad (Quad UInt8)) : ']' ∉ grouped address := by
  intro bracket
  obtain ⟨part, member, inside⟩ := (Lines.mem_parts (by decide : ']' ≠ ':')).mp bracket
  rw [splitOn_grouped] at member
  obtain ⟨bytes, -, rfl⟩ := List.mem_map.mp member
  exact (hexBytes_plain _ ']' inside).2 rfl

theorem dotted_injective : Function.Injective dotted := by
  intro first second same
  have decimal : Function.Injective fun byte : UInt8 => writeNat byte.toNat := fun _ _ equal =>
    UInt8.toNat_inj.mp (writeNat_injective equal)
  have bytes := (splitOn_dotted first).symm.trans (same ▸ splitOn_dotted second)
  exact Quad.toList_injective (List.map_injective_iff.mpr decimal bytes)

theorem grouped_injective : Function.Injective grouped := by
  rintro ⟨⟨_, _, _, _⟩, ⟨_, _, _, _⟩, ⟨_, _, _, _⟩, ⟨_, _, _, _⟩⟩ second same
  have groups := List.map_injective_iff.mpr hexBytes_injective
    ((splitOn_grouped _).symm.trans (same ▸ splitOn_grouped second))
  obtain ⟨⟨_, _, _, _⟩, ⟨_, _, _, _⟩, ⟨_, _, _, _⟩, ⟨_, _, _, _⟩⟩ := second
  cases groups
  rfl

theorem port_inj {port other : UInt16} {rest others : List Char}
    (same : writeNat port.toNat ++ ':' :: rest = writeNat other.toNat ++ ':' :: others) :
    port = other ∧ rest = others := by
  have plain (port : UInt16) : ':' ∉ writeNat port.toNat := fun colon =>
    (writeNat_plain _ ':' colon).2.1 rfl
  obtain ⟨ports, rests⟩ := Lines.cut_inj (plain port) (plain other) same
  exact ⟨UInt16.toNat_inj.mp (writeNat_injective ports), rests⟩

theorem dotted_ne_bracket (address : Quad UInt8) (rest others : List Char) :
    dotted address ++ rest ≠ '[' :: others := by
  obtain ⟨first, digits, shape⟩ := List.exists_cons_of_ne_nil (writeNat_ne_nil address.first.toNat)
  have plain := (writeNat_plain address.first.toNat first (by simp [shape])).2.2
  intro same
  rw [dotted, Quad.toList, List.map_cons, List.map_cons, List.intercalate_cons_cons, shape] at same
  exact plain (List.cons.inj same).1

/-- An address ends where it has its one colon, or where the bracket is closed. -/
theorem Endpoint.text_cut {first second : Endpoint} {rest others : List Char}
    (same : first.text ++ ':' :: rest = second.text ++ ':' :: others) :
    first = second ∧ rest = others := by
  cases first with
  | v4 address port =>
      cases second with
      | v4 other otherPort =>
          simp only [text, List.append_assoc, List.cons_append] at same
          obtain ⟨addresses, after⟩ := Lines.cut_inj (dotted_plain _) (dotted_plain _) same
          obtain ⟨rfl, rests⟩ := port_inj after
          exact ⟨by rw [dotted_injective addresses], rests⟩
      | v6 other otherPort =>
          simp only [text, List.append_assoc, List.cons_append] at same
          exact absurd same (dotted_ne_bracket _ _ _)
  | v6 address port =>
      cases second with
      | v4 other otherPort =>
          simp only [text, List.append_assoc, List.cons_append] at same
          exact absurd same.symm (dotted_ne_bracket _ _ _)
      | v6 other otherPort =>
          simp only [text, List.append_assoc, List.cons_append, List.cons.injEq, true_and] at same
          obtain ⟨addresses, after⟩ := Lines.cut_inj (grouped_plain _) (grouped_plain _) same
          obtain ⟨rfl, rests⟩ := port_inj (List.cons.inj after).2
          exact ⟨by rw [grouped_injective addresses], rests⟩

theorem Endpoint.text_injective : Function.Injective text := by
  intro first second same
  exact (@text_cut first second [] [] (by rw [same])).1

/-- The key of a connection between two ends. -/
def endsKey (ends : Endpoint × Endpoint) : String :=
  TcpEntry.key ⟨String.ofList ends.1.text, String.ofList ends.2.text, 1, 0⟩

theorem endsKey_injective : Function.Injective endsKey := by
  rintro ⟨near, far⟩ ⟨nearOther, farOther⟩ same
  have texts : near.text ++ ':' :: far.text = nearOther.text ++ ':' :: farOther.text := by
    have chars := congrArg String.toList same
    simpa [endsKey, TcpEntry.key] using chars
  obtain ⟨rfl, fars⟩ := Endpoint.text_cut texts
  rw [Endpoint.text_injective fars]

/-! ## The sockets of a table -/

structure TcpSocket where
  localAddr : Endpoint
  remoteAddr : Endpoint
  state : UInt8
  inode : UInt64

namespace TcpSocket

def ends (socket : TcpSocket) : Endpoint × Endpoint := (socket.localAddr, socket.remoteAddr)

/-- A line for the socket, with anything in the columns that are not read. -/
def Printed (socket : TcpSocket) (line : List Char) : Prop :=
  ∃ sl queues timer retrnsmt uid timeout rest, splitWhitespace line =
    sl :: socket.localAddr.kernelText :: socket.remoteAddr.kernelText ::
      upperHex 2 socket.state.toNat :: queues :: timer :: retrnsmt :: uid :: timeout ::
        writeNat socket.inode.toNat :: rest

def entry (socket : TcpSocket) : TcpEntry where
  localAddr := String.ofList socket.localAddr.text
  remoteAddr := String.ofList socket.remoteAddr.text
  state := socket.state
  inode := socket.inode

end TcpSocket

theorem parseU64_writeNat (value : UInt64) : parseU64 (writeNat value.toNat) = some value := by
  have filled : (writeNat value.toNat).isEmpty = false :=
    List.isEmpty_eq_false_iff.mpr (writeNat_ne_nil _)
  have read := foldlM_writeNat value.toNat
  simp only [Option.map_map, Function.comp_def] at read
  rw [parseU64, dropPlus_writeNat, filled, if_neg (by decide), read, Option.bind_some,
    if_pos value.toNat_lt, UInt64.ofNat_toNat]

theorem tcpEntry_of_printed {socket : TcpSocket} {line : List Char}
    (printed : socket.Printed line) : tcpEntry? line = some socket.entry := by
  obtain ⟨sl, queues, timer, retrnsmt, uid, timeout, rest, columns⟩ := printed
  simp only [columns, tcpEntry?, parseHexAddr_kernelText, parseRadix_state, parseU64_writeNat,
    Option.getD_some, TcpSocket.entry]

/-- The file of some sockets under its heading, or no file where there is no such socket. -/
def Prints (file : ProcFile) (sockets : List TcpSocket) : Prop :=
  (file = none ∧ sockets = []) ∨ ∃ heading lines, file = some (some heading :: lines.map some) ∧
    List.Forall₂ TcpSocket.Printed sockets lines

def established (sockets : List TcpSocket) : List TcpSocket :=
  sockets.filter fun socket => socket.state = 1

theorem rowsOf_prints {file : ProcFile} {sockets : List TcpSocket} (prints : Prints file sockets) :
    rowsOf ((parseProcNetTcp file).map establishedEntries) =
      (established sockets).map fun socket => (endsKey socket.ends, socket.entry) := by
  rcases prints with ⟨rfl, rfl⟩ | ⟨heading, lines, rfl, printed⟩
  · rfl
  · have readable : (lines.map some).mapM id = some lines := by
      clear printed
      induction lines with
      | nil => rfl
      | cons line lines ih =>
          rw [List.map_cons, List.mapM_cons, ih]
          rfl
    have parsed : parseProcNetTcp (some (some heading :: lines.map some)) =
        some (lines.filterMap tcpEntry?) := by
      rw [parseProcNetTcp, Option.bind_eq_bind, Option.bind_some, List.drop_one, List.tail_cons,
        readable]
      rfl
    have entries : lines.filterMap tcpEntry? = sockets.map TcpSocket.entry := by
      clear readable parsed
      induction printed with
      | nil => rfl
      | cons line lines ih => rw [List.filterMap_cons, tcpEntry_of_printed line, List.map_cons, ih]
    rw [parsed, Option.map_some, rowsOf, Option.getD_some, entries, establishedEntries,
      List.filter_map, List.map_map]
    rfl

section

variable {snapshot : LinuxConnections} {tcp tcp6 : List TcpSocket}
  (prints : Prints (snapshot.file .tcp) tcp) (prints6 : Prints (snapshot.file .tcp6) tcp6)

include prints prints6

theorem current_of_prints : snapshot.current = Table.empty.putAll
    ((established (tcp ++ tcp6)).map fun socket => (endsKey socket.ends, socket.entry)) := by
  have rows := rowsOf_prints prints
  have rows6 := rowsOf_prints prints6
  have all : established (tcp ++ tcp6) = established tcp ++ established tcp6 :=
    List.filter_append ..
  rw [snapshot.current_eq, LinuxConnections.listing, LinuxConnections.listing, rows, rows6, all,
    List.map_append]
  exact List.foldl_append.symm

theorem mem_current (ends : Endpoint × Endpoint) :
    endsKey ends ∈ snapshot.current.rows.map Prod.fst ↔
      ends ∈ (established (tcp ++ tcp6)).map TcpSocket.ends := by
  rw [current_of_prints prints prints6, Table.mem_keys_putAll, List.map_map]
  have keys : (Prod.fst ∘ fun socket : TcpSocket => (endsKey socket.ends, socket.entry)) =
      endsKey ∘ TcpSocket.ends := rfl
  rw [keys, ← List.map_map, List.mem_map_of_injective endsKey_injective]
  exact or_iff_right (by simp [Table.empty])

/-- A row is of a socket with the two ends of its key. -/
theorem find_current {socket : TcpSocket} (member : socket ∈ established (tcp ++ tcp6)) :
    ∃ own ∈ established (tcp ++ tcp6), own.ends = socket.ends ∧
      snapshot.current.find? (endsKey socket.ends) = some own.entry := by
  have there : snapshot.current.find? (endsKey socket.ends) ≠ none := by
    rw [Ne, Table.find?_eq_none, not_not, mem_current prints prints6]
    exact List.mem_map_of_mem member
  obtain ⟨row, found⟩ := Option.ne_none_iff_exists'.mp there
  have given := (Table.find?_eq_some ..).mp found
  rw [current_of_prints prints prints6] at given
  rcases Table.mem_putAll given with none | given
  · cases none
  · obtain ⟨own, ownMember, equal⟩ := List.mem_map.mp given
    obtain ⟨keys, rows⟩ := Prod.ext_iff.mp equal
    exact ⟨own, ownMember, endsKey_injective keys, found.trans (congrArg some rows.symm)⟩

theorem count_poll (known : List (Endpoint × Endpoint)) (ends : Endpoint × Endpoint) :
    ((monitorNetwork.poll (known.map endsKey) snapshot).1.filterMap
        (connectionKey? monitorNetwork.separator)).count (endsKey ends) =
      if ends ∈ (established (tcp ++ tcp6)).map TcpSocket.ends ∧ ends ∉ known then 1 else 0 := by
  have mem : endsKey ends ∈ ((monitorNetwork.current snapshot).rows.map Prod.fst).filter
      (fun key => key ∉ known.map endsKey) ↔
        ends ∈ (established (tcp ++ tcp6)).map TcpSocket.ends ∧ ends ∉ known := by
    rw [List.mem_filter, decide_eq_true_eq, List.mem_map_of_injective endsKey_injective]
    exact and_congr_left' (mem_current prints prints6 ends)
  rw [ConnectionWatcher.poll_keys]
  split
  · rename_i new
    exact List.count_eq_one_of_mem ((monitorNetwork.current snapshot).unique.filter _) (mem.mpr new)
  · rename_i old
    exact List.count_eq_zero_of_not_mem (mt mem.mp old)

end

/-- Every address is decoded to its own text, and no connection stands in the row of another or
keeps its event from being sent. -/
theorem connections_told_apart :
    (∀ endpoint : Endpoint, parseHexAddr endpoint.kernelText = endpoint.text) ∧
      Function.Injective Endpoint.text ∧ Function.Injective endsKey ∧
      ∀ (snapshot : LinuxConnections) (tcp tcp6 : List TcpSocket)
        (known : List (Endpoint × Endpoint)),
        Prints (snapshot.file .tcp) tcp → Prints (snapshot.file .tcp6) tcp6 →
          (∀ socket ∈ established (tcp ++ tcp6), ∃ own ∈ established (tcp ++ tcp6),
            own.ends = socket.ends ∧
              snapshot.current.find? (endsKey socket.ends) = some own.entry) ∧
          ∀ ends, ((monitorNetwork.poll (known.map endsKey) snapshot).1.filterMap
              (connectionKey? monitorNetwork.separator)).count (endsKey ends) =
            if ends ∈ (established (tcp ++ tcp6)).map TcpSocket.ends ∧ ends ∉ known then 1
            else 0 := by
  refine ⟨parseHexAddr_kernelText, Endpoint.text_injective, endsKey_injective, ?_⟩
  intro snapshot tcp tcp6 known prints prints6
  exact ⟨fun socket member => find_current prints prints6 member,
    count_poll prints prints6 known⟩

/-- A server on the loopback with its client. -/
def loopbackSocket : TcpSocket where
  localAddr := .v4 ⟨127, 0, 0, 1⟩ 8080
  remoteAddr := .v4 ⟨127, 0, 0, 1⟩ 50000
  state := 1
  inode := 12345

def loopbackLine : List Char :=
  ("   0: 0100007F:1F90 0100007F:C350 01 00000000:00000000 00:00000000 00000000" ++
    "  1000        0 12345 1").toList

def loopbackTable : LinuxConnections where
  file
    | .tcp => some [some "  sl  local_address rem_address   st".toList, some loopbackLine]
    | .tcp6 => none
  proc := none
  timestamp := 0

theorem connections_told_apart_loopback :
    parseHexAddr "0100007F:1F90".toList = "127.0.0.1:8080".toList ∧
      ((monitorNetwork.poll [] loopbackTable).1.filterMap
        (connectionKey? monitorNetwork.separator)).count "127.0.0.1:8080:127.0.0.1:50000" = 1 := by
  obtain ⟨parsed, -, -, polled⟩ := connections_told_apart
  have printed : loopbackSocket.Printed loopbackLine :=
    ⟨"0:".toList, "00000000:00000000".toList, "00:00000000".toList, "00000000".toList,
      "1000".toList, "0".toList, ["1".toList], by decide +kernel⟩
  have count := (polled loopbackTable [loopbackSocket] [] []
    (.inr ⟨_, [loopbackLine], rfl, .cons printed .nil⟩) (.inl ⟨rfl, rfl⟩)).2 loopbackSocket.ends
  have key : endsKey loopbackSocket.ends = "127.0.0.1:8080:127.0.0.1:50000" := by decide +kernel
  have kernel : (Endpoint.v4 ⟨127, 0, 0, 1⟩ 8080).kernelText = "0100007F:1F90".toList := by
    decide +kernel
  rw [key] at count
  rw [← kernel]
  exact ⟨(parsed _).trans (by decide +kernel), count.trans (if_pos (by decide))⟩

end OsfmEdm
