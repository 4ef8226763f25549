import Mathlib.Data.Bool.AllAny
import Mathlib.Data.List.Basic
import OsfmEdm.Console.StreamSse
import OsfmEdm.Dashboard.Stream
import OsfmEdm.Shell.Frames

/-!
What the console and the dashboard show of a shell stream.
-/

namespace OsfmEdm

open EventStream JsonText Lines Utf8Lossy

/-- The body of the response: one frame after another. -/
def sseBody : List ShellEvent → Option (List Char)
  | [] => some []
  | event :: later => do
      let first ← sseFrame event
      let rest ← sseBody later
      return first ++ rest

def sessionEvents (session : Uuid) (outputs : List String) (code : Option Int32) :
    List ShellEvent :=
  outputs.map (fun data => ⟨session, data, false, none⟩) ++ [⟨session, "", true, code⟩]

def exitData (code : Option Int32) : List Char :=
  write (.object [("exit_code", encodeOptional Codec.int32.encode code)])

/-- All outputs, and the note that the session is closed. -/
def wholeText (outputs : List String) (code : Option Int32) : List Char :=
  outputs.flatMap String.toList ++ sessionClosed (exitData code)

/-- The body by its lines: those of each output, and the data of the closing event. -/
def bodyOf (groups : List (List (List Char))) (data : List Char) : List Char :=
  groups.flatMap (fun lines => block "output".toList lines ++ ['\n', '\n']) ++
    block "closed".toList [data] ++ ['\n', '\n']

def linesOf (outputs : List String) : List (List (List Char)) :=
  outputs.map fun data => data.toList.splitOn '\n'

/-- Lines that have no line end in them. -/
def PlainLines (lines : List (List Char)) : Prop := ∀ line ∈ lines, '\n' ∉ line ∧ '\r' ∉ line

variable {outputs : List String} {code : Option Int32} {groups : List (List (List Char))}
  {lines : List (List Char)} {data : List Char}

/-! ## The body -/

theorem exitData_printable (code : Option Int32) :
    ∀ char ∈ exitData code, isPrintable char = true := by
  have closed : (⟨Uuid.small 0, "", true, code⟩ : ShellEvent).closed = true := rfl
  have printable := closed_printable closed
  simp only [sseEvent, if_true, String.toList_ofList] at printable
  exact printable

theorem exitData_plain (code : Option Int32) : '\n' ∉ exitData code ∧ '\r' ∉ exitData code :=
  ⟨fun member => absurd (exitData_printable code _ member) (by decide),
    fun member => absurd (exitData_printable code _ member) (by decide)⟩

theorem plainLines_splitOn (plain : '\r' ∉ data) : PlainLines (data.splitOn '\n') := by
  intro line member
  refine ⟨not_mem_part member, fun returns => plain ?_⟩
  exact (mem_parts (by decide)).mpr ⟨line, member, returns⟩

theorem plainLines_linesOf (plain : ∀ data ∈ outputs, '\r' ∉ data.toList) :
    ∀ lines ∈ linesOf outputs, PlainLines lines := by
  intro lines member
  obtain ⟨data, among, rfl⟩ := List.mem_map.mp member
  exact plainLines_splitOn (plain data among)

theorem bodyOf_cons (lines : List (List Char)) (groups : List (List (List Char)))
    (data : List Char) : bodyOf (lines :: groups) data =
      (block "output".toList lines ++ ['\n', '\n']) ++ bodyOf groups data := by
  simp only [bodyOf, List.flatMap_cons, List.append_assoc]

theorem sseBody_eq (session : Uuid) (plain : ∀ data ∈ outputs, '\r' ∉ data.toList) :
    sseBody (sessionEvents session outputs code) =
      some (bodyOf (linesOf outputs) (exitData code)) := by
  induction outputs with
  | nil =>
      obtain ⟨line, returns⟩ := exitData_plain code
      have closing : sseFrame ⟨session, "", true, code⟩ =
          some (block "closed".toList [exitData code] ++ ['\n', '\n']) := by
        simp only [sseFrame, sseEvent, if_true, String.toList_ofList]
        rw [← exitData, frame_eq (by decide) (by decide) returns, List.splitOn_eq_singleton line]
      simp [sessionEvents, sseBody, closing, bodyOf, linesOf]
  | cons data outputs ih =>
      have later := ih fun other member => plain other (.tail _ member)
      have own : sseFrame ⟨session, data, false, none⟩ =
          some (block "output".toList (data.toList.splitOn '\n') ++ ['\n', '\n']) :=
        frame_eq (by decide : '\n' ∉ "output".toList) (by decide : '\r' ∉ "output".toList)
          (plain data List.mem_cons_self)
      have events : sessionEvents session (data :: outputs) code =
          ⟨session, data, false, none⟩ :: sessionEvents session outputs code := rfl
      rw [events, sseBody, own, later]
      simp [bodyOf, linesOf]

theorem blocks_bodyOf (plain : ∀ lines ∈ groups, PlainLines lines) (line : '\n' ∉ data) :
    blocks (bodyOf groups data) =
      (groups.map (block "output".toList) ++ [block "closed".toList [data]], []) := by
  induction groups with
  | nil =>
      have closing := blocks_block (by decide : '\n' ∉ "closed".toList)
        (List.forall_mem_singleton.mpr line) []
      simpa [bodyOf, blocks] using closing
  | cons lines groups ih =>
      have later := ih fun other member => plain other (.tail _ member)
      have first := blocks_block (by decide : '\n' ∉ "output".toList)
        (fun line member => (plain lines List.mem_cons_self line member).1) (bodyOf groups data)
      have parts : bodyOf (lines :: groups) data =
          block "output".toList lines ++ '\n' :: '\n' :: bodyOf groups data := by
        rw [bodyOf_cons, List.append_assoc]
        rfl
      rw [parts, first, later]
      rfl

/-! ## A block in the console -/

theorem textLines_eq {text last : List Char} {before : List (List Char)}
    (parts : text.splitOn '\n' = before ++ [last]) (plain : ∀ line ∈ before, '\r' ∉ line)
    (some : last ≠ []) : textLines text = before ++ [last] := by
  have stripped : before.map (chop '\r') = before :=
    (List.map_congr_left fun line member => chop_eq_self (plain line member)).trans before.map_id
  simp [textLines, parts, stripped, some]

theorem line_data (read : SseBlock) (line : List Char) :
    read.line ("data: ".toList ++ line) = { read with data := read.data ++ trimStart line } := by
  rfl

theorem line_event (read : SseBlock) (event : List Char) :
    read.line ("event: ".toList ++ event) = { read with event := trimBoth (' ' :: event) } := by
  rfl

theorem foldl_lines (read : SseBlock) (lines : List (List Char)) :
    (lines.map ("data: ".toList ++ ·)).foldl SseBlock.line read =
      { read with data := read.data ++ lines.flatMap trimStart } := by
  induction lines generalizing read with
  | nil => simp
  | cons line lines ih => rw [List.map_cons, List.foldl_cons, line_data, ih]; simp

theorem readBlock_block {event : List Char} (line : '\n' ∉ event) (named : '\r' ∉ event)
    (plain : PlainLines lines) : readBlock (block event lines) =
      { event := trimBoth (' ' :: event), data := lines.flatMap trimStart } := by
  have parts := splitOn_block line fun other member => (plain other member).1
  have all : textLines (block event lines) =
      ("event: ".toList ++ event) :: lines.map ("data: ".toList ++ ·) := by
    have labelled : '\r' ∉ "event: ".toList ++ event := by
      simp [named]
    rcases List.eq_nil_or_concat lines with rfl | ⟨before, last, rfl⟩
    · exact textLines_eq (show _ = [] ++ [_] from parts) nofun (by simp)
    · rw [List.concat_eq_append, List.map_append, ← List.cons_append] at parts ⊢
      refine textLines_eq parts ?_ (by simp)
      intro other member
      rcases List.mem_cons.mp member with rfl | later
      · exact labelled
      · obtain ⟨own, among, rfl⟩ := List.mem_map.mp later
        have returns := (plain own (by simp [among])).2
        simp [returns]
  rw [readBlock, all, List.foldl_cons, line_event, foldl_lines]
  rfl

/-- What the console shows of the outputs. -/
def consoleText (groups : List (List (List Char))) : List Char :=
  groups.flatMap fun lines => lines.flatMap trimStart

theorem sendBlocks_outputs (plain : ∀ lines ∈ groups, PlainLines lines)
    (later : List (List Char)) :
    (sendBlocks (groups.map (block "output".toList) ++ later)).1.flatten =
      consoleText groups ++ (sendBlocks later).1.flatten := by
  induction groups with
  | nil => rfl
  | cons lines groups ih =>
      have rest := ih fun other member => plain other (.tail _ member)
      have read := readBlock_block (by decide : '\n' ∉ "output".toList) (by decide)
        (plain lines List.mem_cons_self)
      have named : trimBoth (' ' :: "output".toList) ≠ "closed".toList := by decide +kernel
      rw [List.map_cons, List.cons_append, sendBlocks, read, if_neg named]
      simp only [List.flatten_append, rest, consoleText, List.flatMap_cons, List.append_assoc]
      split
      · rename_i nothing
        simp [List.isEmpty_iff.mp nothing]
      · simp

theorem streamSse_body {reads : List (List UInt8)} (some : [] ∉ reads)
    (plain : ∀ lines ∈ groups, PlainLines lines)
    (read : reads.flatMap lossyText = bodyOf groups (exitData code)) :
    (streamSse (.body (reads.map .bytes))).flatten =
      consoleText groups ++ sessionClosed (exitData code) := by
  obtain ⟨line, returns⟩ := exitData_plain code
  have closing : readBlock (block "closed".toList [exitData code]) =
      { event := "closed".toList, data := exitData code } := by
    have named : trimBoth (' ' :: "closed".toList) = "closed".toList := by decide +kernel
    have start : trimStart (exitData code) = exitData code := rfl
    rw [readBlock_block (by decide) (by decide) (List.forall_mem_singleton.mpr ⟨line, returns⟩),
      named, List.flatMap_singleton, start]
  rw [streamSse, readStream_reads rfl some, List.nil_append, read, blocks_bodyOf plain line,
    sendBlocks_outputs plain, sendBlocks, closing]
  simp

/-! ## Reads that cut a character -/

theorem narrow_of_printable {char : Char} (printable : isPrintable char = true) :
    (String.utf8EncodeChar char).length = 1 := by
  have small : char.toNat < 0x7F := by
    simp only [isPrintable, Bool.and_eq_true, decide_eq_true_eq] at printable
    exact printable.2
  have low : char.val ≤ 0x7F := UInt32.le_iff_toNat_le.mpr (Nat.le_of_lt small)
  rw [String.length_utf8EncodeChar, Char.utf8Size]
  exact if_pos low

theorem plainLine_garbled {line read : List Char} (plain : '\n' ∉ line ∧ '\r' ∉ line)
    (garbled : Garbled line read) : '\n' ∉ read ∧ '\r' ∉ read := by
  constructor <;> intro member <;> rcases garbled.mem_of_read member with own | replaced
  · exact plain.1 own
  · exact absurd replaced (by decide)
  · exact plain.2 own
  · exact absurd replaced (by decide)

theorem garbled_lines {read : List Char} (plain : PlainLines lines)
    (garbled : Garbled (lines.flatMap fun line => '\n' :: ("data: ".toList ++ line)) read) :
    ∃ lines', PlainLines lines' ∧
      read = lines'.flatMap fun line => '\n' :: ("data: ".toList ++ line) := by
  induction lines generalizing read with
  | nil =>
      cases garbled
      exact ⟨[], nofun, rfl⟩
  | cons line lines ih =>
      rw [List.flatMap_cons, ← List.cons_append] at garbled
      obtain ⟨first, after, rfl, own, rest⟩ := garbled.append_inv
      obtain ⟨label, shown, rfl, named, data⟩ := own.append_inv
      obtain ⟨lines', others, rfl⟩ := ih (fun other member => plain other (.tail _ member)) rest
      obtain rfl := named.eq_of_narrow (List.all_iff_forall_prop.mp (by decide))
      exact ⟨shown :: lines',
        List.forall_mem_cons.mpr ⟨plainLine_garbled (plain line List.mem_cons_self) data, others⟩,
        rfl⟩

theorem garbled_block {event read : List Char} (plain : PlainLines lines)
    (narrow : ∀ char ∈ event, (String.utf8EncodeChar char).length = 1)
    (garbled : Garbled (block event lines ++ ['\n', '\n']) read) :
    ∃ lines', PlainLines lines' ∧ read = block event lines' ++ ['\n', '\n'] := by
  obtain ⟨inside, ends, rfl, own, last⟩ := garbled.append_inv
  obtain ⟨named, rest, rfl, first, data⟩ := own.append_inv
  obtain ⟨lines', plain', rfl⟩ := garbled_lines plain data
  obtain rfl := last.eq_of_narrow (List.all_iff_forall_prop.mp (by decide))
  have label : ∀ char ∈ "event: ".toList, (String.utf8EncodeChar char).length = 1 :=
    List.all_iff_forall_prop.mp (by decide)
  obtain rfl := first.eq_of_narrow fun char member =>
    (List.mem_append.mp member).elim (label char) (narrow char)
  exact ⟨lines', plain', rfl⟩

/-- However the characters of a body are cut, its frames stay. -/
theorem garbled_bodyOf {read : List Char} (plain : ∀ lines ∈ groups, PlainLines lines)
    (printable : ∀ char ∈ data, isPrintable char = true)
    (garbled : Garbled (bodyOf groups data) read) :
    ∃ groups', (∀ lines ∈ groups', PlainLines lines) ∧ read = bodyOf groups' data := by
  induction groups generalizing read with
  | nil =>
      have parts : bodyOf [] data =
          ("event: ".toList ++ "closed".toList ++ '\n' :: "data: ".toList) ++
            (data ++ ['\n', '\n']) := by
        unfold bodyOf block
        generalize "event: ".toList = event, "closed".toList = closed, "data: ".toList = label
        simp
      have framing : ∀ char ∈ "event: ".toList ++ "closed".toList ++ '\n' :: "data: ".toList,
          (String.utf8EncodeChar char).length = 1 := List.all_iff_forall_prop.mp (by decide)
      have ends : ∀ char ∈ ['\n', '\n'], (String.utf8EncodeChar char).length = 1 :=
        List.all_iff_forall_prop.mp (by decide)
      refine ⟨[], nofun, garbled.eq_of_narrow fun char member => ?_⟩
      rw [parts] at member
      rcases List.mem_append.mp member with first | later
      · exact framing char first
      · rcases List.mem_append.mp later with own | last
        · exact narrow_of_printable (printable char own)
        · exact ends char last
  | cons lines groups ih =>
      rw [bodyOf_cons] at garbled
      obtain ⟨first, after, rfl, own, rest⟩ := garbled.append_inv
      obtain ⟨lines', plainLines, rfl⟩ :=
        garbled_block (plain lines List.mem_cons_self) (List.all_iff_forall_prop.mp (by decide)) own
      obtain ⟨groups', others, rfl⟩ := ih (fun other member => plain other (.tail _ member)) rest
      exact ⟨lines' :: groups', List.forall_mem_cons.mpr ⟨plainLines, others⟩,
        (bodyOf_cons ..).symm⟩

/-! ## Replacements -/

theorem count_framed (lines : List (List Char)) :
    (lines.flatMap fun line => '\n' :: ("data: ".toList ++ line)).count replacementChar =
      lines.flatten.count replacementChar := by
  have label : ('\n' :: "data: ".toList).count replacementChar = 0 := by decide
  induction lines with
  | nil => rfl
  | cons line lines ih =>
      rw [List.flatMap_cons, ← List.cons_append, List.count_append, List.count_append, label, ih,
        List.flatten_cons, List.count_append, Nat.zero_add]

theorem count_block (event : List Char) (lines : List (List Char)) :
    (block event lines ++ ['\n', '\n']).count replacementChar =
      event.count replacementChar + lines.flatten.count replacementChar := by
  have label : "event: ".toList.count replacementChar = 0 := by decide
  have ends : ['\n', '\n'].count replacementChar = 0 := by decide
  have framed := count_framed lines
  unfold block
  generalize "event: ".toList = head, "data: ".toList = field at label framed ⊢
  rw [List.count_append, List.count_append, List.count_append, framed, label, ends]
  omega

theorem count_bodyOf (groups : List (List (List Char))) (data : List Char) :
    (bodyOf groups data).count replacementChar =
      (groups.flatMap List.flatten).count replacementChar + data.count replacementChar := by
  have output : "output".toList.count replacementChar = 0 := by decide
  have closed : "closed".toList.count replacementChar = 0 := by decide
  induction groups with
  | nil =>
      rw [bodyOf, List.flatMap_nil, List.nil_append, count_block, closed, List.flatten_singleton]
      rfl
  | cons lines groups ih =>
      rw [bodyOf_cons, List.count_append, ih, count_block, output, List.flatMap_cons,
        List.count_append]
      omega

theorem count_trimStart (line : List Char) :
    (trimStart line).count replacementChar = line.count replacementChar := by
  have spaces : (line.takeWhile isWhiteSpace).count replacementChar = 0 := by
    rw [List.count_eq_zero]
    intro member
    exact absurd (List.mem_takeWhile_imp member) (by decide)
  have parts := congrArg (List.count replacementChar)
    (List.takeWhile_append_dropWhile (p := isWhiteSpace) (l := line))
  rw [List.count_append, spaces, Nat.zero_add] at parts
  exact parts

theorem count_consoleText (groups : List (List (List Char))) :
    (consoleText groups).count replacementChar =
      (groups.flatMap List.flatten).count replacementChar := by
  have inner (lines : List (List Char)) : (lines.flatMap trimStart).count replacementChar =
      lines.flatten.count replacementChar := by
    induction lines with
    | nil => rfl
    | cons line lines ih =>
        rw [List.flatMap_cons, List.count_append, count_trimStart, ih, List.flatten_cons,
          List.count_append]
  induction groups with
  | nil => rfl
  | cons lines groups ih =>
      rw [consoleText, List.flatMap_cons, List.count_append, inner, ← consoleText, ih,
        List.flatMap_cons, List.count_append]

theorem count_linesOf (outputs : List String) :
    ((linesOf outputs).flatMap List.flatten).count replacementChar =
      (outputs.flatMap String.toList).count replacementChar := by
  induction outputs with
  | nil => rfl
  | cons data outputs ih =>
      rw [linesOf, List.map_cons, List.flatMap_cons, List.flatMap_cons, List.count_append,
        List.count_append, ← linesOf, ih, count_parts (by decide)]

/-! ## The console -/

/-- One line that no whitespace starts. -/
def OneLine (data : List Char) : Prop :=
  '\n' ∉ data ∧ ∀ first ∈ data.head?, isWhiteSpace first = false

theorem consoleText_linesOf (outputs : List String) :
    consoleText (linesOf outputs) = outputs.flatMap String.toList ↔
      ∀ data ∈ outputs, OneLine data.toList := by
  rw [consoleText, linesOf, List.flatMap_map]
  refine (flatMap_eq_iff fun data => length_flatMap_parts_le _ _ _).trans ?_
  exact forall₂_congr fun data _ => flatMap_parts_eq

theorem stream_sse_iff {reads : List (List UInt8)} (some : [] ∉ reads)
    (plain : ∀ data ∈ outputs, '\r' ∉ data.toList)
    (sent : reads.flatten = utf8 (bodyOf (linesOf outputs) (exitData code))) :
    (streamSse (.body (reads.map .bytes))).flatten = wholeText outputs code ↔
      (∀ part ∈ reads, IsUtf8 part) ∧ ∀ data ∈ outputs, OneLine data.toList := by
  have lines := plainLines_linesOf plain
  obtain ⟨read, same, garbled, parts⟩ := reads_garbled [] (by simp) sent
  simp only [List.length_nil, List.replicate_zero, List.nil_append] at same
  obtain ⟨groups, plainGroups, rfl⟩ := garbled_bodyOf lines (exitData_printable code) garbled
  constructor
  · intro shown
    rw [streamSse_body some plainGroups same, wholeText] at shown
    have outputText := List.append_cancel_right shown
    have uncut : bodyOf groups (exitData code) = bodyOf (linesOf outputs) (exitData code) := by
      by_contra cut
      have more := garbled.count_lt cut
      have counted := congrArg (List.count replacementChar) outputText
      rw [count_consoleText, ← count_linesOf] at counted
      rw [count_bodyOf, count_bodyOf, counted] at more
      exact Nat.lt_irrefl _ more
    refine ⟨parts rfl uncut, (consoleText_linesOf outputs).mp ?_⟩
    have whole := streamSse_body some lines (same.trans uncut)
    rw [streamSse_body some plainGroups same] at whole
    exact (List.append_cancel_right whole).symm.trans outputText
  · rintro ⟨whole, oneLine⟩
    have read := (flatMap_lossyText_iff sent).mpr whole
    rw [streamSse_body some lines read, wholeText, (consoleText_linesOf outputs).mpr oneLine]

/-! ## The dashboard -/

theorem matchEvent_block {event : List Char} (lines : List (List Char)) (line : List Char)
    (named : ∀ char ∈ event, isLineTerminator char = false) (some : event ≠ []) :
    matchEvent (block event (line :: lines)) = Option.some event := by
  have labelled : ∀ char ∈ "event: ".toList ++ event, isLineTerminator char = false := by
    have label : ∀ char ∈ "event: ".toList, isLineTerminator char = false :=
      List.all_iff_forall_prop.mp (by decide)
    exact fun char member => (List.mem_append.mp member).elim (label char) (named char)
  have first : ("event: ".toList ++ event).dropPrefix? "event: ".toList = Option.some event :=
    List.dropPrefix?_eq_some_iff.mpr ⟨_, rfl, BEq.rfl⟩
  have found : (Option.some event).filter (!·.isEmpty) = Option.some event := by simp [some]
  unfold matchEvent block
  rw [List.flatMap_cons, List.cons_append, List.splitOnP_append_cons_of_forall_mem labelled _ rfl,
    List.findSome?_cons, first, found]

theorem dataOf_block {event : List Char} (line : '\n' ∉ event) (plain : PlainLines lines) :
    dataOf (block event lines) = ['\n'].intercalate (lines.map (·.dropWhile isJsSpace)) := by
  have others : ("data:".toList.isPrefixOf ("event: ".toList ++ event)) = false := rfl
  have own : (lines.map ("data: ".toList ++ ·)).filter ("data:".toList.isPrefixOf ·) =
      lines.map ("data: ".toList ++ ·) := by
    refine List.filter_eq_self.mpr fun part member => ?_
    obtain ⟨data, _, rfl⟩ := List.mem_map.mp member
    rfl
  rw [dataOf, splitOn_block line fun part member => (plain part member).1, List.filter_cons,
    if_neg (by rw [others]; decide), own, List.map_map]
  rfl

theorem showBlock_output {page : ShellPage} {text : List Char}
    (named : matchEvent text = some "output".toList) :
    page.showBlock text = { page with lines := page.lines ++ dataOf text } := by
  rw [ShellPage.showBlock, named]
  exact if_pos rfl

theorem showBlock_closed {page : ShellPage} {text : List Char}
    (named : matchEvent text = some "closed".toList) :
    (page.showBlock text).lines = page.lines ++ sessionClosed (dataOf text) := by
  have other : ¬"closed".toList = "output".toList := by decide
  rw [ShellPage.showBlock, named]
  exact congrArg ShellPage.lines ((if_neg other).trans (if_pos rfl))

/-- What the dashboard shows of the outputs. -/
def dashboardText (groups : List (List (List Char))) : List Char :=
  groups.flatMap fun lines => ['\n'].intercalate (lines.map (·.dropWhile isJsSpace))

theorem showBlock_outputs (plain : ∀ lines ∈ groups, PlainLines lines)
    (some : ∀ lines ∈ groups, lines ≠ []) (page : ShellPage) :
    (groups.map (block "output".toList)).foldl ShellPage.showBlock page =
      { page with lines := page.lines ++ dashboardText groups } := by
  induction groups generalizing page with
  | nil => simp [dashboardText]
  | cons lines groups ih =>
      have own := plain lines List.mem_cons_self
      obtain ⟨line, rest, rfl⟩ := List.exists_cons_of_ne_nil (some lines List.mem_cons_self)
      have event : matchEvent (block "output".toList (line :: rest)) =
          Option.some "output".toList :=
        matchEvent_block rest line (List.all_iff_forall_prop.mp (by decide)) (by decide)
      have data := dataOf_block (by decide : '\n' ∉ "output".toList) own
      rw [List.map_cons, List.foldl_cons, showBlock_output event, data,
        ih (fun other member => plain other (.tail _ member))
          fun other member => some other (.tail _ member)]
      simp only [dashboardText, List.flatMap_cons, List.append_assoc]

theorem dashboardText_linesOf (outputs : List String) :
    dashboardText (linesOf outputs) = outputs.flatMap String.toList ↔
      ∀ data ∈ outputs, ∀ line ∈ data.toList.splitOn '\n', ∀ first ∈ line.head?,
        isJsSpace first = false := by
  rw [dashboardText, linesOf, List.flatMap_map]
  refine (flatMap_eq_iff fun data => length_intercalate_parts_le _ _ _).trans ?_
  exact forall₂_congr fun data _ => intercalate_parts_eq

theorem dashboard_stream_iff {values : List (List UInt8)}
    (plain : ∀ data ∈ outputs, '\r' ∉ data.toList)
    (sent : values.flatten = utf8 (bodyOf (linesOf outputs) (exitData code))) :
    (ShellPage.stream { lines := [], closed := false, error := none } true (.body values)).lines =
        wholeText outputs code ↔
      ∀ data ∈ outputs, ∀ line ∈ data.toList.splitOn '\n', ∀ first ∈ line.head?,
        isJsSpace first = false := by
  have lines := plainLines_linesOf plain
  obtain ⟨line, returns⟩ := exitData_plain code
  have some : ∀ lines ∈ linesOf outputs, lines ≠ [] := by
    intro lines member
    obtain ⟨data, _, rfl⟩ := List.mem_map.mp member
    exact List.splitOn_ne_nil _ _
  have unmarked : (bodyOf (linesOf outputs) (exitData code)).head? ≠ Option.some byteOrderMark := by
    cases outputs <;> exact (by decide : Option.some 'e' ≠ Option.some byteOrderMark)
  have event : matchEvent (block "closed".toList [exitData code]) =
      Option.some "closed".toList :=
    matchEvent_block [] (exitData code) (List.all_iff_forall_prop.mp (by decide)) (by decide)
  have data := dataOf_block (by decide : '\n' ∉ "closed".toList)
    (List.forall_mem_singleton.mpr ⟨line, returns⟩)
  have note : ['\n'].intercalate ([exitData code].map (·.dropWhile isJsSpace)) = exitData code := by
    rw [List.map_singleton, List.intercalate_singleton]
    rfl
  rw [ShellPage.stream, if_pos rfl, readChunks_values rfl (by rw [sent, feedAll_utf8]; simpa),
    sent, feedAll_utf8, List.nil_append, blocks_bodyOf lines line, List.foldl_append,
    showBlock_outputs lines some, ← dashboardText_linesOf]
  rw [List.foldl_cons, List.foldl_nil, showBlock_closed event, data, note, wholeText,
    List.nil_append]
  exact ⟨List.append_cancel_right, fun same => by rw [same]⟩

/-- What the two decoders show is the whole text of the session just when, in the console, no read
ends inside a character and every output is one line that no whitespace starts, and in the
dashboard no line of an output starts with whitespace. -/
theorem sse_decoders_iff (session : Uuid) (outputs : List String) (code : Option Int32)
    (plain : ∀ data ∈ outputs, '\r' ∉ data.toList) :
    ∃ body, sseBody (sessionEvents session outputs code) = some body ∧
      ∀ reads : List (List UInt8), reads.flatten = utf8 body →
        ([] ∉ reads → ((streamSse (.body (reads.map .bytes))).flatten = wholeText outputs code ↔
          (∀ part ∈ reads, IsUtf8 part) ∧ ∀ data ∈ outputs, OneLine data.toList)) ∧
        ((ShellPage.stream { lines := [], closed := false, error := none } true (.body reads)).lines =
            wholeText outputs code ↔
          ∀ data ∈ outputs, ∀ line ∈ data.toList.splitOn '\n', ∀ first ∈ line.head?,
            isJsSpace first = false) := by
  refine ⟨_, sseBody_eq session plain, fun reads sent => ⟨fun some => ?_, ?_⟩⟩
  · exact stream_sse_iff some plain sent
  · exact dashboard_stream_iff plain sent

/-- A session that prints `é`. -/
def accentBody : String :=
  "event: output\ndata: é\n\nevent: closed\ndata: \x7b\"exit_code\":0\x7d\n\n"

theorem sse_decoders_accent :
    (streamSse (.body [.bytes (utf8 accentBody.toList)])).flatten = wholeText ["é"] (some 0) ∧
      (ShellPage.stream { lines := [], closed := false, error := none } true
        (.body [utf8 accentBody.toList])).lines = wholeText ["é"] (some 0) := by
  obtain ⟨body, sent, decoded⟩ := sse_decoders_iff (Uuid.small 7) ["é"] (some 0) (by decide)
  have written : sseBody (sessionEvents (Uuid.small 7) ["é"] (some 0)) = some accentBody.toList := by
    decide +kernel
  obtain rfl : accentBody.toList = body := Option.some.inj (written.symm.trans sent)
  obtain ⟨console, dashboard⟩ := decoded [utf8 accentBody.toList] (by simp)
  have oneLine : OneLine "é".toList := by
    refine ⟨by decide, fun first head => ?_⟩
    obtain rfl : 'é' = first := by simpa using head
    rfl
  refine ⟨(console (by decide +kernel)).mpr ⟨?_, ?_⟩, dashboard.mpr ?_⟩
  · exact List.forall_mem_singleton.mpr ⟨_, rfl⟩
  · exact List.forall_mem_singleton.mpr oneLine
  · refine List.forall_mem_singleton.mpr fun line member first head => ?_
    have parts : "é".toList.splitOn '\n' = [['é']] := by decide
    rw [parts, List.mem_singleton] at member
    subst member
    cases head
    rfl

/-- Leading blanks and line feeds are lost. -/
theorem sse_decoders_indented : ¬ ∀ (outputs : List String) (code : Option Int32) (body : List Char)
    (reads : List (List UInt8)), (∀ data ∈ outputs, '\r' ∉ data.toList) →
      sseBody (sessionEvents (Uuid.small 7) outputs code) = some body →
        reads.flatten = utf8 body → [] ∉ reads →
          (streamSse (.body (reads.map .bytes))).flatten = wholeText outputs code ∧
            (ShellPage.stream { lines := [], closed := false, error := none } true
              (.body reads)).lines = wholeText outputs code := by
  intro inverts
  let body := "event: output\ndata:   a\ndata: \n\nevent: closed\ndata: \x7b\"exit_code\":0\x7d\n\n"
  have both := inverts ["  a\n"] (some 0) body.toList [utf8 body.toList] (by decide)
    (by decide +kernel) (by simp) (by decide +kernel)
  exact absurd both (by decide +kernel)

end OsfmEdm
