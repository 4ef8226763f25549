import Mathlib.Data.List.Basic
import OsfmEdm.Agent.Probes
import OsfmEdm.Library.EventStream

/-!
`Api::stream_sse` of the console (`osfm-edm-console/src/api.rs`).
-/

namespace OsfmEdm

open EventStream Lines Utf8Lossy

def trimStart (text : List Char) : List Char := text.dropWhile isWhiteSpace

def trimBoth (text : List Char) : List Char :=
  ((trimStart text).reverse.dropWhile isWhiteSpace).reverse

structure SseBlock where
  event : List Char
  data : List Char
deriving DecidableEq

/-- What a line does to the event and the data read so far. -/
def SseBlock.line (read : SseBlock) (line : List Char) : SseBlock :=
  match line.dropPrefix? "event:".toList with
  | some rest => { read with event := trimBoth rest }
  | none =>
      match line.dropPrefix? "data:".toList with
      | some rest => { read with data := read.data ++ trimStart rest }
      | none => read

def readBlock (block : List Char) : SseBlock :=
  (textLines block).foldl SseBlock.line { event := "message".toList, data := [] }

def sessionClosed (data : List Char) : List Char :=
  "\n[session closed ".toList ++ data ++ "]\n".toList

/-- What is sent for the blocks that are taken out of the buffer, and whether the function returns
at one of them. -/
def sendBlocks : List (List Char) → List (List Char) × Bool
  | [] => ([], false)
  | block :: later =>
      let read := readBlock block
      if read.event = "closed".toList then ([sessionClosed read.data], true)
      else
        ((if read.data.isEmpty then [] else [read.data]) ++ (sendBlocks later).1,
          (sendBlocks later).2)

/-- What the response yields: the bytes of a read, where no bytes are its end. -/
inductive SseRead where
  | bytes (chunk : List UInt8)
  | fails (error : String)

inductive SseResponse where
  | fails (error : String)
  | status (code : Nat)
  | body (reads : List SseRead)

def readStream (buf : List Char) : List SseRead → List (List Char)
  | [] | .bytes [] :: _ => []
  | .bytes chunk :: reads =>
      let taken := blocks (buf ++ lossyText chunk)
      let sends := sendBlocks taken.1
      if sends.2 then sends.1 else sends.1 ++ readStream taken.2 reads
  | .fails error :: _ => [("[sse read] " ++ error ++ "\n").toList]

/-- The texts sent to the console's screen. -/
def streamSse : SseResponse → List (List Char)
  | .fails error => [("[sse error] " ++ error ++ "\n").toList]
  | .status code => [("[sse http " ++ toString code ++ "]\n").toList]
  | .body reads => readStream [] reads

/-! ## Reading in parts -/

theorem sendBlocks_append (blocks later : List (List Char)) :
    sendBlocks (blocks ++ later) = if (sendBlocks blocks).2 then sendBlocks blocks
      else ((sendBlocks blocks).1 ++ (sendBlocks later).1, (sendBlocks later).2) := by
  induction blocks with
  | nil => rfl
  | cons block blocks ih =>
      simp only [List.cons_append, sendBlocks, ih]
      split
      · rfl
      · cases returned : (sendBlocks blocks).2 <;> simp [returned]

/-- It does not matter which reads the text comes in. -/
theorem readStream_reads {reads : List (List UInt8)} {buf : List Char} (none : (blocks buf).1 = [])
    (some : [] ∉ reads) : readStream buf (reads.map .bytes) =
      (sendBlocks (blocks (buf ++ reads.flatMap lossyText)).1).1 := by
  induction reads generalizing buf with
  | nil => simp [readStream, none, sendBlocks]
  | cons chunk reads ih =>
      cases chunk with
      | nil => simp at some
      | cons byte chunk =>
          have later := ih (left_again (buf ++ lossyText (byte :: chunk)))
            fun member => some (List.mem_cons_of_mem _ member)
          simp only [List.map_cons, readStream, List.flatMap_cons]
          rw [later, ← List.append_assoc, blocks_append (buf ++ _), sendBlocks_append]
          split <;> rfl

end OsfmEdm
