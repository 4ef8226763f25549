import Mathlib.Data.List.Basic
import OsfmEdm.Library.EventStream
import OsfmEdm.Library.Utf8Reader

/-!
The `stream` function of the dashboard's shell page (`shell/[deviceId]/page.tsx`).
-/

namespace OsfmEdm

open EventStream Utf8Lossy

/-- The line terminators of a regular expression. -/
def isLineTerminator (char : Char) : Bool := char.toNat ∈ [0xA, 0xD, 0x2028, 0x2029]

/-- What `trimStart` takes away. -/
def isJsSpace (char : Char) : Bool :=
  isLineTerminator char || (0x2000 ≤ char.toNat && char.toNat ≤ 0x200A) ||
    char.toNat ∈ [0x9, 0xB, 0xC, 0x20, 0xA0, 0x1680, 0x202F, 0x205F, 0x3000, 0xFEFF]

/-- `block.match(/^event: (.+)$/m)?.[1]`. -/
def matchEvent (block : List Char) : Option (List Char) :=
  (block.splitOnP isLineTerminator).findSome? fun line =>
    (line.dropPrefix? "event: ".toList).filter (!·.isEmpty)

def dataOf (block : List Char) : List Char :=
  ['\n'].intercalate (((block.splitOn '\n').filter ("data:".toList.isPrefixOf ·)).map
    fun line => (line.drop 5).dropWhile isJsSpace)

structure ShellPage where
  lines : List Char
  closed : Bool
  error : Option String
deriving DecidableEq

namespace ShellPage

def showBlock (page : ShellPage) (block : List Char) : ShellPage :=
  let event := (matchEvent block).getD "message".toList
  if event = "output".toList then { page with lines := page.lines ++ dataOf block }
  else if event = "closed".toList then
    { page with
      closed := true
      lines := page.lines ++ ("\n[session closed ".toList ++ dataOf block ++ "]\n".toList) }
  else page

end ShellPage

/-- `new TextDecoder()`, which takes away a byte order mark at the start of the stream. -/
structure TextDecoder where
  reader : Option Partial
  fresh : Bool

def byteOrderMark : Char := Char.ofNat 0xFEFF

/-- `decoder.decode(value, { stream: true })`. -/
def TextDecoder.decode (decoder : TextDecoder) (value : List UInt8) : List Char × TextDecoder :=
  let read := feedAll decoder.reader value
  match read.1 with
  | [] => ([], { decoder with reader := read.2 })
  | first :: rest =>
      (if decoder.fresh && first = byteOrderMark then rest else first :: rest,
        { reader := read.2, fresh := false })

def readChunks (decoder : TextDecoder) (buf : List Char) (page : ShellPage) :
    List (List UInt8) → ShellPage
  | [] => page
  | value :: values =>
      let decoded := decoder.decode value
      let parts := blocks (buf ++ decoded.1)
      readChunks decoded.2 parts.2 (parts.1.foldl ShellPage.showBlock page) values

inductive StreamResponse where
  | refused (status : Nat)
  | noBody (status : Nat)
  | body (values : List (List UInt8))

def ShellPage.stream (page : ShellPage) (token : Bool) : StreamResponse → ShellPage
  | .refused status | .noBody status =>
      if token then { page with error := some ("SSE failed (" ++ toString status ++ ")") }
      else { page with error := some "Not signed in" }
  | .body values =>
      if token then readChunks { reader := none, fresh := true } [] page values
      else { page with error := some "Not signed in" }

/-! ## Reading in parts -/

/-- A text that does not start with a byte order mark is decoded as it is, in whichever chunks it
comes. -/
theorem readChunks_values {values : List (List UInt8)} {decoder : TextDecoder} {buf : List Char}
    {page : ShellPage} (none : (blocks buf).1 = [])
    (unmarked : decoder.fresh = true →
      (feedAll decoder.reader values.flatten).1.head? ≠ some byteOrderMark) :
    readChunks decoder buf page values =
      (blocks (buf ++ (feedAll decoder.reader values.flatten).1)).1.foldl
        ShellPage.showBlock page := by
  induction values generalizing decoder buf page with
  | nil => simp [readChunks, feedAll, none]
  | cons value values ih =>
      rw [List.flatten_cons, feedAll_append] at unmarked ⊢
      have decoded : (decoder.decode value).1 = (feedAll decoder.reader value).1 ∧
          (decoder.decode value).2.reader = (feedAll decoder.reader value).2 ∧
          ((decoder.decode value).2.fresh = true → decoder.fresh = true ∧
            (feedAll decoder.reader value).1 = []) := by
        unfold TextDecoder.decode
        cases text : (feedAll decoder.reader value).1 with
        | nil => simp [text]
        | cons first rest =>
            have kept : ¬(decoder.fresh = true ∧ first = byteOrderMark) := by
              rintro ⟨fresh, rfl⟩
              exact unmarked fresh (by simp [text])
            simp [text, kept]
      obtain ⟨text, reader, fresh⟩ := decoded
      rw [readChunks, text, ih (left_again _) ?_, reader]
      · rw [← List.append_assoc, blocks_append (buf ++ _), List.foldl_append]
      · intro still
        obtain ⟨was, nothing⟩ := fresh still
        rw [reader]
        simpa [nothing] using unmarked was

end OsfmEdm
