import Mathlib.Data.List.Count
import OsfmEdm.Library.JsonText
import OsfmEdm.Library.Utf8Lossy

/-!
UTF-8 read one byte at a time into characters, and texts that arrive in several reads.
-/

namespace Utf8Lossy

open JsonText

/-- A character under way: the bytes owed after the next one, the range of the next one, and what
the bytes so far give. -/
structure Partial where
  owed : Nat
  low : UInt8
  high : UInt8
  code : Nat
deriving DecidableEq

/-- U+FFFD. -/
def replacementChar : Char := Char.ofNat 0xFFFD

def start (byte : UInt8) : List Char × Option Partial :=
  match lead byte with
  | none => ([replacementChar], none)
  | some (0, _, _) => ([Char.ofNat byte.toNat], none)
  | some (1, low, high) => ([], some ⟨0, low, high, byte.toNat % 32⟩)
  | some (2, low, high) => ([], some ⟨1, low, high, byte.toNat % 16⟩)
  | some (owed + 1, low, high) => ([], some ⟨owed, low, high, byte.toNat % 8⟩)

/-- A byte that does not go on with the character is the first one of the next. -/
def feed : Option Partial → UInt8 → List Char × Option Partial
  | none, byte => start byte
  | some ⟨owed, low, high, code⟩, byte =>
      if low ≤ byte ∧ byte ≤ high then
        match owed with
        | 0 => ([Char.ofNat (code * 64 + byte.toNat % 64)], none)
        | owed + 1 => ([], some ⟨owed, 0x80, 0xBF, code * 64 + byte.toNat % 64⟩)
      else (replacementChar :: (start byte).1, (start byte).2)

/-- The characters of a run of bytes, and what is under way behind them. -/
def feedAll (reader : Option Partial) : List UInt8 → List Char × Option Partial
  | [] => ([], reader)
  | byte :: rest =>
      let (text, next) := feed reader byte
      let (more, last) := feedAll next rest
      (text ++ more, last)

def flush : Option Partial → List Char
  | none => []
  | some _ => [replacementChar]

def textFrom (reader : Option Partial) (bytes : List UInt8) : List Char :=
  (feedAll reader bytes).1 ++ flush (feedAll reader bytes).2

def lossyText (bytes : List UInt8) : List Char := textFrom none bytes

/-- `String::from_utf8_lossy`. -/
def fromUtf8Lossy (bytes : List UInt8) : String := String.ofList (lossyText bytes)

/-- Bytes that are whole characters. -/
def IsUtf8 (bytes : List UInt8) : Prop := ∃ text, utf8 text = bytes

@[simp] theorem utf8_nil : utf8 [] = [] := rfl

@[simp] theorem utf8_cons (char : Char) (text : List Char) :
    utf8 (char :: text) = String.utf8EncodeChar char ++ utf8 text := rfl

@[simp] theorem utf8_append (text more : List Char) : utf8 (text ++ more) = utf8 text ++ utf8 more :=
  List.flatMap_append

theorem feedAll_append (reader : Option Partial) (bytes more : List UInt8) :
    feedAll reader (bytes ++ more) =
      ((feedAll reader bytes).1 ++ (feedAll (feedAll reader bytes).2 more).1,
        (feedAll (feedAll reader bytes).2 more).2) := by
  induction bytes generalizing reader with
  | nil => rfl
  | cons byte rest ih => simp [feedAll, ih]

theorem textFrom_cons (reader : Option Partial) (byte : UInt8) (rest : List UInt8) :
    textFrom reader (byte :: rest) =
      (feed reader byte).1 ++ textFrom (feed reader byte).2 rest := by
  simp [textFrom, feedAll]

theorem textFrom_append (reader : Option Partial) (bytes more : List UInt8) :
    textFrom reader (bytes ++ more) =
      (feedAll reader bytes).1 ++ textFrom (feedAll reader bytes).2 more := by
  simp [textFrom, feedAll_append]

/-! ## First bytes -/

theorem lead_one {byte : UInt8} (high : byte.toNat ≤ 0x7F) : lead byte = some (0, 0x80, 0xBF) :=
  if_pos (UInt8.le_iff_toNat_le.mpr high)

theorem lead_two {byte : UInt8} (low : 0xC2 ≤ byte.toNat) (high : byte.toNat ≤ 0xDF) :
    lead byte = some (1, 0x80, 0xBF) := by
  simp only [lead, UInt8.le_iff_toNat_le, UInt8.reduceToNat]
  rw [if_neg (by omega), if_pos ⟨low, high⟩]

theorem lead_tail {byte : UInt8} (low : 0x80 ≤ byte.toNat) (high : byte.toNat ≤ 0xBF) :
    lead byte = none := by
  simp only [lead, UInt8.le_iff_toNat_le, UInt8.reduceToNat, ← UInt8.toNat_inj]
  repeat rw [if_neg (by omega)]

theorem lead_three {byte : UInt8} (low : 0xE0 ≤ byte.toNat) (high : byte.toNat ≤ 0xEF) :
    lead byte = some (2, if byte.toNat = 0xE0 then 0xA0 else 0x80,
      if byte.toNat = 0xED then 0x9F else 0xBF) := by
  simp only [lead, UInt8.le_iff_toNat_le, UInt8.reduceToNat, ← UInt8.toNat_inj]
  rw [if_neg (by omega), if_neg (by omega)]
  split
  · simp [*]
  · split
    · simp [*]
    · rw [if_pos (by omega)]

theorem lead_four {byte : UInt8} (low : 0xF0 ≤ byte.toNat) (high : byte.toNat ≤ 0xF4) :
    lead byte = some (3, if byte.toNat = 0xF0 then 0x90 else 0x80,
      if byte.toNat = 0xF4 then 0x8F else 0xBF) := by
  simp only [lead, UInt8.le_iff_toNat_le, UInt8.reduceToNat, ← UInt8.toNat_inj]
  rw [if_neg (by omega), if_neg (by omega), if_neg (by omega), if_neg (by omega), if_neg (by omega)]
  split
  · simp [*]
  · split
    · rw [if_neg (by omega)]
    · rw [if_pos (by omega)]
      simp; omega

theorem start_one {byte : UInt8} (high : byte.toNat ≤ 0x7F) :
    start byte = ([Char.ofNat byte.toNat], none) := by
  rw [start, lead_one high]

theorem start_two {byte : UInt8} (low : 0xC2 ≤ byte.toNat) (high : byte.toNat ≤ 0xDF) :
    start byte = ([], some ⟨0, 0x80, 0xBF, byte.toNat % 32⟩) := by
  rw [start, lead_two low high]
  rfl

theorem start_three {byte : UInt8} (low : 0xE0 ≤ byte.toNat) (high : byte.toNat ≤ 0xEF) :
    start byte = ([], some ⟨1, if byte.toNat = 0xE0 then 0xA0 else 0x80,
      if byte.toNat = 0xED then 0x9F else 0xBF, byte.toNat % 16⟩) := by
  rw [start, lead_three low high]
  rfl

theorem start_four {byte : UInt8} (low : 0xF0 ≤ byte.toNat) (high : byte.toNat ≤ 0xF4) :
    start byte = ([], some ⟨2, if byte.toNat = 0xF0 then 0x90 else 0x80,
      if byte.toNat = 0xF4 then 0x8F else 0xBF, byte.toNat % 8⟩) := by
  rw [start, lead_four low high]
  rfl

theorem start_tail {byte : UInt8} (low : 0x80 ≤ byte.toNat) (high : byte.toNat ≤ 0xBF) :
    start byte = ([replacementChar], none) := by
  rw [start, lead_tail low high]

/-- The bytes complete the character, and not earlier. -/
inductive Spells : Option Partial → List UInt8 → Char → Prop where
  | last {reader : Option Partial} {byte : UInt8} {char : Char}
      (fed : feed reader byte = ([char], none)) : Spells reader [byte] char
  | more {reader : Option Partial} {byte : UInt8} {next : Partial} {rest : List UInt8} {char : Char}
      (fed : feed reader byte = ([], some next)) (later : Spells (some next) rest char) :
      Spells reader (byte :: rest) char

/-! ## The bytes of a character -/

theorem toNat_ofNat_byte {value : Nat} (small : value < 256) :
    (UInt8.ofNat value).toNat = value := by
  rw [UInt8.toNat_ofNat']
  omega

theorem feed_last {code : Nat} {low high byte : UInt8} (above : low.toNat ≤ byte.toNat)
    (below : byte.toNat ≤ high.toNat) :
    feed (some ⟨0, low, high, code⟩) byte = ([Char.ofNat (code * 64 + byte.toNat % 64)], none) :=
  if_pos ⟨UInt8.le_iff_toNat_le.mpr above, UInt8.le_iff_toNat_le.mpr below⟩

theorem feed_more {owed code : Nat} {low high byte : UInt8} (above : low.toNat ≤ byte.toNat)
    (below : byte.toNat ≤ high.toNat) :
    feed (some ⟨owed + 1, low, high, code⟩) byte =
      ([], some ⟨owed, 0x80, 0xBF, code * 64 + byte.toNat % 64⟩) :=
  if_pos ⟨UInt8.le_iff_toNat_le.mpr above, UInt8.le_iff_toNat_le.mpr below⟩

theorem spells_encode (char : Char) : Spells none (String.utf8EncodeChar char) char := by
  have valid : char.val.toNat.isValidChar := char.valid
  have same : Char.ofNat char.val.toNat = char := Char.ofNat_toNat char
  unfold String.utf8EncodeChar
  generalize char.val.toNat = value at valid same ⊢
  simp only [Nat.isValidChar] at valid
  have above : (0x80 : UInt8).toNat = 128 := rfl
  have below : (0xBF : UInt8).toNat = 191 := rfl
  have tail : ∀ part, (UInt8.ofNat (part % 0x40 + 0x80)).toNat = part % 0x40 + 0x80 :=
    fun part => toNat_ofNat_byte (by omega)
  show Spells none (if value ≤ 0x7F then _ else if value ≤ 0x7FF then _ else
    if value ≤ 0xFFFF then _ else _) char
  split
  · have first : (UInt8.ofNat value).toNat = value := toNat_ofNat_byte (by omega)
    refine .last ?_
    rw [feed, start_one (by omega), first, same]
  split
  · have first : (UInt8.ofNat (value / 64 % 0x20 + 0xc0)).toNat = value / 64 % 0x20 + 0xc0 :=
      toNat_ofNat_byte (by omega)
    have last := tail value
    refine .more (start_two (by omega) (by omega)) (.last ?_)
    rw [feed_last (by omega) (by omega), first, last, ← same]
    congr 3
    omega
  split
  · have first : (UInt8.ofNat (value / 4096 % 0x10 + 0xe0)).toNat = value / 4096 % 0x10 + 0xe0 :=
      toNat_ofNat_byte (by omega)
    have second := tail (value / 64)
    have last := tail value
    refine .more (start_three (by omega) (by omega))
      (.more (feed_more (by split <;> simp only [UInt8.reduceToNat] <;> omega)
        (by split <;> simp only [UInt8.reduceToNat] <;> omega)) (.last ?_))
    rw [feed_last (by omega) (by omega), first, second, last, ← same]
    congr 3
    omega
  · have first : (UInt8.ofNat (value / 262144 % 0x08 + 0xf0)).toNat = value / 262144 % 0x08 + 0xf0 :=
      toNat_ofNat_byte (by omega)
    have second := tail (value / 4096)
    have third := tail (value / 64)
    have last := tail value
    refine .more (start_four (by omega) (by omega))
      (.more (feed_more (by split <;> simp only [UInt8.reduceToNat] <;> omega)
        (by split <;> simp only [UInt8.reduceToNat] <;> omega))
        (.more (feed_more (by omega) (by omega)) (.last ?_)))
    rw [feed_last (by omega) (by omega), first, second, third, last, ← same]
    congr 3
    omega

theorem Spells.reads {reader : Option Partial} {bytes : List UInt8} {char : Char}
    (spells : Spells reader bytes char) : feedAll reader bytes = ([char], none) := by
  induction spells with
  | last fed => simp [feedAll, fed]
  | more fed _ ih => simp [feedAll, fed, ih]

theorem Spells.cut {reader : Option Partial} {begun later : List UInt8} {char : Char}
    (spells : Spells reader (begun ++ later) char) (started : begun ≠ []) (owed : later ≠ []) :
    ∃ next, feedAll reader begun = ([], some next) := by
  induction begun generalizing reader with
  | nil => exact absurd rfl started
  | cons byte rest ih =>
      generalize all : byte :: rest ++ later = bytes at spells
      cases spells with
      | last => simp_all
      | more fed spelled =>
          simp only [List.cons_append, List.cons.injEq] at all
          obtain ⟨rfl, rfl⟩ := all
          cases rest with
          | nil => exact ⟨_, by simp [feedAll, fed]; rfl⟩
          | cons second rest =>
              obtain ⟨next, read⟩ := ih spelled (by simp)
              exact ⟨next, by simp [feedAll, fed] at read ⊢; exact read⟩

theorem start_of_later {char : Char} {first byte : UInt8} {rest : List UInt8}
    (encoded : String.utf8EncodeChar char = first :: rest) (member : byte ∈ rest) :
    start byte = ([replacementChar], none) := by
  have tail : ∀ part, start (UInt8.ofNat (part % 0x40 + 0x80)) = ([replacementChar], none) := by
    intro part
    have same : (UInt8.ofNat (part % 0x40 + 0x80)).toNat = part % 0x40 + 0x80 :=
      toNat_ofNat_byte (by omega)
    exact start_tail (by omega) (by omega)
  unfold String.utf8EncodeChar at encoded
  generalize char.val.toNat = value at encoded
  change (if value ≤ 0x7F then _ else if value ≤ 0x7FF then _ else
    if value ≤ 0xFFFF then _ else _) = _ at encoded
  split at encoded
  · cases encoded
    cases member
  split at encoded
  · cases encoded
    rcases member with _ | ⟨_, ⟨⟩⟩
    exact tail _
  split at encoded
  · cases encoded
    rcases member with _ | ⟨_, _ | ⟨_, ⟨⟩⟩⟩ <;> exact tail _
  · cases encoded
    rcases member with _ | ⟨_, _ | ⟨_, _ | ⟨_, ⟨⟩⟩⟩⟩ <;> exact tail _

theorem feedAll_utf8 (text : List Char) : feedAll none (utf8 text) = (text, none) := by
  induction text with
  | nil => rfl
  | cons char text ih => simp [feedAll_append, (spells_encode char).reads, ih]

theorem lossyText_utf8_append (text : List Char) (bytes : List UInt8) :
    lossyText (utf8 text ++ bytes) = text ++ lossyText bytes := by
  rw [lossyText, textFrom_append, feedAll_utf8, lossyText]

@[simp] theorem lossyText_nil : lossyText [] = [] := rfl

@[simp] theorem lossyText_utf8 (text : List Char) : lossyText (utf8 text) = text := by
  simpa using lossyText_utf8_append text []

theorem lossyText_of_isUtf8 {bytes : List UInt8} (whole : IsUtf8 bytes) :
    utf8 (lossyText bytes) = bytes := by
  obtain ⟨text, rfl⟩ := whole
  rw [lossyText_utf8]

theorem isUtf8_iff {bytes : List UInt8} : IsUtf8 bytes ↔ utf8 (lossyText bytes) = bytes :=
  ⟨lossyText_of_isUtf8, fun same => ⟨_, same⟩⟩

instance (bytes : List UInt8) : Decidable (IsUtf8 bytes) := decidable_of_iff' _ isUtf8_iff

theorem lossyText_cut {char : Char} {begun later : List UInt8}
    (encoded : begun ++ later = String.utf8EncodeChar char) (started : begun ≠ [])
    (owed : later ≠ []) : lossyText begun = [replacementChar] := by
  obtain ⟨next, read⟩ := (encoded ▸ spells_encode char : Spells none (begun ++ later) char).cut
    started owed
  simp [lossyText, textFrom, read, flush]

theorem lossyText_tails {tails : List UInt8}
    (none : ∀ byte ∈ tails, start byte = ([replacementChar], none)) (more : List UInt8) :
    lossyText (tails ++ more) = List.replicate tails.length replacementChar ++ lossyText more := by
  induction tails with
  | nil => rfl
  | cons byte tails ih =>
      have later := ih fun other member => none other (.tail _ member)
      unfold lossyText at later ⊢
      rw [List.cons_append, textFrom_cons, feed, none byte List.mem_cons_self, later]
      rfl

/-- Where the encoding of a text is cut: between two characters or inside one. -/
theorem utf8_cut {text : List Char} {bytes more : List UInt8} (cut : bytes ++ more = utf8 text) :
    (∃ before after, text = before ++ after ∧ bytes = utf8 before ∧ more = utf8 after) ∨
      ∃ before char after begun later, text = before ++ char :: after ∧
        bytes = utf8 before ++ begun ∧ more = later ++ utf8 after ∧
        begun ++ later = String.utf8EncodeChar char ∧ begun ≠ [] ∧ later ≠ [] := by
  induction text generalizing bytes with
  | nil =>
      obtain ⟨rfl, rfl⟩ := List.append_eq_nil_iff.mp cut
      exact .inl ⟨[], [], rfl, rfl, rfl⟩
  | cons char text ih =>
      rcases List.append_eq_append_iff.mp cut with ⟨later, encoded, rest⟩ | ⟨next, rfl, rest⟩
      · by_cases started : bytes = []
        · subst started
          exact .inl ⟨[], char :: text, rfl, rfl, cut⟩
        by_cases owed : later = []
        · subst owed
          exact .inl ⟨[char], text, rfl, by simpa using encoded.symm, rest⟩
        · exact .inr ⟨[], char, text, bytes, later, rfl, rfl, rest, encoded.symm, started, owed⟩
      · rcases ih rest.symm with
          ⟨before, after, rfl, rfl, rfl⟩ | ⟨before, other, after, begun, later, rfl, rfl, rfl, parts⟩
        · exact .inl ⟨char :: before, after, rfl, rfl, rfl⟩
        · exact .inr ⟨char :: before, other, after, begun, later, rfl, by simp, rfl, parts⟩

/-! ## Texts in parts -/

/-- A text some of whose characters were cut: each of these shows as two replacements or more. -/
inductive Garbled : List Char → List Char → Prop where
  | nil : Garbled [] []
  | same (char : Char) {text read : List Char} (rest : Garbled text read) :
      Garbled (char :: text) (char :: read)
  | cut {char : Char} {text read : List Char} (more : Nat)
      (wide : 2 ≤ (String.utf8EncodeChar char).length) (rest : Garbled text read) :
      Garbled (char :: text) (List.replicate (more + 2) replacementChar ++ read)

namespace Garbled

variable {text read : List Char}

theorem refl : ∀ text : List Char, Garbled text text
  | [] => .nil
  | char :: text => .same char (refl text)

theorem append_left (before : List Char) (garbled : Garbled text read) :
    Garbled (before ++ text) (before ++ read) := by
  induction before with
  | nil => exact garbled
  | cons char before ih => exact .same char ih

theorem length_le (garbled : Garbled text read) : text.length ≤ read.length := by
  induction garbled with
  | nil => exact Nat.le_refl _
  | same char rest ih => exact Nat.succ_le_succ ih
  | cut more wide rest ih =>
      simp only [List.length_cons, List.length_append, List.length_replicate]
      omega

theorem count_le (garbled : Garbled text read) :
    text.count replacementChar ≤ read.count replacementChar := by
  induction garbled with
  | nil => exact Nat.le_refl _
  | same char rest ih =>
      simp only [List.count_cons]
      omega
  | cut more wide rest ih =>
      simp only [List.count_cons, List.count_append, List.count_replicate_self]
      split <;> omega

theorem count_lt (garbled : Garbled text read) (cut : read ≠ text) :
    text.count replacementChar < read.count replacementChar := by
  induction garbled with
  | nil => exact absurd rfl cut
  | same char rest ih =>
      have later := ih fun same => cut (by rw [same])
      simp only [List.count_cons]
      omega
  | cut more wide rest ih =>
      have later := rest.count_le
      simp only [List.count_cons, List.count_append, List.count_replicate_self]
      split <;> omega

theorem append_inv {text more read : List Char} (garbled : Garbled (text ++ more) read) :
    ∃ before after, read = before ++ after ∧ Garbled text before ∧ Garbled more after := by
  induction text generalizing read with
  | nil => exact ⟨[], read, rfl, .nil, garbled⟩
  | cons char text ih =>
      cases garbled with
      | same _ rest =>
          obtain ⟨before, after, rfl, first, last⟩ := ih rest
          exact ⟨char :: before, after, rfl, .same char first, last⟩
      | cut count wide rest =>
          obtain ⟨before, after, rfl, first, last⟩ := ih rest
          exact ⟨_, after, (List.append_assoc ..).symm, .cut count wide first, last⟩

theorem eq_of_narrow (garbled : Garbled text read)
    (narrow : ∀ char ∈ text, (String.utf8EncodeChar char).length = 1) : read = text := by
  induction garbled with
  | nil => rfl
  | same char rest ih => rw [ih fun other member => narrow other (.tail _ member)]
  | cut more wide rest ih =>
      have one := narrow _ List.mem_cons_self
      omega

theorem mem_of_read (garbled : Garbled text read) {char : Char} (member : char ∈ read) :
    char ∈ text ∨ char = replacementChar := by
  induction garbled with
  | nil => cases member
  | same first rest ih =>
      rcases List.mem_cons.mp member with rfl | later
      · exact .inl List.mem_cons_self
      · exact (ih later).imp_left (.tail _)
  | cut more wide rest ih =>
      rcases List.mem_append.mp member with replaced | later
      · exact .inr (List.eq_of_mem_replicate replaced)
      · exact (ih later).imp_left (.tail _)

end Garbled

/-- A text read in parts, after some bytes of a character that was begun before. -/
theorem reads_garbled {reads : List (List UInt8)} {text : List Char} (owed : List UInt8)
    (none : ∀ byte ∈ owed, start byte = ([replacementChar], none))
    (whole : reads.flatten = owed ++ utf8 text) :
    ∃ read, reads.flatMap lossyText = List.replicate owed.length replacementChar ++ read ∧
      Garbled text read ∧ (owed = [] → read = text → ∀ part ∈ reads, IsUtf8 part) := by
  induction reads generalizing owed text with
  | nil =>
      obtain ⟨rfl, nothing⟩ := List.append_eq_nil_iff.mp whole.symm
      cases text with
      | nil => exact ⟨[], rfl, .nil, nofun⟩
      | cons char text => simp [String.utf8EncodeChar_ne_nil] at nothing
  | cons part reads ih =>
      simp only [List.flatten_cons] at whole
      rcases List.append_eq_append_iff.mp whole with ⟨later, rfl, rest⟩ | ⟨bytes, rfl, rest⟩
      · obtain ⟨read, same, garbled, parts⟩ :=
          ih later (fun byte member => none byte (List.mem_append_right _ member)) rest
        have replaced :=
          lossyText_tails (fun byte member => none byte (List.mem_append_left _ member)) []
        simp only [List.append_nil, lossyText_nil] at replaced
        refine ⟨read, ?_, garbled, fun fresh uncut => ?_⟩
        · rw [List.flatMap_cons, replaced, same, List.length_append, ← List.append_assoc,
            List.replicate_append_replicate]
        · obtain ⟨rfl, rfl⟩ := List.append_eq_nil_iff.mp fresh
          exact List.forall_mem_cons.mpr ⟨⟨[], rfl⟩, parts rfl uncut⟩
      · rw [List.flatMap_cons, lossyText_tails none]
        rcases utf8_cut rest.symm with
          ⟨before, after, rfl, rfl, later⟩ |
            ⟨before, char, after, begun, owing, rfl, rfl, later, encoded, started, owes⟩
        · obtain ⟨read, same, garbled, parts⟩ := ih [] (by simp) later
          refine ⟨before ++ read, by simp [same], garbled.append_left before, fun _ uncut => ?_⟩
          exact List.forall_mem_cons.mpr ⟨by subst_vars; exact ⟨before, by simp_all⟩,
            parts rfl (List.append_cancel_left uncut)⟩
        · -- a character is cut: one replacement here, and one at least in what follows
          have tails : ∀ byte ∈ owing, start byte = ([replacementChar], Option.none) := by
            intro byte member
            cases begun with
            | nil => exact absurd rfl started
            | cons first begun =>
                exact start_of_later encoded.symm (List.mem_append_right _ member)
          obtain ⟨read, same, garbled, -⟩ := ih owing tails later
          obtain ⟨more, long⟩ := Nat.exists_eq_succ_of_ne_zero
            (mt List.length_eq_zero_iff.mp owes)
          have wide : 2 ≤ (String.utf8EncodeChar char).length := by
            have first := List.length_pos_iff.mpr started
            rw [← encoded, List.length_append]
            omega
          refine ⟨before ++ (List.replicate (more + 2) replacementChar ++ read), ?_,
            (Garbled.cut more wide garbled).append_left before, fun _ uncut => ?_⟩
          · rw [lossyText_utf8_append, lossyText_cut encoded started owes, same, long]
            simp [List.replicate_succ]
          · have shorter := garbled.length_le
            have lengths := congrArg List.length (List.append_cancel_left uncut)
            simp only [List.length_append, List.length_replicate, List.length_cons] at lengths
            omega

/-- A text read in parts is the text again just when no part ends inside a character. -/
theorem flatMap_lossyText_iff {reads : List (List UInt8)} {text : List Char}
    (whole : reads.flatten = utf8 text) :
    reads.flatMap lossyText = text ↔ ∀ part ∈ reads, IsUtf8 part := by
  obtain ⟨read, same, -, uncutParts⟩ := reads_garbled [] (by simp) whole
  constructor
  · intro uncut
    exact uncutParts rfl (by simpa [same] using uncut)
  · intro parts
    have back : utf8 (reads.flatMap lossyText) = reads.flatten := by
      clear whole same uncutParts
      induction reads with
      | nil => rfl
      | cons part reads ih =>
          rw [List.flatMap_cons, utf8_append, lossyText_of_isUtf8 (parts _ List.mem_cons_self),
            ih fun other member => parts other (.tail _ member)]
          rfl
    rw [whole] at back
    simpa only [lossyText_utf8] using congrArg lossyText back

/-! ## The bytes of what is read -/

theorem matched_all {owed : Nat} {low high : UInt8} {bytes : List UInt8}
    (all : matched (owed + 1) low high bytes = owed + 1) :
    ∃ byte rest, bytes = byte :: rest ∧ low.toNat ≤ byte.toNat ∧ byte.toNat ≤ high.toNat ∧
      matched owed 0x80 0xBF rest = owed := by
  cases bytes with
  | nil => simp [matched] at all
  | cons byte rest =>
      simp only [matched] at all
      split at all
      · rename_i within
        exact ⟨byte, rest, rfl, UInt8.le_iff_toNat_le.mp within.1, UInt8.le_iff_toNat_le.mp within.2,
          by omega⟩
      · omega

/-- A character under way, in one go: it is completed, or the bytes that belong to it become one
replacement. -/
theorem textFrom_underWay (owed code : Nat) (low high : UInt8) (rest : List UInt8) :
    textFrom (some ⟨owed, low, high, code⟩) rest =
      if matched (owed + 1) low high rest = owed + 1 then
        Char.ofNat ((rest.take (owed + 1)).foldl (fun code byte => code * 64 + byte.toNat % 64) code) ::
          lossyText (rest.drop (owed + 1))
      else replacementChar :: lossyText (rest.drop (matched (owed + 1) low high rest)) := by
  induction owed generalizing code low high rest with
  | zero =>
      cases rest with
      | nil => rfl
      | cons byte rest =>
          rw [textFrom_cons]
          by_cases within : low ≤ byte ∧ byte ≤ high
          · simp [feed, matched, within, lossyText]
          · simp only [feed, matched, within, if_false, lossyText]
            simp [textFrom_cons, feed]
  | succ owed ih =>
      cases rest with
      | nil => rfl
      | cons byte rest =>
          rw [textFrom_cons]
          by_cases within : low ≤ byte ∧ byte ≤ high
          · simp [feed, matched, within, ih]
          · simp only [feed, matched, within, if_false, lossyText]
            simp [textFrom_cons, feed]

theorem utf8_replacement : String.utf8EncodeChar replacementChar = replacement := by decide

theorem val_ofNat {value : Nat} (valid : value.isValidChar) :
    (Char.ofNat value).val.toNat = value := by
  rw [Char.ofNat, dif_pos valid]
  rfl

theorem byte_eq {value : Nat} {byte : UInt8} (same : value = byte.toNat) :
    UInt8.ofNat value = byte := by
  rw [same, UInt8.ofNat_toNat]

theorem encode_one {first : UInt8} (high : first.toNat ≤ 0x7F) :
    String.utf8EncodeChar (Char.ofNat first.toNat) = [first] := by
  unfold String.utf8EncodeChar
  rw [val_ofNat (.inl (by omega))]
  show (if first.toNat ≤ 0x7F then _ else _) = _
  rw [if_pos (by omega), byte_eq rfl]

theorem encode_two {first second : UInt8} (low : 0xC2 ≤ first.toNat) (high : first.toNat ≤ 0xDF)
    (above : 0x80 ≤ second.toNat) (below : second.toNat ≤ 0xBF) :
    String.utf8EncodeChar (Char.ofNat (first.toNat % 32 * 64 + second.toNat % 64)) =
      [first, second] := by
  unfold String.utf8EncodeChar
  rw [val_ofNat (.inl (by omega))]
  generalize same : first.toNat % 32 * 64 + second.toNat % 64 = value
  show (if value ≤ 0x7F then _ else if value ≤ 0x7FF then _ else _) = _
  rw [if_neg (by omega), if_pos (by omega)]
  simp only [List.cons.injEq, and_true]
  exact ⟨byte_eq (by omega), byte_eq (by omega)⟩

theorem encode_three {first second third : UInt8} (low : 0xE0 ≤ first.toNat)
    (high : first.toNat ≤ 0xEF)
    (above : (if first.toNat = 0xE0 then (0xA0 : UInt8) else 0x80).toNat ≤ second.toNat)
    (below : second.toNat ≤ (if first.toNat = 0xED then (0x9F : UInt8) else 0xBF).toNat)
    (above' : 0x80 ≤ third.toNat) (below' : third.toNat ≤ 0xBF) :
    String.utf8EncodeChar (Char.ofNat
      ((first.toNat % 16 * 64 + second.toNat % 64) * 64 + third.toNat % 64)) =
        [first, second, third] := by
  have least : 0x80 ≤ second.toNat ∧ (first.toNat = 0xE0 → 0xA0 ≤ second.toNat) := by
    split at above <;> simp only [UInt8.reduceToNat] at above <;> omega
  have most : second.toNat ≤ 0xBF ∧ (first.toNat = 0xED → second.toNat ≤ 0x9F) := by
    split at below <;> simp only [UInt8.reduceToNat] at below <;> omega
  unfold String.utf8EncodeChar
  rw [val_ofNat (by simp only [Nat.isValidChar]; omega)]
  generalize same : (first.toNat % 16 * 64 + second.toNat % 64) * 64 + third.toNat % 64 = value
  show (if value ≤ 0x7F then _ else if value ≤ 0x7FF then _ else
    if value ≤ 0xFFFF then _ else _) = _
  rw [if_neg (by omega), if_neg (by omega), if_pos (by omega)]
  simp only [List.cons.injEq, and_true]
  exact ⟨byte_eq (by omega), byte_eq (by omega), byte_eq (by omega)⟩

theorem encode_four {first second third fourth : UInt8} (low : 0xF0 ≤ first.toNat)
    (high : first.toNat ≤ 0xF4)
    (above : (if first.toNat = 0xF0 then (0x90 : UInt8) else 0x80).toNat ≤ second.toNat)
    (below : second.toNat ≤ (if first.toNat = 0xF4 then (0x8F : UInt8) else 0xBF).toNat)
    (above' : 0x80 ≤ third.toNat) (below' : third.toNat ≤ 0xBF)
    (above'' : 0x80 ≤ fourth.toNat) (below'' : fourth.toNat ≤ 0xBF) :
    String.utf8EncodeChar (Char.ofNat
      (((first.toNat % 8 * 64 + second.toNat % 64) * 64 + third.toNat % 64) * 64 +
        fourth.toNat % 64)) = [first, second, third, fourth] := by
  have least : 0x80 ≤ second.toNat ∧ (first.toNat = 0xF0 → 0x90 ≤ second.toNat) := by
    split at above <;> simp only [UInt8.reduceToNat] at above <;> omega
  have most : second.toNat ≤ 0xBF ∧ (first.toNat = 0xF4 → second.toNat ≤ 0x8F) := by
    split at below <;> simp only [UInt8.reduceToNat] at below <;> omega
  unfold String.utf8EncodeChar
  rw [val_ofNat (by simp only [Nat.isValidChar]; omega)]
  generalize same : ((first.toNat % 8 * 64 + second.toNat % 64) * 64 + third.toNat % 64) * 64 +
    fourth.toNat % 64 = value
  show (if value ≤ 0x7F then _ else if value ≤ 0x7FF then _ else
    if value ≤ 0xFFFF then _ else _) = _
  rw [if_neg (by omega), if_neg (by omega), if_neg (by omega)]
  simp only [List.cons.injEq, and_true]
  exact ⟨byte_eq (by omega), byte_eq (by omega), byte_eq (by omega), byte_eq (by omega)⟩

theorem lossyFrom_skip (skip : Nat) (bytes : List UInt8) :
    lossyFrom skip bytes = lossy (bytes.drop skip) := by
  induction bytes generalizing skip with
  | nil => cases skip <;> rfl
  | cons byte rest ih =>
      cases skip with
      | zero => rfl
      | succ skip => exact ih skip

theorem lead_kinds (byte : UInt8) :
    byte.toNat ≤ 0x7F ∨ (0xC2 ≤ byte.toNat ∧ byte.toNat ≤ 0xDF) ∨
      (0xE0 ≤ byte.toNat ∧ byte.toNat ≤ 0xEF) ∨ (0xF0 ≤ byte.toNat ∧ byte.toNat ≤ 0xF4) ∨
        lead byte = none := by
  by_cases other : byte.toNat ≤ 0x7F ∨ (0xC2 ≤ byte.toNat ∧ byte.toNat ≤ 0xF4)
  · omega
  · refine .inr (.inr (.inr (.inr ?_)))
    simp only [lead, UInt8.le_iff_toNat_le, UInt8.reduceToNat, ← UInt8.toNat_inj]
    repeat rw [if_neg (by omega)]

theorem partial_written {byte low high : UInt8} {owed code : Nat} {rest : List UInt8}
    (begun : lead byte = some (owed + 1, low, high))
    (later : ∀ count, utf8 (lossyText (rest.drop count)) = lossyFrom count rest)
    (encoded : matched (owed + 1) low high rest = owed + 1 →
      String.utf8EncodeChar (Char.ofNat
        ((rest.take (owed + 1)).foldl (fun code byte => code * 64 + byte.toNat % 64) code)) =
          byte :: rest.take (owed + 1)) :
    utf8 (textFrom (some ⟨owed, low, high, code⟩) rest) = lossy (byte :: rest) := by
  rw [textFrom_underWay, lossy, lossyFrom, begun]
  simp only
  split
  · rename_i all
    rw [utf8_cons, encoded all, later]
  · rw [utf8_cons, utf8_replacement, later]

/-- The characters that are read, written again, are the bytes with the replacements. -/
theorem utf8_lossyText (bytes : List UInt8) : utf8 (lossyText bytes) = lossy bytes := by
  generalize size : bytes.length = length
  induction length using Nat.strongRecOn generalizing bytes with
  | ind length ih =>
      cases bytes with
      | nil => rfl
      | cons byte rest =>
          simp only [List.length_cons] at size
          have later : ∀ count, utf8 (lossyText (rest.drop count)) = lossyFrom count rest := by
            intro count
            rw [lossyFrom_skip]
            exact ih (rest.drop count).length (by simp; omega) _ rfl
          have whole := later 0
          rw [List.drop_zero] at whole
          rw [lossyText, textFrom_cons, feed]
          rcases lead_kinds byte with high | ⟨low, high⟩ | ⟨low, high⟩ | ⟨low, high⟩ | nothing
          · rw [start_one high]
            simp [lossy, lossyFrom, lead_one high, matched, encode_one high, ← whole, lossyText]
          · rw [start_two low high]
            refine partial_written (lead_two low high) later ?_
            intro all
            obtain ⟨second, more, rfl, above, below, -⟩ := matched_all all
            exact encode_two low high above below
          · rw [start_three low high]
            refine partial_written (lead_three low high) later ?_
            intro all
            obtain ⟨second, more, rfl, above, below, all⟩ := matched_all all
            obtain ⟨third, more, rfl, above', below', -⟩ := matched_all all
            exact encode_three low high above below above' below'
          · rw [start_four low high]
            refine partial_written (lead_four low high) later ?_
            intro all
            obtain ⟨second, more, rfl, above, below, all⟩ := matched_all all
            obtain ⟨third, more, rfl, above', below', all⟩ := matched_all all
            obtain ⟨fourth, more, rfl, above'', below'', -⟩ := matched_all all
            exact encode_four low high above below above' below' above'' below''
          · simp [start, nothing, lossy, lossyFrom, utf8_replacement, ← whole, lossyText]

end Utf8Lossy
