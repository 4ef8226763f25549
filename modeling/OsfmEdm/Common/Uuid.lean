import OsfmEdm.Library.JsonCodec

/-!
UUIDs: sixteen bytes, printed in the hyphenated lower-case form and parsed from the forms
the `uuid` crate accepts.
-/

namespace OsfmEdm

open JsonText

@[ext]
structure Uuid where
  bytes : List UInt8
  size : bytes.length = 16
deriving DecidableEq

namespace Uuid

/-- The UUID whose last byte is `value` and whose other bytes are zero. -/
def small (value : UInt8) : Uuid := ⟨List.replicate 15 0 ++ [value], by simp⟩

def hexByte (byte : UInt8) : List Char :=
  [hexDigit (byte.toNat / 16), hexDigit (byte.toNat % 16)]

def hexBytes (bytes : List UInt8) : List Char := bytes.flatMap hexByte

/-- `Display`: groups of 4, 2, 2, 2 and 6 bytes. -/
def hyphenated (id : Uuid) : List Char :=
  hexBytes (id.bytes.take 4) ++ '-' :: (hexBytes ((id.bytes.drop 4).take 2) ++
    '-' :: (hexBytes ((id.bytes.drop 6).take 2) ++
      '-' :: (hexBytes ((id.bytes.drop 8).take 2) ++ '-' :: hexBytes (id.bytes.drop 10))))

def readHexBytes : List Char → Option (List UInt8)
  | [] => some []
  | [_] => none
  | high :: low :: rest => do
      let high ← hexValue? high
      let low ← hexValue? low
      let bytes ← readHexBytes rest
      return UInt8.ofNat (16 * high + low) :: bytes

/-- The hexadecimal digits of a hyphenated text, when the hyphens stand where they must. -/
def stripHyphens (text : List Char) : Option (List Char) :=
  if text.length = 36 ∧ text[8]? = some '-' ∧ text[13]? = some '-' ∧ text[18]? = some '-' ∧
      text[23]? = some '-' then
    some (text.take 8 ++ (text.drop 9).take 4 ++ (text.drop 14).take 4 ++ (text.drop 19).take 4 ++
      text.drop 24)
  else none

def ofDigits (text : List Char) : Option Uuid :=
  (readHexBytes text).bind fun bytes =>
    if size : bytes.length = 16 then some ⟨bytes, size⟩ else none

/-- The text between braces, or after the URN prefix, or the text itself. -/
def unwrap (text : List Char) : List Char :=
  if text.length = 38 ∧ text.head? = some '\x7b' ∧ text.getLast? = some '\x7d' then
    text.tail.dropLast
  else if text.length = 45 ∧ text.take 9 = ['u', 'r', 'n', ':', 'u', 'u', 'i', 'd', ':'] then
    text.drop 9
  else text

/-- `Uuid::parse_str`: simple, hyphenated, braced or URN form. -/
def parseStr (text : List Char) : Option Uuid :=
  if text.length = 32 then ofDigits text else (stripHyphens (unwrap text)).bind ofDigits

theorem readHexBytes_hexBytes (bytes : List UInt8) : readHexBytes (hexBytes bytes) = some bytes := by
  induction bytes with
  | nil => rfl
  | cons byte bytes ih =>
      have bound := byte.toNat_lt
      have high := hexValue_hexDigit (byte.toNat / 16) (by omega)
      have low := hexValue_hexDigit (byte.toNat % 16) (by omega)
      have whole : 16 * (byte.toNat / 16) + byte.toNat % 16 = byte.toNat := by omega
      simp only [hexBytes, List.flatMap_cons, hexByte, List.cons_append, List.nil_append] at ih ⊢
      simp only [readHexBytes, high, low, ih, Option.bind_eq_bind, Option.bind_some, whole,
        UInt8.ofNat_toNat]
      rfl

theorem hexBytes_length (bytes : List UInt8) : (hexBytes bytes).length = 2 * bytes.length := by
  induction bytes with
  | nil => rfl
  | cons byte bytes ih =>
      simp only [hexBytes, List.flatMap_cons, List.length_append, hexByte, List.length_cons,
        List.length_nil] at ih ⊢
      omega

theorem stripHyphens_hyphenated (id : Uuid) :
    stripHyphens id.hyphenated = some (hexBytes id.bytes) := by
  obtain ⟨bytes, size⟩ := id
  match bytes, size with
  | [_, _, _, _, _, _, _, _, _, _, _, _, _, _, _, _], _ => exact if_pos ⟨rfl, rfl, rfl, rfl, rfl⟩

theorem hyphenated_length (id : Uuid) : id.hyphenated.length = 36 := by
  obtain ⟨bytes, size⟩ := id
  simp [hyphenated, hexBytes_length, size]

theorem parseStr_hyphenated (id : Uuid) : parseStr id.hyphenated = some id := by
  have length := hyphenated_length id
  have bare : unwrap id.hyphenated = id.hyphenated := by simp [unwrap, length]
  simp [parseStr, length, bare, stripHyphens_hyphenated, ofDigits, readHexBytes_hexBytes, id.size]

def codec : Codec Uuid where
  encode id := .string (String.ofList id.hyphenated)
  decode json := (Codec.text.decode json).bind fun text => parseStr text.toList
  decode_encode id := by simp [Codec.text, parseStr_hyphenated]

end Uuid

end OsfmEdm
