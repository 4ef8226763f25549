import OsfmEdm.Library.Utf8Reader

/-!
Percent encoding in the parts of a path.
-/

namespace UrlText

open JsonText Utf8Lossy

def hexByte? (high low : UInt8) : Option UInt8 := do
  let high ← hexValue? (Char.ofNat high.toNat)
  let low ← hexValue? (Char.ofNat low.toNat)
  return .ofNat (16 * high + low)

/-- A `%` without two hexadecimal digits stands for itself. -/
def percentDecode : List UInt8 → List UInt8
  | 0x25 :: high :: low :: rest =>
      match hexByte? high low with
      | some byte => byte :: percentDecode rest
      | none => 0x25 :: percentDecode (high :: low :: rest)
  | byte :: rest => byte :: percentDecode rest
  | [] => []

/-- The text of a part of a path; none when it is not UTF-8. -/
def pathText (part : String) : Option String :=
  let bytes := percentDecode (utf8 part.toList)
  if utf8 (lossyText bytes) = bytes then some (String.ofList (lossyText bytes)) else none

/-! ## Text that stands for itself -/

theorem mem_encodeChar {char : Char} {byte : UInt8} (ascii : byte.toNat < 128)
    (member : byte ∈ String.utf8EncodeChar char) : char.toNat = byte.toNat := by
  have value : char.toNat = char.val.toNat := rfl
  rw [String.utf8EncodeChar] at member
  split at member
  · simp only [List.mem_singleton] at member
    rw [member, UInt8.toNat_ofNat']
    omega
  · exfalso
    split at member
    · simp only [List.mem_cons, List.not_mem_nil, or_false] at member
      rcases member with rfl | rfl <;> rw [UInt8.toNat_ofNat'] at ascii <;> omega
    · split at member
      · simp only [List.mem_cons, List.not_mem_nil, or_false] at member
        rcases member with rfl | rfl | rfl <;> rw [UInt8.toNat_ofNat'] at ascii <;> omega
      · simp only [List.mem_cons, List.not_mem_nil, or_false] at member
        rcases member with rfl | rfl | rfl | rfl <;> rw [UInt8.toNat_ofNat'] at ascii <;> omega

theorem percent_free {text : List Char} (plain : '%' ∉ text) : 0x25 ∉ utf8 text := by
  intro member
  obtain ⟨char, there, byte⟩ := List.mem_flatMap.mp member
  have same : char = '%' := Char.toNat_inj.mp (mem_encodeChar (by decide) byte)
  exact plain (same ▸ there)

theorem percentDecode_plain {bytes : List UInt8} (plain : 0x25 ∉ bytes) :
    percentDecode bytes = bytes := by
  induction bytes with
  | nil => rfl
  | cons byte rest ih =>
      simp only [List.mem_cons, not_or] at plain
      rw [percentDecode]
      · rw [ih plain.2]
      · intro _ _ _ same _
        exact plain.1 same.symm

theorem pathText_plain {part : String} (plain : '%' ∉ part.toList) : pathText part = some part := by
  have bytes := percentDecode_plain (percent_free plain)
  simp [pathText, bytes]

end UrlText
