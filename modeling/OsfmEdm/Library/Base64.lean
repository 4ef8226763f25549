import Mathlib.Tactic.NormNum

/-!
Base64 with the standard alphabet, required padding and zero trailing bits.
-/

namespace Base64

def run (first : Char) (length : Nat) : List Char :=
  (List.range length).map fun offset => Char.ofNat (first.toNat + offset)

/-- `A` to `Z`, `a` to `z`, `0` to `9`, `+` and `/`. -/
def alphabet : List Char := run 'A' 26 ++ run 'a' 26 ++ run '0' 10 ++ ['+', '/']

def digit (value : Nat) : Char := alphabet.getD value 'A'

def value? (char : Char) : Option Nat := alphabet.findIdx? (· == char)

theorem value_digit (value : Nat) (bound : value < 64) : value? (digit value) = some value := by
  have table : ∀ index : Fin 64, value? (digit index.val) = some index.val := by decide
  exact table ⟨value, bound⟩

theorem digit_ne_padding (value : Nat) (bound : value < 64) : digit value ≠ '=' := by
  have table : ∀ index : Fin 64, digit index.val ≠ '=' := by decide
  exact table ⟨value, bound⟩

def encode : List UInt8 → List Char
  | [] => []
  | [a] => [digit (a.toNat / 4), digit (a.toNat % 4 * 16), '=', '=']
  | [a, b] =>
      [digit (a.toNat / 4), digit (a.toNat % 4 * 16 + b.toNat / 16), digit (b.toNat % 16 * 4), '=']
  | a :: b :: c :: rest =>
      digit (a.toNat / 4) :: digit (a.toNat % 4 * 16 + b.toNat / 16) ::
        digit (b.toNat % 16 * 4 + c.toNat / 64) :: digit (c.toNat % 64) :: encode rest

/-- A last group: one byte before two paddings, two bytes before one. -/
def decodeLast (first second : Nat) (third : Char) : Option (List UInt8) :=
  if third = '=' then
    if second % 16 = 0 then some [UInt8.ofNat (first * 4 + second / 16)] else none
  else
    (value? third).bind fun third =>
      if third % 4 = 0 then
        some [UInt8.ofNat (first * 4 + second / 16), UInt8.ofNat (second % 16 * 16 + third / 4)]
      else none

def decode : List Char → Option (List UInt8)
  | [] => some []
  | p :: q :: r :: s :: rest =>
      (value? p).bind fun first => (value? q).bind fun second =>
        if s = '=' then if rest = [] then decodeLast first second r else none
        else
          (value? r).bind fun third => (value? s).bind fun fourth => (decode rest).map fun tail =>
            UInt8.ofNat (first * 4 + second / 16) :: UInt8.ofNat (second % 16 * 16 + third / 4) ::
              UInt8.ofNat (third % 4 * 64 + fourth) :: tail
  | _ => none

theorem decode_encode (bytes : List UInt8) : decode (encode bytes) = some bytes := by
  induction bytes using encode.induct with
  | case1 => rfl
  | case2 a =>
      have small := a.toNat_lt
      have whole : a.toNat / 4 * 4 + a.toNat % 4 * 16 / 16 = a.toNat := by omega
      simp only [encode, decode, value_digit _ (show a.toNat / 4 < 64 by omega),
        value_digit _ (show a.toNat % 4 * 16 < 64 by omega), Option.bind_some, if_true, decodeLast,
        Nat.mul_mod_left, whole, UInt8.ofNat_toNat]
  | case3 a b =>
      have smallA := a.toNat_lt
      have smallB := b.toNat_lt
      have notPadding := digit_ne_padding (b.toNat % 16 * 4) (by omega)
      have first : a.toNat / 4 * 4 + (a.toNat % 4 * 16 + b.toNat / 16) / 16 = a.toNat := by omega
      have second : (a.toNat % 4 * 16 + b.toNat / 16) % 16 * 16 + b.toNat % 16 * 4 / 4 = b.toNat := by
        omega
      simp only [encode, decode, value_digit _ (show a.toNat / 4 < 64 by omega),
        value_digit _ (show a.toNat % 4 * 16 + b.toNat / 16 < 64 by omega), Option.bind_some,
        if_true, decodeLast, notPadding, if_false,
        value_digit _ (show b.toNat % 16 * 4 < 64 by omega), Nat.mul_mod_left, first, second,
        UInt8.ofNat_toNat]
  | case4 a b c rest ih =>
      have smallA := a.toNat_lt
      have smallB := b.toNat_lt
      have smallC := c.toNat_lt
      have notPadding := digit_ne_padding (c.toNat % 64) (by omega)
      have first : a.toNat / 4 * 4 + (a.toNat % 4 * 16 + b.toNat / 16) / 16 = a.toNat := by omega
      have second : (a.toNat % 4 * 16 + b.toNat / 16) % 16 * 16 +
          (b.toNat % 16 * 4 + c.toNat / 64) / 4 = b.toNat := by omega
      have third : (b.toNat % 16 * 4 + c.toNat / 64) % 4 * 64 + c.toNat % 64 = c.toNat := by omega
      simp only [encode, decode, value_digit _ (show a.toNat / 4 < 64 by omega),
        value_digit _ (show a.toNat % 4 * 16 + b.toNat / 16 < 64 by omega),
        value_digit _ (show b.toNat % 16 * 4 + c.toNat / 64 < 64 by omega),
        value_digit _ (show c.toNat % 64 < 64 by omega), Option.bind_some, notPadding, if_false,
        ih, Option.map_some, first, second, third, UInt8.ofNat_toNat]

/-! ## Characters -/

theorem mem_alphabet {char : Char} {value : Nat} (digit : value? char = some value) :
    char ∈ alphabet := by
  rw [value?, List.findIdx?_eq_some_iff_getElem] at digit
  obtain ⟨bound, same, -⟩ := digit
  exact eq_of_beq same ▸ List.getElem_mem bound

theorem decodeLast_char {first second : Nat} {third : Char} {bytes : List UInt8}
    (decoded : decodeLast first second third = some bytes) : third ∈ alphabet ∨ third = '=' := by
  unfold decodeLast at decoded
  split at decoded
  · exact .inr ‹_›
  · obtain ⟨value, digit, -⟩ := Option.bind_eq_some_iff.mp decoded
    exact .inl (mem_alphabet digit)

theorem decode_chars {text : List Char} {bytes : List UInt8} (decoded : decode text = some bytes) :
    ∀ char ∈ text, char ∈ alphabet ∨ char = '=' := by
  induction text using decode.induct generalizing bytes with
  | case1 => simp
  | case2 p q r s rest ih =>
      rw [decode] at decoded
      obtain ⟨first, firstDigit, decoded⟩ := Option.bind_eq_some_iff.mp decoded
      obtain ⟨second, secondDigit, decoded⟩ := Option.bind_eq_some_iff.mp decoded
      simp only [List.forall_mem_cons]
      refine ⟨.inl (mem_alphabet firstDigit), .inl (mem_alphabet secondDigit), ?_⟩
      split at decoded
      · rename_i padded
        split at decoded
        · rename_i last
          exact ⟨decodeLast_char decoded, .inr padded, by simp [last]⟩
        · cases decoded
      · obtain ⟨third, thirdDigit, decoded⟩ := Option.bind_eq_some_iff.mp decoded
        obtain ⟨fourth, fourthDigit, decoded⟩ := Option.bind_eq_some_iff.mp decoded
        obtain ⟨tail, later, -⟩ := Option.map_eq_some_iff.mp decoded
        exact ⟨.inl (mem_alphabet thirdDigit), .inl (mem_alphabet fourthDigit), ih later⟩
  | case3 text notNil notLong =>
      rw [decode] at decoded
      · cases decoded
      · exact notNil
      · exact notLong

/-! ## Group by group -/

/-- What the groups before the first invalid one decode to, and whether all groups are valid. -/
def decodeGroups : List Char → List UInt8 × Bool
  | [] => ([], true)
  | p :: q :: r :: s :: rest =>
      match decode [p, q, r, s] with
      | some bytes => (bytes ++ (decodeGroups rest).1, (decodeGroups rest).2)
      | none => ([], false)
  | _ => ([], false)

theorem decodeGroups_of_decode {text : List Char} {bytes : List UInt8}
    (decoded : decode text = some bytes) : decodeGroups text = (bytes, true) := by
  induction text using decode.induct generalizing bytes with
  | case1 =>
      cases decoded
      rfl
  | case2 p q r s rest ih =>
      rw [decode] at decoded
      obtain ⟨first, firstDigit, decoded⟩ := Option.bind_eq_some_iff.mp decoded
      obtain ⟨second, secondDigit, decoded⟩ := Option.bind_eq_some_iff.mp decoded
      rw [decodeGroups, decode, firstDigit, Option.bind_some, secondDigit, Option.bind_some]
      split at decoded
      · split at decoded
        · rename_i padded last
          simp [padded, last, decoded, decodeGroups]
        · cases decoded
      · rename_i digit
        obtain ⟨third, thirdDigit, decoded⟩ := Option.bind_eq_some_iff.mp decoded
        obtain ⟨fourth, fourthDigit, decoded⟩ := Option.bind_eq_some_iff.mp decoded
        obtain ⟨tail, later, same⟩ := Option.map_eq_some_iff.mp decoded
        simp [digit, thirdDigit, fourthDigit, decode, ih later, ← same]
  | case3 text notNil notLong =>
      rw [decode] at decoded
      · cases decoded
      · exact notNil
      · exact notLong

theorem decodeGroups_chars {text : List Char} (valid : (decodeGroups text).2 = true) :
    ∀ char ∈ text, char ∈ alphabet ∨ char = '=' := by
  induction text using decodeGroups.induct with
  | case1 => simp
  | case2 p q r s rest bytes decoded ih =>
      rw [decodeGroups, decoded] at valid
      have group := decode_chars decoded
      intro char member
      rcases List.mem_append.mp (show char ∈ [p, q, r, s] ++ rest from member) with own | later
      · exact group char own
      · exact ih valid char later
  | case3 p q r s rest decoded =>
      rw [decodeGroups, decoded] at valid
      cases valid
  | case4 text notNil notLong =>
      rw [decodeGroups] at valid
      · cases valid
      · exact notNil
      · exact notLong

end Base64
