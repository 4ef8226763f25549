import Mathlib.Tactic
import OsfmEdm.Library.JsonText

/-!
What the writer of `JsonText` prints, its reader reads back: `read (write value) = some value`
for every JSON value, and therefore the writer is injective.
-/

namespace JsonText

/-! ## Strings -/

theorem hexValue_hexDigit : ∀ value < 16, hexValue? (hexDigit value) = some value := by
  decide

theorem readHex4_low (value : Nat) (bound : value < 256) (rest : List Char) :
    readHex4 ('0' :: '0' :: hexDigit (value / 16) :: hexDigit (value % 16) :: rest) =
      some (value, rest) := by
  have zero : hexValue? '0' = some 0 := by decide
  have high := hexValue_hexDigit (value / 16) (by omega)
  have low := hexValue_hexDigit (value % 16) (by omega)
  have whole : 16 * (value / 16) + value % 16 = value := by omega
  simp [readHex4, zero, high, low, whole]

theorem readEscape_control (char : Char) (control : char.toNat < 32) (rest : List Char) :
    readEscape ('u' :: '0' :: '0' :: hexDigit (char.toNat / 16) ::
      hexDigit (char.toNat % 16) :: rest) = some (char, rest) := by
  have unit := readHex4_low char.toNat (by omega) rest
  have plain : char.toNat < 0xD800 := by omega
  simp [readEscape, readUnicode, unit, plain, Char.ofNat_toNat]

theorem char_eq_of_toNat {char : Char} {value : Nat} (equal : char.toNat = value) :
    char = Char.ofNat value := by
  rw [← equal, Char.ofNat_toNat]

theorem readChars_escapeChar (char : Char) (fuel : Nat) (rest : List Char) :
    readChars (fuel + 1) (escapeChar char ++ rest) =
      (readChars fuel rest).map fun (chars, rest) => (char :: chars, rest) := by
  have backslash : ('\\' : Char).toNat = 92 := by decide
  unfold escapeChar
  split_ifs with quote slash backspace tab newline feed carriage control
  all_goals try simp only [List.cons_append, List.nil_append, readChars, backslash]
  · simp [readEscape, char_eq_of_toNat quote]
    cases readChars fuel rest <;> rfl
  · simp [readEscape, char_eq_of_toNat slash]
    cases readChars fuel rest <;> rfl
  · simp [readEscape, char_eq_of_toNat backspace]
    cases readChars fuel rest <;> rfl
  · simp [readEscape, char_eq_of_toNat tab]
    cases readChars fuel rest <;> rfl
  · simp [readEscape, char_eq_of_toNat newline]
    cases readChars fuel rest <;> rfl
  · simp [readEscape, char_eq_of_toNat feed]
    cases readChars fuel rest <;> rfl
  · simp [readEscape, char_eq_of_toNat carriage]
    cases readChars fuel rest <;> rfl
  · simp [readEscape_control char control rest]
    cases readChars fuel rest <;> rfl
  · simp [quote, slash, control]
    cases readChars fuel rest <;> rfl

theorem readChars_escaped (chars : List Char) (fuel : Nat) (rest : List Char)
    (enough : chars.length < fuel) :
    readChars fuel (chars.flatMap escapeChar ++ '\"' :: rest) = some (chars, rest) := by
  induction chars generalizing fuel with
  | nil =>
      obtain ⟨fuel, rfl⟩ : ∃ smaller, fuel = smaller + 1 := ⟨fuel - 1, by simp at enough; omega⟩
      simp [readChars]
  | cons char chars ih =>
      obtain ⟨fuel, rfl⟩ : ∃ smaller, fuel = smaller + 1 := ⟨fuel - 1, by simp at enough; omega⟩
      simp only [List.length_cons] at enough
      rw [List.flatMap_cons, List.append_assoc, readChars_escapeChar, ih fuel (by omega)]
      rfl

theorem escapeChar_length (char : Char) : 1 ≤ (escapeChar char).length := by
  unfold escapeChar
  split_ifs <;> simp

theorem length_le_escaped (chars : List Char) :
    chars.length ≤ (chars.flatMap escapeChar).length := by
  induction chars with
  | nil => simp
  | cons char chars ih =>
      have one := escapeChar_length char
      simp only [List.flatMap_cons, List.length_append, List.length_cons]
      omega

theorem writeString_eq (value : String) (rest : List Char) :
    writeString value ++ rest = '\"' :: (value.toList.flatMap escapeChar ++ '\"' :: rest) := by
  simp [writeString]

theorem readString_written (value : String) (fuel : Nat) (rest : List Char)
    (enough : (writeString value).length ≤ fuel + 1) :
    readString fuel (value.toList.flatMap escapeChar ++ '\"' :: rest) = some (value, rest) := by
  have longer := length_le_escaped value.toList
  have room : value.toList.length < fuel := by
    simp only [writeString, List.length_cons, List.length_append, List.length_nil] at enough
    omega
  simp [readString, readChars_escaped value.toList fuel rest room, String.ofList_toList]

/-! ## Numbers -/

/-- What may follow a written value inside an array, an object or at the end of a text. -/
def Delimited : List Char → Prop
  | [] => True
  | char :: _ => char = ',' ∨ char = ']' ∨ char = '\x7d'

/-- The next character is not a digit. -/
def NoDigit : List Char → Prop
  | [] => True
  | char :: _ => digitValue? char = none

theorem digitValue_digitChar : ∀ digit : Fin 10, digitValue? (digitChar digit) = some digit := by
  decide

theorem readDigits_stop {rest : List Char} (stop : NoDigit rest) : readDigits rest = ([], rest) := by
  cases rest with
  | nil => rfl
  | cons char rest => simp only [NoDigit] at stop; simp [readDigits, stop]

theorem readDigits_written (digits : List (Fin 10)) (rest : List Char) (stop : NoDigit rest) :
    readDigits (digits.map digitChar ++ rest) = (digits, rest) := by
  induction digits with
  | nil => simpa using readDigits_stop stop
  | cons digit digits ih => simp [readDigits, digitValue_digitChar, ih]

theorem digitsValue_eq (digits : List (Fin 10)) :
    digitsValue digits = Nat.ofDigits 10 (digits.map Fin.val).reverse := by
  suffices general : ∀ value, digits.foldl (fun value digit => 10 * value + digit.val) value =
      value * 10 ^ digits.length + Nat.ofDigits 10 (digits.map Fin.val).reverse by
    simpa [digitsValue] using general 0
  induction digits with
  | nil => simp
  | cons digit digits ih =>
      intro value
      simp only [List.foldl_cons, ih, List.map_cons, List.reverse_cons, Nat.ofDigits_append,
        List.length_cons, List.length_reverse, List.length_map, Nat.ofDigits_singleton]
      ring

theorem natDigits_val (value : Nat) (nonzero : value ≠ 0) :
    (natDigits value).map Fin.val = (Nat.digits 10 value).reverse := by
  simp only [natDigits, nonzero, if_false, List.map_map]
  conv_rhs => rw [← List.map_id (Nat.digits 10 value).reverse]
  refine List.map_congr_left ?_
  intro digit member
  have small := Nat.digits_lt_base (by omega : 1 < 10) (List.mem_reverse.mp member)
  simp [Fin.ofNat, Nat.mod_eq_of_lt small]

theorem natDigits_value (value : Nat) : digitsValue (natDigits value) = value := by
  by_cases zero : value = 0
  · subst value
    rfl
  · rw [digitsValue_eq, natDigits_val value zero, List.reverse_reverse, Nat.ofDigits_digits]

theorem natDigits_head (value : Nat) : ∃ first digits,
    natDigits value = first :: digits ∧ (first = 0 → digits = []) := by
  by_cases zero : value = 0
  · exact ⟨0, [], by simp [natDigits, zero], fun _ => rfl⟩
  · have values := natDigits_val value zero
    cases shape : natDigits value with
    | nil =>
        have empty : Nat.digits 10 value = [] := by simpa [shape] using values
        exact absurd (Nat.digits_eq_nil_iff_eq_zero.mp empty) zero
    | cons first digits =>
        refine ⟨first, digits, rfl, ?_⟩
        intro leading
        rw [shape, List.map_cons] at values
        have last := Nat.getLast_digit_ne_zero 10 zero
        have head : (Nat.digits 10 value).reverse.head (by simp [← values]) = 0 := by
          simp [← values, leading]
        rw [List.head_reverse] at head
        exact absurd head last

theorem readWhole_written (value : Nat) (rest : List Char) (stop : NoDigit rest) :
    readWhole (writeNat value ++ rest) = some (value, rest) := by
  obtain ⟨first, digits, shape, leading⟩ := natDigits_head value
  have plain : ¬(first = 0 ∧ digits ≠ []) := fun both => both.2 (leading both.1)
  rw [readWhole, writeNat, readDigits_written _ _ stop, shape]
  simp [plain, ← shape, natDigits_value]

theorem readExponentDigits_written (negative : Bool) (value : Nat) (rest : List Char)
    (stop : NoDigit rest) : readExponentDigits negative (writeNat value ++ rest) =
      some (some (if negative then -(value : Int) else value), rest) := by
  obtain ⟨first, digits, shape, _⟩ := natDigits_head value
  rw [readExponentDigits, writeNat, readDigits_written _ _ stop, shape]
  simp [← shape, natDigits_value]

theorem digitChar_ne_sign : ∀ digit : Fin 10, digitChar digit ≠ '-' ∧ digitChar digit ≠ '+' := by
  decide

theorem writeNat_head (value : Nat) : ∃ first text,
    writeNat value = first :: text ∧ first ≠ '-' ∧ first ≠ '+' := by
  obtain ⟨first, digits, shape, _⟩ := natDigits_head value
  exact ⟨digitChar first, digits.map digitChar, by simp [writeNat, shape],
    (digitChar_ne_sign first).1, (digitChar_ne_sign first).2⟩

theorem writeNat_ne_nil (value : Nat) : writeNat value ≠ [] := by
  obtain ⟨first, text, shape, _⟩ := writeNat_head value
  simp [shape]

theorem forall_mem_writeNat {P : Char → Prop} (digits : ∀ digit, P (digitChar digit))
    (value : Nat) : ∀ char ∈ writeNat value, P char := by
  intro char member
  obtain ⟨digit, -, rfl⟩ := List.mem_map.mp member
  exact digits digit

theorem writeNat_injective : Function.Injective writeNat := by
  intro first second same
  have read (value : Nat) : readWhole (writeNat value) = some (value, []) := by
    simpa using readWhole_written value [] trivial
  have both := (read first).symm.trans (same ▸ read second)
  exact congrArg Prod.fst (Option.some.inj both)

theorem Delimited.noDigit {rest : List Char} (delimited : Delimited rest) : NoDigit rest := by
  cases rest with
  | nil => trivial
  | cons char rest => rcases delimited with rfl | rfl | rfl <;> exact rfl

theorem Delimited.readExponent {rest : List Char} (delimited : Delimited rest) :
    readExponent rest = some (none, rest) := by
  cases rest with
  | nil => rfl
  | cons char rest => rcases delimited with rfl | rfl | rfl <;> rfl

theorem readExponent_some (exponent : Int) (rest : List Char) (stop : NoDigit rest) :
    readExponent ('e' :: (writeInt exponent ++ rest)) = some (some exponent, rest) := by
  simp only [readExponent, true_or, if_true]
  cases exponent with
  | ofNat value =>
      obtain ⟨first, text, shape, notMinus, notPlus⟩ := writeNat_head value
      have read := readExponentDigits_written false value rest stop
      simp only [writeInt, shape, List.cons_append] at read ⊢
      split
      · rename_i equal
        exact absurd (List.cons.inj equal).1 notMinus
      · rename_i equal
        exact absurd (List.cons.inj equal).1 notPlus
      · simpa using read
  | negSucc value =>
      have read := readExponentDigits_written true (value + 1) rest stop
      simp only [writeInt, List.cons_append, read]
      rfl

theorem readExponent_written (exponent : Option Int) (rest : List Char)
    (delimited : Delimited rest) :
    readExponent (writeExponent exponent ++ rest) = some (exponent, rest) := by
  cases exponent with
  | none => exact delimited.readExponent
  | some exponent => exact readExponent_some exponent rest delimited.noDigit

theorem writeExponent_noDigit (exponent : Option Int) (rest : List Char)
    (delimited : Delimited rest) : NoDigit (writeExponent exponent ++ rest) := by
  cases exponent with
  | none => exact delimited.noDigit
  | some exponent => exact (rfl : digitValue? 'e' = none)

theorem readFraction_written (fraction : List (Fin 10)) (exponent : Option Int)
    (rest : List Char) (delimited : Delimited rest) :
    readFraction (writeFraction fraction ++ (writeExponent exponent ++ rest)) =
      some (fraction, writeExponent exponent ++ rest) := by
  cases fraction with
  | cons digit digits =>
      have stop := writeExponent_noDigit exponent rest delimited
      have read := readDigits_written (digit :: digits) _ stop
      simp only [List.map_cons, List.cons_append] at read
      simp [writeFraction, readFraction, read]
  | nil =>
      cases exponent with
      | some exponent => rfl
      | none =>
          cases rest with
          | nil => rfl
          | cons char rest => rcases delimited with rfl | rfl | rfl <;> rfl

theorem writeFraction_noDigit (fraction : List (Fin 10)) (exponent : Option Int)
    (rest : List Char) (delimited : Delimited rest) :
    NoDigit (writeFraction fraction ++ (writeExponent exponent ++ rest)) := by
  cases fraction with
  | nil => exact writeExponent_noDigit exponent rest delimited
  | cons digit digits => exact (rfl : digitValue? '.' = none)

theorem readUnsigned_written (number : Number) (rest : List Char) (delimited : Delimited rest) :
    readUnsigned number.negative (writeNat number.whole ++
      (writeFraction number.fraction ++ (writeExponent number.exponent ++ rest))) =
        some (number, rest) := by
  have whole := readWhole_written number.whole _
    (writeFraction_noDigit number.fraction number.exponent rest delimited)
  have fraction := readFraction_written number.fraction number.exponent rest delimited
  have exponent := readExponent_written number.exponent rest delimited
  simp [readUnsigned, whole, fraction, exponent]

theorem readNumber_written (number : Number) (rest : List Char) (delimited : Delimited rest) :
    readNumber (writeNumber number ++ rest) = some (number, rest) := by
  have unsigned := readUnsigned_written number rest delimited
  obtain ⟨first, text, shape, notMinus, _⟩ := writeNat_head number.whole
  cases sign : number.negative with
  | true =>
      rw [sign] at unsigned
      simpa [writeNumber, sign, readNumber] using unsigned
  | false =>
      rw [sign] at unsigned
      simp only [writeNumber, sign, Bool.false_eq_true, if_false, List.nil_append,
        List.append_assoc]
      simp only [shape, List.cons_append] at unsigned ⊢
      unfold readNumber
      split
      · rename_i equal
        exact absurd (List.cons.inj equal).1 notMinus
      · exact unsigned

/-! ## Values -/

theorem skipSpace_cons {char : Char} (visible : isSpace char = false) (rest : List Char) :
    skipSpace (char :: rest) = char :: rest := by
  simp [skipSpace, visible]

theorem Delimited.skipSpace {rest : List Char} (delimited : Delimited rest) :
    skipSpace rest = rest := by
  cases rest with
  | nil => rfl
  | cons char rest => rcases delimited with rfl | rfl | rfl <;> rfl

theorem writeNumber_head (number : Number) : ∃ first text,
    writeNumber number = first :: text ∧ (first = '-' ∨ ∃ digit, first = digitChar digit) := by
  obtain ⟨digit, digits, shape, _⟩ := natDigits_head number.whole
  cases sign : number.negative with
  | true => exact ⟨'-', _, by simp [writeNumber, sign]; rfl, Or.inl rfl⟩
  | false =>
      exact ⟨digitChar digit, _, by simp [writeNumber, sign, writeNat, shape]; rfl,
        Or.inr ⟨digit, rfl⟩⟩

theorem write_head (value : Json) : ∃ first text,
    write value = first :: text ∧ isSpace first = false ∧ first ≠ ']' := by
  have digits : ∀ digit : Fin 10, isSpace (digitChar digit) = false ∧ digitChar digit ≠ ']' := by
    decide
  cases value with
  | null => exact ⟨_, _, rfl, by decide, by decide⟩
  | bool value => cases value <;> exact ⟨_, _, rfl, by decide, by decide⟩
  | string value => exact ⟨_, _, rfl, by decide, by decide⟩
  | array items => cases items <;> exact ⟨_, _, rfl, by decide, by decide⟩
  | object members => cases members <;> exact ⟨_, _, rfl, by decide, by decide⟩
  | number value =>
      obtain ⟨first, text, shape, kind⟩ := writeNumber_head value
      refine ⟨first, text, by simpa [write] using shape, ?_⟩
      rcases kind with rfl | ⟨digit, rfl⟩
      · exact ⟨by decide, by decide⟩
      · exact digits digit

theorem readValue_number (number : Number) (fuel : Nat) (rest : List Char)
    (delimited : Delimited rest) :
    readValue (fuel + 1) (writeNumber number ++ rest) = some (.number number, rest) := by
  have other : ∀ digit : Fin 10, isSpace (digitChar digit) = false ∧ digitChar digit ≠ 'n' ∧
      digitChar digit ≠ 't' ∧ digitChar digit ≠ 'f' ∧ digitChar digit ≠ '\"' ∧
      digitChar digit ≠ '[' ∧ digitChar digit ≠ '\x7b' := by
    decide
  have read := readNumber_written number rest delimited
  obtain ⟨first, text, shape, kind⟩ := writeNumber_head number
  rw [shape] at read ⊢
  rcases kind with rfl | ⟨digit, rfl⟩
  · simp only [List.cons_append] at read ⊢
    simp [readValue, skipSpace, isSpace, read]
  · obtain ⟨space, n, t, f, quote, bracket, brace⟩ := other digit
    simp only [List.cons_append] at read ⊢
    simp only [readValue, skipSpace, space, Bool.false_eq_true, if_false]
    split <;> rename_i equal
    · exact absurd (List.cons.inj equal).1 n
    · exact absurd (List.cons.inj equal).1 t
    · exact absurd (List.cons.inj equal).1 f
    · exact absurd (List.cons.inj equal).1 quote
    · exact absurd (List.cons.inj equal).1 bracket
    · exact absurd (List.cons.inj equal).1 brace
    · simp [read]

theorem writeItems_delimited (items : List Json) (rest : List Char) :
    Delimited (writeItems items ++ rest) := by
  cases items with
  | nil => exact Or.inr (Or.inl rfl)
  | cons item items => exact Or.inl rfl

theorem writeMembers_delimited (members : List (String × Json)) (rest : List Char) :
    Delimited (writeMembers members ++ rest) := by
  cases members with
  | nil => exact Or.inr (Or.inr rfl)
  | cons member members => exact Or.inl rfl

theorem readMember_key (key : String) (fuel : Nat) (text : List Char)
    (enough : (writeString key).length ≤ fuel + 1) :
    readMember (fuel + 1) (writeString key ++ ':' :: text) =
      (readValue fuel text).map fun (value, rest) => ((key, value), rest) := by
  have read := readString_written key fuel (':' :: text) enough
  rw [writeString_eq]
  simp only [readMember, skipSpace_cons (by decide : isSpace '\"' = false), read,
    Option.bind_eq_bind, Option.bind_some, skipSpace_cons (by decide : isSpace ':' = false)]
  cases readValue fuel text <;> rfl

mutual

theorem readValue_written (value : Json) (fuel : Nat) (rest : List Char)
    (enough : (write value).length < fuel) (delimited : Delimited rest) :
    readValue fuel (write value ++ rest) = some (value, rest) := by
  obtain ⟨fuel, rfl⟩ : ∃ smaller, fuel = smaller + 1 := ⟨fuel - 1, by omega⟩
  match value with
  | .null => rfl
  | .bool true => rfl
  | .bool false => rfl
  | .number number => exact readValue_number number fuel rest delimited
  | .string text =>
      have read := readString_written text fuel rest (by simp only [write] at enough; omega)
      rw [write, writeString_eq]
      simp [readValue, skipSpace_cons (by decide : isSpace '\"' = false), read]
  | .array [] => rfl
  | .object [] => rfl
  | .array (item :: items) =>
      simp only [write, List.length_cons, List.length_append] at enough
      have itemRead := readValue_written item fuel (writeItems items ++ rest) (by omega)
        (writeItems_delimited items rest)
      have itemsRead := readItems_written items fuel rest (by omega)
      obtain ⟨first, text, shape, visible, notClosing⟩ := write_head item
      simp only [write, List.cons_append, List.append_assoc]
      rw [shape] at itemRead ⊢
      simp only [List.cons_append] at itemRead ⊢
      simp [readValue, skipSpace_cons (by decide : isSpace '[' = false), skipSpace_cons visible,
        notClosing, itemRead, itemsRead]
  | .object (member :: members) =>
      simp only [write, List.length_cons, List.length_append] at enough
      have memberRead := readMember_written member fuel (writeMembers members ++ rest) (by omega)
        (writeMembers_delimited members rest)
      have membersRead := readMembers_written members fuel rest (by omega)
      obtain ⟨key, value⟩ := member
      simp only [write, writeMember, List.cons_append, List.append_assoc] at memberRead ⊢
      rw [writeString_eq] at memberRead ⊢
      simp [readValue, skipSpace_cons (by decide : isSpace '\x7b' = false),
        skipSpace_cons (by decide : isSpace '\"' = false), memberRead, membersRead]

theorem readItems_written (items : List Json) (fuel : Nat) (rest : List Char)
    (enough : (writeItems items).length < fuel) :
    readItems fuel (writeItems items ++ rest) = some (items, rest) := by
  obtain ⟨fuel, rfl⟩ : ∃ smaller, fuel = smaller + 1 := ⟨fuel - 1, by omega⟩
  match items with
  | [] => rfl
  | item :: items =>
      simp only [writeItems, List.length_cons, List.length_append] at enough
      have itemRead := readValue_written item fuel (writeItems items ++ rest) (by omega)
        (writeItems_delimited items rest)
      have itemsRead := readItems_written items fuel rest (by omega)
      simp only [writeItems, List.cons_append, List.append_assoc]
      simp [readItems, skipSpace_cons (by decide : isSpace ',' = false), itemRead, itemsRead]

theorem readMember_written (member : String × Json) (fuel : Nat) (rest : List Char)
    (enough : (writeMember member).length < fuel) (delimited : Delimited rest) :
    readMember fuel (writeMember member ++ rest) = some (member, rest) := by
  obtain ⟨fuel, rfl⟩ : ∃ smaller, fuel = smaller + 1 := ⟨fuel - 1, by omega⟩
  match member with
  | (key, value) =>
      simp only [writeMember, List.length_cons, List.length_append] at enough
      have valueRead := readValue_written value fuel rest (by omega) delimited
      simp only [writeMember, List.append_assoc, List.cons_append]
      rw [readMember_key key fuel _ (by omega), valueRead]
      rfl

theorem readMembers_written (members : List (String × Json)) (fuel : Nat) (rest : List Char)
    (enough : (writeMembers members).length < fuel) :
    readMembers fuel (writeMembers members ++ rest) = some (members, rest) := by
  obtain ⟨fuel, rfl⟩ : ∃ smaller, fuel = smaller + 1 := ⟨fuel - 1, by omega⟩
  match members with
  | [] => rfl
  | member :: members =>
      simp only [writeMembers, List.length_cons, List.length_append] at enough
      have memberRead := readMember_written member fuel (writeMembers members ++ rest) (by omega)
        (writeMembers_delimited members rest)
      have membersRead := readMembers_written members fuel rest (by omega)
      simp only [writeMembers, List.cons_append, List.append_assoc]
      simp [readMembers, skipSpace_cons (by decide : isSpace ',' = false), memberRead, membersRead]

end

theorem read_write (value : Json) : read (write value) = some value := by
  have whole := readValue_written value ((write value).length + 1) [] (by omega) trivial
  rw [List.append_nil] at whole
  simp [read, whole, skipSpace]

theorem write_injective : Function.Injective write := by
  intro first second same
  have firstRead := read_write first
  rw [same, read_write second] at firstRead
  exact (Option.some.inj firstRead).symm

theorem utf8_injective : Function.Injective utf8 := by
  intro first second same
  have bytes (text : List Char) : (String.ofList text).toByteArray = (utf8 text).toByteArray :=
    String.toByteArray_ofList.trans (ByteArray.ext rfl)
  have encoded : (String.ofList first).toByteArray = (String.ofList second).toByteArray := by
    rw [bytes, bytes, same]
  exact String.ofList_injective (String.toByteArray_inj.mp encoded)

end JsonText
