import Mathlib.Data.Nat.Digits.Lemmas

/-!
JSON values, the compact writer and a reader for JSON texts. Texts are lists of
characters, so that the recursion of the reader is visible to the kernel.
-/

namespace JsonText

/-- A number as it is spelled: sign, integer digits, fraction digits, exponent. -/
structure Number where
  negative : Bool
  whole : Nat
  fraction : List (Fin 10)
  exponent : Option Int
deriving DecidableEq

def Number.ofNat (value : Nat) : Number := ⟨false, value, [], none⟩

/-- The natural number a spelling denotes, when it is spelled as one. -/
def Number.toNat? : Number → Option Nat
  | ⟨false, whole, [], none⟩ => some whole
  | _ => none

inductive Json where
  | null
  | bool (value : Bool)
  | number (value : Number)
  | string (value : String)
  | array (items : List Json)
  | object (members : List (String × Json))

/-! ## Writer -/

def hexDigit (value : Nat) : Char :=
  if value < 10 then Char.ofNat (48 + value) else Char.ofNat (87 + value)

def escapeChar (char : Char) : List Char :=
  if char.toNat = 34 then ['\\', '\"']
  else if char.toNat = 92 then ['\\', '\\']
  else if char.toNat = 8 then ['\\', 'b']
  else if char.toNat = 9 then ['\\', 't']
  else if char.toNat = 10 then ['\\', 'n']
  else if char.toNat = 12 then ['\\', 'f']
  else if char.toNat = 13 then ['\\', 'r']
  else if char.toNat < 32 then
    ['\\', 'u', '0', '0', hexDigit (char.toNat / 16), hexDigit (char.toNat % 16)]
  else [char]

def writeString (value : String) : List Char :=
  '\"' :: (value.toList.flatMap escapeChar ++ ['\"'])

def digitChar (digit : Fin 10) : Char := Char.ofNat (48 + digit.val)

/-- The decimal digits, most significant first; zero has one digit. -/
def natDigits (value : Nat) : List (Fin 10) :=
  if value = 0 then [0] else (Nat.digits 10 value).reverse.map (Fin.ofNat 10)

def writeNat (value : Nat) : List Char := (natDigits value).map digitChar

def writeInt : Int → List Char
  | .ofNat value => writeNat value
  | .negSucc value => '-' :: writeNat (value + 1)

def writeFraction : List (Fin 10) → List Char
  | [] => []
  | digits => '.' :: digits.map digitChar

def writeExponent : Option Int → List Char
  | none => []
  | some exponent => 'e' :: writeInt exponent

def writeNumber (number : Number) : List Char :=
  (if number.negative then ['-'] else []) ++ writeNat number.whole ++
    writeFraction number.fraction ++ writeExponent number.exponent

mutual

def write : Json → List Char
  | .null => ['n', 'u', 'l', 'l']
  | .bool true => ['t', 'r', 'u', 'e']
  | .bool false => ['f', 'a', 'l', 's', 'e']
  | .number value => writeNumber value
  | .string value => writeString value
  | .array [] => ['[', ']']
  | .array (item :: items) => '[' :: (write item ++ writeItems items)
  | .object [] => ['\x7b', '\x7d']
  | .object (member :: members) => '\x7b' :: (writeMember member ++ writeMembers members)

/-- The items after the first one, with the closing bracket. -/
def writeItems : List Json → List Char
  | [] => [']']
  | item :: items => ',' :: (write item ++ writeItems items)

def writeMember : String × Json → List Char
  | (key, value) => writeString key ++ ':' :: write value

def writeMembers : List (String × Json) → List Char
  | [] => ['\x7d']
  | member :: members => ',' :: (writeMember member ++ writeMembers members)

end

/-! ## Reader -/

def isSpace (char : Char) : Bool :=
  char.toNat = 32 || char.toNat = 9 || char.toNat = 10 || char.toNat = 13

def skipSpace : List Char → List Char
  | [] => []
  | char :: rest => if isSpace char then skipSpace rest else char :: rest

def digitValue? (char : Char) : Option (Fin 10) :=
  if bounds : 48 ≤ char.toNat ∧ char.toNat < 58 then some ⟨char.toNat - 48, by omega⟩ else none

/-- The longest run of digits at the front, and what follows it. -/
def readDigits : List Char → List (Fin 10) × List Char
  | [] => ([], [])
  | char :: rest =>
      match digitValue? char with
      | none => ([], char :: rest)
      | some digit => (digit :: (readDigits rest).1, (readDigits rest).2)

def digitsValue (digits : List (Fin 10)) : Nat :=
  digits.foldl (fun value digit => 10 * value + digit.val) 0

/-- The integer part: at least one digit, no leading zero. -/
def readWhole (text : List Char) : Option (Nat × List Char) :=
  match readDigits text with
  | ([], _) => none
  | (first :: digits, rest) =>
      if first = 0 ∧ digits ≠ [] then none else some (digitsValue (first :: digits), rest)

def readFraction (text : List Char) : Option (List (Fin 10) × List Char) :=
  match text with
  | '.' :: rest =>
      match readDigits rest with
      | ([], _) => none
      | (digits, rest) => some (digits, rest)
  | _ => some ([], text)

def readExponentDigits (negative : Bool) (text : List Char) : Option (Option Int × List Char) :=
  match readDigits text with
  | ([], _) => none
  | (digits, rest) =>
      some (some (if negative then -(digitsValue digits : Int) else digitsValue digits), rest)

def readExponent (text : List Char) : Option (Option Int × List Char) :=
  match text with
  | char :: rest =>
      if char = 'e' ∨ char = 'E' then
        match rest with
        | '-' :: rest => readExponentDigits true rest
        | '+' :: rest => readExponentDigits false rest
        | _ => readExponentDigits false rest
      else some (none, text)
  | [] => some (none, [])

def readUnsigned (negative : Bool) (text : List Char) : Option (Number × List Char) := do
  let (whole, rest) ← readWhole text
  let (fraction, rest) ← readFraction rest
  let (exponent, rest) ← readExponent rest
  return (⟨negative, whole, fraction, exponent⟩, rest)

def readNumber (text : List Char) : Option (Number × List Char) :=
  match text with
  | '-' :: rest => readUnsigned true rest
  | _ => readUnsigned false text

def hexValue? (char : Char) : Option Nat :=
  if 48 ≤ char.toNat ∧ char.toNat < 58 then some (char.toNat - 48)
  else if 97 ≤ char.toNat ∧ char.toNat < 103 then some (char.toNat - 87)
  else if 65 ≤ char.toNat ∧ char.toNat < 71 then some (char.toNat - 55)
  else none

def readHex4 : List Char → Option (Nat × List Char)
  | a :: b :: c :: d :: rest => do
      let a ← hexValue? a
      let b ← hexValue? b
      let c ← hexValue? c
      let d ← hexValue? d
      return (4096 * a + 256 * b + 16 * c + d, rest)
  | _ => none

/-- A `\u` escape: a code unit outside the surrogates, or a surrogate pair. -/
def readUnicode (text : List Char) : Option (Char × List Char) := do
  let (unit, rest) ← readHex4 text
  if unit < 0xD800 ∨ 0xE000 ≤ unit then
    return (Char.ofNat unit, rest)
  else if unit < 0xDC00 then
    match rest with
    | '\\' :: 'u' :: rest =>
        let (low, rest) ← readHex4 rest
        if 0xDC00 ≤ low ∧ low < 0xE000 then
          return (Char.ofNat (0x10000 + 1024 * (unit - 0xD800) + (low - 0xDC00)), rest)
        else none
    | _ => none
  else none

def readEscape : List Char → Option (Char × List Char)
  | '\"' :: rest => some ('\"', rest)
  | '\\' :: rest => some ('\\', rest)
  | '/' :: rest => some ('/', rest)
  | 'b' :: rest => some (Char.ofNat 8, rest)
  | 't' :: rest => some (Char.ofNat 9, rest)
  | 'n' :: rest => some (Char.ofNat 10, rest)
  | 'f' :: rest => some (Char.ofNat 12, rest)
  | 'r' :: rest => some (Char.ofNat 13, rest)
  | 'u' :: rest => readUnicode rest
  | _ => none

/-- The characters of a string up to the closing quote, which is consumed. -/
def readChars : Nat → List Char → Option (List Char × List Char)
  | 0, _ => none
  | _ + 1, [] => none
  | fuel + 1, char :: rest =>
      if char.toNat = 34 then some ([], rest)
      else if char.toNat = 92 then do
        let (first, rest) ← readEscape rest
        let (chars, rest) ← readChars fuel rest
        return (first :: chars, rest)
      else if char.toNat < 32 then none
      else do
        let (chars, rest) ← readChars fuel rest
        return (char :: chars, rest)

def readString (fuel : Nat) (text : List Char) : Option (String × List Char) := do
  let (chars, rest) ← readChars fuel text
  return (String.ofList chars, rest)

mutual

def readValue : Nat → List Char → Option (Json × List Char)
  | 0, _ => none
  | fuel + 1, text =>
      match skipSpace text with
      | 'n' :: 'u' :: 'l' :: 'l' :: rest => some (.null, rest)
      | 't' :: 'r' :: 'u' :: 'e' :: rest => some (.bool true, rest)
      | 'f' :: 'a' :: 'l' :: 's' :: 'e' :: rest => some (.bool false, rest)
      | '\"' :: rest => (readString fuel rest).map fun (value, rest) => (.string value, rest)
      | '[' :: rest =>
          match skipSpace rest with
          | ']' :: rest => some (.array [], rest)
          | rest => do
              let (item, rest) ← readValue fuel rest
              let (items, rest) ← readItems fuel rest
              return (.array (item :: items), rest)
      | '\x7b' :: rest =>
          match skipSpace rest with
          | '\x7d' :: rest => some (.object [], rest)
          | rest => do
              let (member, rest) ← readMember fuel rest
              let (members, rest) ← readMembers fuel rest
              return (.object (member :: members), rest)
      | rest => (readNumber rest).map fun (value, rest) => (.number value, rest)

def readItems : Nat → List Char → Option (List Json × List Char)
  | 0, _ => none
  | fuel + 1, text =>
      match skipSpace text with
      | ']' :: rest => some ([], rest)
      | ',' :: rest => do
          let (item, rest) ← readValue fuel rest
          let (items, rest) ← readItems fuel rest
          return (item :: items, rest)
      | _ => none

def readMember : Nat → List Char → Option ((String × Json) × List Char)
  | 0, _ => none
  | fuel + 1, text =>
      match skipSpace text with
      | '\"' :: rest => do
          let (key, rest) ← readString fuel rest
          match skipSpace rest with
          | ':' :: rest =>
              let (value, rest) ← readValue fuel rest
              return ((key, value), rest)
          | _ => none
      | _ => none

def readMembers : Nat → List Char → Option (List (String × Json) × List Char)
  | 0, _ => none
  | fuel + 1, text =>
      match skipSpace text with
      | '\x7d' :: rest => some ([], rest)
      | ',' :: rest => do
          let (member, rest) ← readMember fuel rest
          let (members, rest) ← readMembers fuel rest
          return (member :: members, rest)
      | _ => none

end

/-- A whole text: one value with nothing but space around it. -/
def read (text : List Char) : Option Json :=
  match readValue (text.length + 1) text with
  | some (value, rest) => if skipSpace rest = [] then some value else none
  | none => none

/-- The UTF-8 bytes of a text. -/
def utf8 (text : List Char) : List UInt8 := text.flatMap String.utf8EncodeChar

end JsonText
