import Mathlib.Data.List.Basic

/-!
Bytes read as UTF-8, with U+FFFD for each maximal part that is not (`String::from_utf8_lossy`).
-/

namespace Utf8Lossy

/-- What a first byte asks for: the number of further bytes, and the range of the next one. -/
def lead (byte : UInt8) : Option (Nat × UInt8 × UInt8) :=
  if byte ≤ 0x7F then some (0, 0x80, 0xBF)
  else if 0xC2 ≤ byte ∧ byte ≤ 0xDF then some (1, 0x80, 0xBF)
  else if byte = 0xE0 then some (2, 0xA0, 0xBF)
  else if byte = 0xED then some (2, 0x80, 0x9F)
  else if 0xE1 ≤ byte ∧ byte ≤ 0xEF then some (2, 0x80, 0xBF)
  else if byte = 0xF0 then some (3, 0x90, 0xBF)
  else if 0xF1 ≤ byte ∧ byte ≤ 0xF3 then some (3, 0x80, 0xBF)
  else if byte = 0xF4 then some (3, 0x80, 0x8F)
  else none

/-- How many of the bytes asked for are there. -/
def matched : Nat → UInt8 → UInt8 → List UInt8 → Nat
  | owed + 1, low, high, byte :: rest =>
      if low ≤ byte ∧ byte ≤ high then matched owed 0x80 0xBF rest + 1 else 0
  | _, _, _, _ => 0

def replacement : List UInt8 := [0xEF, 0xBF, 0xBD]

/-- The text from a place on, after bytes that are already written. -/
def lossyFrom : Nat → List UInt8 → List UInt8
  | _, [] => []
  | skip + 1, _ :: rest => lossyFrom skip rest
  | 0, byte :: rest =>
      match lead byte with
      | none => replacement ++ lossyFrom 0 rest
      | some (owed, low, high) =>
          let found := matched owed low high rest
          if found = owed then byte :: rest.take owed ++ lossyFrom owed rest
          else replacement ++ lossyFrom found rest

def lossy (bytes : List UInt8) : List UInt8 := lossyFrom 0 bytes

example : lossy [0x41, 0xE2, 0x82, 0x42] = [0x41, 0xEF, 0xBF, 0xBD, 0x42] := by decide

end Utf8Lossy
