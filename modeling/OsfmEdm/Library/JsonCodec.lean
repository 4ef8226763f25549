import Mathlib.Algebra.Order.Ring.Rat
import OsfmEdm.Library.JsonRoundTrip

/-!
Codecs between data types and JSON values. A codec carries its own law: decoding what
it encoded gives the value back. The member helpers follow the reading rules of derived
decoders: members in any order, unknown members ignored, a repeated member refused, an
absent optional member read as absent. A struct may also come as an array of its fields in
order, and a unit variant as an object that names it.
-/

namespace JsonText

structure Codec (α : Type) where
  encode : α → Json
  decode : Json → Option α
  decode_encode : ∀ value, decode (encode value) = some value

attribute [simp] Codec.decode_encode

theorem Codec.encode_injective {α : Type} (codec : Codec α) :
    Function.Injective codec.encode := by
  intro first second same
  have decoded := codec.decode_encode first
  rw [same, codec.decode_encode] at decoded
  exact (Option.some.inj decoded).symm

/-- The text of a value, and the value of a text. -/
def Codec.toText {α : Type} (codec : Codec α) (value : α) : List Char :=
  write (codec.encode value)

def Codec.fromText {α : Type} (codec : Codec α) (text : List Char) : Option α :=
  (read text).bind codec.decode

theorem Codec.fromText_toText {α : Type} (codec : Codec α) (value : α) :
    codec.fromText (codec.toText value) = some value := by
  simp [Codec.fromText, Codec.toText, read_write]

/-! ## Leaves -/

def Codec.text : Codec String where
  encode := .string
  decode
    | .string value => some value
    | _ => none
  decode_encode _ := rfl

@[simp] theorem Codec.text_decode (value : String) : Codec.text.decode (.string value) = some value :=
  rfl

def Codec.flag : Codec Bool where
  encode := .bool
  decode
    | .bool value => some value
    | _ => none
  decode_encode _ := rfl

@[simp] theorem Codec.flag_decode (value : Bool) : Codec.flag.decode (.bool value) = some value := rfl

/-- Unsigned integers below `bound`, spelled without sign, fraction and exponent. -/
def Codec.natBelow (bound : Nat) : Codec (Fin bound) where
  encode value := .number (.ofNat value.val)
  decode
    | .number number =>
        number.toNat?.bind fun value =>
          if small : value < bound then some ⟨value, small⟩ else none
    | _ => none
  decode_encode value := by simp [Number.ofNat, Number.toNat?]

def Codec.uint32 : Codec UInt32 where
  encode value := (Codec.natBelow (2 ^ 32)).encode value.toFin
  decode json := ((Codec.natBelow (2 ^ 32)).decode json).map UInt32.ofFin
  decode_encode value := by simp

def Codec.uint64 : Codec UInt64 where
  encode value := (Codec.natBelow (2 ^ 64)).encode value.toFin
  decode json := ((Codec.natBelow (2 ^ 64)).decode json).map UInt64.ofFin
  decode_encode value := by simp

/-- The integer a number denotes, when it is spelled as one; a negative zero is a float. -/
def Number.toInt? : Number → Option Int
  | ⟨false, whole, [], none⟩ => some whole
  | ⟨true, whole + 1, [], none⟩ => some (.negSucc whole)
  | _ => none

def Number.ofInt (value : Int) : Number := ⟨value < 0, value.natAbs, [], none⟩

theorem Number.toInt?_ofInt (value : Int) : (Number.ofInt value).toInt? = some value := by
  cases value with
  | ofNat value =>
      have positive : decide ((value : Int) < 0) = false := by simp
      simp only [Number.ofInt, Int.ofNat_eq_natCast, positive, Int.natAbs_natCast]
      rfl
  | negSucc value => simp [Number.ofInt, Number.toInt?, Int.negSucc_lt_zero]

/-- Integers between two bounds. -/
def readInt (least most : Int) : Json → Option Int
  | .number number =>
      number.toInt?.bind fun value => if least ≤ value ∧ value ≤ most then some value else none
  | _ => none

theorem readInt_ofInt {least most value : Int} (lower : least ≤ value) (upper : value ≤ most) :
    readInt least most (.number (.ofInt value)) = some value := by
  simp only [readInt, Number.toInt?_ofInt, Option.bind_some]
  exact if_pos ⟨lower, upper⟩

def Codec.int32 : Codec Int32 where
  encode value := .number (.ofInt value.toInt)
  decode json := (readInt Int32.minValue.toInt Int32.maxValue.toInt json).map Int32.ofInt
  decode_encode value := by
    rw [readInt_ofInt value.minValue_le_toInt value.toInt_le]
    simp

def Codec.int64 : Codec Int64 where
  encode value := .number (.ofInt value.toInt)
  decode json := (readInt Int64.minValue.toInt Int64.maxValue.toInt json).map Int64.ofInt
  decode_encode value := by
    rw [readInt_ofInt value.minValue_le_toInt value.toInt_le]
    simp

/-- How doubles are written, and how a spelled number is read as a double. -/
structure FloatFormat where
  print : ℚ → Number
  parse : Number → Option ℚ

namespace FloatFormat

variable (format : FloatFormat)

def encode (value : ℚ) : Json := .number (format.print value)

def decode : Json → Option ℚ
  | .number number => format.parse number
  | _ => none

/-- The double is printed such that it is read back. -/
def Exact (value : ℚ) : Prop := format.parse (format.print value) = some value

instance (value : ℚ) : Decidable (format.Exact value) :=
  inferInstanceAs (Decidable (_ = some value))

theorem Exact.decode_encode {format : FloatFormat} {value : ℚ} (exact : format.Exact value) :
    format.decode (format.encode value) = some value := exact

end FloatFormat

def Codec.list {α : Type} (codec : Codec α) : Codec (List α) where
  encode values := .array (values.map codec.encode)
  decode
    | .array items => items.mapM codec.decode
    | _ => none
  decode_encode values := by
    induction values with
    | nil => rfl
    | cons value values ih => simp [ih]

/-! ## Members -/

/-- The value of a member; a repeated member is refused. -/
def once (members : List (String × Json)) (key : String) : Option (Option Json) :=
  match members.filter fun member => member.1 == key with
  | [] => some none
  | [member] => some (some member.2)
  | _ => none

def requiredMember {α : Type} (members : List (String × Json)) (key : String)
    (decode : Json → Option α) : Option α :=
  match once members key with
  | some (some value) => decode value
  | _ => none

def optionalMember {α : Type} (members : List (String × Json)) (key : String)
    (decode : Json → Option α) : Option (Option α) :=
  match once members key with
  | some none => some none
  | some (some .null) => some none
  | some (some value) => (decode value).map some
  | none => none

theorem optionalMember_some_iff {α : Type} {members : List (String × Json)} {key : String}
    {decode : Json → Option α} {value : α} :
    optionalMember members key decode = some (some value) ↔
      ∃ found, once members key = some (some found) ∧ found ≠ .null ∧
        decode found = some value := by
  rw [optionalMember]
  split
  next absent => simp [absent]
  next null => simp [null]
  next found member present =>
      have notNull : found ≠ .null := member
      simp only [Option.map_eq_some_iff, Option.some.injEq, present]
      constructor
      · rintro ⟨read, decoded, rfl⟩
        exact ⟨found, rfl, notNull, decoded⟩
      · rintro ⟨_, rfl, -, decoded⟩
        exact ⟨value, decoded, rfl⟩
  next repeated => simp [repeated]

theorem optionalMember_none_iff {α : Type} {members : List (String × Json)} {key : String}
    {decode : Json → Option α} :
    optionalMember members key decode = some none ↔
      once members key = some none ∨ once members key = some (some .null) := by
  rw [optionalMember]
  split
  next absent => simp [absent]
  next null => simp [null]
  next found member present =>
      have notNull : found ≠ .null := member
      simp [present, notNull]
  next repeated => simp [repeated]

def encodeOptional {α : Type} (encode : α → Json) : Option α → Json
  | none => .null
  | some value => encode value

/-- The members of a struct: an object, or an array with one item for each field. -/
def Json.fields? (fields : List String) : Json → Option (List (String × Json))
  | .object members => some members
  | .array items => if items.length = fields.length then some (fields.zip items) else none
  | _ => none

@[simp] theorem Json.fields?_object (fields : List String) (members : List (String × Json)) :
    (Json.object members).fields? fields = some members := rfl

/-- The name of a unit variant. -/
def Json.variant? : Json → Option String
  | .string name => some name
  | .object [(name, .null)] => some name
  | .object [(name, .object [])] => some name
  | _ => none

/-- An object whose first member names the variant. -/
def tagged (key tag : String) (members : List (String × Json)) : Json :=
  .object ((key, .string tag) :: members)

/-- The variant a tagged value names, and its other members; in an array the tag comes first. -/
def untag (key : String) (fields : String → List String) :
    Json → Option (String × List (String × Json))
  | .object members => do
      let tag ← requiredMember members key Codec.text.decode
      return (tag, members.filter fun member => member.1 != key)
  | .array (first :: items) => do
      let tag ← Codec.text.decode first
      let members ← (Json.array items).fields? (fields tag)
      return (tag, members)
  | _ => none

@[simp] theorem untag_tagged (key tag : String) (fields : String → List String)
    (members : List (String × Json))
    (distinct : members.all (fun member => member.1 != key) = true) :
    untag key fields (tagged key tag members) = some (tag, members) := by
  have none : members.filter (fun member => member.1 == key) = [] := by
    rw [List.filter_eq_nil_iff]
    intro member found same
    have different := List.all_eq_true.mp distinct member found
    simp_all
  have all : members.filter (fun member => member.1 != key) = members :=
    List.filter_eq_self.mpr (List.all_eq_true.mp distinct)
  simp [untag, tagged, requiredMember, once, none, all]

/-- The codec of an internally tagged sum: a tag and members for each value, and the fields of
each variant in order. -/
def Codec.tagged {α : Type} (key : String) (fields : String → List String) (tag : α → String)
    (members : α → List (String × Json)) (ofMembers : List (String × Json) → String → Option α)
    (distinct : ∀ value, (members value).all (fun member => member.1 != key) = true)
    (ofMembers_members : ∀ value, ofMembers (members value) (tag value) = some value) :
    Codec α where
  encode value := JsonText.tagged key (tag value) (members value)
  decode json := (untag key fields json).bind fun parts => ofMembers parts.2 parts.1
  decode_encode value := by
    rw [untag_tagged key (tag value) fields (members value) (distinct value)]
    exact ofMembers_members value

/-- The codec of an enumeration whose variants are written by name. -/
def Codec.variants {α : Type} (name : α → String) (ofName : String → Option α)
    (ofName_name : ∀ value, ofName (name value) = some value) : Codec α where
  encode value := .string (name value)
  decode json := json.variant?.bind ofName
  decode_encode value := by simp [Json.variant?, ofName_name]

theorem optionalMember_encodeOptional {α : Type} (codec : Codec α) (key : String) (value : Option α)
    (members : List (String × Json))
    (found : once members key = some (some (encodeOptional codec.encode value)))
    (visible : ∀ inner, codec.encode inner ≠ .null) :
    optionalMember members key codec.decode = some value := by
  cases value with
  | none => simp [optionalMember, found, encodeOptional]
  | some inner =>
      have notNull := visible inner
      have decoded := codec.decode_encode inner
      simp only [optionalMember, found, encodeOptional]
      generalize codec.encode inner = json at notNull decoded
      cases json <;> simp_all

end JsonText
