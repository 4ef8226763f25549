import OsfmEdm.Library.JsonCodec

/-!
Values whose objects, at every level, name each member once.
-/

namespace JsonText

inductive Json.Distinct : Json → Prop where
  | null : Distinct .null
  | bool (value : Bool) : Distinct (.bool value)
  | number (value : Number) : Distinct (.number value)
  | string (value : String) : Distinct (.string value)
  | array {items : List Json} (nested : ∀ item ∈ items, Distinct item) : Distinct (.array items)
  | object {members : List (String × Json)} (keys : (members.map Prod.fst).Nodup)
      (nested : ∀ member ∈ members, Distinct member.2) : Distinct (.object members)

/-- Codecs that write such values. -/
def Codec.Distinct {α : Type} (codec : Codec α) : Prop := ∀ value, (codec.encode value).Distinct

variable {α : Type} {codec : Codec α}

theorem Codec.text_distinct : Codec.text.Distinct := Json.Distinct.string

theorem Codec.uint32_distinct : Codec.uint32.Distinct := fun _ => .number _

theorem Codec.uint64_distinct : Codec.uint64.Distinct := fun _ => .number _

theorem Codec.int32_distinct : Codec.int32.Distinct := fun _ => .number _

theorem Codec.int64_distinct : Codec.int64.Distinct := fun _ => .number _

theorem Codec.list_distinct (distinct : codec.Distinct) : codec.list.Distinct := by
  intro values
  refine .array fun item member => ?_
  obtain ⟨value, _, rfl⟩ := List.mem_map.mp member
  exact distinct value

theorem Codec.optional_distinct (distinct : codec.Distinct) (value : Option α) :
    (encodeOptional codec.encode value).Distinct := by
  cases value with
  | none => exact .null
  | some value => exact distinct value

@[simp] theorem Json.distinct_string (value : String) : (Json.string value).Distinct := .string value

@[simp] theorem Json.distinct_bool (value : Bool) : (Json.bool value).Distinct := .bool value

@[simp] theorem Json.distinct_number (value : Number) : (Json.number value).Distinct := .number value

@[simp] theorem distinct_optionalString (value : Option String) :
    (encodeOptional .string value).Distinct := Codec.optional_distinct Codec.text_distinct value

theorem Json.Distinct.members {members : List (String × Json)}
    (keys : (members.map Prod.fst).Nodup) (nested : ∀ value ∈ members.map Prod.snd, value.Distinct) :
    (Json.object members).Distinct :=
  .object keys fun _ member => nested _ (List.mem_map_of_mem member)

theorem Json.Distinct.tagged {key tag : String} {members : List (String × Json)}
    (keys : (key :: members.map Prod.fst).Nodup)
    (nested : ∀ value ∈ members.map Prod.snd, value.Distinct) :
    (JsonText.tagged key tag members).Distinct := by
  refine .members keys ?_
  intro value member
  rcases List.mem_cons.mp member with rfl | other
  · exact .string tag
  · exact nested value other

end JsonText
