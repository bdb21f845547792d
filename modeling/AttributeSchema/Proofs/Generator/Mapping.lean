import AttributeSchema.Generator.Mapping
import AttributeSchema.Proofs.Traverse
/-!
# Mapped fields agree with themselves

When each rule of the mapping applies, and what it gives. The type of a mapped attribute and the conversion
of its value are chosen together, so that they agree, and a nested attribute names a known type.
-/

namespace AttributeSchema

/-- The conversion of a value fits the type of its attribute, which nests nothing but a known type. -/
def Conversion.Fits (known : KnownTypes) : MappedType → Conversion → Prop
  | .leaf type, leaf conversion => conversion.type = type
  | .nested name, nested _ => known.contains name = true
  | .nestedList name, nestedList _ => known.contains name = true
  | _, _ => False

namespace Mapping

variable {known : KnownTypes} {d : Descriptor} {kind : Kind} {type : MappedType}
  {conversion : Conversion} {mapped : MappedType × Conversion}

/-! ## The rules -/

theorem opaqueRule_eq_some_iff : opaqueRule kind = some mapped ↔
    kind = .encoded .duration ∧ plain .duration = mapped ∨
    kind = .encoded .timestamp ∧ plain .timestamp = mapped ∨
    ∃ item, kind = .sequence item ∧ item.kind = .integer .u8 ∧ plain .bytes = mapped := by
  cases kind with
  | encoded kind => cases kind <;> simp [opaqueRule]
  | sequence item =>
      rw [opaqueRule]
      split <;> simp_all
  | _ => simp [opaqueRule]

theorem textsRule_eq_some_iff : textsRule kind = some mapped ↔
    (∃ item, kind = .sequence item ∧ item.kind = .string ∧ plain .stringList = mapped) ∨
    ∃ key value, kind = .mapping key value ∧ key.kind = .string ∧ value.kind = .string ∧
      plain .stringMap = mapped := by
  cases kind with
  | sequence item =>
      rw [textsRule]
      split <;> simp_all
  | mapping key value =>
      rw [textsRule]
      split <;> simp_all
  | _ => simp [textsRule]

theorem knownRule_eq_some_iff : knownRule known d = some mapped ↔
    known.contains d.name = true ∧ (.nested d.name, .nested false) = mapped := by
  rw [knownRule, Option.ite_none_right_eq_some, Option.some_inj]

theorem optionalRule_eq_some_iff : optionalRule known kind = some mapped ↔
    ∃ inner, kind = .optional inner ∧ known.contains inner.name = true ∧
      (.nested inner.name, .nested true) = mapped := by
  cases kind with
  | optional inner => simp [optionalRule]
  | _ => simp [optionalRule]

theorem listRule_eq_some_iff : listRule known kind = some mapped ↔
    ∃ item, kind = .sequence item ∧
      (known.contains item.name = true ∧ (.nestedList item.name, .nestedList false) = mapped ∨
        known.contains item.name = false ∧ ∃ inner, item.kind = .optional inner ∧
          known.contains inner.name = true ∧ (.nestedList inner.name, .nestedList true) = mapped) := by
  cases kind with
  | sequence item =>
      cases hitem : known.contains item.name with
      | true => simp [listRule, hitem]
      | false => cases hinner : item.kind <;> simp [listRule, hitem, hinner]
  | _ => simp [listRule]

theorem plainRule_eq_some_iff : plainRule kind = some mapped ↔
    kind = .bool ∧ plain .bool = mapped ∨
    (∃ width, kind = .integer width ∧ plain (.integer width) = mapped) ∨
    kind = .string ∧ plain .text = mapped := by
  cases kind <;> simp [plainRule]

/-! ## Conversions that fit -/

theorem fits_plain {leaf : LeafConversion} (h : plain leaf = (type, conversion)) :
    conversion.Fits known type := by
  obtain ⟨rfl, rfl⟩ := Prod.mk.inj h
  exact rfl

theorem fits_opaqueRule (h : opaqueRule kind = some (type, conversion)) :
    conversion.Fits known type := by
  rcases opaqueRule_eq_some_iff.1 h with ⟨-, h⟩ | ⟨-, h⟩ | ⟨-, -, -, h⟩ <;> exact fits_plain h

theorem fits_textsRule (h : textsRule kind = some (type, conversion)) :
    conversion.Fits known type := by
  rcases textsRule_eq_some_iff.1 h with ⟨-, -, -, h⟩ | ⟨-, -, -, -, -, h⟩ <;> exact fits_plain h

theorem fits_knownRule (h : knownRule known d = some (type, conversion)) :
    conversion.Fits known type := by
  obtain ⟨hknown, h⟩ := knownRule_eq_some_iff.1 h
  obtain ⟨rfl, rfl⟩ := Prod.mk.inj h
  exact hknown

theorem fits_optionalRule (h : optionalRule known kind = some (type, conversion)) :
    conversion.Fits known type := by
  obtain ⟨inner, -, hknown, h⟩ := optionalRule_eq_some_iff.1 h
  obtain ⟨rfl, rfl⟩ := Prod.mk.inj h
  exact hknown

theorem fits_listRule (h : listRule known kind = some (type, conversion)) :
    conversion.Fits known type := by
  obtain ⟨item, -, ⟨hknown, h⟩ | ⟨-, inner, -, hknown, h⟩⟩ := listRule_eq_some_iff.1 h
  · obtain ⟨rfl, rfl⟩ := Prod.mk.inj h
    exact hknown
  · obtain ⟨rfl, rfl⟩ := Prod.mk.inj h
    exact hknown

theorem fits_plainRule (h : plainRule kind = some (type, conversion)) :
    conversion.Fits known type := by
  rcases plainRule_eq_some_iff.1 h with ⟨-, h⟩ | ⟨width, -, h⟩ | ⟨-, h⟩ <;> exact fits_plain h

/-! ## Fields -/

theorem fits_ofType? (h : ofType? known d = some (type, conversion)) :
    conversion.Fits known type := by
  simp only [ofType?, Option.or_eq_some_iff] at h
  rcases h with h | ⟨-, h | ⟨-, h | ⟨-, h | ⟨-, h | ⟨-, h⟩⟩⟩⟩⟩
  · exact fits_opaqueRule h
  · exact fits_textsRule h
  · exact fits_knownRule h
  · exact fits_optionalRule h
  · exact fits_listRule h
  · exact fits_plainRule h

/-- A mapped field keeps the name and the tag, and its conversion fits its type. -/
theorem ofField_spec {unit : String} {f : Field} {m : MappedField}
    (h : ofField unit known f = .ok m) :
    m.name = f.name ∧ m.tag = f.tag ∧ m.conversion.Fits known m.type := by
  unfold ofField at h
  split at h
  · rename_i htype
    obtain rfl := Except.ok.inj h
    exact ⟨rfl, rfl, fits_ofType? htype⟩
  · exact absurd h (by simp)

theorem fits_of_mem_ofFields {unit : String} {fields : List MappedField} {m : MappedField}
    (h : ofFields unit known d = .ok fields) (hm : m ∈ fields) :
    m.conversion.Fits known m.type := by
  obtain ⟨f, -, hf⟩ := exists_of_mem_mapM_ok h hm
  exact (ofField_spec hf).2.2

end Mapping

end AttributeSchema
