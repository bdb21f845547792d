import AttributeSchema.Generator.HolderType
import AttributeSchema.Generator.SchemaFunction
import AttributeSchema.Proofs.Generator.Mapping
import AttributeSchema.Proofs.Generator.Naming
import AttributeSchema.Proofs.Source.Parts
/-!
# The schema function and the holder of a type agree

Both are emitted from the mapped fields of a type: one from the types of the attributes, the other from
the conversions. They have one part for each tagged field, in the same order, under the same tag and with
corresponding types, because the conversion of a mapped field fits its type.
-/

namespace AttributeSchema

open Source (Expr Ty Stmt Item FunctionItem FieldItem FieldValue)
open Source.Parser (ident?)

/-! ## What corresponds -/

/-- How generated text names the holder and the schema function of a known type. The names are the ones
of the type itself if the type is spelled as it is read. -/
structure KnownTypes.Names (known : KnownTypes) (type holder function : String) : Prop where
  isKnown : known.contains type = true
  readHolder : ident? type = some holder
  readFunction : ident? (Naming.attributesName type) = some function
  exact : ident? type = some type → holder = type ∧ function = Naming.attributesName type

/-- An attribute type of a schema function corresponds to a field type of a holder. -/
inductive Corresponds (known : KnownTypes) : Expr → Ty → Prop
  | bool : Corresponds known (.ofNames ["attrgen", "AttributeType", "Bool"])
      (.ofNames ["attrgen", "types", "Bool"])
  | number : Corresponds known (.ofNames ["attrgen", "AttributeType", "Number"])
      (.ofNames ["attrgen", "types", "Number"])
  | string : Corresponds known (.ofNames ["attrgen", "AttributeType", "String"])
      (.ofNames ["attrgen", "types", "String"])
  | list : Corresponds known (.ofNames ["attrgen", "AttributeType", "ListOfString"])
      (.ofNames ["attrgen", "types", "List"])
  | map : Corresponds known (.ofNames ["attrgen", "AttributeType", "MapOfStringToString"])
      (.ofNames ["attrgen", "types", "Map"])
  | nested {type holder function : String} (names : known.Names type holder function) :
      Corresponds known
        (.invoke ["attrgen", "AttributeType", "SingleNested"] [.invoke [function] []])
        (.applied "Option" [.ofNames [holder]])
  | nestedList {type holder function : String} (names : known.Names type holder function) :
      Corresponds known
        (.invoke ["attrgen", "AttributeType", "ListNested"] [.invoke [function] []])
        (.applied "Option" [.applied "Vec" [.ofNames [holder]]])

/-- What is emitted for a tagged field: an entry of the schema function, a field of the holder, the value
that it gets from a native value, and the statement that writes it into one. -/
structure FieldEmission (known : KnownTypes) (f : Field) (entry : Expr) (member : FieldItem)
    (setter : FieldValue) (getter : Stmt) : Prop where
  entry : ∃ type, Corresponds known type member.type ∧
    entry = .tuple [.ofText f.tag, .invoke ["attrgen", "Attribute", "optional"] [type]] false
  name : ident? f.name = some member.name
  rename : member.attributes = [.setting "serde" "rename" f.tag]
  moves : ∃ conversion : HolderConversion, member.type = conversion.type ∧
    setter = .member [] member.name (conversion.setter member.name) ∧
    getter = conversion.unnamed.getter member.name f.name

def Source.Item.HasEntries (entries : List Expr) : Item → Prop
  | .function f =>
    f.body = [.result (.invoke ["attrgen", "Attributes", "from"] [.array entries false])]
  | _ => False

/-- Some items are a holder with these fields, whose function `new` gives them these values, and whose
function `decode_into` runs these statements with a name for what is reported. -/
def AreHolder (members : List FieldItem) (setters : List FieldValue) (getters : List Stmt)
    (isMutable : Bool) (items : List Item) : Prop :=
  ∃ attributes name build decode write first,
    items = [.struct attributes name members, .implementation name [build, decode, write]] ∧
    build.name = "new" ∧
    build.body = [first, .result (.invoke ["Some"] [.ofMembers "Self" setters])] ∧
    write.name = "decode_into" ∧
    write.body =
      .define (if isMutable then .ofMutableName "diags" else .ofName "diags")
          (.invoke ["attrgen", "Diagnostics", "new"] []) ::
        getters ++ [.result (.ofName "diags")]

def reportMethods : List String := ["push", "extend"]

/-! ## One field -/

theorem identifier_ok {text context word : String}
    (h : Spelled.identifier text context = .ok word) : ident? text = some word := by
  rw [Spelled.identifier] at h
  cases hread : ident? text with
  | none => rw [hread] at h; exact absurd h (by simp [Spelled.require])
  | some found => rw [hread] at h; rw [Except.ok.inj h]

theorem KnownTypes.names_of_identifiers {known : KnownTypes} {type holder function : String}
    (hknown : known.contains type = true) (hholder : ident? type = some holder)
    (hfunction : ident? (Naming.attributesName type) = some function) :
    known.Names type holder function where
  isKnown := hknown
  readHolder := hholder
  readFunction := hfunction
  exact hexact := by
    rw [hexact] at hholder
    exact ⟨(Option.some.inj hholder).symm, Naming.eq_attributesName_of_ident? hexact hfunction⟩

theorem functionName_ok {type function : String} (h : EntryType.functionName type = .ok function) :
    ident? (Naming.attributesName type) = some function := by
  rw [EntryType.functionName] at h
  exact identifier_ok h

theorem holderName_ok {m : MappedField} {type holder : String}
    (h : HolderConversion.holderName m = .ok holder) (htype : m.type.nested? = some type) :
    ident? type = some holder := by
  rw [HolderConversion.holderName, htype] at h
  exact identifier_ok h

theorem corresponds_leaf (known : KnownTypes) (conversion : LeafConversion) :
    Corresponds known (EntryType.leaf conversion.type).expr (HolderConversion.leaf conversion).type := by
  cases conversion with
  | bool => exact .bool
  | text => exact .string
  | integer kind => exact .number
  | duration => exact .string
  | timestamp => exact .string
  | bytes => exact .string
  | stringList => exact .list
  | stringMap => exact .map

/-- The two emitters choose corresponding types for a field whose conversion fits its type. -/
theorem corresponds_ofMapped {known : KnownTypes} {m : MappedField}
    (hfits : m.conversion.Fits known m.type) {type : EntryType} {conversion : HolderConversion}
    (htype : EntryType.ofMapped m.type = .ok type)
    (hconversion : HolderConversion.ofMapped m = .ok conversion) :
    Corresponds known type.expr conversion.type := by
  obtain ⟨name, tag, mapped, moved⟩ := m
  cases moved with
  | leaf leaf =>
      cases mapped with
      | leaf mappedType =>
          obtain rfl : leaf.type = mappedType := hfits
          obtain rfl := Except.ok.inj htype
          obtain rfl := Except.ok.inj hconversion
          exact corresponds_leaf known leaf
      | nested _ => exact hfits.elim
      | nestedList _ => exact hfits.elim
  | nested isOptional =>
      cases mapped with
      | leaf _ => exact hfits.elim
      | nested nestedType =>
          simp only [EntryType.ofMapped, HolderConversion.ofMapped] at htype hconversion
          obtain ⟨function, hfunction, rfl⟩ := map_ok_iff.1 htype
          obtain ⟨holder, hholder, rfl⟩ := map_ok_iff.1 hconversion
          have hread : ident? nestedType = some holder := holderName_ok hholder rfl
          exact .nested (KnownTypes.names_of_identifiers hfits hread (functionName_ok hfunction))
      | nestedList _ => exact hfits.elim
  | nestedList hasOptionalItems =>
      cases mapped with
      | leaf _ => exact hfits.elim
      | nested _ => exact hfits.elim
      | nestedList nestedType =>
          simp only [EntryType.ofMapped, HolderConversion.ofMapped] at htype hconversion
          obtain ⟨function, hfunction, rfl⟩ := map_ok_iff.1 htype
          obtain ⟨holder, hholder, rfl⟩ := map_ok_iff.1 hconversion
          have hread : ident? nestedType = some holder := holderName_ok hholder rfl
          exact .nestedList (KnownTypes.names_of_identifiers hfits hread (functionName_ok hfunction))

def HolderField.member (f : HolderField) : FieldItem :=
  ⟨[.setting "serde" "rename" f.tag], f.name, f.conversion.type⟩

theorem emission_ofMapped {known : KnownTypes} {unit type : String} {f : Field} {m : MappedField}
    {e : SchemaEntry} {held : HolderField} (hm : Mapping.ofField unit known f = .ok m)
    (he : SchemaEntry.ofMapped m = .ok e) (hheld : HolderField.ofMapped type m = .ok held) :
    FieldEmission known f e.expr held.member held.setter held.getter := by
  obtain ⟨hname, htag, hfits⟩ := Mapping.ofField_spec hm
  obtain ⟨entryType, htype, rfl⟩ := map_ok_iff.1 he
  obtain ⟨name, hident, hheld⟩ := bind_ok_iff.1 hheld
  obtain ⟨conversion, hconversion, hheld⟩ := bind_ok_iff.1 hheld
  obtain rfl := Except.ok.inj hheld
  rw [hname] at hident
  refine ⟨⟨entryType.expr, corresponds_ofMapped hfits htype hconversion, ?_⟩, identifier_ok hident,
    ?_, conversion, rfl, rfl, ?_⟩
  · rw [SchemaEntry.expr, htag]
  · rw [HolderField.member, htag]
  · simp only [HolderField.getter, HolderField.member, hname]

/-! ## All fields -/

/-- A statement that writes a field reports something exactly if its conversion may. -/
theorem callsOn_getter (name label : String) (c : Conversion) :
    (c.getter name label).callsOn "diags" reportMethods = c.mayReport := by
  cases c with
  | leaf conversion => cases conversion <;> rfl
  | nested isOptional => cases isOptional <;> rfl
  | nestedList hasOptionalItems => cases hasOptionalItems <;> rfl

theorem mayReport_iff (h : HolderType) :
    h.mayReport = true ↔
      ∃ getter ∈ h.fields.map HolderField.getter, getter.callsOn "diags" reportMethods = true := by
  simp only [HolderType.mayReport, List.any_eq_true, List.mem_map, exists_exists_and_eq_and,
    HolderField.getter, callsOn_getter]

theorem areHolder_items (h : HolderType) :
    AreHolder (h.fields.map HolderField.member) (h.fields.map HolderField.setter)
      (h.fields.map HolderField.getter) h.mayReport h.items :=
  ⟨_, _, _, _, _, _, rfl, rfl, rfl, rfl, rfl⟩

/-! ### Nested fields without a nested type -/

theorem require_error {α : Type} {text context : String} {read : Option α} {e : GeneratorError}
    (h : Spelled.require text context read = .error e) : e = .invalidIdentifier text context := by
  cases read with
  | none => exact (Except.error.inj h).symm
  | some value => exact absurd h (by simp [Spelled.require])

def untypedContext : String := "nested field without a nested type"

/-- No other context reads like this one: they all start in another way. -/
theorem quoted_ne_untypedContext {start : String} (name : String)
    (h : ¬ start.toList <+: untypedContext.toList) : start ++ name ++ "'" ≠ untypedContext := by
  intro heq
  apply h
  rw [← heq, String.append_assoc, String.toList_append]
  exact List.prefix_append _ _

theorem require_ne_error {α : Type} {text other start : String} {read : Option α} (name : String)
    (h : ¬ start.toList <+: untypedContext.toList) :
    Spelled.require text (start ++ name ++ "'") read ≠
      .error (.invalidIdentifier other untypedContext) := by
  intro herror
  have hinj := GeneratorError.invalidIdentifier.inj (require_error herror)
  exact quoted_ne_untypedContext name h hinj.2.symm

theorem holderName_ne_error {m : MappedField} {type : String} (htype : m.type.nested? = some type)
    (text : String) :
    HolderConversion.holderName m ≠ .error (.invalidIdentifier text untypedContext) := by
  rw [HolderConversion.holderName, htype]
  simp only [Spelled.identifier]
  exact require_ne_error m.name (by decide)

/-- No conversion of a mapped field lacks the type that it nests. -/
theorem ofMapped_ne_error {known : KnownTypes} {m : MappedField}
    (hfits : m.conversion.Fits known m.type) (text : String) :
    HolderConversion.ofMapped m ≠ .error (.invalidIdentifier text untypedContext) := by
  intro h
  obtain ⟨name, tag, mapped, moved⟩ := m
  cases moved with
  | leaf leaf => exact absurd h (by simp [HolderConversion.ofMapped])
  | nested isOptional =>
      cases mapped with
      | leaf _ => exact hfits.elim
      | nested nestedType => exact holderName_ne_error rfl text (map_error_iff.1 h)
      | nestedList _ => exact hfits.elim
  | nestedList hasOptionalItems =>
      cases mapped with
      | leaf _ => exact hfits.elim
      | nested _ => exact hfits.elim
      | nestedList nestedType => exact holderName_ne_error rfl text (map_error_iff.1 h)

theorem ofType_ne_error {unit : String} {known : KnownTypes} {d : Descriptor}
    {fields : List MappedField} (hfields : Mapping.ofFields unit known d = .ok fields)
    (text : String) :
    HolderType.ofType d fields ≠ .error (.invalidIdentifier text untypedContext) := by
  intro h
  rw [HolderType.ofType, Spelled.identifier, Spelled.type] at h
  rcases bind_error_iff.1 h with h | ⟨name, -, h⟩
  · exact require_ne_error d.name (by decide) h
  · rcases bind_error_iff.1 h with h | ⟨native, -, h⟩
    · exact require_ne_error d.name (by decide) h
    · rcases bind_error_iff.1 h with h | ⟨held, -, h⟩
      · obtain ⟨m, hm, h⟩ := exists_of_mapM_error h
        rw [HolderField.ofMapped, Spelled.identifier] at h
        rcases bind_error_iff.1 h with h | ⟨name, -, h⟩
        · exact require_ne_error d.name (by decide) h
        · rcases bind_error_iff.1 h with h | ⟨conversion, -, h⟩
          · exact ofMapped_ne_error (Mapping.fits_of_mem_ofFields hfields hm) text h
          · exact absurd h (by simp [pure, Except.pure])
      · exact absurd h (by simp [pure, Except.pure])

/-! ## The two emitters -/

theorem hasEntries_item (f : SchemaFunction) : f.item.HasEntries (f.entries.map SchemaEntry.expr) :=
  rfl

theorem entries_of_ofType {unit : String} {d : Descriptor} {fields : List MappedField}
    {isPublic : Bool} {f : SchemaFunction} (h : SchemaFunction.ofType unit d fields isPublic = .ok f) :
    fields.mapM SchemaEntry.ofMapped = .ok f.entries := by
  rw [SchemaFunction.ofType] at h
  split at h
  · exact absurd h (by simp)
  · obtain ⟨name, -, h⟩ := bind_ok_iff.1 h
    obtain ⟨entries, hentries, h⟩ := bind_ok_iff.1 h
    obtain rfl := Except.ok.inj h
    exact hentries

theorem fields_of_ofType {d : Descriptor} {fields : List MappedField} {h : HolderType}
    (hholder : HolderType.ofType d fields = .ok h) :
    fields.mapM (HolderField.ofMapped d.name) = .ok h.fields := by
  rw [HolderType.ofType] at hholder
  obtain ⟨name, -, hholder⟩ := bind_ok_iff.1 hholder
  obtain ⟨native, -, hholder⟩ := bind_ok_iff.1 hholder
  obtain ⟨held, hheld, hholder⟩ := bind_ok_iff.1 hholder
  obtain rfl := Except.ok.inj hholder
  exact hheld

/-- The schema function and the holder of a type have one part for each tagged field, in order, with the
same tag and with corresponding types. No mapped field lacks the type that it nests, and what is reported
has a name that can be assigned exactly if some statement reports something. -/
theorem emitters_agree {unit : String} {known : KnownTypes} {d : Descriptor}
    {fields : List MappedField} (hfields : Mapping.ofFields unit known d = .ok fields) :
    (∀ text, HolderType.ofType d fields ≠
      .error (.invalidIdentifier text "nested field without a nested type")) ∧
    ∀ isPublic f h, SchemaFunction.ofType unit d fields isPublic = .ok f →
      HolderType.ofType d fields = .ok h →
      ∃ entries members setters getters isMutable,
        f.item.HasEntries entries ∧ AreHolder members setters getters isMutable h.items ∧
        entries.length = d.taggedFields.length ∧ members.length = d.taggedFields.length ∧
        setters.length = d.taggedFields.length ∧ getters.length = d.taggedFields.length ∧
        (∀ (i : Nat) (t : Field), d.taggedFields[i]? = some t → ∃ entry member setter getter,
          entries[i]? = some entry ∧ members[i]? = some member ∧ setters[i]? = some setter ∧
          getters[i]? = some getter ∧ FieldEmission known t entry member setter getter) ∧
        (isMutable = true ↔
          ∃ getter ∈ getters, getter.callsOn "diags" ["push", "extend"] = true) := by
  refine ⟨ofType_ne_error hfields, ?_⟩
  intro isPublic f h hschema hholder
  have hentries := entries_of_ofType hschema
  have hheld := fields_of_ofType hholder
  have hlength : fields.length = d.taggedFields.length := length_of_mapM_ok hfields
  have hentriesLength : f.entries.length = fields.length := length_of_mapM_ok hentries
  have hheldLength : h.fields.length = fields.length := length_of_mapM_ok hheld
  refine ⟨_, _, _, _, _, hasEntries_item f, areHolder_items h, ?_, ?_, ?_, ?_, ?_, mayReport_iff h⟩
  · rw [List.length_map, hentriesLength, hlength]
  · rw [List.length_map, hheldLength, hlength]
  · rw [List.length_map, hheldLength, hlength]
  · rw [List.length_map, hheldLength, hlength]
  · intro i t ht
    obtain ⟨m, hm, hmapped⟩ := getElem?_of_mapM_ok hfields ht
    obtain ⟨e, he, hentry⟩ := getElem?_of_mapM_ok hentries hm
    obtain ⟨held, hi, hmember⟩ := getElem?_of_mapM_ok hheld hm
    refine ⟨e.expr, held.member, held.setter, held.getter, ?_, ?_, ?_, ?_,
      emission_ofMapped hmapped hentry hmember⟩
    · rw [List.getElem?_map, he, Option.map_some]
    · rw [List.getElem?_map, hi, Option.map_some]
    · rw [List.getElem?_map, hi, Option.map_some]
    · rw [List.getElem?_map, hi, Option.map_some]

def nestingType : Descriptor :=
  let inner : Descriptor := .ofFields "Inner" "Inner" [.mk "flag" (.scalar "bool" .bool) "flag"]
  .ofFields "Outer" "Outer"
    [.mk "ttl" (.scalar "Duration" (.encoded .duration)) "ttl", .mk "inner" inner "nested",
      .mk "more" (.scalar "Vec" (.sequence inner)) "items"]

def nestingRegistry : KnownTypes := ⟨.ofList [("Inner", "unit")]⟩

theorem emitters_agree_nestingType :
    ∃ fields f h, Mapping.ofFields "unit" nestingRegistry nestingType = .ok fields ∧
      SchemaFunction.ofType "unit" nestingType fields true = .ok f ∧
      HolderType.ofType nestingType fields = .ok h ∧
      ∃ entries members setters getters isMutable,
        f.item.HasEntries entries ∧ AreHolder members setters getters isMutable h.items ∧
        entries.length = 3 := by
  let fields : List MappedField :=
    [⟨"ttl", "ttl", .leaf .string, .leaf .duration⟩, ⟨"inner", "nested", .nested "Inner", .nested false⟩,
      ⟨"more", "items", .nestedList "Inner", .nestedList false⟩]
  have hfields : Mapping.ofFields "unit" nestingRegistry nestingType = .ok fields := by
    decide +kernel
  obtain ⟨f, hf⟩ : ∃ f, SchemaFunction.ofType "unit" nestingType fields true = .ok f :=
    exists_of_isOk (by decide +kernel)
  obtain ⟨h, hh⟩ : ∃ h, HolderType.ofType nestingType fields = .ok h :=
    exists_of_isOk (by decide +kernel)
  obtain ⟨entries, members, setters, getters, isMutable, hentries, hparts, hlength, -⟩ :=
    (emitters_agree hfields).2 true f h hf hh
  exact ⟨fields, f, h, hfields, hf, hh, entries, members, setters, getters, isMutable, hentries,
    hparts, hlength⟩

end AttributeSchema
