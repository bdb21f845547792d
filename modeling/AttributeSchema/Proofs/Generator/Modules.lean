import AttributeSchema.Proofs.Generator.Contents
import AttributeSchema.Proofs.Generator.Foreign
import AttributeSchema.Proofs.Generator.Registry
/-!
# Modules of units with exact names

What the module of a unit declares, mentions and imports, when all names are read as they are spelled. It
declares its types, it mentions the types that its fields nest, and it imports those of them that belong to
other units.
-/

namespace AttributeSchema

open Source (Expr Item File)
open Source.Parser (ident?)
open UnitModule (IsExact)

/-! ## The parts of a type -/

theorem function_of_ofType {unit : String} {d : Descriptor} {fields : List MappedField}
    {isPublic : Bool} {f : SchemaFunction} (hexact : IsExact d.name)
    (h : SchemaFunction.ofType unit d fields isPublic = .ok f) :
    f.name = Naming.attributesName d.name ∧ f.isPublic = isPublic := by
  rw [SchemaFunction.ofType] at h
  split at h
  · exact absurd h (by simp)
  · obtain ⟨name, hname, h⟩ := bind_ok_iff.1 h
    obtain ⟨entries, -, h⟩ := bind_ok_iff.1 h
    obtain rfl := Except.ok.inj h
    exact ⟨Naming.eq_attributesName_of_ident? hexact (functionName_ok hname), rfl⟩

theorem name_of_ofType {d : Descriptor} {fields : List MappedField} {held : HolderType}
    (hexact : IsExact d.name) (h : HolderType.ofType d fields = .ok held) : held.name = d.name := by
  rw [HolderType.ofType] at h
  obtain ⟨name, hname, h⟩ := bind_ok_iff.1 h
  obtain ⟨native, -, h⟩ := bind_ok_iff.1 h
  obtain ⟨fields, -, h⟩ := bind_ok_iff.1 h
  obtain rfl := Except.ok.inj h
  have hread := identifier_ok hname
  rw [hexact] at hread
  exact (Option.some.inj hread).symm

theorem contains_of_fits {known : KnownTypes} {type : MappedType} {conversion : Conversion}
    (hfits : conversion.Fits known type) {name : String} (hnested : type.nested? = some name) :
    known.contains name = true := by
  cases type with
  | leaf type => exact absurd hnested (by simp [MappedType.nested?])
  | nested nestedType =>
      obtain rfl := Option.some.inj hnested
      cases conversion with
      | nested isOptional => exact hfits
      | leaf leaf => exact hfits.elim
      | nestedList hasOptionalItems => exact hfits.elim
  | nestedList nestedType =>
      obtain rfl := Option.some.inj hnested
      cases conversion with
      | nestedList hasOptionalItems => exact hfits
      | leaf leaf => exact hfits.elim
      | nested isOptional => exact hfits.elim

theorem nested_of_holder? {m : MappedField} {c : HolderConversion}
    (h : HolderConversion.ofMapped m = .ok c) {holder : String} (hholder : c.holder? = some holder) :
    ∃ name, m.type.nested? = some name ∧ ident? name = some holder := by
  have hname : HolderConversion.holderName m = .ok holder := by
    rw [HolderConversion.ofMapped] at h
    split at h
    · obtain rfl := Except.ok.inj h
      exact absurd hholder (by simp [HolderConversion.holder?])
    · obtain ⟨found, hfound, rfl⟩ := map_ok_iff.1 h
      obtain rfl : found = holder := Option.some.inj hholder
      exact hfound
    · obtain ⟨found, hfound, rfl⟩ := map_ok_iff.1 h
      obtain rfl : found = holder := Option.some.inj hholder
      exact hfound
  cases hnested : m.type.nested? with
  | none =>
      rw [HolderConversion.holderName, hnested] at hname
      exact absurd hname (by simp)
  | some name => exact ⟨name, rfl, holderName_ok hname hnested⟩

theorem nested_of_function? {type : MappedType} {e : EntryType} (h : EntryType.ofMapped type = .ok e)
    {function : String} (hfunction : e.function? = some function) :
    ∃ name, type.nested? = some name ∧ ident? (Naming.attributesName name) = some function := by
  rw [EntryType.ofMapped.eq_def] at h
  split at h
  · obtain rfl := Except.ok.inj h
    exact absurd hfunction (by simp [EntryType.function?])
  · obtain ⟨found, hfound, rfl⟩ := map_ok_iff.1 h
    obtain rfl : found = function := Option.some.inj hfunction
    exact ⟨_, rfl, functionName_ok hfound⟩
  · obtain ⟨found, hfound, rfl⟩ := map_ok_iff.1 h
    obtain rfl : found = function := Option.some.inj hfunction
    exact ⟨_, rfl, functionName_ok hfound⟩

theorem nested_of_mem_nestedHolders {d : Descriptor} {fields : List MappedField} {held : HolderType}
    (h : HolderType.ofType d fields = .ok held) {holder : String}
    (hholder : holder ∈ held.nestedHolders) :
    ∃ m ∈ fields, ∃ name, m.type.nested? = some name ∧ ident? name = some holder := by
  obtain ⟨f, hf, hconversion⟩ := List.mem_filterMap.1 hholder
  obtain ⟨m, hm, hmapped⟩ := exists_of_mem_mapM_ok (fields_of_ofType h) hf
  obtain ⟨name, -, hmapped⟩ := bind_ok_iff.1 hmapped
  obtain ⟨conversion, hofMapped, hmapped⟩ := bind_ok_iff.1 hmapped
  obtain rfl := Except.ok.inj hmapped
  exact ⟨m, hm, nested_of_holder? hofMapped hconversion⟩

/-- A schema function that a schema function calls is that of a type which some mapped field nests. -/
theorem nested_of_mem_entries {unit : String} {d : Descriptor} {fields : List MappedField}
    {isPublic : Bool} {f : SchemaFunction} (h : SchemaFunction.ofType unit d fields isPublic = .ok f)
    {function : String} (hfunction : function ∈ f.entries.filterMap fun e => e.type.function?) :
    ∃ m ∈ fields, ∃ name, m.type.nested? = some name ∧
      ident? (Naming.attributesName name) = some function := by
  obtain ⟨e, he, htype⟩ := List.mem_filterMap.1 hfunction
  obtain ⟨m, hm, hmapped⟩ := exists_of_mem_mapM_ok (entries_of_ofType h) he
  obtain ⟨type, hofMapped, rfl⟩ := map_ok_iff.1 hmapped
  exact ⟨m, hm, nested_of_function? hofMapped htype⟩

/-! ## The parts of a unit -/

namespace UnitModule

variable {known : KnownTypes} {u : GenerationUnit} {m : UnitModule}

theorem typeParts_ok {unit : String} {isPrimary : Bool} {d : Descriptor} {p : TypeParts}
    (h : typeParts unit known isPrimary d = .ok p) :
    Mapping.ofFields unit known d = .ok p.fields ∧
      SchemaFunction.ofType unit d p.fields isPrimary = .ok p.function ∧
      HolderType.ofType d p.fields = .ok p.holder := by
  rw [typeParts] at h
  obtain ⟨fields, hfields, h⟩ := bind_ok_iff.1 h
  obtain ⟨function, hfunction, h⟩ := bind_ok_iff.1 h
  obtain ⟨holder, hholder, h⟩ := bind_ok_iff.1 h
  obtain rfl := Except.ok.inj h
  exact ⟨hfields, hfunction, hholder⟩

theorem allParts_ok {parts : List TypeParts} (h : allParts known u = .ok parts) :
    ∃ primary others, parts = primary :: others ∧
      typeParts u.name known true u.object = .ok primary ∧
      u.dependsOn.mapM (typeParts u.name known false) = .ok others := by
  rw [allParts] at h
  obtain ⟨primary, hprimary, h⟩ := bind_ok_iff.1 h
  obtain ⟨others, hothers, h⟩ := bind_ok_iff.1 h
  exact ⟨primary, others, (Except.ok.inj h).symm, hprimary, hothers⟩

theorem exists_of_mem_allParts {parts : List TypeParts} (h : allParts known u = .ok parts)
    {p : TypeParts} (hp : p ∈ parts) :
    ∃ isPrimary, ∃ t ∈ u.types, typeParts u.name known isPrimary t = .ok p := by
  obtain ⟨primary, others, rfl, hprimary, hothers⟩ := allParts_ok h
  rcases List.mem_cons.1 hp with rfl | hp
  · exact ⟨true, u.object, List.mem_cons_self, hprimary⟩
  · obtain ⟨t, ht, hstep⟩ := exists_of_mem_mapM_ok hothers hp
    exact ⟨false, t, List.mem_cons_of_mem _ ht, hstep⟩

/-- The declarations of a unit are those of its types, in their order. -/
theorem names_of_allParts {parts : List TypeParts} (hexact : ∀ t ∈ u.types, IsExact t.name)
    (h : allParts known u = .ok parts) :
    parts.map (fun p => (p.function.name, p.function.isPublic)) =
        (Naming.attributesName u.object.name, true) ::
          u.dependsOn.map (fun t => (Naming.attributesName t.name, false)) ∧
      parts.map (fun p => p.holder.name) = u.types.map Descriptor.name := by
  obtain ⟨primary, others, rfl, hprimary, hothers⟩ := allParts_ok h
  obtain ⟨-, hfunction, hholder⟩ := typeParts_ok hprimary
  have hobject : IsExact u.object.name := hexact u.object List.mem_cons_self
  have hsteps := mapM_ok_iff.1 hothers
  have hmore : others.map (fun p => (p.function.name, p.function.isPublic)) =
        u.dependsOn.map (fun t => (Naming.attributesName t.name, false)) ∧
      others.map (fun p => p.holder.name) = u.dependsOn.map Descriptor.name := by
    have hdepends : ∀ t ∈ u.dependsOn, IsExact t.name := fun t ht =>
      hexact t (List.mem_cons_of_mem _ ht)
    generalize u.dependsOn = depends at hsteps hdepends
    clear hothers h
    induction hsteps with
    | nil => exact ⟨rfl, rfl⟩
    | cons hstep hmore ih =>
        obtain ⟨hfunctions, hholders⟩ := ih fun t ht => hdepends t (List.mem_cons_of_mem _ ht)
        obtain ⟨-, hfunction, hholder⟩ := typeParts_ok hstep
        have hname := hdepends _ List.mem_cons_self
        obtain ⟨hfunctionName, hisPublic⟩ := function_of_ofType hname hfunction
        simp only [List.map_cons, hfunctions, hholders, hfunctionName, hisPublic,
          name_of_ofType hname hholder, and_self]
  obtain ⟨hname, hisPublic⟩ := function_of_ofType hobject hfunction
  simp only [List.map_cons, hname, hisPublic, hmore, GenerationUnit.types,
    name_of_ofType hobject hholder, and_self]

/-- What a module is made of: the parts of its types, and the groups of foreign types they nest. -/
theorem ofUnit_ok (h : ofUnit known u = .ok m) :
    ∃ parts, allParts known u = .ok parts ∧
      m.functions = parts.map TypeParts.function ∧ m.holders = parts.map TypeParts.holder ∧
      (grouped (foreignNested u.name known (parts.flatMap TypeParts.fields))).entries.mapM
        (foreignOf u.name) = .ok m.foreign := by
  rw [ofUnit] at h
  obtain ⟨parts, hparts, h⟩ := bind_ok_iff.1 h
  obtain ⟨imports, -, h⟩ := bind_ok_iff.1 h
  obtain ⟨foreign, hforeign, h⟩ := bind_ok_iff.1 h
  obtain rfl := Except.ok.inj h
  exact ⟨parts, hparts, rfl, rfl, hforeign⟩

theorem exists_owner?_of_nested {parts : List TypeParts} (h : allParts known u = .ok parts)
    {f : MappedField} (hf : f ∈ parts.flatMap TypeParts.fields) {name : String}
    (hnested : f.type.nested? = some name) : ∃ owner, known.owner? name = some owner := by
  obtain ⟨p, hp, hfields⟩ := List.mem_flatMap.1 hf
  obtain ⟨isPrimary, t, -, hparts⟩ := exists_of_mem_allParts h hp
  have hfits := Mapping.fits_of_mem_ofFields (typeParts_ok hparts).1 hfields
  exact KnownTypes.exists_owner?_of_contains (contains_of_fits hfits hnested)

theorem nested_of_mem_holders (h : ofUnit known u = .ok m) {parts : List TypeParts}
    (hparts : allParts known u = .ok parts) {holder : String}
    (hholder : holder ∈ m.file.nestedHolders) :
    ∃ f ∈ parts.flatMap TypeParts.fields, ∃ name, f.type.nested? = some name ∧
      ident? name = some holder := by
  obtain ⟨parts', hparts', -, hholders, -⟩ := ofUnit_ok h
  obtain rfl : parts' = parts := Except.ok.inj (hparts'.symm.trans hparts)
  rw [nestedHolders_file, hholders, List.flatMap_map] at hholder
  obtain ⟨p, hp, hmem⟩ := List.mem_flatMap.1 hholder
  obtain ⟨isPrimary, t, -, hp'⟩ := exists_of_mem_allParts hparts hp
  have hmem : holder ∈ p.holder.nestedHolders := (List.mem_append.1 hmem).elim id id
  obtain ⟨f, hf, hname⟩ := nested_of_mem_nestedHolders (typeParts_ok hp').2.2 hmem
  exact ⟨f, List.mem_flatMap.2 ⟨p, hp, hf⟩, hname⟩

/-- The schema functions that a module mentions are those of types which its fields nest. -/
theorem nested_of_mem_functions (h : ofUnit known u = .ok m) {parts : List TypeParts}
    (hparts : allParts known u = .ok parts) {function : String}
    (hfunction : function ∈ m.file.nestedFunctions) :
    ∃ f ∈ parts.flatMap TypeParts.fields, ∃ name, f.type.nested? = some name ∧
      ident? (Naming.attributesName name) = some function := by
  obtain ⟨parts', hparts', hfunctions, -, -⟩ := ofUnit_ok h
  obtain rfl : parts' = parts := Except.ok.inj (hparts'.symm.trans hparts)
  rw [nestedFunctions_file, hfunctions, List.flatMap_map] at hfunction
  obtain ⟨p, hp, hmem⟩ := List.mem_flatMap.1 hfunction
  obtain ⟨isPrimary, t, -, hp'⟩ := exists_of_mem_allParts hparts hp
  obtain ⟨f, hf, hname⟩ := nested_of_mem_entries (typeParts_ok hp').2.1 hmem
  exact ⟨f, List.mem_flatMap.2 ⟨p, hp, hf⟩, hname⟩

/-! ### What the module of a unit declares and imports -/

section

variable {units : List GenerationUnit}

/-- The types of units are read as they are spelled, and so are the names of the units. -/
def AreExact (units : List GenerationUnit) : Prop :=
  ∀ u ∈ units, IsExact u.name ∧ ∀ t ∈ u.types, IsExact t.name

theorem functions_ofUnit (hexact : ∀ t ∈ u.types, IsExact t.name) (h : ofUnit known u = .ok m) :
    m.file.functions = (Naming.attributesName u.object.name, .everyone) ::
      u.dependsOn.map fun t => (Naming.attributesName t.name, .package) := by
  obtain ⟨parts, hparts, hfunctions, -, -⟩ := ofUnit_ok h
  have hnames := (names_of_allParts hexact hparts).1
  have hseen : m.file.functions =
      (parts.map fun p => (p.function.name, p.function.isPublic)).map fun f =>
        (f.1, if f.2 then .everyone else .package) := by
    rw [functions_file, hfunctions, List.map_map, List.map_map]
    rfl
  rw [hseen, hnames, List.map_cons, List.map_map]
  rfl

theorem functionNames_ofUnit (hexact : ∀ t ∈ u.types, IsExact t.name)
    (h : ofUnit known u = .ok m) :
    m.file.functions.map Prod.fst = u.types.map fun t => Naming.attributesName t.name := by
  rw [functions_ofUnit hexact h, GenerationUnit.types, List.map_cons, List.map_cons, List.map_map]
  rfl

theorem holders_ofUnit (hexact : ∀ t ∈ u.types, IsExact t.name) (h : ofUnit known u = .ok m) :
    m.file.holders = u.types.map Descriptor.name := by
  obtain ⟨parts, hparts, -, hholders, -⟩ := ofUnit_ok h
  rw [holders_file, hholders, List.map_map, ← (names_of_allParts hexact hparts).2]
  rfl

/-- A known type and its owner are read as they are spelled. -/
theorem isExact_of_owner? (hexact : AreExact units) (hbuild : KnownTypes.build units = .ok known)
    {type owner : String} (howner : known.owner? type = some owner) :
    IsExact owner ∧ IsExact type := by
  obtain ⟨v, hv, rfl, t, ht, rfl⟩ := KnownTypes.mem_dependsOn_of_owner? hbuild howner
  exact ⟨(hexact v hv).1, (hexact v hv).2 t (List.mem_cons_of_mem _ ht)⟩

theorem isExact_of_nested (hexact : AreExact units) (hbuild : KnownTypes.build units = .ok known)
    {parts : List TypeParts} (hparts : allParts known u = .ok parts) {f : MappedField}
    (hf : f ∈ parts.flatMap TypeParts.fields) {type : String} (hnested : f.type.nested? = some type) :
    IsExact type := by
  obtain ⟨owner, howner⟩ := exists_owner?_of_nested hparts hf hnested
  exact (isExact_of_owner? hexact hbuild howner).2

/-- A module imports each foreign type that its fields nest, once. -/
theorem importPairs_ofUnit (hexact : AreExact units) (hbuild : KnownTypes.build units = .ok known)
    {parts : List TypeParts} (hparts : allParts known u = .ok parts) (h : ofUnit known u = .ok m) :
    m.file.importPairs =
      (members (grouped (foreignNested u.name known (parts.flatMap TypeParts.fields)))).map
        fun e => (e.1, e.2, Naming.attributesName e.2) := by
  obtain ⟨parts', hparts', -, -, hforeign⟩ := ofUnit_ok h
  obtain rfl : parts' = parts := Except.ok.inj (hparts'.symm.trans hparts)
  rw [importPairs_file]
  apply importPairs_of_groups ?_ hforeign
  rintro ⟨owner, type⟩ he
  obtain ⟨f, -, -, howner, -⟩ := mem_foreignNested.1 (inGroups_grouped.1 (mem_members.1 he))
  exact isExact_of_owner? hexact hbuild howner

theorem mem_importPairs_ofUnit (hexact : AreExact units)
    (hbuild : KnownTypes.build units = .ok known) {parts : List TypeParts}
    (hparts : allParts known u = .ok parts) (h : ofUnit known u = .ok m)
    {owner type function : String} :
    (owner, type, function) ∈ m.file.importPairs ↔ function = Naming.attributesName type ∧
      ∃ f ∈ parts.flatMap TypeParts.fields, f.type.nested? = some type ∧
        known.owner? type = some owner ∧ owner ≠ u.name := by
  rw [importPairs_ofUnit hexact hbuild hparts h, List.mem_map, ← mem_foreignNested,
    ← inGroups_grouped, ← mem_members]
  constructor
  · rintro ⟨e, he, heq⟩
    simp only [Prod.mk.injEq] at heq
    obtain ⟨rfl, rfl, rfl⟩ := heq
    exact ⟨rfl, he⟩
  · rintro ⟨rfl, he⟩
    exact ⟨_, he, rfl⟩

theorem nodup_importPairs_ofUnit (hexact : AreExact units)
    (hbuild : KnownTypes.build units = .ok known) {parts : List TypeParts}
    (hparts : allParts known u = .ok parts) (h : ofUnit known u = .ok m) :
    m.file.importPairs.Nodup := by
  rw [importPairs_ofUnit hexact hbuild hparts h]
  apply (nodup_members _).map
  intro a b heq
  obtain ⟨howner, heq⟩ := Prod.mk.inj heq
  exact Prod.ext howner (Prod.mk.inj heq).1

end

end UnitModule

end AttributeSchema
