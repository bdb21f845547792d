import AttributeSchema.Attribute.Schema
import AttributeSchema.Proofs.Generator.Crate
import AttributeSchema.Proofs.Source.Literal
/-!
# Schemas as mappings

A schema function builds a collection with one attribute for each tagged field, and the collection gives
the first attribute under a name. No two units and no two types share a name, but nothing keeps two
fields of a type from sharing a tag: exactly then the collection is no mapping.
-/

namespace AttributeSchema

open Source (Attr Expr FieldItem Item)

/-! ## What a schema function builds -/

def LeafType.ofWord? : String → Option LeafType
  | "Bool" => some .bool
  | "Number" => some .number
  | "String" => some .string
  | "ListOfString" => some .listOfString
  | "MapOfStringToString" => some .mapOfStringToString
  | _ => none

/-- The attribute type that an expression stands for, where schema functions build what `schema` says. -/
def Source.Expr.attributeType? (schema : String → Attributes) : Expr → Option AttributeType
  | .path false [.plain "attrgen", .plain "AttributeType", .plain word] =>
    (LeafType.ofWord? word).map .leaf
  | .call (.path false [.plain "attrgen", .plain "AttributeType", .plain "SingleNested"])
      [.call (.path false [.plain function]) [] false] false => some (.nested (schema function))
  | .call (.path false [.plain "attrgen", .plain "AttributeType", .plain "ListNested"])
      [.call (.path false [.plain function]) [] false] false => some (.nestedList (schema function))
  | _ => none

def Source.Expr.IsEntry (schema : String → Attributes) (e : Expr) (entry : String × Attribute) :
    Prop :=
  ∃ type, e = .tuple [.ofText entry.1, .invoke ["attrgen", "Attribute", "optional"] [type]] false ∧
    type.attributeType? schema = some entry.2.type ∧ entry.2.isOptional = true

/-- A function builds a collection, where schema functions build what `schema` says. -/
def Source.Item.Builds (schema : String → Attributes) (item : Item) (a : Attributes) : Prop :=
  ∃ entries, item.HasEntries entries ∧ List.Forall₂ (Expr.IsEntry schema) entries a.entries

/-- The attribute type that an entry says, where schema functions build what `schema` says. -/
def EntryType.attributeType (schema : String → Attributes) : EntryType → AttributeType
  | leaf type => .leaf type
  | nested function => .nested (schema function)
  | nestedList function => .nestedList (schema function)

def MappedType.attribute? (schema : String → Attributes) (type : MappedType) : Option Attribute :=
  (EntryType.ofMapped type).toOption.map (⟨·.attributeType schema, true⟩)

def Field.attribute? (known : KnownTypes) (schema : String → Attributes) (t : Field) :
    Option Attribute :=
  (Mapping.ofType? known t.type).bind (·.1.attribute? schema)

/-- A collection is a mapping from the tags of a type to the attributes of its fields, and each tag names
one member of the holder. -/
structure IsMapping (known : KnownTypes) (schema : String → Attributes) (d : Descriptor)
    (a : Attributes) (members : List FieldItem) : Prop where
  nodup_names : a.names.Nodup
  get?_tag : ∀ t ∈ d.taggedFields,
    ∃ found, t.attribute? known schema = some found ∧ a.get? t.tag = some found
  count_members : ∀ t ∈ d.taggedFields,
    (members.map FieldItem.attributes).count [.setting "serde" "rename" t.tag] = 1

/-! ### One collection -/

theorem isEntry_unique {schema : String → Attributes} {e : Expr} {x y : String × Attribute}
    (hx : e.IsEntry schema x) (hy : e.IsEntry schema y) : x = y := by
  obtain ⟨tag, type, isOptional⟩ := x
  obtain ⟨tag', type', isOptional'⟩ := y
  obtain ⟨word, rfl, htype, rfl⟩ := hx
  obtain ⟨word', heq, htype', rfl⟩ := hy
  simp only [Expr.ofText, Expr.invoke, Expr.tuple.injEq, List.cons.injEq, Expr.literal.injEq,
    Expr.call.injEq, and_true, true_and] at heq
  obtain ⟨htag, rfl⟩ := heq
  obtain rfl : type = type' := Option.some.inj (htype.symm.trans htype')
  rw [Source.Literal.ofText_injective htag]

theorem hasEntries_unique {item : Item} {es es' : List Expr} (h : item.HasEntries es)
    (h' : item.HasEntries es') : es = es' := by
  cases item with
  | function f =>
      have heq := h.symm.trans h'
      simpa [Source.Stmt.result, Expr.invoke] using heq
  | _ => exact h.elim

theorem builds_unique {schema : String → Attributes} {item : Item} {a b : Attributes}
    (ha : item.Builds schema a) (hb : item.Builds schema b) : a = b := by
  obtain ⟨es, hes, ha⟩ := ha
  obtain ⟨es', hes', hb⟩ := hb
  obtain rfl := hasEntries_unique hes hes'
  have hunique : Relator.RightUnique (Expr.IsEntry schema) := fun _ _ _ => isEntry_unique
  rw [← Attributes.ofList_entries a, List.right_unique_forall₂' hunique ha hb,
    Attributes.ofList_entries]

def SchemaFunction.attributes (schema : String → Attributes) (f : SchemaFunction) : Attributes :=
  .ofList (f.entries.map fun e => (e.tag, ⟨e.type.attributeType schema, true⟩))

theorem attributeType?_expr (schema : String → Attributes) (type : EntryType) :
    type.expr.attributeType? schema = some (type.attributeType schema) := by
  cases type with
  | leaf type => cases type <;> rfl
  | nested function => rfl
  | nestedList function => rfl

theorem builds_attributes (schema : String → Attributes) (f : SchemaFunction) :
    f.item.Builds schema (f.attributes schema) := by
  refine ⟨_, hasEntries_item f, ?_⟩
  rw [SchemaFunction.attributes, Attributes.entries_ofList, List.forall₂_map_left_iff,
    List.forall₂_map_right_iff]
  exact List.forall₂_same.2 fun e _ => ⟨_, rfl, attributeType?_expr schema e.type, rfl⟩

theorem builds_iff {schema : String → Attributes} {f : SchemaFunction} {a : Attributes} :
    f.item.Builds schema a ↔ a = f.attributes schema := by
  constructor
  · intro h
    exact builds_unique h (builds_attributes schema f)
  · rintro rfl
    exact builds_attributes schema f

/-! ## Looking names up -/

/-- A name that does not stand in front of an entry leads to that entry. -/
theorem Attributes.get?_of_first {a : Attributes} {i : Nat} {name : String} {found : Attribute}
    (hentry : a.entries[i]? = some (name, found)) (hfirst : name ∉ a.names.take i) :
    a.get? name = some found := by
  obtain ⟨hi, hget⟩ := List.getElem?_eq_some_iff.1 hentry
  rw [get?, List.lookup_eq_some_iff]
  refine ⟨a.entries.take i, a.entries.drop (i + 1), ?_, ?_⟩
  · rw [← hget, ← List.drop_eq_getElem_cons hi, List.take_append_drop]
  · intro e he
    rw [bne_iff_ne]
    rintro rfl
    apply hfirst
    rw [names, ← List.map_take]
    exact List.mem_map_of_mem he

theorem not_mem_take_of_nodup {α : Type} {xs : List α} (hnodup : xs.Nodup) {i : Nat} {x : α}
    (hx : xs[i]? = some x) : x ∉ xs.take i := by
  intro htake
  have hdrop : x ∈ xs.drop i := by
    apply List.mem_of_getElem? (i := 0)
    rwa [List.getElem?_drop, Nat.add_zero]
  exact List.disjoint_take_drop hnodup (Nat.le_refl i) htake hdrop

section

variable {known : KnownTypes} {schema : String → Attributes} {d : Descriptor} {a : Attributes}
  {members : List FieldItem}

theorem count_rename (hmembers : members.map FieldItem.attributes =
      d.taggedFields.map fun t => [Attr.setting "serde" "rename" t.tag]) (tag : String) :
    (members.map FieldItem.attributes).count [.setting "serde" "rename" tag] =
      (d.taggedFields.map Field.tag).count tag := by
  have hinjective : Function.Injective fun tag => [Attr.setting "serde" "rename" tag] := by
    intro x y h
    simpa using h
  rw [hmembers, ← List.count_map_of_injective _ _ hinjective, List.map_map]
  rfl

variable (hentries : a.entries.map (fun e => (e.1, some e.2)) =
  d.taggedFields.map fun t => (t.tag, t.attribute? known schema))

include hentries

theorem names_of_entries : a.names = d.taggedFields.map Field.tag := by
  have hnames := congrArg (List.map Prod.fst) hentries
  rw [List.map_map, List.map_map] at hnames
  exact hnames

/-- Each tag leads to the attribute of the first field with that tag. -/
theorem get?_tag_of_first {i : Nat} {t : Field} (ht : d.taggedFields[i]? = some t)
    (hfirst : t.tag ∉ (d.taggedFields.map Field.tag).take i) :
    ∃ found, t.attribute? known schema = some found ∧ a.get? t.tag = some found := by
  have hi := congrArg (·[i]?) hentries
  simp only [List.getElem?_map, ht, Option.map_some, Option.map_eq_some_iff] at hi
  obtain ⟨⟨name, found⟩, hentry, heq⟩ := hi
  obtain ⟨rfl, hfound⟩ := Prod.mk.inj heq
  rw [← names_of_entries hentries] at hfirst
  exact ⟨found, hfound.symm, Attributes.get?_of_first hentry hfirst⟩

theorem isMapping_iff
    (hmembers : members.map FieldItem.attributes =
      d.taggedFields.map fun t => [Attr.setting "serde" "rename" t.tag]) :
    IsMapping known schema d a members ↔ (d.taggedFields.map Field.tag).Nodup := by
  constructor
  · intro h
    exact names_of_entries hentries ▸ h.nodup_names
  · intro hnodup
    constructor
    case nodup_names => rwa [names_of_entries hentries]
    case get?_tag =>
      intro t ht
      obtain ⟨i, hi⟩ := List.getElem?_of_mem ht
      apply get?_tag_of_first hentries hi
      exact not_mem_take_of_nodup hnodup (by rw [List.getElem?_map, hi, Option.map_some])
    case count_members =>
      intro t ht
      rw [count_rename hmembers]
      exact List.count_eq_one_of_mem hnodup (List.mem_map_of_mem ht)

end

/-! ## The parts of a type -/

section

variable {known : KnownTypes} {unit : String} {isPrimary : Bool} {d : Descriptor}
  {p : UnitModule.TypeParts}

theorem attribute?_of_ofField {t : Field} {m : MappedField} (h : Mapping.ofField unit known t = .ok m)
    (schema : String → Attributes) :
    (m.tag, m.type.attribute? schema) = (t.tag, t.attribute? known schema) := by
  unfold Mapping.ofField at h
  split at h
  · rename_i htype
    obtain rfl := Except.ok.inj h
    rw [Field.attribute?, htype, Option.bind_some]
  · exact absurd h (by simp)

theorem attribute?_of_ofMapped {m : MappedField} {e : SchemaEntry}
    (h : SchemaEntry.ofMapped m = .ok e) (schema : String → Attributes) :
    (e.tag, some (⟨e.type.attributeType schema, true⟩ : Attribute)) =
      (m.tag, m.type.attribute? schema) := by
  obtain ⟨type, htype, rfl⟩ := map_ok_iff.1 h
  rw [MappedType.attribute?, htype]
  rfl

theorem entries_of_typeParts (schema : String → Attributes)
    (h : UnitModule.typeParts unit known isPrimary d = .ok p) :
    (p.function.attributes schema).entries.map (fun e => (e.1, some e.2)) =
      d.taggedFields.map fun t => (t.tag, t.attribute? known schema) := by
  obtain ⟨hfields, hfunction, -⟩ := UnitModule.typeParts_ok h
  calc
    _ = p.function.entries.map fun e => (e.tag, some ⟨e.type.attributeType schema, true⟩) := by
      rw [SchemaFunction.attributes, Attributes.entries_ofList, List.map_map]
      rfl
    _ = p.fields.map fun m => (m.tag, m.type.attribute? schema) :=
      map_eq_map_of_mapM_ok (fun _ _ he => attribute?_of_ofMapped he schema)
        (entries_of_ofType hfunction)
    _ = _ := map_eq_map_of_mapM_ok (fun _ _ hm => attribute?_of_ofField hm schema) hfields

/-- The holder has one member for each tagged field, which is renamed to the tag. -/
theorem attributes_of_typeParts (h : UnitModule.typeParts unit known isPrimary d = .ok p) :
    (p.holder.fields.map HolderField.member).map FieldItem.attributes =
      d.taggedFields.map fun t => [Attr.setting "serde" "rename" t.tag] := by
  obtain ⟨hfields, -, hholder⟩ := UnitModule.typeParts_ok h
  calc
    _ = p.holder.fields.map fun f => [Attr.setting "serde" "rename" f.tag] := by
      rw [List.map_map]
      rfl
    _ = p.fields.map fun m => [Attr.setting "serde" "rename" m.tag] := by
      apply map_eq_map_of_mapM_ok ?_ (fields_of_ofType hholder)
      intro m held hheld
      obtain ⟨name, -, hheld⟩ := bind_ok_iff.1 hheld
      obtain ⟨conversion, -, hheld⟩ := bind_ok_iff.1 hheld
      obtain rfl := Except.ok.inj hheld
      rfl
    _ = _ := by
      apply map_eq_map_of_mapM_ok ?_ hfields
      intro t m hm
      rw [(Mapping.ofField_spec hm).2.1]

theorem UnitModule.getElem?_allParts {u : GenerationUnit} {parts : List TypeParts}
    (h : allParts known u = .ok parts) {i : Nat} (hd : u.types[i]? = some d) :
    ∃ isPrimary p, parts[i]? = some p ∧ typeParts u.name known isPrimary d = .ok p := by
  obtain ⟨primary, others, rfl, hprimary, hothers⟩ := allParts_ok h
  cases i with
  | zero =>
      obtain rfl : u.object = d := Option.some.inj hd
      exact ⟨true, primary, rfl, hprimary⟩
  | succ i =>
      obtain ⟨p, hp, hstep⟩ := getElem?_of_mapM_ok hothers hd
      exact ⟨false, p, hp, hstep⟩

end

/-- The schema function of each generated type builds one collection, in which a tag leads to the first
field with that tag. It is a mapping exactly if no two tagged fields of the type have the same tag. -/
theorem isMapping_iff_nodup_tags {units : List GenerationUnit} {artifacts : List Artifact}
    (h : Artifact.generate units = .ok artifacts) :
    ∃ known, KnownTypes.build units = .ok known ∧ ∀ u ∈ units, ∃ m,
      UnitModule.ofUnit known u = .ok m ∧
      ⟨Artifact.fileName u.name, Artifact.notice ++ "\n\n" ++ m.file.text⟩ ∈ artifacts ∧
      ∀ (i : Nat) (d : Descriptor), u.types[i]? = some d → ∃ f held,
        m.functions[i]? = some f ∧ m.holders[i]? = some held ∧
        ∀ schema, ∃ a members setters getters isMutable,
          (∀ b, f.item.Builds schema b ↔ b = a) ∧
          AreHolder members setters getters isMutable held.items ∧
          (∀ (k : Nat) (t : Field), d.taggedFields[k]? = some t →
            t.tag ∉ (d.taggedFields.map Field.tag).take k →
            ∃ found, t.attribute? known schema = some found ∧ a.get? t.tag = some found) ∧
          (IsMapping known schema d a members ↔ (d.taggedFields.map Field.tag).Nodup) := by
  obtain ⟨known, modules, root, -, hbuild, hmodules, -, rfl⟩ := generate_ok h
  refine ⟨known, hbuild, fun u hu => ?_⟩
  obtain ⟨j, hj⟩ := List.getElem?_of_mem hu
  obtain ⟨artifact, hartifact, hofUnit⟩ := getElem?_of_mapM_ok hmodules hj
  obtain ⟨m, hm, rfl⟩ := ofUnitArtifact_ok hofUnit
  refine ⟨m, hm, List.mem_append_left _ (List.mem_of_getElem? hartifact), fun i d hd => ?_⟩
  obtain ⟨parts, hparts, hfunctions, hholders, -⟩ := UnitModule.ofUnit_ok hm
  obtain ⟨isPrimary, p, hp, hstep⟩ := UnitModule.getElem?_allParts hparts hd
  refine ⟨p.function, p.holder, ?_, ?_, fun schema => ?_⟩
  · rw [hfunctions, List.getElem?_map, hp, Option.map_some]
  · rw [hholders, List.getElem?_map, hp, Option.map_some]
  · have hentries := entries_of_typeParts schema hstep
    exact ⟨p.function.attributes schema, _, _, _, _, fun b => builds_iff, areHolder_items p.holder,
      fun k t ht hfirst => get?_tag_of_first hentries ht hfirst,
      isMapping_iff hentries (attributes_of_typeParts hstep)⟩

theorem isMapping_iff_nodup_tags_crossing :
    ∃ artifacts known, Artifact.generate crossingUnits = .ok artifacts ∧
      KnownTypes.build crossingUnits = .ok known ∧ ∀ u ∈ crossingUnits,
      ∃ (m : UnitModule) (f : SchemaFunction) (held : HolderType),
        ⟨Artifact.fileName u.name, Artifact.notice ++ "\n\n" ++ m.file.text⟩ ∈ artifacts ∧
        m.functions[0]? = some f ∧ m.holders[0]? = some held ∧
        ∀ schema, ∃ a members setters getters isMutable, f.item.Builds schema a ∧
          AreHolder members setters getters isMutable held.items ∧
          IsMapping known schema u.object a members := by
  obtain ⟨artifacts, h⟩ : ∃ artifacts, Artifact.generate crossingUnits = .ok artifacts :=
    exists_of_isOk (by decide +kernel)
  have hnodup : ∀ u ∈ crossingUnits, (u.object.taggedFields.map Field.tag).Nodup := by decide
  obtain ⟨known, hbuild, hunits⟩ := isMapping_iff_nodup_tags h
  refine ⟨artifacts, known, h, hbuild, fun u hu => ?_⟩
  obtain ⟨m, -, hfile, htypes⟩ := hunits u hu
  obtain ⟨f, held, hf, hheld, hbuilds⟩ := htypes 0 u.object rfl
  refine ⟨m, f, held, hfile, hf, hheld, fun schema => ?_⟩
  obtain ⟨a, members, setters, getters, isMutable, ha, hmembers, -, hmapping⟩ := hbuilds schema
  exact ⟨a, members, setters, getters, isMutable, (ha a).2 rfl, hmembers,
    hmapping.2 (hnodup u hu)⟩

def sharedTag : GenerationUnit :=
  ⟨"left", [], .ofFields "Left" "native::Left"
    [.mk "first" (.scalar "bool" .bool) "x", .mk "second" (.scalar "String" .string) "x"], []⟩

/-- It is generated all the same: two attributes have one name, and only the first is looked up. -/
theorem sharedTag_not_isMapping :
    ∃ artifacts known m f, Artifact.generate [sharedTag] = .ok artifacts ∧
      KnownTypes.build [sharedTag] = .ok known ∧ UnitModule.ofUnit known sharedTag = .ok m ∧
      m.functions = [f] ∧
      ∀ schema a, f.item.Builds schema a →
        a.entries = [("x", ⟨.leaf .bool, true⟩), ("x", ⟨.leaf .string, true⟩)] ∧
        a.get? "x" = some ⟨.leaf .bool, true⟩ ∧
        ∀ members, ¬ IsMapping known schema sharedTag.object a members := by
  obtain ⟨artifacts, h⟩ : ∃ artifacts, Artifact.generate [sharedTag] = .ok artifacts :=
    exists_of_isOk (by decide +kernel)
  have hall : (do
        let known ← KnownTypes.build [sharedTag]
        (UnitModule.ofUnit known sharedTag).map UnitModule.functions) =
      .ok [⟨"native::Left", true, "left_attributes",
        [⟨"x", .leaf .bool⟩, ⟨"x", .leaf .string⟩]⟩] := by
    decide +kernel
  obtain ⟨known, hbuild, hmap⟩ := bind_ok_iff.1 hall
  obtain ⟨m, hm, hfunctions⟩ := map_ok_iff.1 hmap
  refine ⟨artifacts, known, m, _, h, hbuild, hm, hfunctions, fun schema a ha => ?_⟩
  obtain rfl := builds_iff.1 ha
  refine ⟨rfl, rfl, fun members hmapping => ?_⟩
  have hnames : ["x", "x"].Nodup := hmapping.nodup_names
  exact absurd hnames (by decide)

end AttributeSchema
