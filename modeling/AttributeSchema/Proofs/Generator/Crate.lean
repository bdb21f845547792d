import AttributeSchema.Generator.Output
import AttributeSchema.Proofs.Generator.Modules
/-!
# The generated files are closed

Whatever a generated file mentions is declared there or imported from the file that declares it. All
references and all declarations are made from names of types by the same functions, the registry leads from
each nested type to the unit that declares it, and types of different units differ.
-/

namespace AttributeSchema

open Source (File)
open Source.Parser (ident?)
open UnitModule (IsExact)

/-! ## The crate -/

/-- A file declares the holder and the schema function of a type. -/
def Declares (f : File) (type : String) : Prop :=
  type ∈ f.holders ∧ Naming.attributesName type ∈ f.functions.map Prod.fst

/-- Exactly one pair of a file's imports brings in the holder or the schema function of a type, and it
takes both from the module of an owner. -/
def Imports (f : File) (owner type : String) : Prop :=
  f.importPairs.filter (fun p => p.2.1 = type ∨ p.2.2 = Naming.attributesName type) =
    [(owner, type, Naming.attributesName type)]

/-- The names of a type that the module of `u` mentions lead to one unit that depends on the type. That
unit's module declares both names and is itself declared above all units. -/
def Resolves (units : List GenerationUnit) (file : GenerationUnit → File) (root : File)
    (u : GenerationUnit) (type : String) : Prop :=
  ∃ v ∈ units, (∃ t ∈ v.dependsOn, t.name = type) ∧ Declares (file v) type ∧
    v.name ∈ root.modules ∧ (v = u ∨ v.name ≠ u.name ∧ Imports (file u) v.name type)

/-- The files of units and the one above them mention only what they declare or import, and declare
nothing twice. The import pairs are those of the items `use crate::<m>::{..}` that import from modules of
other units; the import paths that a unit lists itself are passed through and say nothing here. Names are
compared by their text, in which a raw name keeps its prefix. -/
structure IsClosed (units : List GenerationUnit) (file : GenerationUnit → File) (root : File) :
    Prop where
  holders_resolve : ∀ u ∈ units, ∀ holder ∈ (file u).nestedHolders,
    Resolves units file root u holder
  functions_resolve : ∀ u ∈ units, ∀ function ∈ (file u).nestedFunctions,
    ∃ type, function = Naming.attributesName type ∧ Resolves units file root u type
  imports_resolve : ∀ u ∈ units, ∀ p ∈ (file u).importPairs,
    Resolves units file root u p.2.1
  not_imported_of_declared : ∀ u ∈ units, ∀ p ∈ (file u).importPairs,
    p.2.1 ∉ (file u).holders ∧ p.2.2 ∉ (file u).functions.map Prod.fst
  nodup_functions : (units.flatMap fun u => (file u).functions.map Prod.fst).Nodup
  nodup_holders : (units.flatMap fun u => (file u).holders).Nodup
  nodup_names : (units.map GenerationUnit.name).Nodup
  modules_eq : root.modules = units.map GenerationUnit.name
  /-- One entry for each unit: the schema that the schema function of the primary type gives. -/
  bodies_eq : root.bodies = [("schemas", [.result (.invoke ["std", "collections", "BTreeMap", "from"]
    [.array (units.map fun u => .tuple [.ofText u.name, .invoke ["attrgen", "Schema", "new"]
      [.invoke [u.name, Naming.attributesName u.object.name] []]] false) false])])]
  public_of_primary : ∀ u ∈ units,
    (Naming.attributesName u.object.name, .everyone) ∈ (file u).functions

/-! ### Each nested type is found -/

section

variable {units : List GenerationUnit} {known : KnownTypes} {file : GenerationUnit → File}

open UnitModule (AreExact)

/-- What is left of a list without repetition when only one element is kept. -/
theorem filter_eq_singleton {α : Type} {p : α → Prop} [DecidablePred p] {l : List α} {x : α}
    (hnodup : l.Nodup) (hx : x ∈ l) (hp : p x) (hunique : ∀ y ∈ l, p y → y = x) :
    l.filter p = [x] := by
  apply List.perm_singleton.1
  rw [List.perm_ext_iff_of_nodup (hnodup.filter _) (List.nodup_singleton x)]
  intro y
  rw [List.mem_filter, List.mem_singleton, decide_eq_true_iff]
  constructor
  · rintro ⟨hy, hpy⟩
    exact hunique y hy hpy
  · rintro rfl
    exact ⟨hx, hp⟩

theorem imports_of_nested (hexact : AreExact units) (hbuild : KnownTypes.build units = .ok known)
    {u : GenerationUnit} {m : UnitModule} {parts : List UnitModule.TypeParts}
    (hparts : UnitModule.allParts known u = .ok parts) (h : UnitModule.ofUnit known u = .ok m)
    {f : MappedField} (hf : f ∈ parts.flatMap UnitModule.TypeParts.fields) {type owner : String}
    (hnested : f.type.nested? = some type) (howner : known.owner? type = some owner)
    (hforeign : owner ≠ u.name) : Imports m.file owner type := by
  apply filter_eq_singleton (UnitModule.nodup_importPairs_ofUnit hexact hbuild hparts h)
  · exact (UnitModule.mem_importPairs_ofUnit hexact hbuild hparts h).2
      ⟨rfl, f, hf, hnested, howner, hforeign⟩
  · exact .inl rfl
  · rintro ⟨o, t, function⟩ hp hsame
    obtain ⟨rfl, g, -, -, ho, -⟩ :=
      (UnitModule.mem_importPairs_ofUnit hexact hbuild hparts h).1 hp
    have htype : t = type := by
      obtain ⟨v, hv, -, s, hs, rfl⟩ := KnownTypes.mem_dependsOn_of_owner? hbuild ho
      obtain ⟨w, hw, -, r, hr, rfl⟩ := KnownTypes.mem_dependsOn_of_owner? hbuild howner
      exact hsame.elim id (KnownTypes.eq_of_attributesName_eq hbuild hv hw
        (List.mem_cons_of_mem _ hs) (List.mem_cons_of_mem _ hr))
    subst htype
    rw [Option.some.inj (ho.symm.trans howner)]

theorem declares_of_mem {u : GenerationUnit} {m : UnitModule}
    (hexact : ∀ t ∈ u.types, IsExact t.name) (h : UnitModule.ofUnit known u = .ok m)
    {t : Descriptor} (ht : t ∈ u.types) : Declares m.file t.name := by
  rw [Declares, UnitModule.holders_ofUnit hexact h, UnitModule.functionNames_ofUnit hexact h]
  exact ⟨List.mem_map_of_mem ht, List.mem_map.2 ⟨t, ht, rfl⟩⟩

theorem resolves_of_nested (hexact : AreExact units) (hbuild : KnownTypes.build units = .ok known)
    (hnames : (units.map GenerationUnit.name).Nodup)
    (hfile : ∀ u ∈ units, ∃ m, UnitModule.ofUnit known u = .ok m ∧ file u = m.file)
    {root : File} (hroot : root.modules = units.map GenerationUnit.name) {u : GenerationUnit}
    (hu : u ∈ units) {parts : List UnitModule.TypeParts}
    (hparts : UnitModule.allParts known u = .ok parts) {f : MappedField}
    (hf : f ∈ parts.flatMap UnitModule.TypeParts.fields) {type : String}
    (hnested : f.type.nested? = some type) : Resolves units file root u type := by
  obtain ⟨owner, howner⟩ := UnitModule.exists_owner?_of_nested hparts hf hnested
  obtain ⟨v, hv, rfl, t, ht, rfl⟩ := KnownTypes.mem_dependsOn_of_owner? hbuild howner
  obtain ⟨mv, hmv, hfilev⟩ := hfile v hv
  obtain ⟨mu, hmu, hfileu⟩ := hfile u hu
  refine ⟨v, hv, ⟨t, ht, rfl⟩, ?_, ?_, ?_⟩
  · rw [hfilev]
    exact declares_of_mem (hexact v hv).2 hmv (List.mem_cons_of_mem _ ht)
  · rw [hroot]
    exact List.mem_map_of_mem hv
  · by_cases hname : v.name = u.name
    · exact .inl (List.inj_on_of_nodup_map hnames hv hu hname)
    · right
      rw [hfileu]
      exact ⟨hname, imports_of_nested hexact hbuild hparts hmu hf hnested howner hname⟩

theorem not_imported_of_declares (hexact : AreExact units)
    (hbuild : KnownTypes.build units = .ok known) {u : GenerationUnit} (hu : u ∈ units)
    {m : UnitModule} (h : UnitModule.ofUnit known u = .ok m) {p : String × String × String}
    (hp : p ∈ m.file.importPairs) :
    p.2.1 ∉ m.file.holders ∧ p.2.2 ∉ m.file.functions.map Prod.fst := by
  obtain ⟨parts, hparts, -⟩ := UnitModule.ofUnit_ok h
  obtain ⟨owner, type, function⟩ := p
  obtain ⟨rfl, f, -, -, howner, hforeign⟩ :=
    (UnitModule.mem_importPairs_ofUnit hexact hbuild hparts h).1 hp
  obtain ⟨v, hv, rfl, t, ht, rfl⟩ := KnownTypes.mem_dependsOn_of_owner? hbuild howner
  have ht : t ∈ v.types := List.mem_cons_of_mem _ ht
  rw [UnitModule.holders_ofUnit (hexact u hu).2 h, UnitModule.functionNames_ofUnit (hexact u hu).2 h]
  constructor
  · intro hmem
    obtain ⟨s, hs, hname⟩ := List.mem_map.1 hmem
    exact hforeign (KnownTypes.unit_eq_of_type_eq hbuild hv hu ht hs hname.symm)
  · intro hmem
    obtain ⟨s, hs, hname⟩ := List.mem_map.1 hmem
    have htype := KnownTypes.eq_of_attributesName_eq hbuild hv hu ht hs hname.symm
    exact hforeign (KnownTypes.unit_eq_of_type_eq hbuild hv hu ht hs htype)

theorem entries_of_ofUnits (hexact : AreExact units) {root : RootModule}
    (h : RootModule.ofUnits units = .ok root) :
    root.entries = units.map fun u => ⟨u.name, u.name, Naming.attributesName u.object.name⟩ := by
  rw [RootModule.ofUnits] at h
  obtain ⟨entries, hentries, rfl⟩ := map_ok_iff.1 h
  apply eq_map_of_mapM_ok ?_ hentries
  intro u hu e he
  rw [RootModule.entryOf] at he
  obtain ⟨module, hmodule, he⟩ := bind_ok_iff.1 he
  obtain ⟨function, hfunction, he⟩ := bind_ok_iff.1 he
  obtain rfl := Except.ok.inj he
  have hread := identifier_ok hmodule
  rw [(hexact u hu).1] at hread
  rw [Naming.eq_attributesName_of_ident? ((hexact u hu).2 u.object List.mem_cons_self)
    (identifier_ok hfunction), ← Option.some.inj hread]

end

/-! ### All files -/

theorem ofFile_ok {name : String} {file : File} {a : Artifact} (h : Artifact.ofFile name file = .ok a) :
    a = ⟨name, Artifact.notice ++ "\n\n" ++ file.text⟩ := by
  rw [Artifact.ofFile] at h
  split at h
  · exact absurd h (by simp)
  · exact (Except.ok.inj h).symm

theorem generate_ok {units : List GenerationUnit} {artifacts : List Artifact}
    (h : Artifact.generate units = .ok artifacts) :
    ∃ known modules root, Validation.check units = .ok () ∧ KnownTypes.build units = .ok known ∧
      units.mapM (Artifact.ofUnit known) = .ok modules ∧ Artifact.root units = .ok root ∧
      artifacts = modules ++ [root] := by
  rw [Artifact.generate] at h
  obtain ⟨⟨⟩, hcheck, h⟩ := bind_ok_iff.1 h
  obtain ⟨known, hbuild, h⟩ := bind_ok_iff.1 h
  obtain ⟨modules, hmodules, h⟩ := bind_ok_iff.1 h
  obtain ⟨root, hroot, h⟩ := bind_ok_iff.1 h
  exact ⟨known, modules, root, hcheck, hbuild, hmodules, hroot, (Except.ok.inj h).symm⟩

theorem ofUnitArtifact_ok {known : KnownTypes} {u : GenerationUnit} {a : Artifact}
    (h : Artifact.ofUnit known u = .ok a) :
    ∃ m, UnitModule.ofUnit known u = .ok m ∧
      a = ⟨Artifact.fileName u.name, Artifact.notice ++ "\n\n" ++ m.file.text⟩ := by
  rw [Artifact.ofUnit] at h
  obtain ⟨m, hm, h⟩ := bind_ok_iff.1 h
  exact ⟨m, hm, ofFile_ok h⟩

theorem rootArtifact_ok {units : List GenerationUnit} {a : Artifact}
    (h : Artifact.root units = .ok a) :
    ∃ m, RootModule.ofUnits units = .ok m ∧
      a = ⟨Artifact.fileName "lib", Artifact.notice ++ "\n\n" ++ m.file.text⟩ := by
  rw [Artifact.root] at h
  obtain ⟨m, hm, h⟩ := bind_ok_iff.1 h
  exact ⟨m, hm, ofFile_ok h⟩

/-- Modules of checked units with their exact names mention only what they declare or import. -/
theorem isClosed_of_modules {units : List GenerationUnit} {known : KnownTypes}
    {file : GenerationUnit → File} {root : RootModule} (hexact : UnitModule.AreExact units)
    (hcheck : Validation.check units = .ok ()) (hbuild : KnownTypes.build units = .ok known)
    (hfile : ∀ u ∈ units, ∃ m, UnitModule.ofUnit known u = .ok m ∧ file u = m.file)
    (hroot : RootModule.ofUnits units = .ok root) : IsClosed units file root.file := by
  have hnames := Validation.nodup_of_check hcheck
  have hentries := entries_of_ofUnits hexact hroot
  have hmodules : root.file.modules = units.map GenerationUnit.name := by
    rw [RootModule.modules_file, hentries, List.map_map]
    rfl
  have hfields : ∀ u ∈ units, ∃ m parts, UnitModule.ofUnit known u = .ok m ∧
      UnitModule.allParts known u = .ok parts ∧ file u = m.file := by
    intro u hu
    obtain ⟨m, hm, hf⟩ := hfile u hu
    obtain ⟨parts, hparts, -⟩ := UnitModule.ofUnit_ok hm
    exact ⟨m, parts, hm, hparts, hf⟩
  have hfunctions : ∀ u ∈ units, (file u).functions.map Prod.fst =
      u.types.map fun t => Naming.attributesName t.name := by
    intro u hu
    obtain ⟨m, hm, hf⟩ := hfile u hu
    rw [hf, UnitModule.functionNames_ofUnit (hexact u hu).2 hm]
  have hholders : ∀ u ∈ units, (file u).holders = u.types.map Descriptor.name := by
    intro u hu
    obtain ⟨m, hm, hf⟩ := hfile u hu
    rw [hf, UnitModule.holders_ofUnit (hexact u hu).2 hm]
  constructor
  case holders_resolve =>
    intro u hu holder hholder
    obtain ⟨m, parts, hm, hparts, hf⟩ := hfields u hu
    rw [hf] at hholder
    obtain ⟨f, hmem, type, hnested, hread⟩ := UnitModule.nested_of_mem_holders hm hparts hholder
    have htype : IsExact type := UnitModule.isExact_of_nested hexact hbuild hparts hmem hnested
    rw [htype] at hread
    obtain rfl := Option.some.inj hread
    exact resolves_of_nested hexact hbuild hnames hfile hmodules hu hparts hmem hnested
  case functions_resolve =>
    intro u hu function hfunction
    obtain ⟨m, parts, hm, hparts, hf⟩ := hfields u hu
    rw [hf] at hfunction
    obtain ⟨f, hmem, type, hnested, hread⟩ :=
      UnitModule.nested_of_mem_functions hm hparts hfunction
    have htype : IsExact type := UnitModule.isExact_of_nested hexact hbuild hparts hmem hnested
    exact ⟨type, Naming.eq_attributesName_of_ident? htype hread,
      resolves_of_nested hexact hbuild hnames hfile hmodules hu hparts hmem hnested⟩
  case imports_resolve =>
    intro u hu p hp
    obtain ⟨m, parts, hm, hparts, hf⟩ := hfields u hu
    rw [hf] at hp
    obtain ⟨-, f, hmem, hnested, -⟩ :=
      (UnitModule.mem_importPairs_ofUnit hexact hbuild hparts hm).1 hp
    exact resolves_of_nested hexact hbuild hnames hfile hmodules hu hparts hmem hnested
  case not_imported_of_declared =>
    intro u hu p hp
    obtain ⟨m, hm, hf⟩ := hfile u hu
    rw [hf] at hp ⊢
    exact not_imported_of_declares hexact hbuild hu hm hp
  case nodup_functions =>
    rw [List.flatMap_congr hfunctions]
    exact KnownTypes.nodup_functions hbuild
  case nodup_holders =>
    rw [List.flatMap_congr hholders]
    exact KnownTypes.nodup_types hbuild
  case nodup_names => exact hnames
  case modules_eq => exact hmodules
  case bodies_eq =>
    rw [RootModule.bodies_file, hentries, List.map_map]
    rfl
  case public_of_primary =>
    intro u hu
    obtain ⟨m, hm, hf⟩ := hfile u hu
    rw [hf, UnitModule.functions_ofUnit (hexact u hu).2 hm]
    exact List.mem_cons_self

/-- The artifacts of units whose names are read as they are spelled are the texts of files that mention
only what they declare or import, and that declare nothing twice. -/
theorem generate_closed {units : List GenerationUnit} {artifacts : List Artifact}
    (hexact : UnitModule.AreExact units) (h : Artifact.generate units = .ok artifacts) :
    ∃ known file root, KnownTypes.build units = .ok known ∧
      (∀ u ∈ units, (UnitModule.ofUnit known u).map UnitModule.file = .ok (file u)) ∧
      (RootModule.ofUnits units).map RootModule.file = .ok root ∧
      artifacts = units.map (fun u => (⟨Artifact.fileName u.name,
          Artifact.notice ++ "\n\n" ++ (file u).text⟩ : Artifact)) ++
        [⟨Artifact.fileName "lib", Artifact.notice ++ "\n\n" ++ root.text⟩] ∧
      IsClosed units file root := by
  obtain ⟨known, modules, rootArtifact, hcheck, hbuild, hmodules, hrootArtifact, rfl⟩ :=
    generate_ok h
  obtain ⟨root, hroot, rfl⟩ := rootArtifact_ok hrootArtifact
  -- The file of a unit is read off its module; what it is for other units does not matter.
  let file : GenerationUnit → File := fun u =>
    match UnitModule.ofUnit known u with
    | .ok m => m.file
    | .error _ => root.file
  have hfile : ∀ u ∈ units, ∃ m, UnitModule.ofUnit known u = .ok m ∧ file u = m.file := by
    intro u hu
    obtain ⟨i, hi, rfl⟩ := List.getElem_of_mem hu
    obtain ⟨a, -, ha⟩ := getElem?_of_mapM_ok hmodules (List.getElem?_eq_getElem hi)
    obtain ⟨m, hm, -⟩ := ofUnitArtifact_ok ha
    exact ⟨m, hm, by simp only [file, hm]⟩
  refine ⟨known, file, root.file, hbuild, ?_, ?_, ?_,
    isClosed_of_modules hexact hcheck hbuild hfile hroot⟩
  · intro u hu
    obtain ⟨m, hm, hf⟩ := hfile u hu
    rw [hm, hf]
    rfl
  · rw [hroot]
    rfl
  · congr 1
    apply eq_map_of_mapM_ok ?_ hmodules
    intro u hu a ha
    obtain ⟨m, hm, rfl⟩ := ofUnitArtifact_ok ha
    simp only [file, hm]

def crossingUnits : List GenerationUnit :=
  let flag : Field := .mk "flag" (.scalar "bool" .bool) "flag"
  let left : Descriptor := .ofFields "LeftLink" "native::LeftLink" [flag]
  let right : Descriptor := .ofFields "RightLink" "native::RightLink" [flag]
  [⟨"left", [], .ofFields "Left" "native::Left" [flag, .mk "link" right "link"], [left]⟩,
    ⟨"right", ["native"], .ofFields "Right" "native::Right"
      [.mk "links" (.scalar "Vec" (.sequence left)) "links", .mk "own" right "own"], [right]⟩]

theorem generate_closed_crossing :
    ∃ artifacts file root, Artifact.generate crossingUnits = .ok artifacts ∧
      artifacts.length = 3 ∧ IsClosed crossingUnits file root := by
  have hexact : UnitModule.AreExact crossingUnits := by
    have hnames : ∀ u ∈ crossingUnits, ident? u.name = some u.name ∧
        ∀ t ∈ u.types, ident? t.name = some t.name := by
      simp only [crossingUnits, List.forall_mem_cons, GenerationUnit.types]
      decide +kernel
    exact hnames
  obtain ⟨artifacts, h⟩ : ∃ artifacts, Artifact.generate crossingUnits = .ok artifacts :=
    exists_of_isOk (by decide +kernel)
  obtain ⟨known, file, root, -, -, -, hartifacts, hclosed⟩ := generate_closed hexact h
  refine ⟨artifacts, file, root, h, ?_, hclosed⟩
  rw [hartifacts, List.length_append, List.length_map]
  rfl

end AttributeSchema
