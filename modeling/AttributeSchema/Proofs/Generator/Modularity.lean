import AttributeSchema.Generator.Output
import AttributeSchema.Proofs.Generator.Crate
import AttributeSchema.Proofs.Generator.Registry
import AttributeSchema.Proofs.Traverse
/-!
# Units are generated one by one

The module of a unit depends on the unit and on what the registry says about a few names: those of the
types of its tagged fields and of the types in them. So the order of the units does not matter for the
file of any of them, and neither do further units that declare none of those names.
-/

namespace AttributeSchema

/-! ## Names that the registry is asked for -/

/-- The names by which mapping a type may ask the registry. -/
def Descriptor.consultedNames (d : Descriptor) : List String :=
  d.name ::
    match d.kind with
    | .optional inner => [inner.name]
    | .sequence item =>
      item.name ::
        match item.kind with
        | .optional inner => [inner.name]
        | _ => []
    | _ => []

def GenerationUnit.consultedNames (u : GenerationUnit) : List String :=
  u.types.flatMap fun t => t.taggedFields.flatMap fun f => f.type.consultedNames

/-- Registries that give the same answers about some names. -/
structure KnownTypes.AgreeOn (names : List String) (known known' : KnownTypes) : Prop where
  contains_eq : ∀ name ∈ names, known.contains name = known'.contains name
  owner?_eq : ∀ name ∈ names, known.owner? name = known'.owner? name

namespace KnownTypes

variable {names more : List String} {known known' : KnownTypes}

theorem AgreeOn.mono (h : known.AgreeOn names known') (hsubset : more ⊆ names) :
    known.AgreeOn more known' where
  contains_eq name hname := h.contains_eq name (hsubset hname)
  owner?_eq name hname := h.owner?_eq name (hsubset hname)

theorem AgreeOn.of_owner? (h : ∀ name ∈ names, known.owner? name = known'.owner? name) :
    known.AgreeOn names known' where
  contains_eq name hname := congrArg Option.isSome (h name hname)
  owner?_eq := h

/-- A registry without all names but some. -/
def only (names : List String) (known : KnownTypes) : KnownTypes :=
  ⟨known.owners.filter fun name _ => names.contains name⟩

theorem owner?_only (name : String) :
    (known.only names).owner? name = if names.contains name then known.owner? name else none :=
  SortedMap.get?_filter names.contains known.owners name

theorem agreeOn_only : known.AgreeOn names (known.only names) := by
  apply AgreeOn.of_owner?
  intro name hname
  rw [owner?_only, if_pos (List.contains_iff_mem.2 hname)]

theorem mem_of_owner?_only {name owner : String} (h : (known.only names).owner? name = some owner) :
    name ∈ names := by
  rw [owner?_only] at h
  split at h
  · rename_i hname
    exact List.contains_iff_mem.1 hname
  · exact absurd h (by simp)

end KnownTypes

/-! ## Mapping -/

namespace Mapping

variable {known known' : KnownTypes} {d : Descriptor}

theorem knownRule_agree (h : known.AgreeOn d.consultedNames known') :
    knownRule known d = knownRule known' d := by
  have hname : d.name ∈ d.consultedNames := List.mem_cons_self
  rw [knownRule, knownRule, h.contains_eq _ hname]

theorem optionalRule_agree (h : known.AgreeOn d.consultedNames known') :
    optionalRule known d.kind = optionalRule known' d.kind := by
  cases hkind : d.kind with
  | optional inner =>
      have hinner : inner.name ∈ d.consultedNames := by
        simp only [Descriptor.consultedNames, hkind, List.mem_cons, true_or, or_true]
      rw [optionalRule, optionalRule, h.contains_eq _ hinner]
  | _ => rfl

theorem listRule_agree (h : known.AgreeOn d.consultedNames known') :
    listRule known d.kind = listRule known' d.kind := by
  cases hkind : d.kind with
  | sequence item =>
      have hitem : item.name ∈ d.consultedNames := by
        simp only [Descriptor.consultedNames, hkind, List.mem_cons, true_or, or_true]
      rw [listRule, listRule, h.contains_eq _ hitem]
      cases hitemKind : item.kind with
      | optional inner =>
          have hinner : inner.name ∈ d.consultedNames := by
            simp only [Descriptor.consultedNames, hkind, hitemKind, List.mem_cons, true_or, or_true]
          simp only [h.contains_eq _ hinner]
      | _ => rfl
  | _ => rfl

/-- Mapping a type asks for the consulted names only. -/
theorem ofType?_agree (h : known.AgreeOn d.consultedNames known') :
    ofType? known d = ofType? known' d := by
  rw [ofType?, ofType?, knownRule_agree h, optionalRule_agree h, listRule_agree h]

theorem ofField_agree (unit : String) {f : Field} (h : known.AgreeOn f.type.consultedNames known') :
    ofField unit known f = ofField unit known' f := by
  rw [ofField, ofField, ofType?_agree h]

theorem ofFields_agree (unit : String)
    (h : ∀ f ∈ d.taggedFields, known.AgreeOn f.type.consultedNames known') :
    ofFields unit known d = ofFields unit known' d :=
  mapM_eq_of_forall₂ (List.forall₂_same.2 fun f hf => ofField_agree unit (h f hf))

end Mapping

/-! ## Modules -/

namespace UnitModule

variable {known known' : KnownTypes} {u : GenerationUnit}

theorem typeParts_agree (unit : String) (isPrimary : Bool) {d : Descriptor}
    (h : ∀ f ∈ d.taggedFields, known.AgreeOn f.type.consultedNames known') :
    typeParts unit known isPrimary d = typeParts unit known' isPrimary d := by
  rw [typeParts, typeParts, Mapping.ofFields_agree unit h]

theorem agreeOn_of_mem (h : known.AgreeOn u.consultedNames known') {t : Descriptor}
    (ht : t ∈ u.types) {f : Field} (hf : f ∈ t.taggedFields) :
    known.AgreeOn f.type.consultedNames known' := by
  apply h.mono
  intro name hname
  exact List.mem_flatMap.2 ⟨t, ht, List.mem_flatMap.2 ⟨f, hf, hname⟩⟩

theorem allParts_agree (h : known.AgreeOn u.consultedNames known') :
    allParts known u = allParts known' u := by
  have hobject : typeParts u.name known true u.object = typeParts u.name known' true u.object :=
    typeParts_agree u.name true fun f hf => agreeOn_of_mem h List.mem_cons_self hf
  have hothers : u.dependsOn.mapM (typeParts u.name known false) =
      u.dependsOn.mapM (typeParts u.name known' false) := by
    apply mapM_eq_of_forall₂
    rw [List.forall₂_same]
    intro t ht
    exact typeParts_agree u.name false fun f hf => agreeOn_of_mem h (List.mem_cons_of_mem _ ht) hf
  rw [allParts, allParts, hobject, hothers]

/-- What the fields of a unit nest was asked for: a registry without other names knows it too. -/
theorem nested_mem_consultedNames {parts : List TypeParts} (hparts : allParts known u = .ok parts)
    {f : MappedField} (hf : f ∈ parts.flatMap TypeParts.fields) {name : String}
    (hnested : f.type.nested? = some name) : name ∈ u.consultedNames := by
  -- The parts stay the same when the registry forgets all other names, and a nested type has an owner.
  rw [allParts_agree KnownTypes.agreeOn_only] at hparts
  obtain ⟨owner, howner⟩ := exists_owner?_of_nested hparts hf hnested
  exact KnownTypes.mem_of_owner?_only howner

theorem foreignNested_agree (unit : String) {fields : List MappedField}
    (h : ∀ f ∈ fields, ∀ name, f.type.nested? = some name → known.owner? name = known'.owner? name) :
    foreignNested unit known fields = foreignNested unit known' fields := by
  apply List.filterMap_congr
  intro f hf
  cases hnested : f.type.nested? with
  | none => rfl
  | some name =>
      change (known.owner? name).bind _ = (known'.owner? name).bind _
      rw [h f hf name hnested]

/-- The module of a unit depends on what the registry says about the names that its tagged fields ask
for, and on nothing else in the registry. -/
theorem ofUnit_agree (h : known.AgreeOn u.consultedNames known') :
    ofUnit known u = ofUnit known' u := by
  rw [ofUnit, ofUnit, ← allParts_agree h]
  cases hparts : allParts known u with
  | error e => rfl
  | ok parts =>
      have hforeign : foreignNested u.name known (parts.flatMap TypeParts.fields) =
          foreignNested u.name known' (parts.flatMap TypeParts.fields) :=
        foreignNested_agree u.name fun f hf name hnested =>
          h.owner?_eq name (nested_mem_consultedNames hparts hf hnested)
      change (do
          let imports ← u.imports.mapM fun path => Spelled.path path (importContext u.name)
          let foreign ← (grouped (foreignNested u.name known (parts.flatMap TypeParts.fields))).entries.mapM
            (foreignOf u.name)
          return (⟨u.name, imports, foreign, parts.map TypeParts.function, parts.map TypeParts.holder⟩ :
            UnitModule)) = _
      rw [hforeign]
      rfl

end UnitModule

/-! ## The order of units -/

section

variable {units units' : List GenerationUnit} {known : KnownTypes}

theorem Validation.check_perm (h : units.Perm units') (hcheck : check units = .ok ()) :
    check units' = .ok () := by
  obtain ⟨hsome, hnodup, hnames⟩ := check_ok_iff.1 hcheck
  rw [check_ok_iff]
  refine ⟨?_, (h.map _).nodup hnodup, fun u hu => hnames u (h.symm.subset hu)⟩
  rintro rfl
  exact hsome h.eq_nil

theorem KnownTypes.build_perm (h : units.Perm units') (hbuild : build units = .ok known) :
    build units' = .ok known := by
  obtain ⟨hnodup, rfl⟩ := build_ok_iff.1 hbuild
  have hdeclared : (declared units).Perm (declared units') := h.flatMap_right _
  have hdependencies : (dependencies units).Perm (dependencies units') := h.flatMap_right _
  rw [build_ok_iff, SortedMap.ofList_perm (nodup_dependencies hbuild) hdependencies]
  exact ⟨(hdeclared.map _).nodup hnodup, rfl⟩

end

/-! ## Files -/

open Source (File Expr)

/-- Nothing is wrong with the file above all units: it imports nothing, and its function takes nothing. -/
theorem RootModule.fault?_file (m : RootModule) : m.file.fault? = none := by
  rw [File.fault?, List.findSome?_eq_none_iff]
  intro item hitem
  rcases List.mem_append.1 hitem with hitem | hitem
  · obtain ⟨e, -, rfl⟩ := List.mem_map.1 hitem
    rfl
  · obtain rfl := List.mem_singleton.1 hitem
    rfl

/-- Files that declare the same modules and give the same schemas by the same names, in whatever order. -/
def SameUpToOrder (f g : File) : Prop :=
  f.modules.Perm g.modules ∧ ∃ entries entries' : List Expr, entries.Perm entries' ∧
    f.bodies = [("schemas",
      [.result (.invoke ["std", "collections", "BTreeMap", "from"] [.array entries false])])] ∧
    g.bodies = [("schemas",
      [.result (.invoke ["std", "collections", "BTreeMap", "from"] [.array entries' false])])]

theorem RootModule.sameUpToOrder {m m' : RootModule} (h : m.entries.Perm m'.entries) :
    SameUpToOrder m.file m'.file := by
  refine ⟨?_, _, _, h.map schemaEntry, m.bodies_file, m'.bodies_file⟩
  rw [modules_file, modules_file]
  exact h.map _

namespace Artifact

variable {units units' : List GenerationUnit} {known : KnownTypes} {artifacts : List Artifact}

def ofUnitOrEmpty (known : KnownTypes) (u : GenerationUnit) : Artifact :=
  match ofUnit known u with
  | .ok a => a
  | .error _ => ⟨fileName u.name, ""⟩

theorem name_ofUnitOrEmpty (u : GenerationUnit) :
    (ofUnitOrEmpty known u).name = fileName u.name := by
  unfold ofUnitOrEmpty
  split
  · rename_i h
    obtain ⟨m, -, rfl⟩ := ofUnitArtifact_ok h
    rfl
  · rfl

def arranged (units : List GenerationUnit) (file : GenerationUnit → Artifact) (root : RootModule) :
    List Artifact :=
  units.map file ++ [⟨fileName "lib", notice ++ "\n\n" ++ root.file.text⟩]

/-- Artifacts are generated exactly if the units pass all checks and each of them can be generated. -/
theorem exists_generate_ok_iff : (∃ artifacts, generate units = .ok artifacts) ↔
    Validation.check units = .ok () ∧ ∃ known, KnownTypes.build units = .ok known ∧
      (∀ u ∈ units, ∃ a, ofUnit known u = .ok a) ∧
      ∀ u ∈ units, ∃ e, RootModule.entryOf u = .ok e := by
  constructor
  · rintro ⟨artifacts, h⟩
    obtain ⟨known, modules, root, hcheck, hbuild, hmodules, hroot, -⟩ := generate_ok h
    obtain ⟨m, hm, -⟩ := rootArtifact_ok hroot
    exact ⟨hcheck, known, hbuild, exists_mapM_ok_iff.1 ⟨modules, hmodules⟩,
      exists_mapM_ok_iff.1 (exists_map_ok_iff.1 ⟨m, hm⟩)⟩
  · rintro ⟨hcheck, known, hbuild, hunits, hentries⟩
    obtain ⟨modules, hmodules⟩ := exists_mapM_ok_iff.2 hunits
    obtain ⟨entries, hentries⟩ := exists_mapM_ok_iff.2 hentries
    have hroot : root units =
        .ok ⟨fileName "lib", notice ++ "\n\n" ++ (RootModule.mk entries).file.text⟩ := by
      rw [root, RootModule.ofUnits, hentries]
      change ofFile _ (RootModule.mk entries).file = _
      rw [ofFile, RootModule.fault?_file]
      rfl
    rw [generate, hcheck]
    change ∃ artifacts, (KnownTypes.build units >>= fun known => _) = .ok artifacts
    rw [hbuild]
    change ∃ artifacts, (units.mapM (ofUnit known) >>= fun modules => _) = .ok artifacts
    rw [hmodules, hroot]
    exact ⟨_, rfl⟩

theorem arranged_of_generate (hbuild : KnownTypes.build units = .ok known)
    (h : generate units = .ok artifacts) :
    ∃ root, RootModule.ofUnits units = .ok root ∧
      artifacts = arranged units (ofUnitOrEmpty known) root := by
  obtain ⟨known', modules, root, -, hbuild', hmodules, hroot, rfl⟩ := generate_ok h
  obtain rfl : known' = known := Except.ok.inj (hbuild'.symm.trans hbuild)
  obtain ⟨m, hm, rfl⟩ := rootArtifact_ok hroot
  refine ⟨m, hm, ?_⟩
  rw [arranged]
  congr 1
  apply eq_map_of_mapM_ok ?_ hmodules
  intro u hu a ha
  rw [ofUnitOrEmpty, ha]

theorem generate_perm (h : units.Perm units') (hok : ∃ artifacts, generate units = .ok artifacts) :
    ∃ artifacts, generate units' = .ok artifacts := by
  rw [exists_generate_ok_iff] at hok ⊢
  obtain ⟨hcheck, known, hbuild, hunits, hentries⟩ := hok
  exact ⟨Validation.check_perm h hcheck, known, KnownTypes.build_perm h hbuild,
    fun u hu => hunits u (h.symm.subset hu), fun u hu => hentries u (h.symm.subset hu)⟩

/-- Every unit's artifact is what it would be among the same units in another order. -/
theorem arranged_of_perm (h : units.Perm units') {artifacts' : List Artifact}
    (hunits : generate units = .ok artifacts) (hunits' : generate units' = .ok artifacts') :
    ∃ file root root', artifacts = arranged units file root ∧
      artifacts' = arranged units' file root' ∧ (∀ u, (file u).name = fileName u.name) ∧
      SameUpToOrder root.file root'.file := by
  obtain ⟨known, -, -, -, hbuild, -⟩ := generate_ok hunits
  obtain ⟨root, hroot, hartifacts⟩ := arranged_of_generate hbuild hunits
  obtain ⟨root', hroot', hartifacts'⟩ :=
    arranged_of_generate (KnownTypes.build_perm h hbuild) hunits'
  refine ⟨ofUnitOrEmpty known, root, root', hartifacts, hartifacts', name_ofUnitOrEmpty, ?_⟩
  obtain ⟨entries, hentries, rfl⟩ := map_ok_iff.1 hroot
  obtain ⟨entries', hentries', rfl⟩ := map_ok_iff.1 hroot'
  exact RootModule.sameUpToOrder (perm_of_mapM_ok h hentries hentries')

/-! ## Further units -/

theorem agreeOn_append {more : List GenerationUnit} {u : GenerationUnit}
    (hother : ∀ v ∈ more, ∀ t ∈ v.dependsOn, t.name ∉ u.consultedNames) {known' : KnownTypes}
    (hbuild : KnownTypes.build units = .ok known)
    (hbuild' : KnownTypes.build (units ++ more) = .ok known') :
    known.AgreeOn u.consultedNames known' := by
  obtain rfl := (KnownTypes.build_ok_iff.1 hbuild).2
  obtain rfl := (KnownTypes.build_ok_iff.1 hbuild').2
  apply KnownTypes.AgreeOn.of_owner?
  intro name hname
  have hmore : name ∉ (KnownTypes.dependencies more).map Prod.fst := by
    intro hmem
    obtain ⟨e, he, rfl⟩ := List.mem_map.1 hmem
    obtain ⟨v, hv, he⟩ := List.mem_flatMap.1 he
    obtain ⟨t, ht, rfl⟩ := List.mem_map.1 he
    exact hother v hv t ht hname
  change (SortedMap.ofList (KnownTypes.dependencies units)).get? name =
    (SortedMap.ofList (KnownTypes.dependencies (units ++ more))).get? name
  rw [KnownTypes.dependencies, KnownTypes.dependencies, List.flatMap_append]
  exact (SortedMap.get?_ofList_append hmore).symm

/-- Every unit's artifact is what it would be without units that declare none of the names which the
unit asks for. -/
theorem arranged_of_append {more : List GenerationUnit}
    (hother : ∀ u ∈ units, ∀ v ∈ more, ∀ t ∈ v.dependsOn, t.name ∉ u.consultedNames)
    {artifacts' : List Artifact} (hunits : generate units = .ok artifacts)
    (hall : generate (units ++ more) = .ok artifacts') :
    ∃ file root root', artifacts = arranged units file root ∧
      artifacts' = arranged (units ++ more) file root' ∧ ∀ u, (file u).name = fileName u.name := by
  obtain ⟨known, -, -, -, hbuild, -⟩ := generate_ok hunits
  obtain ⟨known', -, -, -, hbuild', -⟩ := generate_ok hall
  obtain ⟨root, -, hartifacts⟩ := arranged_of_generate hbuild hunits
  obtain ⟨root', -, hartifacts'⟩ := arranged_of_generate hbuild' hall
  have hfiles : units.map (ofUnitOrEmpty known) = units.map (ofUnitOrEmpty known') := by
    apply List.map_congr_left
    intro u hu
    rw [ofUnitOrEmpty, ofUnitOrEmpty, ofUnit, ofUnit,
      UnitModule.ofUnit_agree (agreeOn_append (hother u hu) hbuild hbuild')]
  refine ⟨ofUnitOrEmpty known', root, root', ?_, hartifacts', name_ofUnitOrEmpty⟩
  rw [hartifacts, arranged, arranged, hfiles]

/-- Registries with the same answers about the names that a unit asks for give it the same module. So
units in another order succeed together with the same artifact for each of them, and further units
leave the artifacts of those that ask for none of their types as they are. -/
theorem generate_modular :
    (∀ (u : GenerationUnit) (known known' : KnownTypes), known.AgreeOn u.consultedNames known' →
      UnitModule.ofUnit known u = UnitModule.ofUnit known' u) ∧
    (∀ units units' : List GenerationUnit, units.Perm units' →
      ((∃ artifacts, generate units = .ok artifacts) ↔ ∃ artifacts, generate units' = .ok artifacts) ∧
      ∀ artifacts artifacts', generate units = .ok artifacts → generate units' = .ok artifacts' →
        ∃ file root root', artifacts = arranged units file root ∧
          artifacts' = arranged units' file root' ∧ (∀ u, (file u).name = fileName u.name) ∧
          SameUpToOrder root.file root'.file) ∧
    ∀ units more : List GenerationUnit,
      (∀ u ∈ units, ∀ v ∈ more, ∀ t ∈ v.dependsOn, t.name ∉ u.consultedNames) →
      ∀ artifacts artifacts', generate units = .ok artifacts →
        generate (units ++ more) = .ok artifacts' →
        ∃ file root root', artifacts = arranged units file root ∧
          artifacts' = arranged (units ++ more) file root' ∧
          ∀ u, (file u).name = fileName u.name := by
  refine ⟨fun u known known' h => UnitModule.ofUnit_agree h, ?_, ?_⟩
  · intro units units' h
    refine ⟨⟨generate_perm h, generate_perm h.symm⟩, ?_⟩
    intro artifacts artifacts' hunits hunits'
    exact arranged_of_perm h hunits hunits'
  · intro units more hother artifacts artifacts' hunits hall
    exact arranged_of_append hother hunits hall

def strangerUnit : GenerationUnit :=
  let flag : Field := .mk "flag" (.scalar "bool" .bool) "flag"
  let spare : Descriptor := .ofFields "Spare" "native::Spare" [flag]
  ⟨"stranger", [], .ofFields "Stranger" "native::Stranger" [flag, .mk "spare" spare "spare"], [spare]⟩

theorem generate_modular_crossing :
    ∃ artifacts reversed extended file file' root root' root₂ root₂',
      generate crossingUnits = .ok artifacts ∧ generate crossingUnits.reverse = .ok reversed ∧
      generate (crossingUnits ++ [strangerUnit]) = .ok extended ∧
      artifacts = arranged crossingUnits file root ∧
      reversed = arranged crossingUnits.reverse file root' ∧
      SameUpToOrder root.file root'.file ∧
      artifacts = arranged crossingUnits file' root₂ ∧
      extended = arranged (crossingUnits ++ [strangerUnit]) file' root₂' ∧
      ∀ u ∈ crossingUnits,
        UnitModule.ofUnit ⟨.ofList [("LeftLink", "left"), ("RightLink", "right")]⟩ u =
          UnitModule.ofUnit
            ⟨.ofList [("LeftLink", "left"), ("RightLink", "right"), ("Spare", "stranger")]⟩ u := by
  obtain ⟨artifacts, h⟩ : ∃ artifacts, generate crossingUnits = .ok artifacts :=
    exists_of_isOk (by decide +kernel)
  obtain ⟨extended, hextended⟩ :
      ∃ artifacts, generate (crossingUnits ++ [strangerUnit]) = .ok artifacts :=
    exists_of_isOk (by decide +kernel)
  have hperm : crossingUnits.Perm crossingUnits.reverse := (List.reverse_perm _).symm
  obtain ⟨reversed, hreversed⟩ := (generate_modular.2.1 _ _ hperm).1.1 ⟨artifacts, h⟩
  obtain ⟨file, root, root', hartifacts, hreversed', -, hroots⟩ :=
    (generate_modular.2.1 _ _ hperm).2 _ _ h hreversed
  have hother : ∀ u ∈ crossingUnits, ∀ v ∈ [strangerUnit], ∀ t ∈ v.dependsOn,
      t.name ∉ u.consultedNames := by
    have hspare : ∀ u ∈ crossingUnits, "Spare" ∉ u.consultedNames := by
      simp only [crossingUnits, List.forall_mem_cons]
      decide +kernel
    intro u hu v hv t ht
    obtain rfl := List.mem_singleton.1 hv
    obtain rfl := List.mem_singleton.1 ht
    exact hspare u hu
  obtain ⟨file', root₂, root₂', hartifacts', hextended', -⟩ :=
    generate_modular.2.2 _ _ hother _ _ h hextended
  refine ⟨artifacts, reversed, extended, file, file', root, root', root₂, root₂', h, hreversed,
    hextended, hartifacts, hreversed', hroots, hartifacts', hextended', ?_⟩
  have hanswers : ∀ u ∈ crossingUnits, ∀ name ∈ u.consultedNames,
      KnownTypes.owner? ⟨.ofList [("LeftLink", "left"), ("RightLink", "right")]⟩ name =
        KnownTypes.owner?
          ⟨.ofList [("LeftLink", "left"), ("RightLink", "right"), ("Spare", "stranger")]⟩ name := by
    simp only [crossingUnits, List.forall_mem_cons]
    decide +kernel
  intro u hu
  exact generate_modular.1 u _ _ (.of_owner? (hanswers u hu))

end Artifact

end AttributeSchema
