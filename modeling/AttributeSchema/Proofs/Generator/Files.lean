import AttributeSchema.Generator.Write
import AttributeSchema.Proofs.Files.PathText
import AttributeSchema.Proofs.Generator.Crate
/-!
# Files and modules

A file is named by the text of its unit's name, and a module by the identifier that is read from this text.
So files and modules correspond to each other exactly if every name is the identifier that is read from it:
blanks and comments around an identifier are kept in the name of the file only, and names that differ in
them alone lead to one module.
-/

namespace AttributeSchema

open Source (File)
open Source.Parser (ident?)
open UnitModule (IsExact)

/-! ## Names of files -/

theorem ne_nil_of_ident? {text word : String} (h : ident? text = some word) : word.toList ≠ [] := by
  obtain ⟨c, rest, hword, -⟩ := (Source.isWord_of_ident? h).startsIdentifier
  rw [hword]
  exact List.cons_ne_nil c rest

theorem slash_not_mem_of_ident? {text word : String} (h : ident? text = some word) :
    '/' ∉ word.toList := by
  rcases Source.isWord_of_ident? h with hplain | ⟨rest, hword, hplain⟩
  · exact Source.Lexer.not_mem_of_isPlainWord hplain (by decide) (by decide)
  · rw [hword]
    have hrest := Source.Lexer.not_mem_of_isPlainWord hplain (d := '/') (by decide) (by decide)
    simpa using hrest

namespace Artifact

theorem toList_fileName (module : String) :
    (fileName module).toList = module.toList ++ ['.', 'r', 's'] := by
  rw [fileName, String.toList_append]
  rfl

theorem fileName_injective : Function.Injective fileName := by
  intro a b h
  have hlist := congrArg String.toList h
  rw [toList_fileName, toList_fileName] at hlist
  exact String.toList_inj.1 (List.append_cancel_right hlist)

theorem slash_not_mem_fileName {module : String} (h : '/' ∉ module.toList) :
    '/' ∉ (fileName module).toList := by
  rw [toList_fileName]
  simpa using h

/-- A file whose name has no slash stands in the directory that it is written into. -/
theorem leadsTo_pathIn {a : Artifact} {module : String} (hname : a.name = fileName module)
    (hslash : '/' ∉ module.toList) (directory : String) :
    PathText.LeadsTo (a.pathIn directory).toList (PathText.baseParts directory.toList)
      a.name.toList := by
  constructor
  · rw [pathIn, String.toList_ofList, hname]
    exact PathText.split_join (slash_not_mem_fileName hslash) directory.toList
  · apply PathText.isName_of_length
    rw [hname, toList_fileName, List.length_append]
    change 2 < module.toList.length + 3
    omega

end Artifact

/-- The files are named after different modules. -/
structure HaveModules (artifacts : List Artifact) : Prop where
  nodup_names : (artifacts.map Artifact.name).Nodup
  exists_module : ∀ a ∈ artifacts, ∃ module, a.name = Artifact.fileName module ∧
    module.toList ≠ [] ∧ '/' ∉ module.toList

/-! ## The correspondence -/

/-- Each module that is declared has one file, which is named after it and stands in the directory that is
written into, and so has the file above them. -/
structure IsOneToOne (artifacts : List Artifact) (root : File) : Prop where
  names_eq : artifacts.map Artifact.name = (root.modules ++ ["lib"]).map Artifact.fileName
  nodup_modules : root.modules.Nodup
  lib_not_mem_modules : "lib" ∉ root.modules
  nodup_names : (artifacts.map Artifact.name).Nodup
  existsUnique_of_mem : ∀ module ∈ root.modules,
    ∃! a, a ∈ artifacts ∧ a.name = Artifact.fileName module
  slash_not_mem_name : ∀ a ∈ artifacts, '/' ∉ a.name.toList
  leadsTo_pathIn : ∀ directory : String, ∀ a ∈ artifacts,
    PathText.LeadsTo (a.pathIn directory).toList (PathText.baseParts directory.toList) a.name.toList

section

variable {units : List GenerationUnit} {artifacts : List Artifact}

/-- The modules above all units are the identifiers that are read from their names. -/
theorem modules_ofUnits {m : RootModule} (h : RootModule.ofUnits units = .ok m) :
    List.Forall₂ (fun u module => ident? u.name = some module) units m.file.modules := by
  rw [RootModule.ofUnits] at h
  obtain ⟨entries, hentries, rfl⟩ := map_ok_iff.1 h
  rw [RootModule.modules_file, List.forall₂_map_right_iff]
  refine (mapM_ok_iff.1 hentries).imp fun u e he => ?_
  rw [RootModule.entryOf] at he
  obtain ⟨module, hmodule, he⟩ := bind_ok_iff.1 he
  obtain ⟨function, -, he⟩ := bind_ok_iff.1 he
  obtain rfl := Except.ok.inj he
  exact identifier_ok hmodule

theorem names_of_generate (h : Artifact.generate units = .ok artifacts) :
    artifacts.map Artifact.name =
      (units.map GenerationUnit.name ++ ["lib"]).map Artifact.fileName := by
  obtain ⟨known, modules, root, -, -, hmodules, hroot, rfl⟩ := generate_ok h
  obtain ⟨m, -, rfl⟩ := rootArtifact_ok hroot
  rw [List.map_append, List.map_append]
  congr 1
  have hsteps := mapM_ok_iff.1 hmodules
  clear hmodules hroot h
  induction hsteps with
  | nil => rfl
  | cons hstep hmore ih =>
      obtain ⟨m, -, rfl⟩ := ofUnitArtifact_ok hstep
      rw [List.map_cons, List.map_cons, List.map_cons, ih]

theorem haveModules_of_isExact (h : Artifact.generate units = .ok artifacts)
    (hexact : ∀ u ∈ units, IsExact u.name) : HaveModules artifacts := by
  obtain ⟨known, modules, rootArtifact, hcheck, -⟩ := generate_ok h
  have hnames := names_of_generate h
  constructor
  case nodup_names =>
    have hunits := Validation.nodup_of_check hcheck
    have hlib : "lib" ∉ units.map GenerationUnit.name :=
      Validation.reservedName_not_mem_of_check hcheck
    rw [hnames]
    apply List.Nodup.map Artifact.fileName_injective
    exact List.nodup_append'.2 ⟨hunits, List.nodup_singleton _, by simpa using hlib⟩
  case exists_module =>
    intro a ha
    have hname := List.mem_map_of_mem (f := Artifact.name) ha
    rw [hnames] at hname
    obtain ⟨module, hmodule, hfile⟩ := List.mem_map.1 hname
    refine ⟨module, hfile.symm, ?_⟩
    rcases List.mem_append.1 hmodule with hmodule | hmodule
    · obtain ⟨u, hu, rfl⟩ := List.mem_map.1 hmodule
      exact ⟨ne_nil_of_ident? (hexact u hu), slash_not_mem_of_ident? (hexact u hu)⟩
    · rw [List.mem_singleton.1 hmodule]
      decide

/-- Files and modules of units whose names are identifiers as they are spelled correspond. -/
theorem isOneToOne_of_isExact (h : Artifact.generate units = .ok artifacts) {root : File}
    (hmodules : root.modules = units.map GenerationUnit.name)
    (hexact : ∀ u ∈ units, IsExact u.name) : IsOneToOne artifacts root := by
  obtain ⟨known, modules, rootArtifact, hcheck, -⟩ := generate_ok h
  obtain ⟨hnodup, hfile⟩ := haveModules_of_isExact h hexact
  have hnames := names_of_generate h
  constructor
  case names_eq => rw [hnames, hmodules]
  case nodup_modules =>
    rw [hmodules]
    exact Validation.nodup_of_check hcheck
  case lib_not_mem_modules =>
    rw [hmodules]
    exact Validation.reservedName_not_mem_of_check hcheck
  case nodup_names => exact hnodup
  case existsUnique_of_mem =>
    intro module hmodule
    rw [hmodules] at hmodule
    obtain ⟨u, hu, rfl⟩ := List.mem_map.1 hmodule
    have hmem : Artifact.fileName u.name ∈ artifacts.map Artifact.name := by
      rw [hnames]
      exact List.mem_map_of_mem (List.mem_append_left _ (List.mem_map_of_mem hu))
    obtain ⟨a, ha, hname⟩ := List.mem_map.1 hmem
    refine ⟨a, ⟨ha, hname⟩, ?_⟩
    rintro b ⟨hb, hname'⟩
    exact List.inj_on_of_nodup_map hnodup hb ha (hname'.trans hname.symm)
  case slash_not_mem_name =>
    intro a ha
    obtain ⟨module, hname, -, hslash⟩ := hfile a ha
    rw [hname]
    exact Artifact.slash_not_mem_fileName hslash
  case leadsTo_pathIn =>
    intro directory a ha
    obtain ⟨module, hname, -, hslash⟩ := hfile a ha
    exact Artifact.leadsTo_pathIn hname hslash directory

/-- The modules above all units are those that their files are named after, if every name is the identifier
that is read from it, and only then. -/
theorem modules_eq_iff {modules : List String}
    (h : List.Forall₂ (fun u module => ident? u.name = some module) units modules) :
    modules = units.map GenerationUnit.name ↔ ∀ u ∈ units, IsExact u.name := by
  induction h with
  | nil => simp
  | @cons u module units modules hread hmore ih =>
      rw [List.map_cons, List.cons.injEq, List.forall_mem_cons, ih, IsExact, hread,
        Option.some.injEq]

/-- Files and modules correspond exactly if the name of every unit is the identifier that is read from
it. -/
theorem isOneToOne_iff (h : Artifact.generate units = .ok artifacts) :
    ∃ root, (RootModule.ofUnits units).map RootModule.file = .ok root ∧
      artifacts.getLast? = some ⟨"lib.rs", Artifact.notice ++ "\n\n" ++ root.text⟩ ∧
      List.Forall₂ (fun u module => ident? u.name = some module) units root.modules ∧
      (IsOneToOne artifacts root ↔ ∀ u ∈ units, ident? u.name = some u.name) := by
  obtain ⟨known, files, rootArtifact, -, -, -, hrootArtifact, hartifacts⟩ := generate_ok h
  obtain ⟨root, hroot, rfl⟩ := rootArtifact_ok hrootArtifact
  have hread := modules_ofUnits hroot
  refine ⟨root.file, by rw [hroot]; rfl, ?_, hread, ?_⟩
  · rw [hartifacts, List.getLast?_concat]
    rfl
  · constructor
    · intro hone
      have hnames := names_of_generate h
      rw [hone.names_eq] at hnames
      have hmodules := List.map_injective_iff.2 Artifact.fileName_injective hnames
      exact (modules_eq_iff hread).1 (List.append_cancel_right hmodules)
    · intro hexact
      exact isOneToOne_of_isExact h ((modules_eq_iff hread).2 hexact) hexact

end

theorem isOneToOne_iff_crossing :
    ∃ artifacts root, Artifact.generate crossingUnits = .ok artifacts ∧
      (RootModule.ofUnits crossingUnits).map RootModule.file = .ok root ∧
      IsOneToOne artifacts root := by
  obtain ⟨artifacts, h⟩ : ∃ artifacts, Artifact.generate crossingUnits = .ok artifacts :=
    exists_of_isOk (by decide +kernel)
  obtain ⟨root, hroot, -, -, hiff⟩ := isOneToOne_iff h
  have hexact : ∀ u ∈ crossingUnits, ident? u.name = some u.name := by
    simp only [crossingUnits, List.forall_mem_cons]
    decide +kernel
  exact ⟨artifacts, root, h, hroot, hiff.2 hexact⟩

/-- Units whose names differ in what stands around an identifier. -/
def strayUnits : List GenerationUnit :=
  let type (name : String) : Descriptor :=
    .ofFields name ("native::" ++ name) [.mk "flag" (.scalar "bool" .bool) "flag"]
  [⟨"left", [], type "Left", []⟩, ⟨" left", [], type "Right", []⟩, ⟨"/**/lib", [], type "Other", []⟩]

/-- A blank in front of a name leads to another file of the same module. A comment leads to a file outside
the directory that is written into, and to a module of the name that is reserved. -/
theorem stray_not_isOneToOne :
    ∃ artifacts root, Artifact.generate strayUnits = .ok artifacts ∧
      (RootModule.ofUnits strayUnits).map RootModule.file = .ok root ∧
      artifacts.map Artifact.name = ["left.rs", " left.rs", "/**/lib.rs", "lib.rs"] ∧
      root.modules = ["left", "left", "lib"] ∧
      artifacts.map (Artifact.pathIn "out") =
        ["out/left.rs", "out/ left.rs", "/**/lib.rs", "out/lib.rs"] ∧
      ¬ IsOneToOne artifacts root := by
  obtain ⟨artifacts, h⟩ : ∃ artifacts, Artifact.generate strayUnits = .ok artifacts :=
    exists_of_isOk (by decide +kernel)
  have hnames : artifacts.map Artifact.name = ["left.rs", " left.rs", "/**/lib.rs", "lib.rs"] := by
    rw [names_of_generate h]
    decide +kernel
  have hpaths : artifacts.map (Artifact.pathIn "out") =
      ["left.rs", " left.rs", "/**/lib.rs", "lib.rs"].map fun name =>
        String.ofList (PathText.join "out".toList name.toList) := by
    rw [← hnames, List.map_map]
    rfl
  obtain ⟨root, hroot⟩ : ∃ root, RootModule.ofUnits strayUnits = .ok root :=
    exists_of_isOk (by decide +kernel)
  have hmodules : root.file.modules = ["left", "left", "lib"] := by
    have hall : (RootModule.ofUnits strayUnits).map (fun m => m.file.modules) =
        .ok ["left", "left", "lib"] := by
      decide +kernel
    rw [hroot] at hall
    exact Except.ok.inj hall
  refine ⟨artifacts, root.file, h, by rw [hroot]; rfl, hnames, hmodules, ?_, ?_⟩
  · rw [hpaths]
    decide +kernel
  · intro hone
    have hnodup := hone.nodup_modules
    rw [hmodules] at hnodup
    exact absurd hnodup (by decide)

end AttributeSchema
