import AttributeSchema.Proofs.Generator.Files
import AttributeSchema.Proofs.Generator.Replacement
/-!
# What a generation leaves behind

Every file is written beside its place and then moved there. The places of files and those that they are
written at first are all different, so a file that cannot be written disturbs no other one.
-/

namespace AttributeSchema

open PathText (LeadsTo AreSiblings split)
open FileTree (Alters StandsAt IsKept)
open Source.Parser (ident?)
open Text (Utf8.encode)

namespace Artifact

variable {files files' : FileTree} {directory : String} {artifacts : List Artifact} {a b : Artifact}

/-! ## Places -/

def temporaryIn (directory : String) (a : Artifact) : String := temporaryPath (a.pathIn directory)

def places (directory : String) (a : Artifact) : List (List Char) :=
  [(a.temporaryIn directory).toList, (a.pathIn directory).toList]

theorem splitExtension_fileName {module : String} (hne : module.toList ≠ []) :
    PathText.splitExtension (fileName module).toList = (module.toList, some ['r', 's']) := by
  rw [toList_fileName]
  exact PathText.splitExtension_append hne (by decide)

section

variable (hmodules : HaveModules artifacts) (directory : String)

include hmodules

theorem leadsTo_pathIn_of_mem (ha : a ∈ artifacts) :
    LeadsTo (a.pathIn directory).toList (PathText.baseParts directory.toList) a.name.toList := by
  obtain ⟨module, hname, -, hslash⟩ := hmodules.exists_module a ha
  exact leadsTo_pathIn hname hslash directory

theorem leadsTo_temporaryIn_of_mem (ha : a ∈ artifacts) :
    LeadsTo (a.temporaryIn directory).toList (PathText.baseParts directory.toList)
      (a.name.toList ++ ['.', 't', 'm', 'p']) := by
  obtain ⟨module, hname, hne, hslash⟩ := hmodules.exists_module a ha
  have htemporary := leadsTo_temporaryPath (leadsTo_pathIn hname hslash directory).endsIn
  rw [hname, splitExtension_fileName hne] at htemporary
  rw [hname, toList_fileName, List.append_assoc]
  exact htemporary

theorem siblings_pathIn (ha : a ∈ artifacts) (hb : b ∈ artifacts) (hne : a.name ≠ b.name) :
    AreSiblings (a.pathIn directory).toList (b.pathIn directory).toList :=
  ⟨_, _, _, leadsTo_pathIn_of_mem hmodules directory ha, leadsTo_pathIn_of_mem hmodules directory hb,
    fun heq => hne (String.toList_inj.1 heq)⟩

theorem siblings_temporaryIn (ha : a ∈ artifacts) (hb : b ∈ artifacts) (hne : a.name ≠ b.name) :
    AreSiblings (a.temporaryIn directory).toList (b.temporaryIn directory).toList :=
  ⟨_, _, _, leadsTo_temporaryIn_of_mem hmodules directory ha,
    leadsTo_temporaryIn_of_mem hmodules directory hb,
    fun heq => hne (String.toList_inj.1 (List.append_cancel_right heq))⟩

theorem siblings_temporaryIn_pathIn (ha : a ∈ artifacts) (hb : b ∈ artifacts) :
    AreSiblings (a.temporaryIn directory).toList (b.pathIn directory).toList := by
  refine ⟨_, _, _, leadsTo_temporaryIn_of_mem hmodules directory ha,
    leadsTo_pathIn_of_mem hmodules directory hb, fun heq => ?_⟩
  obtain ⟨module, hname, -⟩ := hmodules.exists_module b hb
  -- The one ends in another letter than the other.
  have hlast := congrArg List.getLast? heq
  rw [hname, toList_fileName] at hlast
  simp at hlast

theorem siblings_of_mem_places (ha : a ∈ artifacts) (hb : b ∈ artifacts) (hne : a.name ≠ b.name)
    {path other : List Char} (hpath : path ∈ a.places directory) (hother : other ∈ b.places directory) :
    AreSiblings path other := by
  rw [places, List.mem_pair] at hpath hother
  rcases hpath with hpath | hpath <;> rcases hother with hother | hother <;> rw [hpath, hother]
  · exact siblings_temporaryIn hmodules directory ha hb hne
  · exact siblings_temporaryIn_pathIn hmodules directory ha hb
  · exact (siblings_temporaryIn_pathIn hmodules directory hb ha).symm
  · exact siblings_pathIn hmodules directory ha hb hne

end

/-- The file of an artifact is there, and nothing is left where it was written first. -/
structure IsWritten (files : FileTree) (directory : String) (a : Artifact) : Prop where
  pathIn : files.StandsAt (a.pathIn directory).toList (some (.file (Utf8.encode a.content.toList)))
  temporaryIn : files.StandsAt (a.temporaryIn directory).toList none

theorem isWritten_of_alters (hmodules : HaveModules artifacts) {paths : List (List Char)}
    (h : IsWritten files directory a) (ha : a ∈ artifacts) (halters : Alters [] paths files files')
    (hpaths : ∀ path ∈ paths, ∃ b ∈ artifacts, a.name ≠ b.name ∧ path ∈ b.places directory) :
    IsWritten files' directory a := by
  have hsiblings {place : List Char} (hplace : place ∈ a.places directory) :
      ∀ path ∈ paths, AreSiblings place path := by
    intro path hpath
    obtain ⟨b, hb, hne, hother⟩ := hpaths path hpath
    exact siblings_of_mem_places hmodules directory ha hb hne hplace hother
  exact ⟨h.pathIn.of_alters halters (hsiblings (List.mem_cons_of_mem _ List.mem_cons_self)),
    h.temporaryIn.of_alters halters (hsiblings List.mem_cons_self)⟩

/-! ## Directories -/

def allAbove (directory : String) (artifacts : List Artifact) : List (List Char) :=
  artifacts.flatMap fun a => above (a.pathIn directory)

/-! ## All files -/

def IsPrepared (directory : String) (artifacts : List Artifact) (files : FileTree) : Prop :=
  ∀ a ∈ artifacts, ∀ files', files.KeepsDirectories files' →
    prepare files' (a.pathIn directory) = (files', .ok ())

/-- Writing artifacts ends with all of them written, or it fails at one of them. By then those before it
have been written, and of its own places only the temporary one may have changed. -/
inductive Ends (directory : String) (made : List (List Char)) (files : FileTree)
    (artifacts : List Artifact) : FileTree × Except GeneratorError Unit → Prop
  | complete {files' : FileTree} (halters : Alters made (artifacts.flatMap (places directory)) files files')
      (hwritten : ∀ a ∈ artifacts, IsWritten files' directory a) :
      Ends directory made files artifacts (files', .ok ())
  | failed {files' : FileTree} {e : GeneratorError} {done : List Artifact} {a : Artifact}
      {rest : List Artifact} (hsplit : artifacts = done ++ a :: rest)
      (hdone : (writeAll files directory done).2 = .ok ())
      (hfails : writeAll files directory (done ++ [a]) = (files', .error e))
      (halters : Alters made (done.flatMap (places directory) ++ [(a.temporaryIn directory).toList])
        files files')
      (hwritten : ∀ b ∈ done, IsWritten files' directory b) :
      Ends directory made files artifacts (files', .error e)

theorem writeAll_cons_ok {files' : FileTree} (rest : List Artifact)
    (h : writeContent files (a.pathIn directory) a.content = (files', .ok ())) :
    writeAll files directory (a :: rest) = writeAll files' directory rest := by
  -- Only the recursion is unfolded, and nothing of how a file is written.
  delta writeAll writeAll._f
  dsimp only
  rw [h]

theorem writeAll_cons_error {files' : FileTree} {e : GeneratorError} (rest : List Artifact)
    (h : writeContent files (a.pathIn directory) a.content = (files', .error e)) :
    writeAll files directory (a :: rest) = (files', .error e) := by
  delta writeAll writeAll._f
  dsimp only
  rw [h]

/-- Where the directories are there, only files are written. -/
theorem ends_of_isPrepared (hmodules : HaveModules artifacts) {left : List Artifact}
    (hleft : left.Sublist artifacts) (hprepared : IsPrepared directory left files) :
    Ends directory [] files left (writeAll files directory left) := by
  induction left generalizing files with
  | nil => exact .complete (.refl _ _ files) fun a ha => absurd ha List.not_mem_nil
  | cons a rest ih =>
      obtain ⟨hprepare, hrest⟩ := List.forall_mem_cons.1 hprepared
      have ha : a ∈ artifacts := hleft.subset List.mem_cons_self
      have hmore : rest.Sublist artifacts := (List.sublist_cons_self a rest).trans hleft
      have hnew : ∀ b ∈ rest, a.name ≠ b.name := by
        have hnodup := hmodules.nodup_names.sublist (hleft.map Artifact.name)
        rw [List.map_cons, List.nodup_cons] at hnodup
        exact fun b hb heq => hnodup.1 (heq ▸ List.mem_map_of_mem hb)
      have hreplace : writeContent files (a.pathIn directory) a.content =
          replace files (a.pathIn directory) a.content := by
        rw [writeContent, hprepare files (.refl files)]
      rcases replace_cases files (a.pathIn directory) a.content with
        ⟨files₁, hok, halters, hfile, hnone⟩ | ⟨files₁, e, hfails, halters, -⟩
      · rw [← hreplace] at hok
        rw [writeAll_cons_ok rest hok]
        have hkeeps := halters.keepsDirectories
        -- What is written for the other artifacts stands beside the places of this one.
        have hstays {paths : List (List Char)} {files₂ : FileTree} (hothers : Alters [] paths files₁ files₂)
            (hpaths : ∀ path ∈ paths, ∃ b ∈ rest, path ∈ b.places directory) :
            IsWritten files₂ directory a := by
          refine isWritten_of_alters hmodules ⟨hfile, hnone⟩ ha hothers fun path hpath => ?_
          obtain ⟨b, hb, hplace⟩ := hpaths path hpath
          exact ⟨b, hmore.subset hb, hnew b hb, hplace⟩
        have hends := ih hmore fun b hb files₂ hkept => hrest b hb files₂ (hkeeps.trans hkept)
        generalize hresult : writeAll files₁ directory rest = result at hends
        cases hends with
        | complete hothers hwritten =>
            refine .complete (halters.trans hothers) (List.forall_mem_cons.2 ⟨?_, hwritten⟩)
            exact hstays hothers fun path hpath => List.mem_flatMap.1 hpath
        | @failed files' e done b more hsplit hdone hfails hothers hwritten =>
            subst hsplit
            have hfront : a :: (done ++ b :: more) = (a :: done) ++ b :: more := rfl
            refine .failed hfront ?_ ?_ ?_ (List.forall_mem_cons.2 ⟨?_, hwritten⟩)
            · rw [writeAll_cons_ok done hok, hdone]
            · rw [List.cons_append, writeAll_cons_ok _ hok, hfails]
            · exact halters.trans hothers
            · refine hstays hothers fun path hpath => ?_
              rcases List.mem_append.1 hpath with hpath | hpath
              · obtain ⟨c, hc, hplace⟩ := List.mem_flatMap.1 hpath
                exact ⟨c, List.mem_append_left _ hc, hplace⟩
              · rw [List.mem_singleton] at hpath
                exact ⟨b, List.mem_append_right _ List.mem_cons_self, hpath ▸ List.mem_cons_self⟩
      · rw [← hreplace] at hfails
        rw [writeAll_cons_error rest hfails]
        have hfront : a :: rest = [] ++ a :: rest := rfl
        exact .failed hfront rfl (writeAll_cons_error [] hfails) halters
          fun b hb => absurd hb List.not_mem_nil

/-- On any tree only the directories above the files are made besides. -/
theorem ends_writeAll (hmodules : HaveModules artifacts) (files : FileTree) (directory : String) :
    Ends directory (allAbove directory artifacts) files artifacts
      (writeAll files directory artifacts) := by
  cases artifacts with
  | nil => exact .complete (.refl _ _ files) fun a ha => absurd ha List.not_mem_nil
  | cons a rest =>
      have habove : Alters (allAbove directory (a :: rest)) [] files
          (prepare files (a.pathIn directory)).1 :=
        (alters_prepare files (a.pathIn directory)).mono
          (List.subset_append_left _ _) (List.Subset.refl _)
      cases hprepare : prepare files (a.pathIn directory) with
      | mk files₁ result =>
          rw [hprepare] at habove
          cases result with
          | error e =>
              have hfails : writeContent files (a.pathIn directory) a.content = (files₁, .error e) := by
                rw [writeContent, hprepare]
              have hfront : a :: rest = [] ++ a :: rest := rfl
              rw [writeAll_cons_error rest hfails]
              exact .failed hfront rfl (writeAll_cons_error [] hfails)
                (habove.mono (List.Subset.refl _) (List.nil_subset _))
                fun b hb => absurd hb List.not_mem_nil
          | ok u =>
              have hprepared : IsPrepared directory (a :: rest) files₁ := by
                intro b hb files₂ hkeeps
                have hparent := PathText.parent?_eq (leadsTo_pathIn_of_mem hmodules directory hb)
                  (leadsTo_pathIn_of_mem hmodules directory List.mem_cons_self)
                exact prepare_again hparent hprepare hkeeps
              -- The directories that the first file needs are the same whether they are there or not.
              have hagain : writeContent files (a.pathIn directory) a.content =
                  writeContent files₁ (a.pathIn directory) a.content := by
                rw [writeContent, writeContent, hprepare,
                  hprepared a List.mem_cons_self files₁ (.refl files₁)]
              have hstart (more : List Artifact) :
                  writeAll files directory (a :: more) = writeAll files₁ directory (a :: more) := by
                cases hfirst : writeContent files₁ (a.pathIn directory) a.content with
                | mk files₂ result =>
                    cases result with
                    | error e =>
                        rw [writeAll_cons_error more (hagain.trans hfirst),
                          writeAll_cons_error more hfirst]
                    | ok u =>
                        rw [writeAll_cons_ok more (hagain.trans hfirst), writeAll_cons_ok more hfirst]
              have hmore {paths : List (List Char)} {after : FileTree} (h : Alters [] paths files₁ after) :
                  Alters (allAbove directory (a :: rest)) paths files after :=
                (habove.trans h).mono (by simp) (List.Subset.refl _)
              have hends := ends_of_isPrepared hmodules (List.Sublist.refl _) hprepared
              rw [hstart]
              generalize writeAll files₁ directory (a :: rest) = result at hends
              cases hends with
              | complete halters hwritten =>
                  exact .complete (hmore halters) hwritten
              | @failed files' e done b more hsplit hdone hfails halters hwritten =>
                  -- Unless nothing was done, what was done starts with the first file too.
                  cases done with
                  | nil =>
                      obtain ⟨rfl, rfl⟩ := List.cons.inj hsplit
                      exact .failed hsplit rfl ((hstart []).trans hfails) (hmore halters) hwritten
                  | cons c done =>
                      obtain ⟨rfl, -⟩ := List.cons.inj hsplit
                      exact .failed hsplit (by rw [hstart, hdone]) ((hstart _).trans hfails)
                        (hmore halters) hwritten

/-- The place of an artifact that comes after others is not among what is written for these. -/
theorem isKept_of_alters {made : List (List Char)} {done rest : List Artifact}
    (hmodules : HaveModules (done ++ a :: rest))
    (halters : Alters made (done.flatMap (places directory) ++ [(a.temporaryIn directory).toList])
      files files')
    (hb : b ∈ a :: rest) {l : Location} (hl : files'.locate (b.pathIn directory).toList = .ok l) :
    IsKept made files files' l := by
  have hmem : b ∈ done ++ a :: rest := List.mem_append_right _ hb
  refine halters.isKept l fun path hpath => FileTree.locate_ne_of_areSiblings ?_ hl
  rcases List.mem_append.1 hpath with hpath | hpath
  · obtain ⟨c, hc, hplace⟩ := List.mem_flatMap.1 hpath
    have hne : b.name ≠ c.name := by
      have hnodup := hmodules.nodup_names
      rw [List.map_append] at hnodup
      intro heq
      exact List.disjoint_of_nodup_append hnodup (heq ▸ List.mem_map_of_mem hc)
        (List.mem_map_of_mem hb)
    exact siblings_of_mem_places hmodules directory hmem (List.mem_append_left _ hc) hne
      (List.mem_cons_of_mem _ List.mem_cons_self) hplace
  · rw [List.mem_singleton.1 hpath]
    have ha : a ∈ done ++ a :: rest := List.mem_append_right _ List.mem_cons_self
    exact (siblings_temporaryIn_pathIn hmodules directory ha hmem).symm

/-! ## Generations -/

/-- A generation that fails or is printed leaves the files as they are. Another one writes each file and
leaves nothing beside it, or it fails at one file. Then the files before it have been written, it and those
after it are as they were, and so is everything else but what stands beside a file that was begun. -/
theorem generateInto_effects {units : List GenerationUnit}
    (hexact : ∀ u ∈ units, ident? u.name = some u.name) (files : FileTree) (directory : String) :
    (∀ e isPrinted, generate units = .error e →
      generateInto files units directory isPrinted = ⟨.error e, "", files⟩) ∧
    (generateInto files units directory true).files = files ∧
    ∀ artifacts, generate units = .ok artifacts →
      (∃ after, generateInto files units directory false = ⟨.ok artifacts, "", after⟩ ∧
        Alters (allAbove directory artifacts) (artifacts.flatMap (places directory)) files after ∧
        ∀ a ∈ artifacts,
          after.read (a.pathIn directory).toList = .ok (Utf8.encode a.content.toList) ∧
          after.find (a.temporaryIn directory).toList = .error .notFound) ∨
      ∃ done a rest after e, artifacts = done ++ a :: rest ∧
        (writeAll files directory done).2 = .ok () ∧
        writeAll files directory (done ++ [a]) = (after, .error e) ∧
        generateInto files units directory false = ⟨.error e, "", after⟩ ∧
        Alters (allAbove directory artifacts)
          (done.flatMap (places directory) ++ [(a.temporaryIn directory).toList]) files after ∧
        (∀ b ∈ done,
          after.read (b.pathIn directory).toList = .ok (Utf8.encode b.content.toList) ∧
          after.find (b.temporaryIn directory).toList = .error .notFound) ∧
        ∀ b ∈ a :: rest, ∀ l, after.locate (b.pathIn directory).toList = .ok l →
          IsKept (allAbove directory artifacts) files after l := by
  refine ⟨?fails, ?printed, ?written⟩
  case fails =>
    intro e isPrinted hgenerate
    rw [generateInto, hgenerate]
  case printed =>
    rw [generateInto]
    cases generate units with
    | error e => rfl
    | ok artifacts => rfl
  case written =>
    intro artifacts hgenerate
    have hmodules := haveModules_of_isExact hgenerate hexact
    have houtcome : generateInto files units directory false =
        ⟨(writeAll files directory artifacts).2.map fun _ => artifacts, "",
          (writeAll files directory artifacts).1⟩ := by
      rw [generateInto, hgenerate]
      rfl
    have hends := ends_writeAll hmodules files directory
    rw [houtcome]
    generalize writeAll files directory artifacts = ended at hends
    cases hends with
    | @complete after halters hwritten =>
        refine .inl ⟨after, rfl, halters, fun a ha => ?_⟩
        exact ⟨(hwritten a ha).pathIn.read_eq, (hwritten a ha).temporaryIn.find_eq⟩
    | @failed after e done a rest hsplit hdone hfails halters hwritten =>
        refine .inr ⟨done, a, rest, after, e, hsplit, hdone, hfails, rfl, halters, ?_, ?_⟩
        · intro b hb
          exact ⟨(hwritten b hb).pathIn.read_eq, (hwritten b hb).temporaryIn.find_eq⟩
        · intro b hb l hl
          exact isKept_of_alters (hsplit ▸ hmodules) halters hb hl

def obstructed : FileTree where
  entries := [(["out"], .directory), (["out", "right.rs"], .directory)]
  workingDirectory := []

theorem generateInto_effects_obstructed :
    (∀ u ∈ crossingUnits, ident? u.name = some u.name) ∧
    ∃ done a rest after, generate crossingUnits = .ok (done ++ a :: rest) ∧
      generateInto obstructed crossingUnits "out" false =
        ⟨.error (.write "out/right.rs" "Is a directory (os error 21)"), "", after⟩ ∧
      (∀ b ∈ done, after.read (b.pathIn "out").toList = .ok (Utf8.encode b.content.toList)) ∧
      after.isDirectory "out/right.rs".toList = true := by
  have hexact : ∀ u ∈ crossingUnits, ident? u.name = some u.name := by
    simp only [crossingUnits, List.forall_mem_cons]
    decide +kernel
  obtain ⟨artifacts, hgenerate⟩ : ∃ artifacts, generate crossingUnits = .ok artifacts :=
    exists_of_isOk (by decide +kernel)
  have hresult : (generateInto obstructed crossingUnits "out" false).result.map (fun _ => ()) =
      .error (.write "out/right.rs" "Is a directory (os error 21)") := by
    decide +kernel
  have hdirectory : obstructed.isDirectory "out/right.rs".toList = true := by decide +kernel
  obtain ⟨-, -, hwritten⟩ := generateInto_effects hexact obstructed "out"
  rcases hwritten artifacts hgenerate with ⟨after, houtcome, -⟩ |
    ⟨done, a, rest, after, e, rfl, -, -, houtcome, halters, hbefore, -⟩
  · rw [houtcome] at hresult
    exact absurd hresult (by simp [Except.map])
  · rw [houtcome] at hresult
    obtain rfl := Except.error.inj hresult
    exact ⟨hexact, done, a, rest, after, hgenerate, houtcome, fun b hb => (hbefore b hb).1,
      halters.keepsDirectories.isDirectory_path hdirectory⟩

end Artifact

end AttributeSchema
