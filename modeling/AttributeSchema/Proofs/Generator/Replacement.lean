import AttributeSchema.Generator.Write
import AttributeSchema.Proofs.Files.Changes
/-!
# Files are replaced as a whole

A file is written beside its place and then moved there. So its place holds what it held, or it holds the
new content and nothing is left beside it. All else stays, but for the directories above that were missing.
-/

namespace AttributeSchema.Artifact

open PathText (EndsIn LeadsTo AreSiblings fileName? splitExtension)
open FileTree (Alters StandsAt IsKept)
open Text (Utf8.encode)

variable {path : String} {parts dropped : List (List Char)} {name : List Char}

/-! ## Temporary places -/

/-- A path that ends in a name is written at first under another name in the same directory. -/
theorem leadsTo_temporaryPath (h : EndsIn path.toList parts name dropped) :
    LeadsTo (temporaryPath path).toList parts
      ((splitExtension name).1 ++ '.' :: temporaryExtension.toList) := by
  constructor
  · rw [temporaryPath, String.toList_ofList, h.split_withExtension (by decide)]
  · apply PathText.isName_of_length
    rw [List.length_append]
    change 2 < (splitExtension name).1.length + 7
    omega

theorem temporaryName_ne (name : List Char) :
    (splitExtension name).1 ++ '.' :: temporaryExtension.toList ≠ name :=
  PathText.stem_append_ne (by decide)

theorem siblings_temporaryPath (h : LeadsTo path.toList parts name) :
    AreSiblings (temporaryPath path).toList path.toList :=
  ⟨_, _, _, leadsTo_temporaryPath h.endsIn, h, temporaryName_ne name⟩

theorem locate_temporaryPath (h : EndsIn path.toList parts name dropped) {tree : FileTree}
    {l m : Location} (hl : tree.locate path.toList = .ok l)
    (hm : tree.locate (temporaryPath path).toList = .ok m) : m ≠ l ∧ m.dropLast = l.dropLast := by
  have hbeside := FileTree.locate_of_endsIn (leadsTo_temporaryPath h).endsIn h hm hl
  exact ⟨hbeside.2 (temporaryName_ne name), hbeside.1⟩

theorem temporaryPath_ne (h : EndsIn path.toList parts name dropped) : temporaryPath path ≠ path := by
  intro heq
  have htemporary := (leadsTo_temporaryPath h).endsIn.reversedParts
  rw [heq, h.reversedParts] at htemporary
  exact temporaryName_ne name (List.cons.inj htemporary).1.symm

/-- Only a path with a name at its end has a temporary path that leads to a name. -/
theorem exists_endsIn_of_temporaryPath (h : LeadsTo (temporaryPath path).toList parts name) :
    ∃ parts name dropped, EndsIn path.toList parts name dropped := by
  cases hname : fileName? path.toList with
  | some name =>
      obtain ⟨parts, dropped, hends⟩ := PathText.fileName?_eq_some_iff.1 hname
      exact ⟨parts, name, dropped, hends⟩
  | none =>
      rw [temporaryPath, String.toList_ofList, PathText.withExtension_of_fileName? hname] at h
      exact ⟨parts, name, [], h.endsIn⟩

/-! ## Directories -/

/-- The directory that a file stands in, and those above it. -/
def above (path : String) : List (List Char) :=
  match PathText.parent? path.toList with
  | none => []
  | some parent => PathText.ancestors (parent.length + 1) parent

theorem alters_prepare (files : FileTree) (path : String) :
    Alters (above path) [] files (prepare files path).1 := by
  rw [above, prepare]
  cases PathText.parent? path.toList with
  | none => exact .refl _ _ files
  | some parent => exact FileTree.alters_makeDirectories files parent

theorem prepare_again {path path' : String} {files files₁ files₂ : FileTree}
    (hparent : PathText.parent? path'.toList = PathText.parent? path.toList)
    (h : prepare files path = (files₁, .ok ())) (hkeeps : files₁.KeepsDirectories files₂) :
    prepare files₂ path' = (files₂, .ok ()) := by
  rw [prepare] at h ⊢
  rw [hparent]
  cases hpath : PathText.parent? path.toList with
  | none => rfl
  | some parent =>
      rw [hpath] at h
      have hmade : files.makeDirectories parent = (files₁, .ok ()) := by
        cases hok : files.makeDirectories parent with
        | mk files' result =>
            simp only [hok] at h
            obtain ⟨rfl, hresult⟩ := Prod.mk.inj h
            cases result with
            | ok u => rfl
            | error e => exact absurd hresult (by simp [Except.mapError])
      simp only [FileTree.makeDirectories_again hmade hkeeps]
      rfl

/-! ## One file -/

/-- What is written at the temporary path does not stand where the path leads to. -/
theorem entry?_of_write {files written : FileTree} {content : List UInt8}
    (h : files.write (temporaryPath path).toList content = .ok written) {l : Location}
    (hl : written.locate path.toList = .ok l) : written.entry? l = files.entry? l := by
  obtain ⟨parts, temporary, a, hleads, -⟩ := FileTree.write_ok h
  obtain ⟨parts, name, dropped, hends⟩ := exists_endsIn_of_temporaryPath hleads
  have hbeside : ∀ other ∈ [(temporaryPath path).toList], written.locate other ≠ .ok l := by
    intro other hother hl'
    obtain rfl := List.mem_singleton.1 hother
    exact (locate_temporaryPath hends hl hl').1 rfl
  rcases (FileTree.alters_write h).1.isKept l hbeside with hkept | ⟨-, -, other, hother, -⟩
  · exact hkept
  · exact absurd hother List.not_mem_nil

/-- A file is written and moved to its place, or only something beside its place may have changed. -/
theorem replace_cases (files : FileTree) (path content : String) :
    (∃ files', replace files path content = (files', .ok ()) ∧
      Alters [] [(temporaryPath path).toList, path.toList] files files' ∧
      files'.StandsAt path.toList (some (.file (Utf8.encode content.toList))) ∧
      files'.StandsAt (temporaryPath path).toList none) ∨
    ∃ files' e, replace files path content = (files', .error e) ∧
      Alters [] [(temporaryPath path).toList] files files' ∧
      ∀ l, files'.locate path.toList = .ok l → files'.entry? l = files.entry? l := by
  rw [replace]
  cases hwrite : files.write (temporaryPath path).toList (Utf8.encode content.toList) with
  | error e => exact .inr ⟨files, _, rfl, .refl _ _ files, fun _ _ => rfl⟩
  | ok written =>
      obtain ⟨halters, hstands⟩ := FileTree.alters_write hwrite
      cases hmove : written.moveFile (temporaryPath path).toList path.toList with
      | error e =>
          -- What was written stays at the temporary path, which leads beside the path.
          simp only [hmove]
          exact .inr ⟨written, _, rfl, halters, fun l hl => entry?_of_write hwrite hl⟩
      | ok moved =>
          obtain ⟨parts, name, hleads⟩ := FileTree.exists_leadsTo_of_moveFile hmove
          obtain ⟨hmoved, hnone, content', hold, hnew⟩ :=
            FileTree.alters_moveFile (siblings_temporaryPath hleads) hmove
          obtain rfl := Entry.file.inj (Option.some.inj (hold.unique hstands))
          simp only [hmove]
          refine .inl ⟨moved, rfl, ?_, hnew, hnone⟩
          exact (halters.trans hmoved).mono (List.Subset.refl _) (by simp)

/-- Writing a file puts its content at its place and leaves nothing beside it, or it fails and leaves its
place as it was, unless a directory above was made there. All else stays, but for the temporary place and
the directories above. The temporary place is another one in the same directory. -/
theorem writeContent_atomic (files : FileTree) (path content : String) :
    ((∃ after, writeContent files path content = (after, .ok ()) ∧
        Alters (above path) [(temporaryPath path).toList, path.toList] files after ∧
        after.read path.toList = .ok (Utf8.encode content.toList) ∧
        after.find (temporaryPath path).toList = .error .notFound) ∨
      ∃ after e, writeContent files path content = (after, .error e) ∧
        Alters (above path) [(temporaryPath path).toList] files after ∧
        (∀ entry, files.StandsAt path.toList (some entry) →
          after.StandsAt path.toList (some entry)) ∧
        ∀ l, after.locate path.toList = .ok l → IsKept (above path) files after l) ∧
    ∀ name, fileName? path.toList = some name →
      temporaryPath path ≠ path ∧
      PathText.parent? (temporaryPath path).toList = PathText.parent? path.toList ∧
      ∀ tree l m, FileTree.locate tree path.toList = .ok l →
        FileTree.locate tree (temporaryPath path).toList = .ok m →
        m ≠ l ∧ m.dropLast = l.dropLast := by
  constructor
  · have habove := alters_prepare files path
    cases hprepare : prepare files path with
    | mk prepared result =>
        rw [hprepare] at habove
        cases result with
        | error e =>
            -- Nothing is written unless all directories above are there.
            have hkept : ∀ l, prepared.locate path.toList = .ok l → IsKept (above path) files prepared l :=
              fun l _ => habove.isKept l fun other hother => absurd hother List.not_mem_nil
            refine .inr ⟨prepared, e, by rw [writeContent, hprepare], ?_, fun entry hentry => ?_, hkept⟩
            · exact habove.mono (List.Subset.refl _) (List.nil_subset _)
            · exact hentry.of_isKept habove.keepsDirectories hkept
        | ok u =>
            have hreplace : writeContent files path content = replace prepared path content := by
              rw [writeContent, hprepare]
            rw [hreplace]
            rcases replace_cases prepared path content with
              ⟨after, hok, halters, hfile, hnone⟩ | ⟨after, e, hfails, halters, hsame⟩
            · refine .inl ⟨after, hok, ?_, hfile.read_eq, hnone.find_eq⟩
              exact (habove.trans halters).mono (by simp) (List.Subset.refl _)
            · have hall : Alters (above path) [(temporaryPath path).toList] files after :=
                (habove.trans halters).mono (by simp) (List.Subset.refl _)
              have hkept (l : Location) (hl : after.locate path.toList = .ok l) :
                  IsKept (above path) files after l := by
                have hmade := habove.isKept l fun other hother => absurd hother List.not_mem_nil
                exact hmade.of_entry?_eq halters.keepsDirectories (hsame l hl)
              exact .inr ⟨after, e, hfails, hall,
                fun entry hentry => hentry.of_isKept hall.keepsDirectories hkept, hkept⟩
  · intro name hname
    obtain ⟨parts, dropped, hends⟩ := PathText.fileName?_eq_some_iff.1 hname
    refine ⟨temporaryPath_ne hends, (leadsTo_temporaryPath hends).endsIn.parent?_eq hends, ?_⟩
    intro tree l m hl hm
    exact locate_temporaryPath hends hl hm

def pointed : FileTree where
  entries := [(["out"], .directory), (["out", ".a.rs"], .file [111])]
  workingDirectory := []

theorem writeContent_atomic_pointed :
    (∃ after, writeContent pointed "out/.a.rs" "new" = (after, .ok ()) ∧
      after.read "out/.a.rs".toList = .ok (Utf8.encode "new".toList) ∧
      after.find "out/.a.rs.tmp".toList = .error .notFound) ∧
    ∃ after e, writeContent pointed "out" "new" = (after, .error e) ∧
      after.StandsAt "out".toList (some .directory) := by
  have hok : (writeContent pointed "out/.a.rs" "new").2 = .ok () := by decide +kernel
  have hfails : (writeContent pointed "out" "new").2 ≠ .ok () := by decide +kernel
  have htemporary : temporaryPath "out/.a.rs" = "out/.a.rs.tmp" := by decide +kernel
  have hdirectory : pointed.StandsAt "out".toList (some .directory) :=
    ⟨["out"], by decide +kernel, by decide +kernel⟩
  constructor
  · rcases (writeContent_atomic pointed "out/.a.rs" "new").1 with
      ⟨after, hwritten, -, hread, hnone⟩ | ⟨after, e, herror, -⟩
    · exact ⟨after, hwritten, hread, htemporary ▸ hnone⟩
    · rw [herror] at hok
      exact absurd hok (by simp)
  · rcases (writeContent_atomic pointed "out" "new").1 with
      ⟨after, hwritten, -⟩ | ⟨after, e, herror, -, hstands, -⟩
    · exact absurd (congrArg Prod.snd hwritten) hfails
    · exact ⟨after, e, herror, hstands _ hdirectory⟩

end AttributeSchema.Artifact
