import AttributeSchema.Proofs.Files.FileTree
/-!
# What becomes of a tree

Directories are made where nothing stood, and files are written and moved at some paths. A directory stays
one all the time, so that a path that leads somewhere goes on leading there.
-/

namespace AttributeSchema

open PathText (split isName isMeaningful EndsIn LeadsTo AreSiblings)

namespace FileTree

variable {t t' t₁ t₂ t₃ : FileTree} {path : List Char} {l : Location}

theorem isDirectory_iff :
    t.isDirectory path = true ↔ ∃ l, t.locate path = .ok l ∧ t.entry? l = some .directory := by
  rw [isDirectory, find]
  cases hl : t.locate path with
  | error e => simp [bind, Except.bind]
  | ok l =>
      cases hentry : t.entry? l with
      | none => simp [bind, Except.bind, hentry]
      | some entry => cases entry <;> simp [bind, Except.bind, hentry]

theorem KeepsDirectories.isDirectory_path (h : t.KeepsDirectories t')
    (hpath : t.isDirectory path = true) : t'.isDirectory path = true := by
  obtain ⟨l, hl, hentry⟩ := isDirectory_iff.1 hpath
  exact isDirectory_iff.2 ⟨l, h.locate_ok hl, h.isDirectory l hentry⟩

/-! ## Changes at some paths -/

/-- Nothing has changed at a location, except that a directory may have been made for one of some paths. -/
def IsKept (made : List (List Char)) (t t' : FileTree) (l : Location) : Prop :=
  t'.entry? l = t.entry? l ∨
    t.entry? l = none ∧ t'.entry? l = some .directory ∧ ∃ path ∈ made, t'.locate path = .ok l

theorem IsKept.of_entry?_eq {made : List (List Char)} (h : IsKept made t₁ t₂ l)
    (hkeeps : t₂.KeepsDirectories t₃) (hsame : t₃.entry? l = t₂.entry? l) : IsKept made t₁ t₃ l := by
  rcases h with h | ⟨hnone, hmade, path, hpath, hlocate⟩
  · exact .inl (hsame.trans h)
  · exact .inr ⟨hnone, hsame.trans hmade, path, hpath, hkeeps.locate_ok hlocate⟩

/-- Directories stay, and everything is kept that does not stand at one of some paths. -/
structure Alters (made paths : List (List Char)) (t t' : FileTree) : Prop where
  keepsDirectories : t.KeepsDirectories t'
  isKept (l : Location) (hl : ∀ path ∈ paths, t'.locate path ≠ .ok l) : IsKept made t t' l

namespace Alters

variable {made made₁ made₂ paths paths₁ paths₂ : List (List Char)}

theorem refl (made paths : List (List Char)) (t : FileTree) : Alters made paths t t :=
  ⟨.refl t, fun _ _ => .inl rfl⟩

theorem mono (h : Alters made₁ paths₁ t t') (hmade : made₁ ⊆ made₂) (hpaths : paths₁ ⊆ paths₂) :
    Alters made₂ paths₂ t t' where
  keepsDirectories := h.keepsDirectories
  isKept l hl := by
    rcases h.isKept l fun path hpath => hl path (hpaths hpath) with hkept | ⟨hnone, hmadeHere, path, hpath, hl⟩
    · exact .inl hkept
    · exact .inr ⟨hnone, hmadeHere, path, hmade hpath, hl⟩

theorem trans (h₁ : Alters made₁ paths₁ t₁ t₂) (h₂ : Alters made₂ paths₂ t₂ t₃) :
    Alters (made₁ ++ made₂) (paths₁ ++ paths₂) t₁ t₃ where
  keepsDirectories := h₁.keepsDirectories.trans h₂.keepsDirectories
  isKept l hl := by
    have hfirst : IsKept made₁ t₁ t₂ l := h₁.isKept l fun path hpath hlocate =>
      hl path (List.mem_append_left _ hpath) (h₂.keepsDirectories.locate_ok hlocate)
    have hsecond : IsKept made₂ t₂ t₃ l := h₂.isKept l fun path hpath =>
      hl path (List.mem_append_right _ hpath)
    rcases hsecond with hsame | ⟨hnone, hmade, path, hpath, hlocate⟩
    · rcases hfirst.of_entry?_eq h₂.keepsDirectories hsame with
        hkept | ⟨hnone, hmade, path, hpath, hlocate⟩
      · exact .inl hkept
      · exact .inr ⟨hnone, hmade, path, List.mem_append_left _ hpath, hlocate⟩
    · rcases hfirst with hfirst | ⟨-, hdirectory, -⟩
      · exact .inr ⟨hfirst ▸ hnone, hmade, path, List.mem_append_right _ hpath, hlocate⟩
      · exact absurd (hnone.symm.trans hdirectory) (by simp)

end Alters

/-! ## Making directories -/

/-- A directory is made where nothing stands, and its path then leads to it. -/
theorem alters_makeDirectory (h : t.makeDirectory path = .ok t') :
    Alters [path] [] t t' ∧ t'.isDirectory path = true := by
  rw [makeDirectory] at h
  obtain ⟨place, hplace, h⟩ := bind_ok_iff.1 h
  cases place with
  | unnamed => exact absurd h (by simp)
  | named l hasSlash =>
      obtain ⟨parts, name, n, a, hsplit, -, hname, hcheck, ha, hlocation⟩ := target_named hplace
      obtain ⟨found, hfound, h⟩ := bind_ok_iff.1 h
      subst hlocation
      obtain ⟨hshort, rfl⟩ := lookUp_ok_iff.1 hfound
      split at h
      · exact absurd h (by simp)
      · rename_i hfree
        obtain rfl := Except.ok.inj h
        have hnone : t.entry? (a ++ [String.ofList name]) = none := by simpa using hfree
        have hl : a ++ [String.ofList name] ≠ [] := List.concat_ne_nil _ _
        have hkeeps := KeepsDirectories.put hl (by rw [hnone]; simp) .directory
        have hmade : FileTree.entry? (t.put (a ++ [String.ofList name]) .directory)
            (a ++ [String.ofList name]) = some .directory := by
          rw [entry?_put hl, if_pos rfl]
        have hlocate := (locate_ok_iff hsplit hname).2
          ⟨hcheck, a, hkeeps.directoryOf_ok ha, hshort, rfl, .inr hmade⟩
        refine ⟨⟨hkeeps, fun m _ => ?_⟩, isDirectory_iff.2 ⟨_, hlocate, hmade⟩⟩
        by_cases hm : m = a ++ [String.ofList name]
        · subst hm
          exact .inr ⟨hnone, hmade, path, List.mem_singleton_self path, hlocate⟩
        · exact .inl (by rw [entry?_put hl, if_neg hm])

theorem makeDirectory_of_isDirectory (h : t.isDirectory path = true) :
    t.makeDirectory path = .error .alreadyExists := by
  obtain ⟨l, hl, hentry⟩ := isDirectory_iff.1 h
  have hcheck : check path = .ok () := (bind_ok_iff.1 hl).choose_spec.1
  rcases exists_last (split path) with ⟨n, hsplit⟩ | ⟨parts, last, n, hlast, hsplit⟩
  · rw [makeDirectory, target_of_slashes hsplit, hcheck]
    rfl
  · obtain ⟨a, ha⟩ := exists_directoryOf hsplit hl
    rw [makeDirectory, target_of_split hsplit hlast, hcheck, ha]
    cases hname : isName last with
    | false => rfl
    | true =>
        obtain ⟨-, b, hb, hshort, rfl, -⟩ := (locate_ok_iff hsplit hname).1 hl
        obtain rfl : a = b := Except.ok.inj (ha.symm.trans hb)
        have hfound : t.lookUp (a ++ [String.ofList last]) = .ok (some .directory) :=
          lookUp_ok_iff.2 ⟨hshort, hentry.symm⟩
        change (t.lookUp (a ++ [String.ofList last]) >>= _) = _
        rw [hfound]
        rfl

/-- What is made of a chain of directories, also if it cannot be made to its end. -/
theorem alters_makeChain (t : FileTree) (paths : List (List Char)) :
    Alters paths [] t (t.makeChain paths).1 := by
  induction paths generalizing t with
  | nil => exact .refl _ _ t
  | cons path above ih =>
      have hhead {t t' : FileTree} (h : t.makeDirectory path = .ok t') :
          Alters (path :: above) [] t t' :=
        (alters_makeDirectory h).1.mono (by simp) (List.Subset.refl _)
      have habove := (ih t).mono (List.subset_cons_self path above) (List.Subset.refl _)
      rw [makeChain]
      split
      · rename_i made hmade
        exact hhead hmade
      · cases hchain : t.makeChain above with
        | mk t' result =>
            rw [hchain] at habove
            cases result with
            | error e => exact habove
            | ok u =>
                -- The directories above stay made even if the one below them cannot be.
                cases hmade : t'.makeDirectory path with
                | error e => simpa only [hmade] using habove
                | ok made =>
                    simp only [hmade]
                    exact (habove.trans (hhead hmade)).mono (by simp) (List.Subset.refl _)
      · exact .refl _ _ t

theorem isDirectory_makeChain {above : List (List Char)}
    (h : (t.makeChain (path :: above)).2 = .ok ()) :
    (t.makeChain (path :: above)).1.isDirectory path = true := by
  have hsettle {t : FileTree} {e : FileError}
      (h : (if t.isDirectory path then Except.ok () else .error e) = .ok ()) :
      t.isDirectory path = true := by
    by_contra hnot
    rw [if_neg hnot] at h
    exact absurd h (by simp)
  rw [makeChain] at h ⊢
  split at h
  · rename_i made hmade
    exact (alters_makeDirectory hmade).2
  · cases hchain : t.makeChain above with
    | mk t' result =>
        rw [hchain] at h
        cases result with
        | error e => exact absurd h (by simp)
        | ok u =>
            cases hmade : t'.makeDirectory path with
            | error e =>
                simp only [hmade] at h ⊢
                exact hsettle h
            | ok made =>
                simp only [hmade]
                exact (alters_makeDirectory hmade).2
  · exact hsettle h

theorem alters_makeDirectories (t : FileTree) (path : List Char) :
    Alters (PathText.ancestors (path.length + 1) path) [] t (t.makeDirectories path).1 :=
  alters_makeChain t _

/-- Directories that were made need not be made again, as long as directories stay. -/
theorem makeDirectories_again (h : t.makeDirectories path = (t₁, .ok ()))
    (hkeeps : t₁.KeepsDirectories t₂) : t₂.makeDirectories path = (t₂, .ok ()) := by
  rw [makeDirectories, PathText.ancestors] at h ⊢
  cases hparent : PathText.parent? path with
  | none => rfl
  | some parent =>
      rw [hparent] at h
      have hresult := congrArg Prod.snd h
      have hdirectory := isDirectory_makeChain hresult
      rw [h] at hdirectory
      have hstays := hkeeps.isDirectory_path hdirectory
      simp only [makeChain, makeDirectory_of_isDirectory hstays, hstays, if_true]

/-! ## Files that are written and moved -/

def StandsAt (t : FileTree) (path : List Char) (e : Option Entry) : Prop :=
  ∃ l, t.locate path = .ok l ∧ t.entry? l = e

theorem StandsAt.unique {e e' : Option Entry} (h : t.StandsAt path e) (h' : t.StandsAt path e') :
    e = e' := by
  obtain ⟨l, hl, rfl⟩ := h
  obtain ⟨m, hm, rfl⟩ := h'
  obtain rfl := Except.ok.inj (hl.symm.trans hm)
  rfl

theorem StandsAt.read_eq {content : List UInt8} (h : t.StandsAt path (some (.file content))) :
    t.read path = .ok content := by
  obtain ⟨l, hl, hentry⟩ := h
  rw [read, find, hl]
  simp only [bind, Except.bind, hentry]

theorem StandsAt.find_eq (h : t.StandsAt path none) : t.find path = .error .notFound := by
  obtain ⟨l, hl, hentry⟩ := h
  rw [find, hl]
  simp only [bind, Except.bind, hentry]

theorem StandsAt.of_isKept {made : List (List Char)} {entry : Entry} (h : t.StandsAt path (some entry))
    (hkeeps : t.KeepsDirectories t') (hkept : ∀ l, t'.locate path = .ok l → IsKept made t t' l) :
    t'.StandsAt path (some entry) := by
  obtain ⟨l, hl, hentry⟩ := h
  have hl' := hkeeps.locate_ok hl
  rcases hkept l hl' with hsame | ⟨hnone, -, -⟩
  · exact ⟨l, hl', hsame.trans hentry⟩
  · exact absurd (hentry.symm.trans hnone) (by simp)

/-- Paths that end in the names of one directory lead there side by side. -/
theorem locate_of_endsIn {other name name' : List Char} {parts dropped dropped' : List (List Char)}
    {m : Location} (hpath : EndsIn path parts name dropped) (hother : EndsIn other parts name' dropped')
    (hl : t.locate path = .ok l) (hm : t.locate other = .ok m) :
    l.dropLast = m.dropLast ∧ (name ≠ name' → l ≠ m) := by
  obtain ⟨-, a, ha, -, rfl, -⟩ := (locate_endsIn_ok_iff hpath).1 hl
  obtain ⟨-, b, hb, -, rfl, -⟩ := (locate_endsIn_ok_iff hother).1 hm
  obtain rfl : a = b := Except.ok.inj (ha.symm.trans ((directoryOf_eq hpath hother).trans hb))
  refine ⟨by rw [List.dropLast_concat, List.dropLast_concat], fun hne heq => ?_⟩
  exact hne (String.ofList_injective (List.cons.inj (List.append_cancel_left heq)).1)

theorem locate_ne_of_areSiblings {other : List Char} (h : AreSiblings path other)
    (hl : t.locate path = .ok l) : t.locate other ≠ .ok l := by
  obtain ⟨parts, name, name', hpath, hother, hne⟩ := h
  intro hl'
  exact (locate_of_endsIn hpath.endsIn hother.endsIn hl hl').2 hne rfl

theorem StandsAt.of_alters {paths : List (List Char)} {e : Option Entry} (h : t.StandsAt path e)
    (halters : Alters [] paths t t') (hpaths : ∀ other ∈ paths, AreSiblings path other) :
    t'.StandsAt path e := by
  obtain ⟨l, hl, rfl⟩ := h
  have hl' := halters.keepsDirectories.locate_ok hl
  refine ⟨l, hl', ?_⟩
  have hbeside : ∀ other ∈ paths, t'.locate other ≠ .ok l :=
    fun other hother => locate_ne_of_areSiblings (hpaths other hother) hl'
  rcases halters.isKept l hbeside with hkept | ⟨-, -, other, hmem, -⟩
  · exact hkept
  · exact absurd hmem List.not_mem_nil

theorem alters_write {content : List UInt8} (h : t.write path content = .ok t') :
    Alters [] [path] t t' ∧ t'.StandsAt path (some (.file content)) := by
  obtain ⟨parts, name, a, hpath, hcheck, ha, hshort, hfree, rfl⟩ := write_ok h
  have hl : a ++ [String.ofList name] ≠ [] := List.concat_ne_nil _ _
  have hkeeps := KeepsDirectories.put hl hfree (.file content)
  have hlocate := (locate_name_ok_iff hpath).2 ⟨hcheck, a, hkeeps.directoryOf_ok ha, hshort, rfl⟩
  refine ⟨⟨hkeeps, fun l hother => .inl ?_⟩, _, hlocate, by rw [entry?_put hl, if_pos rfl]⟩
  have hne : l ≠ a ++ [String.ofList name] := by
    rintro rfl
    exact hother path (List.mem_singleton_self path) hlocate
  rw [entry?_put hl, if_neg hne]

/-- A file that is moved to a path beside its own stands there, and nothing stands where it stood. -/
theorem alters_moveFile {old new : List Char} (hsiblings : AreSiblings old new)
    (h : t.moveFile old new = .ok t') :
    Alters [] [old, new] t t' ∧ t'.StandsAt old none ∧
      ∃ content, t.StandsAt old (some (.file content)) ∧ t'.StandsAt new (some (.file content)) := by
  have hbeside := hsiblings
  obtain ⟨parts, name, name', hold, hnew, -⟩ := hsiblings
  obtain ⟨l, m, content, hl, hm, hfile, hfree, hroot, rfl⟩ := moveFile_ok hold hnew h
  have hne : l ≠ m := by
    rintro rfl
    exact locate_ne_of_areSiblings hbeside hl hm
  have hroot' : l ≠ [] := by
    rintro rfl
    exact absurd (Option.some.inj hfile) (by simp)
  have hentry (k : Location) : FileTree.entry? ((t.erase l).put m (.file content)) k =
      if k = m then some (.file content) else if k = l then none else t.entry? k := by
    rw [entry?_put hroot, entry?_erase hroot']
  have hkeeps : t.KeepsDirectories ((t.erase l).put m (.file content)) := by
    refine ⟨rfl, fun k hk => ?_⟩
    have hkm : k ≠ m := fun heq => hfree (heq ▸ hk)
    have hkl : k ≠ l := by
      rintro rfl
      rw [hfile] at hk
      exact absurd hk (by simp)
    rw [hentry, if_neg hkm, if_neg hkl, hk]
  have hl' := hkeeps.locate_ok hl
  have hm' := hkeeps.locate_ok hm
  refine ⟨⟨hkeeps, fun k hother => .inl ?_⟩, ⟨l, hl', by rw [hentry, if_neg hne, if_pos rfl]⟩,
    content, ⟨l, hl, hfile⟩, m, hm', by rw [hentry, if_pos rfl]⟩
  have hkl : k ≠ l := by
    rintro rfl
    exact hother old List.mem_cons_self hl'
  have hkm : k ≠ m := by
    rintro rfl
    exact hother new (List.mem_cons_of_mem _ List.mem_cons_self) hm'
  rw [hentry, if_neg hkm, if_neg hkl]

end FileTree

end AttributeSchema
