import AttributeSchema.Files.FileTree
import AttributeSchema.Proofs.Files.PathText
import AttributeSchema.Proofs.Traverse
import Mathlib.Data.List.Induction
/-!
# Reading what was written

Writing a file changes what stands at its own path, and nothing else.
-/

namespace AttributeSchema.FileTree

open PathText (split isName isMeaningful EndsIn LeadsTo AreSiblings)

variable {t : FileTree} {l : Location} {e : Entry}

/-! ## Entries -/

theorem lookup_filter_ne {entries : List (Location × Entry)} {m : Location} (h : m ≠ l) :
    (entries.filter fun e => e.1 != l).lookup m = entries.lookup m := by
  induction entries with
  | nil => rfl
  | cons e entries ih =>
      obtain ⟨k, entry⟩ := e
      by_cases hk : k = l
      · have hm : (m == k) = false := beq_eq_false_iff_ne.2 (hk ▸ h)
        rw [List.filter_cons_of_neg (by simp [hk]), ih, List.lookup_cons, hm]
      · rw [List.filter_cons_of_pos (by simp [hk]), List.lookup_cons, List.lookup_cons, ih]

theorem lookup_filter_self (entries : List (Location × Entry)) (l : Location) :
    (entries.filter fun e => e.1 != l).lookup l = none := by
  induction entries with
  | nil => rfl
  | cons e entries ih =>
      obtain ⟨k, entry⟩ := e
      by_cases hk : k = l
      · rw [List.filter_cons_of_neg (by simp [hk]), ih]
      · rw [List.filter_cons_of_pos (by simp [hk]), List.lookup_cons,
          beq_eq_false_iff_ne.2 (Ne.symm hk), ih]

theorem entry?_erase (hl : l ≠ []) (m : Location) :
    FileTree.entry? (t.erase l) m = if m = l then none else t.entry? m := by
  cases m with
  | nil => rw [if_neg (Ne.symm hl), entry?, entry?]
  | cons part more =>
      change (t.entries.filter fun e => e.1 != l).lookup (part :: more) = _
      by_cases hm : part :: more = l
      · rw [if_pos hm, hm, lookup_filter_self]
      · rw [if_neg hm]
        exact lookup_filter_ne hm

/-- What stands at a location after an entry was put. -/
theorem entry?_put (hl : l ≠ []) (m : Location) :
    FileTree.entry? (t.put l e) m = if m = l then some e else t.entry? m := by
  cases m with
  | nil => rw [if_neg (Ne.symm hl), entry?, entry?]
  | cons part more =>
      change ((l, e) :: (t.erase l).entries).lookup (part :: more) = _
      rw [List.lookup_cons]
      by_cases hm : part :: more = l
      · rw [if_pos hm, hm, beq_self_eq_true]
      · rw [if_neg hm, beq_eq_false_iff_ne.2 hm]
        exact lookup_filter_ne hm

/-- Of two entries put at one location the later one stays. -/
theorem put_put (t : FileTree) (l : Location) (e e' : Entry) : (t.put l e).put l e' = t.put l e' := by
  have hentries : ((t.put l e).erase l).entries = (t.erase l).entries := by
    change ((l, e) :: t.entries.filter fun e => e.1 != l).filter (fun e => e.1 != l) = _
    rw [List.filter_cons_of_neg (by simp), List.filter_filter]
    simp only [Bool.and_self]
    rfl
  rw [put, hentries]
  rfl

/-! ## Walking -/

theorem walk_append (a : Location) (parts more : List (List Char)) :
    t.walk a (parts ++ more) = t.walk a parts >>= fun b => t.walk b more := by
  induction parts generalizing a with
  | nil => rfl
  | cons part parts ih =>
      rw [List.cons_append, walk, walk]
      cases t.entry? a with
      | none => rfl
      | some entry =>
          cases entry with
          | file content => rfl
          | directory =>
              simp only
              split
              · exact ih a
              · split
                · exact ih a.dropLast
                · split
                  · rfl
                  · exact ih _

theorem walk_directory (a : Location) :
    t.walk a [[]] = match t.entry? a with
      | none => .error .notFound
      | some (.file _) => .error .notDirectory
      | some .directory => .ok a := by
  rw [walk]
  cases t.entry? a with
  | none => rfl
  | some entry => cases entry <;> rfl

/-- To a name the walk goes through a directory, and the name is not too long. -/
theorem walk_name {name : List Char} (hname : isName name = true) (a : Location) :
    t.walk a [name] = t.walk a [[]] >>= fun b =>
      if isTooLong (String.ofList name) then .error .nameTooLong else .ok (b ++ [String.ofList name]) := by
  obtain ⟨hmeaningful, hpoints⟩ := Bool.and_eq_true_iff.1 hname
  have hpoints : name ≠ ['.', '.'] := bne_iff_ne.1 hpoints
  rw [walk_directory, walk]
  cases t.entry? a with
  | none => rfl
  | some entry =>
      cases entry with
      | file content => rfl
      | directory =>
          simp only [hmeaningful, hpoints, Bool.not_true, Bool.false_eq_true, if_false, walk]
          rfl

/-- A walk that succeeds goes through directories, so it leads to the same place wherever these are
directories too. -/
theorem walk_mono {t' : FileTree}
    (hdirectories : ∀ m, t.entry? m = some .directory → t'.entry? m = some .directory)
    {a b : Location} {parts : List (List Char)} (h : t.walk a parts = .ok b) :
    t'.walk a parts = .ok b := by
  induction parts generalizing a with
  | nil => exact h
  | cons part parts ih =>
      rw [walk] at h ⊢
      split at h
      · exact absurd h (by simp)
      · exact absurd h (by simp)
      · rename_i hdirectory
        rw [hdirectories a hdirectory]
        simp only
        split at h
        · rename_i hskip
          rw [if_pos hskip]
          exact ih h
        · rename_i hskip
          rw [if_neg hskip]
          split at h
          · rename_i hpoints
            rw [if_pos hpoints]
            exact ih h
          · rename_i hpoints
            rw [if_neg hpoints]
            split at h
            · exact absurd h (by simp)
            · rename_i hshort
              rw [if_neg hshort]
              exact ih h

/-! ## Directories that stay -/

structure KeepsDirectories (t t' : FileTree) : Prop where
  workingDirectory_eq : t'.workingDirectory = t.workingDirectory
  isDirectory (l : Location) (h : t.entry? l = some .directory) : t'.entry? l = some .directory

namespace KeepsDirectories

variable {t' t₁ t₂ t₃ : FileTree}

theorem refl (t : FileTree) : t.KeepsDirectories t := ⟨rfl, fun _ h => h⟩

theorem trans (h₁ : t₁.KeepsDirectories t₂) (h₂ : t₂.KeepsDirectories t₃) :
    t₁.KeepsDirectories t₃ where
  workingDirectory_eq := h₂.workingDirectory_eq.trans h₁.workingDirectory_eq
  isDirectory l h := h₂.isDirectory l (h₁.isDirectory l h)

theorem put (hl : l ≠ []) (hfree : t.entry? l ≠ some .directory) (e : Entry) :
    t.KeepsDirectories (t.put l e) where
  workingDirectory_eq := rfl
  isDirectory m hm := by
    have hne : m ≠ l := fun heq => hfree (heq ▸ hm)
    rw [entry?_put hl, if_neg hne, hm]

theorem of_put_file (hl : l ≠ []) (content : List UInt8) :
    (t.put l (.file content)).KeepsDirectories t where
  workingDirectory_eq := rfl
  isDirectory m hm := by
    rw [entry?_put hl] at hm
    split at hm
    · exact absurd hm (by simp)
    · exact hm

theorem start_eq (h : t.KeepsDirectories t') (path : List Char) : t'.start path = t.start path := by
  rw [start, start, h.workingDirectory_eq]

/-- A path that leads somewhere goes on leading there. -/
theorem locate_ok (h : t.KeepsDirectories t') {path : List Char} (hl : t.locate path = .ok l) :
    t'.locate path = .ok l := by
  rw [locate] at hl ⊢
  obtain ⟨⟨⟩, hcheck, hwalk⟩ := bind_ok_iff.1 hl
  rw [hcheck, h.start_eq]
  exact walk_mono h.isDirectory hwalk

end KeepsDirectories

/-! ## Locations of names -/

def directoryOf (t : FileTree) (path : List Char) (parts : List (List Char)) :
    Except FileError Location :=
  t.walk (t.start path) (parts ++ [[]])

theorem KeepsDirectories.directoryOf_ok {t' : FileTree} (h : t.KeepsDirectories t') {path : List Char}
    {parts : List (List Char)} {a : Location} (ha : t.directoryOf path parts = .ok a) :
    t'.directoryOf path parts = .ok a := by
  rw [directoryOf, h.start_eq]
  exact walk_mono h.isDirectory ha

theorem lookUp_ok_iff {a : Location} {name : String} {found : Option Entry} :
    t.lookUp (a ++ [name]) = .ok found ↔ isTooLong name = false ∧ found = t.entry? (a ++ [name]) := by
  rw [lookUp, List.getLast?_concat, Option.any_some]
  cases isTooLong name with
  | true => simp
  | false => simp [eq_comm]

theorem locate_of_leadsTo {path name : List Char} {parts : List (List Char)}
    (h : LeadsTo path parts name) :
    t.locate path = check path >>= fun _ => t.directoryOf path parts >>= fun a =>
      if isTooLong (String.ofList name) then .error .nameTooLong
      else .ok (a ++ [String.ofList name]) := by
  have hwalk : t.walk (t.start path) (split path) = t.directoryOf path parts >>= fun a =>
      if isTooLong (String.ofList name) then .error .nameTooLong
      else .ok (a ++ [String.ofList name]) := by
    rw [h.1, directoryOf, walk_append, walk_append]
    cases t.walk (t.start path) parts with
    | error e => rfl
    | ok a => exact walk_name h.2 a
  rw [locate, hwalk]

theorem directoryOf_ok_iff {path : List Char} {parts : List (List Char)} {a : Location} :
    t.directoryOf path parts = .ok a ↔
      t.walk (t.start path) parts = .ok a ∧ t.entry? a = some .directory := by
  rw [directoryOf, walk_append, bind_ok_iff]
  constructor
  · rintro ⟨b, hwalk, hdirectory⟩
    rw [walk_directory] at hdirectory
    split at hdirectory
    · exact absurd hdirectory (by simp)
    · exact absurd hdirectory (by simp)
    · rename_i hentry
      obtain rfl := Except.ok.inj hdirectory
      exact ⟨hwalk, hentry⟩
  · rintro ⟨hwalk, hentry⟩
    refine ⟨a, hwalk, ?_⟩
    rw [walk_directory, hentry]

/-- Parts without meaning behind a location are looked up only if there are any. -/
theorem walk_dropped_ok_iff {a b : Location} {dropped : List (List Char)}
    (hdropped : ∀ part ∈ dropped, isMeaningful part = false) :
    t.walk a dropped = .ok b ↔ b = a ∧ (dropped = [] ∨ t.entry? a = some .directory) := by
  induction dropped with
  | nil =>
      rw [walk, Except.ok.injEq]
      simp [eq_comm]
  | cons part dropped ih =>
      obtain ⟨hpart, hmore⟩ := List.forall_mem_cons.1 hdropped
      rw [walk]
      cases hentry : t.entry? a with
      | none => simp
      | some entry =>
          cases entry with
          | file content => simp
          | directory => simp [hpart, ih hmore, hentry]

theorem dropSlashes_slashes (n : Nat) : (dropSlashes (List.replicate n [])).1 = [] := by
  induction n with
  | zero => rfl
  | succ n ih => rw [List.replicate_succ, dropSlashes, ih]

theorem dropSlashes_append {last : List Char} (hlast : last ≠ []) (n : Nat)
    (before : List (List Char)) :
    dropSlashes (List.replicate n [] ++ last :: before) = (last :: before, n != 0) := by
  induction n with
  | zero =>
      cases last with
      | nil => exact absurd rfl hlast
      | cons c last => rfl
  | succ n ih =>
      rw [List.replicate_succ, List.cons_append, dropSlashes, ih]
      rfl

/-- Behind the last part of a path that is not empty there may be slashes. -/
theorem exists_last (parts : List (List Char)) :
    (∃ n, parts = List.replicate n []) ∨
      ∃ before last n, last ≠ [] ∧ parts = before ++ last :: List.replicate n [] := by
  induction parts using List.reverseRecOn with
  | nil => exact .inl ⟨0, rfl⟩
  | append_singleton parts part ih =>
      by_cases hpart : part = []
      · rcases ih with ⟨n, rfl⟩ | ⟨before, last, n, hlast, rfl⟩
        · exact .inl ⟨n + 1, by rw [hpart, List.replicate_succ']⟩
        · exact .inr ⟨before, last, n + 1, hlast, by rw [hpart, List.replicate_succ']; simp⟩
      · exact .inr ⟨parts, part, 0, hpart, rfl⟩

section

variable {path last name : List Char} {parts : List (List Char)} {n : Nat}

theorem target_of_slashes (hsplit : split path = List.replicate n []) :
    t.target path = check path >>= fun _ => .ok .unnamed := by
  rw [target, hsplit, List.reverse_replicate]
  cases hdrop : dropSlashes (List.replicate n []) with
  | mk rest hasSlash =>
      have hrest := dropSlashes_slashes n
      rw [hdrop] at hrest
      simp only at hrest
      subst hrest
      rfl

theorem target_of_split (hsplit : split path = parts ++ last :: List.replicate n [])
    (hlast : last ≠ []) :
    t.target path = check path >>= fun _ => t.directoryOf path parts >>= fun a =>
      .ok (if isName last then .named (a ++ [String.ofList last]) (n != 0) else .unnamed) := by
  have hdrop : dropSlashes (split path).reverse = (last :: parts.reverse, n != 0) := by
    rw [hsplit, List.reverse_append, List.reverse_cons, List.reverse_replicate, List.append_assoc,
      List.singleton_append, dropSlashes_append hlast]
  rw [target, hdrop]
  simp only [List.reverse_reverse, directoryOf]
  congr 1
  funext u
  congr 1
  funext a
  split <;> rfl

theorem target_of_leadsTo (h : LeadsTo path parts name) :
    t.target path = check path >>= fun _ => t.directoryOf path parts >>= fun a =>
      .ok (.named (a ++ [String.ofList name]) false) := by
  have hne : name ≠ [] := by
    rintro rfl
    exact absurd h.2 (by decide)
  rw [target_of_split (n := 0) h.1 hne, h.2]
  rfl

/-- A target with a name stands in a directory, and there may be slashes behind the name. -/
theorem target_named {hasSlash : Bool} (h : t.target path = .ok (.named l hasSlash)) :
    ∃ parts name n a, split path = parts ++ name :: List.replicate n [] ∧
      hasSlash = (n != 0) ∧ isName name = true ∧ check path = .ok () ∧
      t.directoryOf path parts = .ok a ∧ l = a ++ [String.ofList name] := by
  rcases exists_last (split path) with ⟨n, hsplit⟩ | ⟨parts, last, n, hlast, hsplit⟩
  · rw [target_of_slashes hsplit] at h
    obtain ⟨u, -, h⟩ := bind_ok_iff.1 h
    exact absurd h (by simp)
  · rw [target_of_split hsplit hlast] at h
    obtain ⟨⟨⟩, hcheck, h⟩ := bind_ok_iff.1 h
    obtain ⟨a, ha, h⟩ := bind_ok_iff.1 h
    split at h
    · rename_i hname
      obtain ⟨rfl, rfl⟩ := FileTree.Target.named.inj (Except.ok.inj h)
      exact ⟨parts, last, n, a, hsplit, rfl, hname, hcheck, ha, rfl⟩
    · exact absurd h (by simp)

/-- A path whose end is a name without a slash behind it leads to that name. -/
theorem target_ok (h : t.target path = .ok (.named l false)) :
    ∃ parts name a, LeadsTo path parts name ∧ check path = .ok () ∧
      t.directoryOf path parts = .ok a ∧ l = a ++ [String.ofList name] := by
  obtain ⟨parts, name, n, a, hsplit, hzero, hname, hcheck, ha, rfl⟩ := target_named h
  obtain rfl : n = 0 := by simpa using hzero
  exact ⟨parts, name, a, ⟨hsplit, hname⟩, hcheck, ha, rfl⟩

/-- Where a path leads that ends in a name. -/
theorem locate_endsIn_ok_iff {dropped : List (List Char)} (h : EndsIn path parts name dropped) :
    t.locate path = .ok l ↔
      check path = .ok () ∧ ∃ a, t.directoryOf path parts = .ok a ∧
        isTooLong (String.ofList name) = false ∧ l = a ++ [String.ofList name] ∧
        (dropped = [] ∨ t.entry? l = some .directory) := by
  rw [locate, h.split_eq, ← List.singleton_append, walk_append]
  simp only [bind_ok_iff, walk_append, walk_name h.isName, directoryOf,
    walk_dropped_ok_iff h.dropped_eq]
  constructor
  · rintro ⟨⟨⟩, hcheck, b, hb, c, ⟨a, ha, hc⟩, hl, hdropped⟩
    split at hc
    · exact absurd hc (by simp)
    · rename_i hshort
      obtain rfl := Except.ok.inj hc
      subst hl
      exact ⟨hcheck, a, ⟨b, hb, ha⟩, by simpa using hshort, rfl, hdropped⟩
  · rintro ⟨hcheck, a, ⟨b, hb, ha⟩, hshort, rfl, hdropped⟩
    refine ⟨(), hcheck, b, hb, a ++ [String.ofList name], ⟨a, ha, ?_⟩, rfl, hdropped⟩
    rw [hshort]
    rfl

theorem locate_ok_iff (hsplit : split path = parts ++ name :: List.replicate n [])
    (hname : isName name = true) :
    t.locate path = .ok l ↔
      check path = .ok () ∧ ∃ a, t.directoryOf path parts = .ok a ∧
        isTooLong (String.ofList name) = false ∧ l = a ++ [String.ofList name] ∧
        (n = 0 ∨ t.entry? l = some .directory) := by
  have hdropped : ∀ part ∈ List.replicate n [], isMeaningful part = false := by
    intro part hpart
    rw [List.eq_of_mem_replicate hpart]
    rfl
  rw [locate_endsIn_ok_iff ⟨hsplit, hname, hdropped⟩]
  simp only [List.replicate_eq_nil_iff]

theorem locate_name_ok_iff (h : LeadsTo path parts name) :
    t.locate path = .ok l ↔
      check path = .ok () ∧ ∃ a, t.directoryOf path parts = .ok a ∧
        isTooLong (String.ofList name) = false ∧ l = a ++ [String.ofList name] := by
  rw [locate_endsIn_ok_iff h.endsIn]
  simp

/-- In front of any part of a path that leads somewhere there is a directory. -/
theorem exists_directoryOf {more : List (List Char)} (hsplit : split path = parts ++ last :: more)
    (h : t.locate path = .ok l) : ∃ a, t.directoryOf path parts = .ok a := by
  rw [locate, hsplit, walk_append] at h
  obtain ⟨u, -, h⟩ := bind_ok_iff.1 h
  obtain ⟨a, ha, h⟩ := bind_ok_iff.1 h
  refine ⟨a, directoryOf_ok_iff.2 ⟨ha, ?_⟩⟩
  rw [walk] at h
  split at h
  · exact absurd h (by simp)
  · exact absurd h (by simp)
  · assumption

end

/-- A file is written at the name that its path leads to, where no directory stands. -/
theorem write_ok {t' : FileTree} {path : List Char} {content : List UInt8}
    (h : t.write path content = .ok t') :
    ∃ parts name a, LeadsTo path parts name ∧ check path = .ok () ∧
      t.directoryOf path parts = .ok a ∧ isTooLong (String.ofList name) = false ∧
      t.entry? (a ++ [String.ofList name]) ≠ some .directory ∧
      t' = t.put (a ++ [String.ofList name]) (.file content) := by
  rw [write] at h
  obtain ⟨place, hplace, h⟩ := bind_ok_iff.1 h
  cases place with
  | unnamed => exact absurd h (by simp)
  | named l hasSlash =>
      cases hasSlash with
      | true => exact absurd h (by simp)
      | false =>
          obtain ⟨parts, name, a, hleads, hcheck, ha, rfl⟩ := target_ok hplace
          obtain ⟨found, hfound, h⟩ := bind_ok_iff.1 h
          obtain ⟨hshort, rfl⟩ := lookUp_ok_iff.1 hfound
          split at h
          · exact absurd h (by simp)
          · rename_i hfree
            refine ⟨parts, name, a, hleads, hcheck, ha, hshort, ?_, (Except.ok.inj h).symm⟩
            intro hdirectory
            exact hfree (by rw [hdirectory]; rfl)

theorem directoryOf_eq {p q name name' : List Char} {parts dropped dropped' : List (List Char)}
    (hp : EndsIn p parts name dropped) (hq : EndsIn q parts name' dropped') :
    t.directoryOf p parts = t.directoryOf q parts := by
  rw [directoryOf, directoryOf, start, start, hp.isAbsolute_eq hq]

/-- A file is moved from one name to another one in the same directory, where no directory stands. -/
theorem moveFile_ok {t' : FileTree} {old new name name' : List Char} {parts : List (List Char)}
    (hold : LeadsTo old parts name) (hnew : LeadsTo new parts name')
    (h : t.moveFile old new = .ok t') :
    ∃ l m content, t.locate old = .ok l ∧ t.locate new = .ok m ∧
      t.entry? l = some (.file content) ∧ t.entry? m ≠ some .directory ∧ m ≠ [] ∧
      t' = (t.erase l).put m (.file content) := by
  have hsame := directoryOf_eq (t := t) hnew.endsIn hold.endsIn
  rw [moveFile, target_of_leadsTo hold, target_of_leadsTo hnew, hsame] at h
  obtain ⟨place, hplace, h⟩ := bind_ok_iff.1 h
  obtain ⟨⟨⟩, hcheck, hplace⟩ := bind_ok_iff.1 hplace
  obtain ⟨a, ha, hplace⟩ := bind_ok_iff.1 hplace
  obtain rfl := Except.ok.inj hplace
  obtain ⟨place', hplace', h⟩ := bind_ok_iff.1 h
  obtain ⟨⟨⟩, hcheck', hplace'⟩ := bind_ok_iff.1 hplace'
  obtain ⟨b, hb, hplace'⟩ := bind_ok_iff.1 hplace'
  obtain rfl : a = b := Except.ok.inj (ha.symm.trans hb)
  obtain rfl := Except.ok.inj hplace'
  obtain ⟨found, hfound, h⟩ := bind_ok_iff.1 h
  obtain ⟨hshort, rfl⟩ := lookUp_ok_iff.1 hfound
  split at h
  · exact absurd h (by simp)
  · exact absurd h (by simp)
  · rename_i content hcontent
    obtain ⟨found', hfound', h⟩ := bind_ok_iff.1 h
    obtain ⟨hshort', rfl⟩ := lookUp_ok_iff.1 hfound'
    rw [Bool.or_self, if_neg Bool.false_ne_true] at h
    split at h
    · exact absurd h (by simp)
    · rename_i hfree
      have hl := (locate_name_ok_iff hold).2 ⟨hcheck, a, ha, hshort, rfl⟩
      have hm := (locate_name_ok_iff hnew).2 ⟨hcheck', a, hsame.trans ha, hshort', rfl⟩
      refine ⟨_, _, content, hl, hm, hcontent, ?_, List.concat_ne_nil _ _, (Except.ok.inj h).symm⟩
      intro hdirectory
      exact hfree (by rw [hdirectory]; rfl)

/-- A file is only moved to a path that ends in its name. -/
theorem exists_leadsTo_of_moveFile {t' : FileTree} {old new : List Char}
    (h : t.moveFile old new = .ok t') : ∃ parts name, LeadsTo new parts name := by
  rw [moveFile] at h
  obtain ⟨place, -, h⟩ := bind_ok_iff.1 h
  obtain ⟨place', hplace', h⟩ := bind_ok_iff.1 h
  cases place with
  | unnamed => exact absurd h (by simp)
  | named l oldSlash =>
      cases place' with
      | unnamed => exact absurd h (by simp)
      | named m newSlash =>
          obtain ⟨found, -, h⟩ := bind_ok_iff.1 h
          split at h
          · exact absurd h (by simp)
          · exact absurd h (by simp)
          · obtain ⟨found', -, h⟩ := bind_ok_iff.1 h
            split at h
            · exact absurd h (by simp)
            · rename_i hslash
              obtain rfl : newSlash = false := by simp_all
              obtain ⟨parts, name, a, hleads, -⟩ := target_ok hplace'
              exact ⟨parts, name, hleads⟩

/-! ## Reading after writing -/

section

variable {t' : FileTree} {path : List Char} {content : List UInt8}

theorem find_of_leadsTo {parts : List (List Char)} {name : List Char} {a : Location}
    (h : LeadsTo path parts name) (hdirectory : t.directoryOf path parts = .ok a) :
    t.find path = check path >>= fun _ =>
      if isTooLong (String.ofList name) then .error .nameTooLong
      else
        match t.entry? (a ++ [String.ofList name]) with
        | some entry => .ok entry
        | none => .error .notFound := by
  rw [find, locate_of_leadsTo h, hdirectory]
  cases check path with
  | error e => rfl
  | ok u =>
      change (if isTooLong (String.ofList name) then Except.error FileError.nameTooLong
        else .ok (a ++ [String.ofList name])) >>= _ = ite _ _ _
      split <;> rfl

theorem read_write (h : t.write path content = .ok t') : t'.read path = .ok content := by
  obtain ⟨parts, name, a, hpath, hcheck, ha, hshort, hfree, rfl⟩ := write_ok h
  have hl : a ++ [String.ofList name] ≠ [] := List.concat_ne_nil _ _
  rw [read, find_of_leadsTo hpath ((KeepsDirectories.put hl hfree _).directoryOf_ok ha), hcheck, hshort,
    entry?_put hl, if_pos rfl]
  rfl

/-- Writing the same file again changes nothing. -/
theorem write_write (h : t.write path content = .ok t') : t'.write path content = .ok t' := by
  obtain ⟨parts, name, a, hpath, hcheck, ha, hshort, hfree, rfl⟩ := write_ok h
  have hl : a ++ [String.ofList name] ≠ [] := List.concat_ne_nil _ _
  have htarget : (t.put (a ++ [String.ofList name]) (.file content)).target path =
      .ok (.named (a ++ [String.ofList name]) false) := by
    rw [target_of_leadsTo hpath, hcheck, (KeepsDirectories.put hl hfree _).directoryOf_ok ha]
    rfl
  have hlook : (t.put (a ++ [String.ofList name]) (.file content)).lookUp (a ++ [String.ofList name]) =
      .ok (some (.file content)) := by
    rw [lookUp_ok_iff, entry?_put hl, if_pos rfl]
    exact ⟨hshort, rfl⟩
  rw [write, htarget]
  simp only [bind, Except.bind, hlook]
  rw [if_neg (by simp), put_put]

/-- Writing a file leaves what is beside it. -/
theorem read_write_sibling {other : List Char} (h : t.write path content = .ok t')
    (hother : AreSiblings path other) : t'.read other = t.read other := by
  obtain ⟨parts, name, a, hpath, -, ha, -, hfree, rfl⟩ := write_ok h
  obtain ⟨parts', name', different, hpath', hother, hne⟩ := hother
  obtain ⟨rfl, hname⟩ := List.append_inj' (hpath'.1.symm.trans hpath.1) rfl
  obtain rfl := (List.cons.inj hname).1
  have hl : a ++ [String.ofList name'] ≠ [] := List.concat_ne_nil _ _
  have hdirectory : t.directoryOf other parts' = .ok a :=
    (directoryOf_eq hother.endsIn hpath.endsIn).trans ha
  have hlocation : a ++ [String.ofList different] ≠ a ++ [String.ofList name'] := by
    intro heq
    have hlast := (List.cons.inj (List.append_cancel_left heq)).1
    exact hne (String.ofList_injective hlast).symm
  rw [read, read, find_of_leadsTo hother ((KeepsDirectories.put hl hfree _).directoryOf_ok hdirectory),
    find_of_leadsTo hother hdirectory, entry?_put hl, if_neg hlocation]

end

/-! ## What writing leaves -/

/-- Nothing but files at some paths is written: all paths lead where they led, and what stands anywhere
else is what stood there. -/
structure OnlyWrites (paths : List (List Char)) (t t' : FileTree) : Prop where
  locate_iff (path : List Char) (l : Location) : t'.locate path = .ok l ↔ t.locate path = .ok l
  entry?_eq (l : Location) (hl : ∀ path ∈ paths, t.locate path ≠ .ok l) : t'.entry? l = t.entry? l
  /-- Reading beside the paths fails as it failed, too. -/
  read_eq (other : List Char) (hother : ∀ path ∈ paths, AreSiblings path other) :
    t'.read other = t.read other

namespace OnlyWrites

variable {t₁ t₂ t₃ : FileTree} {paths more : List (List Char)}

theorem refl (paths : List (List Char)) (t : FileTree) : OnlyWrites paths t t where
  locate_iff _ _ := Iff.rfl
  entry?_eq _ _ := rfl
  read_eq _ _ := rfl

theorem mono (h : OnlyWrites paths t₁ t₂) (hpaths : paths ⊆ more) : OnlyWrites more t₁ t₂ where
  locate_iff := h.locate_iff
  entry?_eq l hl := h.entry?_eq l fun path hpath => hl path (hpaths hpath)
  read_eq other hother := h.read_eq other fun path hpath => hother path (hpaths hpath)

theorem trans (h₁ : OnlyWrites paths t₁ t₂) (h₂ : OnlyWrites more t₂ t₃) :
    OnlyWrites (paths ++ more) t₁ t₃ where
  locate_iff path l := (h₂.locate_iff path l).trans (h₁.locate_iff path l)
  entry?_eq l hl := by
    rw [h₂.entry?_eq l, h₁.entry?_eq l]
    · exact fun path hpath => hl path (List.mem_append_left _ hpath)
    · intro path hpath hlocate
      exact hl path (List.mem_append_right _ hpath) ((h₁.locate_iff path l).1 hlocate)
  read_eq other hother := by
    rw [h₂.read_eq other, h₁.read_eq other]
    · exact fun path hpath => hother path (List.mem_append_left _ hpath)
    · exact fun path hpath => hother path (List.mem_append_right _ hpath)

theorem of_write {t' : FileTree} {path : List Char} {content : List UInt8}
    (h : t.write path content = .ok t') : OnlyWrites [path] t t' where
  locate_iff other l := by
    obtain ⟨parts, name, a, -, -, -, -, hfree, rfl⟩ := write_ok h
    have hl : a ++ [String.ofList name] ≠ [] := List.concat_ne_nil _ _
    exact ⟨(KeepsDirectories.of_put_file hl content).locate_ok,
      (KeepsDirectories.put hl hfree _).locate_ok⟩
  entry?_eq l hother := by
    obtain ⟨parts, name, a, hpath, hcheck, ha, hshort, -, rfl⟩ := write_ok h
    have hlocate : t.locate path = .ok (a ++ [String.ofList name]) :=
      (locate_name_ok_iff hpath).2 ⟨hcheck, a, ha, hshort, rfl⟩
    have hl : a ++ [String.ofList name] ≠ [] := List.concat_ne_nil _ _
    rw [entry?_put hl, if_neg]
    rintro rfl
    exact hother path (List.mem_singleton_self path) hlocate
  read_eq _ hother := read_write_sibling h (hother path (List.mem_singleton_self path))

end OnlyWrites

/-! ## Trees as they are made -/

/-- No two entries stand at one location, and no name has a slash. -/
structure IsProper (t : FileTree) : Prop where
  nodup : (t.entries.map Prod.fst).Nodup
  not_mem_of_mem : ∀ e ∈ t.entries, ∀ name ∈ e.1, '/' ∉ name.toList
  not_mem_workingDirectory : ∀ name ∈ t.workingDirectory, '/' ∉ name.toList

theorem IsProper.erase (h : t.IsProper) (l : Location) : (t.erase l).IsProper where
  nodup := h.nodup.sublist (List.filter_sublist.map _)
  not_mem_of_mem e he := h.not_mem_of_mem e (List.mem_of_mem_filter he)
  not_mem_workingDirectory := h.not_mem_workingDirectory

theorem IsProper.put (h : t.IsProper) (hl : ∀ name ∈ l, '/' ∉ name.toList) :
    (t.put l e).IsProper where
  nodup := by
    change (l :: (t.erase l).entries.map Prod.fst).Nodup
    refine List.nodup_cons.2 ⟨?_, (h.erase l).nodup⟩
    intro hmem
    obtain ⟨e, he, rfl⟩ := List.mem_map.1 hmem
    exact absurd (List.of_mem_filter he) (by simp)
  not_mem_of_mem := by
    rintro entry he
    rcases List.mem_cons.1 he with rfl | he
    · exact hl
    · exact (h.erase l).not_mem_of_mem entry he
  not_mem_workingDirectory := h.not_mem_workingDirectory

theorem not_mem_of_walk {parts : List (List Char)} {a b : Location}
    (ha : ∀ name ∈ a, '/' ∉ name.toList) (hparts : ∀ part ∈ parts, '/' ∉ part)
    (h : t.walk a parts = .ok b) : ∀ name ∈ b, '/' ∉ name.toList := by
  induction parts generalizing a with
  | nil =>
      obtain rfl := Except.ok.inj h
      exact ha
  | cons part parts ih =>
      have hmore : ∀ p ∈ parts, '/' ∉ p := fun p hp => hparts p (List.mem_cons_of_mem _ hp)
      rw [walk] at h
      split at h
      · exact absurd h (by simp)
      · exact absurd h (by simp)
      · split at h
        · exact ih ha hmore h
        · split at h
          · exact ih (fun name hname => ha name (List.dropLast_subset _ hname)) hmore h
          · split at h
            · exact absurd h (by simp)
            · refine ih ?_ hmore h
              intro name hname
              rcases List.mem_append.1 hname with hname | hname
              · exact ha name hname
              · obtain rfl := List.mem_singleton.1 hname
                rw [String.toList_ofList]
                exact hparts part List.mem_cons_self

theorem IsProper.write (h : t.IsProper) {t' : FileTree} {path : List Char} {content : List UInt8}
    (hwrite : t.write path content = .ok t') : t'.IsProper := by
  obtain ⟨parts, name, a, hpath, -, ha, -, -, rfl⟩ := write_ok hwrite
  have hparts : ∀ part ∈ parts ++ [name], '/' ∉ part := by
    intro part hpart
    exact PathText.not_mem_of_mem_split (hpath.1 ▸ hpart)
  have hstart : ∀ name ∈ t.start path, '/' ∉ name.toList := by
    rw [start]
    split
    · exact fun _ hname => absurd hname List.not_mem_nil
    · exact h.not_mem_workingDirectory
  have hdirectory : ∀ name ∈ a, '/' ∉ name.toList := by
    refine not_mem_of_walk hstart ?_ ha
    intro part hpart
    rcases List.mem_append.1 hpart with hpart | hpart
    · exact hparts part (List.mem_append_left _ hpart)
    · obtain rfl := List.mem_singleton.1 hpart
      exact List.not_mem_nil
  apply h.put
  intro n hn
  rcases List.mem_append.1 hn with hn | hn
  · exact hdirectory n hn
  · obtain rfl := List.mem_singleton.1 hn
    rw [String.toList_ofList]
    exact hparts name (List.mem_append_right _ (List.mem_singleton_self name))

end AttributeSchema.FileTree

namespace AttributeSchema

structure ProperTree extends FileTree where
  isProper : toFileTree.IsProper

instance : Coe ProperTree FileTree := ⟨ProperTree.toFileTree⟩

end AttributeSchema
