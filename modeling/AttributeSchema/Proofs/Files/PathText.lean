import AttributeSchema.Files.PathText
import Mathlib.Data.List.Basic
/-!
# Parts of paths

The parts of a path determine it, and parts without slashes are the parts of their path. So the name at the
end of a path can be told from the directory in front of it, and another extension changes the name alone.
-/

namespace AttributeSchema.PathText

/-! ## Splitting -/

theorem split_ne_nil (s : List Char) : split s ≠ [] := by
  induction s with
  | nil => exact List.cons_ne_nil _ _
  | cons c s ih =>
      rw [split.eq_def]
      split
      · exact List.cons_ne_nil _ _
      · exact List.cons_ne_nil _ _
      · split <;> exact List.cons_ne_nil _ _

theorem split_slash (s : List Char) : split ('/' :: s) = [] :: split s := rfl

theorem split_cons {c : Char} (h : c ≠ '/') (s : List Char) :
    split (c :: s) = (c :: (split s).head (split_ne_nil s)) :: (split s).tail := by
  rw [split]
  · split
    · rename_i hnil
      exact absurd hnil (split_ne_nil s)
    · rename_i part more hcons
      simp only [hcons, List.head_cons, List.tail_cons]
  · exact h

theorem split_of_not_mem {s : List Char} (h : '/' ∉ s) : split s = [s] := by
  induction s with
  | nil => rfl
  | cons c s ih =>
      have hc : c ≠ '/' := fun hc => h (hc ▸ List.mem_cons_self)
      have hmore := ih fun hs => h (List.mem_cons_of_mem _ hs)
      rw [split_cons hc]
      simp only [hmore, List.head_cons, List.tail_cons]

theorem split_append_slash (a b : List Char) : split (a ++ '/' :: b) = split a ++ split b := by
  induction a with
  | nil => rfl
  | cons c a ih =>
      by_cases hc : c = '/'
      · rw [hc, List.cons_append, split_slash, split_slash, ih, List.cons_append]
      · rw [List.cons_append, split_cons hc, split_cons hc, List.cons_append]
        simp only [ih, List.head_append_of_ne_nil (split_ne_nil a),
          List.tail_append_of_ne_nil (split_ne_nil a)]

theorem not_mem_of_mem_split {s part : List Char} (h : part ∈ split s) : '/' ∉ part := by
  induction s generalizing part with
  | nil =>
      obtain rfl := List.mem_singleton.1 h
      exact List.not_mem_nil
  | cons c s ih =>
      by_cases hc : c = '/'
      · rw [hc, split_slash] at h
        rcases List.mem_cons.1 h with rfl | h
        · exact List.not_mem_nil
        · exact ih h
      · rw [split_cons hc] at h
        rcases List.mem_cons.1 h with rfl | h
        · intro hmem
          rcases List.mem_cons.1 hmem with hslash | hmem
          · exact hc hslash.symm
          · exact ih (List.head_mem _) hmem
        · exact ih (List.mem_of_mem_tail h)

theorem split_unsplit {parts : List (List Char)} (hne : parts ≠ [])
    (h : ∀ part ∈ parts, '/' ∉ part) : split (unsplit parts) = parts := by
  induction parts with
  | nil => exact absurd rfl hne
  | cons part more ih =>
      have hpart : split part = [part] := split_of_not_mem (h part List.mem_cons_self)
      cases more with
      | nil =>
          rw [unsplit, List.intercalate_singleton]
          exact hpart
      | cons next more =>
          have hmore := ih (List.cons_ne_nil _ _) fun p hp => h p (List.mem_cons_of_mem _ hp)
          have hunsplit : unsplit (part :: next :: more) = part ++ '/' :: unsplit (next :: more) := by
            rw [unsplit, List.intercalate_cons_cons, List.append_assoc]
            rfl
          rw [hunsplit, split_append_slash, hpart, hmore]
          rfl

/-- Whether a path starts at the root is seen in its parts. -/
theorem isAbsolute_iff {s : List Char} :
    isAbsolute s = true ↔ ∃ part more, split s = [] :: part :: more := by
  cases s with
  | nil => simp [isAbsolute, split]
  | cons c s =>
      by_cases hc : c = '/'
      · obtain ⟨part, more, hsplit⟩ := List.exists_cons_of_ne_nil (split_ne_nil s)
        simp [hc, isAbsolute, split_slash, hsplit]
      · rw [split_cons hc]
        simp [isAbsolute, hc]

/-! ## Names in directories -/

def baseParts (directory : List Char) : List (List Char) :=
  if directory.isEmpty then []
  else if directory.getLast? == some '/' then (split directory).dropLast
  else split directory

theorem split_join {name : List Char} (hname : '/' ∉ name) (directory : List Char) :
    split (join directory name) = baseParts directory ++ [name] := by
  have hrelative : isAbsolute name = false := by
    rw [isAbsolute, beq_eq_false_iff_ne]
    intro h
    exact hname (List.mem_of_mem_head? h)
  rw [join, hrelative, Bool.false_or, baseParts]
  split
  · exact split_of_not_mem hname
  · split
    · rename_i hlast
      obtain ⟨front, rfl⟩ := List.getLast?_eq_some_iff.1 (beq_iff_eq.1 hlast)
      rw [List.append_assoc, List.singleton_append, split_append_slash, split_append_slash,
        split_of_not_mem hname]
      exact congrArg (· ++ [name]) List.dropLast_concat.symm
    · rw [split_append_slash, split_of_not_mem hname]

/-! ## Extensions -/

theorem splitExtension_append {stem extension : List Char} (hne : stem ≠ [])
    (hpoint : '.' ∉ extension) :
    splitExtension (stem ++ '.' :: extension) = (stem, some extension) := by
  have hreverse : (stem ++ '.' :: extension).reverse =
      extension.reverse ++ '.' :: stem.reverse := by
    rw [List.reverse_append, List.reverse_cons, List.append_assoc, List.singleton_append]
  have hkept : ∀ c ∈ extension.reverse, (c != '.') = true := by
    intro c hc
    apply bne_iff_ne.2
    rintro rfl
    exact hpoint (List.mem_reverse.1 hc)
  have hafter : (extension.reverse ++ '.' :: stem.reverse).takeWhile (· != '.') =
      extension.reverse := by
    rw [List.takeWhile_append_of_pos hkept, List.takeWhile_cons_of_neg (by decide), List.append_nil]
  have hbefore : (extension.reverse ++ '.' :: stem.reverse).dropWhile (· != '.') =
      '.' :: stem.reverse := by
    rw [List.dropWhile_append_of_pos hkept, List.dropWhile_cons_of_neg (by decide)]
  have hstem : ('.' :: stem.reverse).reverse.dropLast = stem := by
    rw [List.reverse_cons, List.reverse_reverse, List.dropLast_concat]
  rw [splitExtension, hreverse, hafter, hbefore, hstem, List.reverse_reverse]
  cases stem with
  | nil => exact absurd rfl hne
  | cons c stem => rfl

/-- A name with an extension is its stem, a point and the extension, in which there is no point. -/
theorem eq_of_splitExtension {name stem extension : List Char}
    (h : splitExtension name = (stem, some extension)) :
    name = stem ++ '.' :: extension ∧ stem ≠ [] ∧ '.' ∉ extension := by
  rw [splitExtension] at h
  split at h
  · exact absurd h (by simp)
  · rename_i hne
    obtain ⟨rfl, hafter⟩ := Prod.mk.inj h
    have hafter := Option.some.inj hafter
    have hparts := List.takeWhile_append_dropWhile (p := (· != '.')) (l := name.reverse)
    cases hrest : name.reverse.dropWhile (· != '.') with
    | nil => exact absurd (by rw [hrest]; rfl) hne
    | cons c rest =>
        have hpoint := List.head?_dropWhile_not (· != '.') name.reverse
        rw [hrest] at hparts hpoint
        have hc : c = '.' := by simpa using hpoint
        have hstem : (c :: rest).reverse.dropLast = rest.reverse := by
          rw [List.reverse_cons, List.dropLast_concat]
        rw [hrest, hstem] at hne
        rw [hstem]
        refine ⟨?_, hne, ?_⟩
        · subst hafter hc
          calc name = (name.reverse.takeWhile (· != '.') ++ '.' :: rest).reverse := by
                rw [hparts, List.reverse_reverse]
            _ = rest.reverse ++ '.' :: (name.reverse.takeWhile (· != '.')).reverse := by
                rw [List.reverse_append, List.reverse_cons, List.append_assoc]
                rfl
        · subst hafter
          intro hmem
          have hall := List.all_takeWhile (l := name.reverse) (p := (· != '.'))
          exact absurd (List.all_eq_true.1 hall '.' (List.mem_reverse.1 hmem)) (by decide)

/-- A name is its stem, with an extension behind it if it has one. -/
theorem splitExtension_cases (name : List Char) :
    (splitExtension name).1 = name ∨
      ∃ extension, name = (splitExtension name).1 ++ '.' :: extension ∧ '.' ∉ extension := by
  cases h : splitExtension name with
  | mk stem extension =>
      cases extension with
      | none =>
          left
          rw [splitExtension] at h
          split at h
          · exact (Prod.mk.inj h).1.symm
          · exact absurd (Prod.mk.inj h).2 (by simp)
      | some extension =>
          obtain ⟨hname, -, hpoint⟩ := eq_of_splitExtension h
          exact .inr ⟨extension, hname, hpoint⟩

theorem mem_of_mem_stem {name : List Char} {c : Char} (h : c ∈ (splitExtension name).1) :
    c ∈ name := by
  rcases splitExtension_cases name with hstem | ⟨extension, hname, -⟩
  · rwa [hstem] at h
  · rw [hname]
    exact List.mem_append_left _ h

/-- With an extension that has a point in it, a name is another one. -/
theorem stem_append_ne {name extension : List Char} (hpoint : '.' ∈ extension) :
    (splitExtension name).1 ++ '.' :: extension ≠ name := by
  intro heq
  rcases splitExtension_cases name with hstem | ⟨old, hname, hnone⟩
  · rw [hstem] at heq
    have hlength := congrArg List.length heq
    simp at hlength
  · obtain ⟨-, rfl⟩ := List.cons.inj (List.append_cancel_left (heq.trans hname))
    exact hnone hpoint

theorem isName_of_length {name : List Char} (h : 2 < name.length) : isName name = true := by
  have hempty : name ≠ [] := fun h' => by simp [h'] at h
  have hpoint : name ≠ ['.'] := fun h' => by simp [h'] at h
  have hpoints : name ≠ ['.', '.'] := fun h' => by simp [h'] at h
  simp [isName, isMeaningful, hempty, hpoint, hpoints]

/-- A name stands at the end of a path. Behind it there may be parts that have no meaning. -/
structure EndsIn (path : List Char) (parts : List (List Char)) (name : List Char)
    (dropped : List (List Char)) : Prop where
  split_eq : split path = parts ++ name :: dropped
  isName : isName name = true
  dropped_eq : ∀ part ∈ dropped, isMeaningful part = false

theorem isMeaningful_of_isName {name : List Char} (h : isName name = true) :
    isMeaningful name = true :=
  (Bool.and_eq_true_iff.1 h).1

theorem ne_nil_of_isMeaningful {part : List Char} (h : isMeaningful part = true) : part ≠ [] := by
  rintro rfl
  exact absurd h (by decide)

theorem dropMeaningless_append {part : List Char} (hpart : isMeaningful part = true)
    {dropped : List (List Char)} (hdropped : ∀ p ∈ dropped, isMeaningful p = false)
    (before : List (List Char)) :
    dropMeaningless (dropped ++ part :: before) = part :: before := by
  induction dropped with
  | nil =>
      cases before with
      | nil => exact if_neg (by simpa using ne_nil_of_isMeaningful hpart)
      | cons first before => exact if_pos hpart
  | cons p dropped ih =>
      obtain ⟨hp, hmore⟩ := List.forall_mem_cons.1 hdropped
      rw [List.cons_append, dropMeaningless, if_neg (by simp [hp]), ih hmore]
      exact List.append_ne_nil_of_right_ne_nil _ (List.cons_ne_nil _ _)

theorem exists_dropped {parts : List (List Char)} {part : List Char} {before : List (List Char)}
    (h : dropMeaningless parts = part :: before) :
    ∃ dropped, parts = dropped ++ part :: before ∧ ∀ p ∈ dropped, isMeaningful p = false := by
  fun_induction dropMeaningless parts with
  | case1 => exact absurd h (by simp)
  | case2 => exact absurd h (by simp)
  | case3 => exact ⟨[], h, by simp⟩
  | case4 => exact ⟨[], h, by simp⟩
  | case5 p parts hne hp ih =>
      obtain ⟨dropped, rfl, hdropped⟩ := ih h
      exact ⟨p :: dropped, rfl, List.forall_mem_cons.2 ⟨by simpa using hp, hdropped⟩⟩

section

variable {path name : List Char} {parts dropped : List (List Char)}

theorem EndsIn.reversedParts (h : EndsIn path parts name dropped) :
    reversedParts path = name :: parts.reverse := by
  have hdropped : ∀ p ∈ dropped.reverse, isMeaningful p = false := fun p hp =>
    h.dropped_eq p (List.mem_reverse.1 hp)
  rw [PathText.reversedParts, h.split_eq, List.reverse_append, List.reverse_cons, List.append_assoc,
    List.singleton_append, dropMeaningless_append (isMeaningful_of_isName h.isName) hdropped]

theorem fileName?_eq_some_iff :
    fileName? path = some name ↔ ∃ parts dropped, EndsIn path parts name dropped := by
  constructor
  · intro h
    rw [fileName?] at h
    split at h
    · exact absurd h (by simp)
    · rename_i part before hparts
      obtain ⟨hname, h⟩ := Option.ite_none_right_eq_some.1 h
      obtain rfl := Option.some.inj h
      obtain ⟨dropped, hsplit, hdropped⟩ := exists_dropped hparts
      refine ⟨before.reverse, dropped.reverse, ?_, hname, fun p hp => ?_⟩
      · rw [List.reverse_eq_iff] at hsplit
        simpa using hsplit
      · exact hdropped p (List.mem_reverse.1 hp)
  · rintro ⟨parts, dropped, h⟩
    rw [fileName?, h.reversedParts]
    exact if_pos h.isName

theorem EndsIn.isAbsolute_iff (h : EndsIn path parts name dropped) :
    isAbsolute path = true ↔ parts.head? = some [] := by
  have hne := ne_nil_of_isMeaningful (isMeaningful_of_isName h.isName)
  rw [PathText.isAbsolute_iff, h.split_eq]
  cases parts with
  | nil => simp [hne]
  | cons first more => cases more <;> simp

end

/-- Another extension changes the name alone, and nothing stands behind it any more. -/
theorem EndsIn.split_withExtension {path name extension : List Char} {parts dropped : List (List Char)}
    (h : EndsIn path parts name dropped) (hslash : '/' ∉ extension) :
    split (withExtension path extension) =
      parts ++ [(splitExtension name).1 ++ '.' :: extension] := by
  have hparts : ∀ part ∈ parts ++ name :: dropped, '/' ∉ part := by
    intro part hpart
    exact not_mem_of_mem_split (h.split_eq ▸ hpart)
  have hpath : withExtension path extension =
      unsplit (parts ++ [(splitExtension name).1 ++ '.' :: extension]) := by
    rw [withExtension, h.reversedParts]
    simp only [h.isName, if_true, List.reverse_cons, List.reverse_reverse]
  rw [hpath]
  apply split_unsplit (by simp)
  intro part hpart
  rcases List.mem_append.1 hpart with hpart | hpart
  · exact hparts part (List.mem_append_left _ hpart)
  · obtain rfl := List.mem_singleton.1 hpart
    have hstem : '/' ∉ (splitExtension name).1 := fun hmem =>
      hparts name (List.mem_append_right _ List.mem_cons_self) (mem_of_mem_stem hmem)
    simp [hstem, hslash]

/-- Without a name there is nothing that could get another extension. -/
theorem withExtension_of_fileName? {path : List Char} (h : fileName? path = none)
    (extension : List Char) : withExtension path extension = path := by
  rw [fileName?] at h
  rw [withExtension]
  cases hparts : reversedParts path with
  | nil => rfl
  | cons part before =>
      have hname : ¬ isName part = true := by simpa [hparts] using h
      exact if_neg hname

theorem splitExtension_of_extension? {name extension : List Char} (hslash : '/' ∉ name)
    (h : extension? name = some extension) :
    isName name = true ∧ ∃ stem, splitExtension name = (stem, some extension) := by
  obtain ⟨file, hfile, hextension⟩ := Option.bind_eq_some_iff.1 h
  rw [fileName?, reversedParts, split_of_not_mem hslash, List.reverse_singleton, dropMeaningless] at hfile
  split at hfile
  · exact absurd hfile (by simp)
  · rename_i hparts
    split at hparts
    · exact absurd hparts (by simp)
    · obtain ⟨rfl, -⟩ := List.cons.inj hparts
      split at hfile
      · rename_i hname
        obtain rfl := Option.some.inj hfile
        exact ⟨hname, _, Prod.ext rfl hextension⟩
      · exact absurd hfile (by simp)

/-! ## Paths side by side -/

def LeadsTo (path : List Char) (parts : List (List Char)) (name : List Char) : Prop :=
  split path = parts ++ [name] ∧ isName name = true

/-- Two paths lead to different names in one directory. -/
def AreSiblings (p q : List Char) : Prop :=
  ∃ parts a b, LeadsTo p parts a ∧ LeadsTo q parts b ∧ a ≠ b

theorem LeadsTo.endsIn {path name : List Char} {parts : List (List Char)}
    (h : LeadsTo path parts name) : EndsIn path parts name [] :=
  ⟨h.1, h.2, by simp⟩

theorem EndsIn.isAbsolute_eq {p q a b : List Char} {parts dropped dropped' : List (List Char)}
    (hp : EndsIn p parts a dropped) (hq : EndsIn q parts b dropped') : isAbsolute p = isAbsolute q := by
  rw [Bool.eq_iff_iff, hp.isAbsolute_iff, hq.isAbsolute_iff]

/-- Paths into one directory have the same path above them. -/
theorem EndsIn.parent?_eq {p q a b : List Char} {parts dropped dropped' : List (List Char)}
    (hp : EndsIn p parts a dropped) (hq : EndsIn q parts b dropped') : parent? p = parent? q := by
  rw [parent?, parent?, hp.reversedParts, hq.reversedParts, hp.isAbsolute_eq hq]

theorem parent?_eq {p q a b : List Char} {parts : List (List Char)} (hp : LeadsTo p parts a)
    (hq : LeadsTo q parts b) : parent? p = parent? q :=
  hp.endsIn.parent?_eq hq.endsIn

theorem AreSiblings.ne {p q : List Char} (h : AreSiblings p q) : p ≠ q := by
  rintro rfl
  obtain ⟨parts, a, b, hp, hq, hne⟩ := h
  have hnames : [a] = [b] := List.append_cancel_left (hp.1.symm.trans hq.1)
  exact hne (List.singleton_inj.1 hnames)

theorem AreSiblings.symm {p q : List Char} (h : AreSiblings p q) : AreSiblings q p := by
  obtain ⟨parts, a, b, hp, hq, hne⟩ := h
  exact ⟨parts, b, a, hq, hp, hne.symm⟩

end AttributeSchema.PathText
