import AttributeSchema.Proofs.Generator.KnownTypes
import AttributeSchema.Proofs.Generator.Naming
/-!
# Which names schema functions have

The name of a schema function has no capitals, and but for case and underscores it is the name of the type.
It is an identifier if that is one. Types whose names start with a single capital and have no underscores
have functions of different names, so that they are never taken for duplicates of each other.
-/

namespace AttributeSchema.Naming

/-! ## Case -/

@[simp] theorem isCapital_lower (c : Char) : isCapital (lower c) = false := c.isUpper_toLower_eq_false

@[simp] theorem lower_lower (c : Char) : lower (lower c) = lower c := c.toLower_toLower_eq_toLower

theorem lower_inj {c d : Char} (hc : isCapital c = true) (hd : isCapital d = true)
    (h : lower c = lower d) : c = d := by
  have hupper : ∀ a : Char, isCapital a = true → (lower a).toUpper = a := by
    intro a ha
    calc a.toLower.toUpper = a.toUpper := a.toUpper_toLower_eq_toUpper
      _ = a := Char.toUpper_eq_of_not_isLower (Char.not_isLower_of_isUpper ha)
  rw [← hupper c hc, ← hupper d hd, h]

theorem loweredCount_cons_of_eq_false {c : Char} (h : isCapital c = false) (rest : List Char) :
    loweredCount (c :: rest) = 0 := by
  unfold loweredCount
  rw [List.takeWhile_cons_of_neg (by simp [h])]
  rfl

/-- At least the first of the leading capitals is lowered. -/
theorem exists_loweredCount {c : Char} (h : isCapital c = true) (rest : List Char) :
    ∃ n, loweredCount (c :: rest) = n + 1 := by
  have hrun : ((c :: rest).takeWhile isCapital).length = (rest.takeWhile isCapital).length + 1 := by
    rw [List.takeWhile_cons_of_pos h, List.length_cons]
  apply Nat.exists_eq_add_one.2
  unfold loweredCount
  dsimp only
  rw [hrun]
  split <;> omega

theorem camelChars_cons_of_eq_false {c : Char} (h : isCapital c = false) (rest : List Char) :
    camelChars (c :: rest) = c :: rest := by
  rw [camelChars, loweredCount_cons_of_eq_false h]
  rfl

/-- The first character of a name is lowered in any case. -/
theorem camelChars_cons (c : Char) (rest : List Char) :
    ∃ more, camelChars (c :: rest) = lower c :: more := by
  cases hcapital : isCapital c with
  | false => exact ⟨rest, by
      rw [camelChars_cons_of_eq_false hcapital, lower_of_isCapital_eq_false hcapital]⟩
  | true =>
      obtain ⟨n, hn⟩ := exists_loweredCount hcapital rest
      rw [camelChars, hn]
      exact ⟨_, rfl⟩

theorem camelChars_camelChars (s : List Char) : camelChars (camelChars s) = camelChars s := by
  cases s with
  | nil => rfl
  | cons c rest =>
      obtain ⟨more, hmore⟩ := camelChars_cons c rest
      rw [hmore, camelChars_cons_of_eq_false (isCapital_lower c)]

theorem isCapital_of_mem_snakeChar {c d : Char} (h : d ∈ snakeChar c) : isCapital d = false := by
  unfold snakeChar at h
  split at h
  · rcases List.mem_cons.1 h with rfl | h
    · decide
    · rw [List.mem_singleton.1 h, isCapital_lower]
  · rename_i hcapital
    rw [List.mem_singleton.1 h, Bool.eq_false_iff]
    exact hcapital

theorem isCapital_of_mem_snakeChars {s : List Char} {d : Char} (h : d ∈ snakeChars s) :
    isCapital d = false := by
  cases s with
  | nil => exact absurd h List.not_mem_nil
  | cons c rest =>
      rcases List.mem_cons.1 h with rfl | h
      · exact isCapital_lower c
      · obtain ⟨e, -, hd⟩ := List.mem_flatMap.1 h
        exact isCapital_of_mem_snakeChar hd

theorem snakeChars_of_forall {s : List Char} (h : ∀ c ∈ s, isCapital c = false) : snakeChars s = s := by
  cases s with
  | nil => rfl
  | cons c rest =>
      obtain ⟨hc, hrest⟩ := List.forall_mem_cons.1 h
      have hchar : ∀ d ∈ rest, snakeChar d = [d] := fun d hd => if_neg (by simp [hrest d hd])
      rw [snakeChars, lower_of_isCapital_eq_false hc, List.flatMap_congr hchar, List.flatMap_singleton']

theorem snakeChars_snakeChars (s : List Char) : snakeChars (snakeChars s) = snakeChars s :=
  snakeChars_of_forall fun _ => isCapital_of_mem_snakeChars

theorem camelCase_camelCase (name : String) : camelCase (camelCase name) = camelCase name := by
  unfold camelCase
  rw [String.toList_ofList, camelChars_camelChars]

theorem snakeCase_snakeCase (name : String) : snakeCase (snakeCase name) = snakeCase name := by
  unfold snakeCase
  rw [String.toList_ofList, snakeChars_snakeChars]

theorem isCapital_of_mem_attributesName {type : String} {c : Char}
    (h : c ∈ (attributesName type).toList) : isCapital c = false := by
  have hsuffix : (suffix.toList.all fun d => !isCapital d) = true := by decide
  rw [toList_attributesName] at h
  rcases List.mem_append.1 h with h | h
  · exact isCapital_of_mem_snakeChars h
  · simpa using List.all_eq_true.1 hsuffix c h

/-! ## Underscores -/

def withoutUnderscores (s : List Char) : List Char := s.filter (· != '_')

theorem withoutUnderscores_append (s t : List Char) :
    withoutUnderscores (s ++ t) = withoutUnderscores s ++ withoutUnderscores t := List.filter_append ..

theorem withoutUnderscores_snakeChar (c : Char) :
    withoutUnderscores (snakeChar c) = withoutUnderscores [lower c] := by
  cases hcapital : isCapital c with
  | false => rw [snakeChar, if_neg (by simp [hcapital]), lower_of_isCapital_eq_false hcapital]
  | true => rw [snakeChar, if_pos hcapital]; rfl

theorem withoutUnderscores_flatMap_snakeChar (s : List Char) :
    withoutUnderscores (s.flatMap snakeChar) = withoutUnderscores (s.map lower) := by
  induction s with
  | nil => rfl
  | cons c s ih =>
      calc withoutUnderscores ((c :: s).flatMap snakeChar)
          = withoutUnderscores (snakeChar c) ++ withoutUnderscores (s.flatMap snakeChar) := by
            rw [List.flatMap_cons, withoutUnderscores_append]
        _ = withoutUnderscores [lower c] ++ withoutUnderscores (s.map lower) := by
            rw [withoutUnderscores_snakeChar, ih]
        _ = withoutUnderscores ((c :: s).map lower) := by
            rw [← withoutUnderscores_append, List.map_cons, List.singleton_append]

theorem withoutUnderscores_snakeChars (s : List Char) :
    withoutUnderscores (snakeChars s) = withoutUnderscores (s.map lower) := by
  cases s with
  | nil => rfl
  | cons c rest =>
      rw [snakeChars, List.map_cons, ← List.singleton_append, withoutUnderscores_append,
        withoutUnderscores_flatMap_snakeChar, ← withoutUnderscores_append, List.singleton_append]

theorem map_lower_camelChars (s : List Char) : (camelChars s).map lower = s.map lower := by
  rw [camelChars, List.map_append, List.map_map]
  conv_rhs => rw [← List.take_append_drop (loweredCount s) s, List.map_append]
  congr 1
  apply List.map_congr_left
  intro c _
  exact lower_lower c

theorem withoutUnderscores_snakeCase_camelCase (name : String) :
    withoutUnderscores (snakeCase (camelCase name)).toList =
      withoutUnderscores (name.toList.map lower) := by
  rw [snakeCase, camelCase, String.toList_ofList, String.toList_ofList, withoutUnderscores_snakeChars,
    map_lower_camelChars]

/-! ## Identifiers -/

/-- No keyword ends like the name of a schema function. -/
theorem attributesName_not_mem_keywords (type : String) :
    attributesName type ∉ Source.Ahead.keywords := by
  have hkeywords : ∀ word ∈ Source.Ahead.keywords, ¬ suffix.toList <:+ word.toList := by decide +kernel
  intro hmem
  apply hkeywords _ hmem
  rw [toList_attributesName]
  exact List.suffix_append _ _

def IsRaw (name : String) : Prop := ['r', '#'] <+: name.toList

instance (name : String) : Decidable (IsRaw name) := inferInstanceAs (Decidable (_ <+: _))

theorem ident?_attributesName {type : String} (hraw : ¬ IsRaw type)
    (h : Source.Parser.ident? type = some type) :
    Source.Parser.ident? (attributesName type) = some (attributesName type) := by
  rcases Source.isWord_of_ident? h with hplain | ⟨rest, htype, -⟩
  · apply Source.ident?_of_isPlainWord (isPlainWord_attributesName hplain)
    simp [Source.Ahead.isName, attributesName_not_mem_keywords type]
  · exact absurd ⟨rest, htype.symm⟩ hraw

/-! ## Different names -/

theorem snakeChar_append_inj {c d : Char} {s t : List Char} (hc : c ≠ '_') (hd : d ≠ '_')
    (h : snakeChar c ++ s = snakeChar d ++ t) : c = d ∧ s = t := by
  unfold snakeChar at h
  split at h <;> split at h
  · rename_i hcapital hcapital'
    obtain ⟨-, htail⟩ := List.cons.inj h
    obtain ⟨hletter, hrest⟩ := List.cons.inj htail
    exact ⟨lower_inj hcapital hcapital' hletter, hrest⟩
  · exact absurd (List.cons.inj h).1.symm hd
  · exact absurd (List.cons.inj h).1 hc
  · exact List.cons.inj h

theorem snakeChar_ne_nil (c : Char) : snakeChar c ≠ [] := by
  unfold snakeChar
  split <;> exact List.cons_ne_nil _ _

theorem flatMap_snakeChar_inj {s t : List Char} (hs : '_' ∉ s) (ht : '_' ∉ t)
    (h : s.flatMap snakeChar = t.flatMap snakeChar) : s = t := by
  induction s generalizing t with
  | nil =>
      cases t with
      | nil => rfl
      | cons d t => exact absurd (List.append_eq_nil_iff.1 h.symm).1 (snakeChar_ne_nil d)
  | cons c s ih =>
      cases t with
      | nil => exact absurd (List.append_eq_nil_iff.1 h).1 (snakeChar_ne_nil c)
      | cons d t =>
          rw [List.mem_cons, not_or] at hs ht
          obtain ⟨hchar, hrest⟩ := snakeChar_append_inj (Ne.symm hs.1) (Ne.symm ht.1) h
          rw [hchar, ih hs.2 ht.2 hrest]

/-- A name starts with a capital, but not with two, and has no underscores. -/
def HasOneInitial (name : String) : Prop :=
  (name.toList.takeWhile isCapital).length = 1 ∧ '_' ∉ name.toList

instance (name : String) : Decidable (HasOneInitial name) := inferInstanceAs (Decidable (_ ∧ _))

theorem HasOneInitial.cases {name : String} (h : HasOneInitial name) :
    ∃ c rest, name.toList = c :: rest ∧ isCapital c = true ∧ '_' ∉ rest ∧
      (attributesName name).toList = lower c :: rest.flatMap snakeChar ++ suffix.toList := by
  obtain ⟨hrun, hunderscore⟩ := h
  rw [toList_attributesName]
  cases hname : name.toList with
  | nil => simp [hname] at hrun
  | cons c rest =>
      rw [hname] at hrun hunderscore
      have hcount : loweredCount (c :: rest) = 1 := by
        unfold loweredCount
        dsimp only
        rw [hrun]
        rfl
      have hcapital : isCapital c = true := by
        by_contra hc
        rw [List.takeWhile_cons_of_neg hc] at hrun
        exact absurd hrun (by decide)
      refine ⟨c, rest, rfl, hcapital, fun hmem => hunderscore (List.mem_cons_of_mem _ hmem), ?_⟩
      have hcamel : camelChars (c :: rest) = lower c :: rest := by
        rw [camelChars, hcount]
        rfl
      rw [hcamel, snakeChars, lower_lower]

theorem attributesName_injOn {name name' : String} (h : HasOneInitial name) (h' : HasOneInitial name')
    (heq : attributesName name = attributesName name') : name = name' := by
  obtain ⟨c, rest, hname, hcapital, hrest, hfunction⟩ := h.cases
  obtain ⟨c', rest', hname', hcapital', hrest', hfunction'⟩ := h'.cases
  rw [heq, hfunction'] at hfunction
  obtain ⟨hletter, hmore⟩ := List.cons.inj (List.append_cancel_right hfunction)
  rw [← String.toList_inj, hname, hname', lower_inj hcapital hcapital' hletter.symm,
    flatMap_snakeChar_inj hrest hrest' hmore.symm]

end AttributeSchema.Naming

/-! ## Duplicates -/

namespace AttributeSchema.KnownTypes

open Naming

variable {units : List GenerationUnit} {type first second : String}

/-- A type is reported for an earlier one with the same function, which has the same name if the names of
both have one initial. -/
theorem exists_earlier_of_build (h : build units = .error (.duplicateType type first second)) :
    ∃ earlier, [(earlier, first), (type, second)].Sublist (declared units) ∧
      attributesName earlier = attributesName type ∧
      (HasOneInitial earlier → HasOneInitial type → earlier = type) := by
  obtain ⟨type', first', second', ⟨before, after, hsplit, -, earlier, hmem, hname⟩, heq⟩ :=
    build_error_iff.1 h
  obtain ⟨rfl, rfl, rfl⟩ := GeneratorError.duplicateType.inj heq
  refine ⟨earlier, ?_, hname, fun h h' => Naming.attributesName_injOn h h' hname⟩
  rw [hsplit]
  exact (List.singleton_sublist.2 hmem).append (List.singleton_sublist.2 List.mem_cons_self)

/-- Names with one initial only clash if they are the same. -/
theorem exists_build_iff_nodup (h : ∀ d ∈ declared units, HasOneInitial d.1) :
    (∃ known, build units = .ok known) ↔ ((declared units).map (·.1)).Nodup := by
  have hmap : (declared units).map (fun d => attributesName d.1) =
      ((declared units).map (·.1)).map attributesName := by
    rw [List.map_map]
    rfl
  simp only [build_ok_iff, exists_and_left, exists_eq, and_true]
  rw [hmap]
  refine ⟨List.Nodup.of_map _, fun hnodup => (List.nodup_map_iff_inj_on hnodup).2 ?_⟩
  intro name hname name' hname' heq
  obtain ⟨d, hd, rfl⟩ := List.mem_map.1 hname
  obtain ⟨d', hd', rfl⟩ := List.mem_map.1 hname'
  exact Naming.attributesName_injOn (h d hd) (h d' hd') heq

/-- The names of schema functions keep the names of types but for case and underscores, and they are
identifiers where those are. Types with one initial and no underscores never share a function, so that among
them only types of one name are duplicates. -/
theorem attributesName_valid :
    (∀ name : String,
      (∀ c ∈ (attributesName name).toList, isCapital c = false) ∧
      camelCase (camelCase name) = camelCase name ∧
      snakeCase (snakeCase name) = snakeCase name ∧
      withoutUnderscores (snakeCase (camelCase name)).toList =
        withoutUnderscores (name.toList.map lower) ∧
      attributesName name ∉ Source.Ahead.keywords) ∧
    (∀ name : String, ¬ IsRaw name → Source.Parser.ident? name = some name →
      Source.Parser.ident? (attributesName name) = some (attributesName name)) ∧
    (∀ name name' : String, HasOneInitial name → HasOneInitial name' →
      attributesName name = attributesName name' → name = name') ∧
    (∀ (units : List GenerationUnit) (type first second : String),
      build units = .error (.duplicateType type first second) →
        ∃ earlier, [(earlier, first), (type, second)].Sublist (declared units) ∧
          attributesName earlier = attributesName type ∧
          (HasOneInitial earlier → HasOneInitial type → earlier = type)) ∧
    ∀ units : List GenerationUnit, (∀ d ∈ declared units, HasOneInitial d.1) →
      ((∃ known, build units = .ok known) ↔ ((declared units).map (·.1)).Nodup) := by
  refine ⟨fun name => ⟨fun c => isCapital_of_mem_attributesName, camelCase_camelCase name,
    snakeCase_snakeCase name, withoutUnderscores_snakeCase_camelCase name,
    attributesName_not_mem_keywords name⟩, ?_, ?_, ?_, ?_⟩
  · exact fun name hraw hname => ident?_attributesName hraw hname
  · exact fun name name' h h' heq => attributesName_injOn h h' heq
  · exact fun units type first second h => exists_earlier_of_build h
  · exact fun units h => exists_build_iff_nodup h

/-- A type whose lowered name is a keyword, one with a letter beyond ASCII, and one that two units have. -/
def sharingUnits : List GenerationUnit :=
  [⟨"first", [], emptyStruct "Type", [emptyStruct "HttpAuth"]⟩,
    ⟨"second", [], emptyStruct "TypÄnderung", [emptyStruct "HttpAuth"]⟩]

theorem attributesName_valid_sharing :
    Source.Parser.ident? (attributesName "Type") = some "type_attributes" ∧
      attributesName "Type" ≠ attributesName "TypÄnderung" ∧
      [("HttpAuth", "first"), ("HttpAuth", "second")].Sublist (declared sharingUnits) ∧
      (∃ known, build nestingUnits = .ok known) ∧
      ¬ HasOneInitial "HTTPAuth" ∧ attributesName "HTTPAuth" = attributesName "HttpAuth" := by
  obtain ⟨-, hident, hinjective, hduplicate, hdistinct⟩ := attributesName_valid
  refine ⟨?_, ?_, ?_, (hdistinct nestingUnits (by decide +kernel)).2 (by decide +kernel),
    by decide +kernel, by decide +kernel⟩
  · exact hident "Type" (by decide +kernel) (by decide +kernel)
  · intro heq
    exact absurd (hinjective _ _ (by decide +kernel) (by decide +kernel) heq) (by decide)
  · obtain ⟨earlier, hsublist, -, hsame⟩ :=
      hduplicate sharingUnits "HttpAuth" "first" "second" (by decide +kernel)
    have hinitials : ∀ d ∈ declared sharingUnits, HasOneInitial d.1 := by decide +kernel
    have hearlier := hinitials _ (hsublist.subset List.mem_cons_self)
    rwa [hsame hearlier (by decide +kernel)] at hsublist

end AttributeSchema.KnownTypes
