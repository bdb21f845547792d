import AttributeSchema.Proofs.Generator.Registry
/-!
# What the registry knows

The registry of some units has one entry for each type on which a unit depends, and there is none if two
types of all units generate the same schema function. The first type with a function that an earlier type
has is reported then, with the units of both.
-/

namespace AttributeSchema.KnownTypes

open Naming (attributesName)

variable {units : List GenerationUnit} {known : KnownTypes}

/-! ## The first duplicate -/

/-- The first type whose schema function an earlier type has, and the units of the earlier and of that one. -/
def IsFirstDuplicate (declared : List (String × String)) (type first second : String) : Prop :=
  ∃ before after, declared = before ++ (type, second) :: after ∧
    (before.map fun d => attributesName d.1).Nodup ∧
    ∃ earlier, (earlier, first) ∈ before ∧ attributesName earlier = attributesName type

/-- What is found at a type, among some others or among those seen before them. -/
def IsTaken (seen : SortedMap String) (before : List (String × String)) (type first : String) : Prop :=
  (∃ earlier, (earlier, first) ∈ before ∧ attributesName earlier = attributesName type) ∨
    seen.get? (attributesName type) = some first

theorem isTaken_cons {seen : SortedMap String} {before : List (String × String)}
    {type first earlier unit : String} (hnew : seen.get? (attributesName earlier) = none) :
    IsTaken seen ((earlier, unit) :: before) type first ↔
      IsTaken (seen.insert (attributesName earlier) unit) before type first := by
  rw [IsTaken, IsTaken, SortedMap.get?_insert]
  constructor
  · rintro (⟨other, hmem, hname⟩ | hseen)
    · rcases List.mem_cons.1 hmem with heq | hmem
      · obtain ⟨rfl, rfl⟩ := Prod.mk.inj heq
        exact .inr (if_pos hname.symm)
      · exact .inl ⟨other, hmem, hname⟩
    · have hne : attributesName type ≠ attributesName earlier := by
        intro heq
        rw [heq, hnew] at hseen
        exact absurd hseen (by simp)
      exact .inr (by rw [if_neg hne, hseen])
  · rintro (⟨other, hmem, hname⟩ | hseen)
    · exact .inl ⟨other, List.mem_cons_of_mem _ hmem, hname⟩
    · split at hseen
      · rename_i hname
        obtain rfl := Option.some.inj hseen
        exact .inl ⟨earlier, List.mem_cons_self, hname.symm⟩
      · exact .inr hseen

theorem isTaken_nil {seen : SortedMap String} {type first : String} :
    IsTaken seen [] type first ↔ seen.get? (attributesName type) = some first := by
  simp [IsTaken]

theorem checkDistinct_error_iff {declared : List (String × String)} {seen : SortedMap String}
    {e : GeneratorError} :
    checkDistinct seen declared = .error e ↔
      ∃ before type second after first, declared = before ++ (type, second) :: after ∧
        checkDistinct seen before = .ok () ∧ IsTaken seen before type first ∧
        e = .duplicateType type first second := by
  induction declared generalizing seen with
  | nil => simp [checkDistinct]
  | cons d rest ih =>
      obtain ⟨type, unit⟩ := d
      rw [checkDistinct]
      simp only [List.cons_eq_append_iff]
      cases hseen : seen.get? (attributesName type) with
      | some first =>
          constructor
          · intro h
            exact ⟨[], type, unit, rest, first, .inl ⟨rfl, rfl⟩, rfl, isTaken_nil.2 hseen,
              (Except.error.inj h).symm⟩
          · rintro ⟨before, _, _, _, _, ⟨rfl, heq⟩ | ⟨before, rfl, -⟩, hbefore, htaken, rfl⟩
            · cases heq
              rw [isTaken_nil, hseen] at htaken
              obtain rfl := Option.some.inj htaken
              rfl
            · rw [checkDistinct, hseen] at hbefore
              exact absurd hbefore (by simp)
      | none =>
          simp only [ih]
          constructor
          · rintro ⟨before, other, second, after, first, rfl, hbefore, htaken, rfl⟩
            refine ⟨(type, unit) :: before, other, second, after, first, .inr ⟨before, rfl, rfl⟩, ?_,
              (isTaken_cons hseen).2 htaken, rfl⟩
            rw [checkDistinct, hseen]
            exact hbefore
          · rintro ⟨before, other, second, after, first, ⟨rfl, heq⟩ | ⟨before, rfl, rfl⟩, hbefore,
              htaken, rfl⟩
            · cases heq
              rw [isTaken_nil, hseen] at htaken
              exact absurd htaken (by simp)
            · rw [checkDistinct, hseen] at hbefore
              exact ⟨before, other, second, after, first, rfl, hbefore, (isTaken_cons hseen).1 htaken, rfl⟩

/-- There is no registry exactly if a type has a function that an earlier type has. The first such type is
reported. -/
theorem build_error_iff {e : GeneratorError} :
    build units = .error e ↔ ∃ type first second, IsFirstDuplicate (declared units) type first second ∧
      e = .duplicateType type first second := by
  have hbuild : build units = .error e ↔ checkDistinct .empty (declared units) = .error e := by
    rw [build]
    cases checkDistinct .empty (declared units) with
    | error e' => simp
    | ok done => simp
  have hdistinct (before : List (String × String)) : checkDistinct .empty before = .ok () ↔
      (before.map fun d => attributesName d.1).Nodup := by
    simp only [checkDistinct_ok_iff, SortedMap.get?_empty, implies_true, and_true]
  have htaken (before : List (String × String)) (type first : String) :
      IsTaken .empty before type first ↔
        ∃ earlier, (earlier, first) ∈ before ∧ attributesName earlier = attributesName type := by
    simp [IsTaken]
  rw [hbuild, checkDistinct_error_iff]
  simp only [hdistinct, htaken, IsFirstDuplicate]
  constructor
  · rintro ⟨before, type, second, after, first, hsplit, hnodup, hearlier, rfl⟩
    exact ⟨type, first, second, ⟨before, after, hsplit, hnodup, hearlier⟩, rfl⟩
  · rintro ⟨type, first, second, ⟨before, after, hsplit, hnodup, hearlier⟩, rfl⟩
    exact ⟨before, type, second, after, first, hsplit, hnodup, hearlier, rfl⟩

/-! ## Entries -/

/-- What the registry of some units knows: every type on which a unit depends, and nothing else. -/
structure IsRegistry (units : List GenerationUnit) (known : KnownTypes) : Prop where
  sorted_names : known.names.Pairwise (· < ·)
  names_perm : known.names.Perm (units.flatMap fun u => u.dependsOn.map Descriptor.name)
  size_eq : known.size = (units.flatMap fun u => u.dependsOn).length
  contains_iff (name : String) :
    known.contains name = true ↔ ∃ u ∈ units, ∃ t ∈ u.dependsOn, t.name = name
  existsUnique_unit (name : String) (h : known.contains name = true) :
    ∃! u, u ∈ units ∧ (∃ t ∈ u.dependsOn, t.name = name) ∧ known.owner? name = some u.name
  not_contains_object (u : GenerationUnit) (hu : u ∈ units) : known.contains u.object.name = false

theorem owner?_iff (h : build units = .ok known) {name owner : String} :
    known.owner? name = some owner ↔ ∃ u ∈ units, u.name = owner ∧ ∃ t ∈ u.dependsOn, t.name = name := by
  constructor
  · exact mem_dependsOn_of_owner? h
  · rintro ⟨u, hu, rfl, t, ht, rfl⟩
    obtain rfl := (build_ok_iff.1 h).2
    apply SortedMap.get?_ofList_of_mem (nodup_dependencies h)
    exact List.mem_flatMap.2 ⟨u, hu, List.mem_map_of_mem ht⟩

theorem contains_iff (h : build units = .ok known) {name : String} :
    known.contains name = true ↔ ∃ u ∈ units, ∃ t ∈ u.dependsOn, t.name = name := by
  constructor
  · intro hknown
    obtain ⟨owner, howner⟩ := exists_owner?_of_contains hknown
    obtain ⟨u, hu, -, ht⟩ := (owner?_iff h).1 howner
    exact ⟨u, hu, ht⟩
  · rintro ⟨u, hu, ht⟩
    exact Option.isSome_iff_exists.2 ⟨u.name, (owner?_iff h).2 ⟨u, hu, rfl, ht⟩⟩

theorem names_perm (h : build units = .ok known) :
    known.names.Perm (units.flatMap fun u => u.dependsOn.map Descriptor.name) := by
  have hnames : (dependencies units).map (·.1) =
      units.flatMap fun u => u.dependsOn.map Descriptor.name := by
    rw [dependencies, List.map_flatMap]
    simp only [List.map_map, Function.comp_def]
  rw [← hnames]
  obtain rfl := (build_ok_iff.1 h).2
  exact SortedMap.keys_ofList_perm (nodup_dependencies h)

/-- A primary type is not known, also not as a type on which another unit depends. -/
theorem not_contains_object (h : build units = .ok known) {u : GenerationUnit} (hu : u ∈ units) :
    known.contains u.object.name = false := by
  rw [Bool.eq_false_iff]
  intro hknown
  obtain ⟨v, hv, t, ht, hname⟩ := (contains_iff h).1 hknown
  obtain rfl := eq_of_type_eq h hv hu (List.mem_cons_of_mem _ ht) List.mem_cons_self hname
  have htypes := (List.nodup_flatMap.1 (nodup_types h)).1 v hv
  rw [GenerationUnit.types, List.map_cons, List.nodup_cons] at htypes
  exact htypes.1 (hname ▸ List.mem_map_of_mem ht)

theorem isRegistry_of_build (h : build units = .ok known) : IsRegistry units known where
  sorted_names := known.owners.sorted_keys
  names_perm := names_perm h
  size_eq := by
    have hlength := (names_perm h).length_eq
    rw [names, SortedMap.keys, List.length_map] at hlength
    rw [size, SortedMap.size, hlength]
    simp only [List.length_flatMap, List.length_map]
  contains_iff _ := contains_iff h
  existsUnique_unit name hknown := by
    obtain ⟨u, hu, t, ht, rfl⟩ := (contains_iff h).1 hknown
    refine ⟨u, ⟨hu, ⟨t, ht, rfl⟩, (owner?_iff h).2 ⟨u, hu, rfl, t, ht, rfl⟩⟩, ?_⟩
    rintro v ⟨hv, ⟨s, hs, hname⟩, -⟩
    exact eq_of_type_eq h hv hu (List.mem_cons_of_mem _ hs) (List.mem_cons_of_mem _ ht) hname
  not_contains_object _ hu := not_contains_object h hu

/-- A registry is built exactly if all schema functions have different names, and it then knows what the
units depend on. Else the first type with a function of an earlier type is reported. -/
theorem build_exact (units : List GenerationUnit) :
    ((∃ known, build units = .ok known) ↔
      ((declared units).map fun d => attributesName d.1).Nodup) ∧
    (∀ known, build units = .ok known → IsRegistry units known) ∧
    ∀ e, build units = .error e ↔ ∃ type first second,
      IsFirstDuplicate (declared units) type first second ∧ e = .duplicateType type first second := by
  refine ⟨?_, fun _ => isRegistry_of_build, fun _ => build_error_iff⟩
  simp only [build_ok_iff, exists_and_left, exists_eq, and_true]

def emptyStruct (name : String) : Descriptor := .ofFields name name []

def nestingUnits : List GenerationUnit :=
  [⟨"first", [], emptyStruct "First", [emptyStruct "Inner"]⟩,
    ⟨"second", [], emptyStruct "Second", [emptyStruct "Other"]⟩]

def acronymUnits : List GenerationUnit :=
  [⟨"auth", [], emptyStruct "Auth", [emptyStruct "HTTPAuth", emptyStruct "HttpAuth"]⟩]

theorem build_exact_acronym :
    (∃ known, build nestingUnits = .ok known ∧ IsRegistry nestingUnits known ∧
      known.contains "Other" = true) ∧
    IsFirstDuplicate (declared acronymUnits) "HttpAuth" "auth" "auth" ∧
    build acronymUnits = .error (.duplicateType "HttpAuth" "auth" "auth") := by
  obtain ⟨hbuilt, hknows, -⟩ := build_exact nestingUnits
  obtain ⟨known, hknown⟩ := hbuilt.2 (by decide +kernel)
  have hregistry := hknows known hknown
  have hother : known.contains "Other" = true :=
    (hregistry.contains_iff "Other").2 ⟨_, List.mem_cons_of_mem _ List.mem_cons_self,
      emptyStruct "Other", List.mem_singleton_self _, rfl⟩
  have hduplicate : IsFirstDuplicate (declared acronymUnits) "HttpAuth" "auth" "auth" :=
    ⟨[("Auth", "auth"), ("HTTPAuth", "auth")], [], rfl, by decide +kernel, "HTTPAuth", by simp,
      by decide +kernel⟩
  exact ⟨⟨known, hknown, hregistry, hother⟩, hduplicate,
    ((build_exact acronymUnits).2.2 _).2 ⟨_, _, _, hduplicate, rfl⟩⟩

end AttributeSchema.KnownTypes
