import AttributeSchema.Generator.KnownTypes
import AttributeSchema.Generator.Validation
import AttributeSchema.Proofs.SortedMap
import AttributeSchema.Proofs.Traverse
import Mathlib.Data.List.Pairwise
/-!
# What checking the units establishes

The names of units differ, and so do the names of the schema functions of all types. So the registry tells
for each known type the one unit that depends on it.
-/

namespace AttributeSchema

/-! ## Names of units -/

namespace Validation

theorem checkNames_ok_iff {units : List GenerationUnit} {seen : List String} :
    checkNames seen units = .ok () ↔ (units.map GenerationUnit.name).Nodup ∧
      ∀ u ∈ units, (∃ word, Spelled.identifier u.name "unit name" = .ok word) ∧
        u.name ≠ reservedName ∧ u.name ∉ seen := by
  induction units generalizing seen with
  | nil => simp [checkNames]
  | cons u rest ih =>
      rw [checkNames, bind_ok_iff, List.map_cons, List.nodup_cons, List.forall_mem_cons]
      constructor
      · rintro ⟨word, hword, h⟩
        split at h
        · exact absurd h (by simp)
        · rename_i hreserved
          split at h
          · exact absurd h (by simp)
          · rename_i hseen
            obtain ⟨hnodup, hrest⟩ := ih.1 h
            refine ⟨⟨?_, hnodup⟩, ⟨⟨word, hword⟩, hreserved, hseen⟩, ?_⟩
            · intro hmem
              obtain ⟨v, hv, hname⟩ := List.mem_map.1 hmem
              exact (hrest v hv).2.2 (hname ▸ List.mem_cons_self)
            · intro v hv
              obtain ⟨hread, hne, hnew⟩ := hrest v hv
              exact ⟨hread, hne, fun hmem => hnew (List.mem_cons_of_mem _ hmem)⟩
      · rintro ⟨⟨hnew, hnodup⟩, ⟨⟨word, hword⟩, hreserved, hseen⟩, hrest⟩
        refine ⟨word, hword, ?_⟩
        rw [if_neg hreserved, if_neg hseen, ih]
        refine ⟨hnodup, ?_⟩
        intro v hv
        obtain ⟨hread, hne, hother⟩ := hrest v hv
        refine ⟨hread, hne, ?_⟩
        rw [List.mem_cons, not_or]
        exact ⟨fun hname => hnew (hname ▸ List.mem_map_of_mem hv), hother⟩

/-- Units pass the check if there is one, and their names are different identifiers, none of them
reserved. -/
theorem check_ok_iff {units : List GenerationUnit} :
    check units = .ok () ↔ units ≠ [] ∧ (units.map GenerationUnit.name).Nodup ∧
      ∀ u ∈ units, (∃ word, Spelled.identifier u.name "unit name" = .ok word) ∧
        u.name ≠ reservedName := by
  cases units with
  | nil => simp [check]
  | cons u rest =>
      have hcheck : check (u :: rest) = checkNames [] (u :: rest) := rfl
      simp only [hcheck, checkNames_ok_iff, List.not_mem_nil, not_false_eq_true, and_true, ne_eq,
        reduceCtorEq, true_and]

/-- The units that pass the check have different names. -/
theorem nodup_of_check {units : List GenerationUnit} (h : check units = .ok ()) :
    (units.map GenerationUnit.name).Nodup :=
  (check_ok_iff.1 h).2.1

/-- No unit that passes the check has the name of the module above all units. -/
theorem reservedName_not_mem_of_check {units : List GenerationUnit} (h : check units = .ok ()) :
    reservedName ∉ units.map GenerationUnit.name := by
  intro hmem
  obtain ⟨u, hu, hname⟩ := List.mem_map.1 hmem
  exact ((check_ok_iff.1 h).2.2 u hu).2 hname

end Validation

/-! ## Names of types -/

namespace KnownTypes

theorem checkDistinct_ok_iff {declared : List (String × String)} {seen : SortedMap String} :
    checkDistinct seen declared = .ok () ↔
      (declared.map fun d => Naming.attributesName d.1).Nodup ∧
        ∀ d ∈ declared, seen.get? (Naming.attributesName d.1) = none := by
  induction declared generalizing seen with
  | nil => simp [checkDistinct]
  | cons d rest ih =>
      obtain ⟨type, unit⟩ := d
      rw [checkDistinct, List.map_cons, List.nodup_cons, List.forall_mem_cons]
      cases hseen : seen.get? (Naming.attributesName type) with
      | some first => simp
      | none =>
          have hinsert (d : String × String) :
              (seen.insert (Naming.attributesName type) unit).get? (Naming.attributesName d.1) = none ↔
                Naming.attributesName d.1 ≠ Naming.attributesName type ∧
                  seen.get? (Naming.attributesName d.1) = none := by
            rw [SortedMap.get?_insert]
            split
            · simp_all
            · simp_all
          simp only [ih, hinsert, true_and]
          constructor
          · rintro ⟨hnodup, hrest⟩
            refine ⟨⟨?_, hnodup⟩, fun d hd => (hrest d hd).2⟩
            intro hmem
            obtain ⟨e, he, hname⟩ := List.mem_map.1 hmem
            exact (hrest e he).1 hname
          · rintro ⟨⟨hnew, hnodup⟩, hrest⟩
            refine ⟨hnodup, fun d hd => ⟨?_, hrest d hd⟩⟩
            intro hname
            exact hnew (List.mem_map.2 ⟨d, hd, hname⟩)

variable {units : List GenerationUnit} {known : KnownTypes}

theorem checkDistinct_empty_ok_iff {declared : List (String × String)} :
    checkDistinct .empty declared = .ok () ↔
      (declared.map fun d => Naming.attributesName d.1).Nodup := by
  simp only [checkDistinct_ok_iff, SortedMap.get?_empty, implies_true, and_true]

/-- The registry of some units exists if the schema functions of all their types have different names. -/
theorem build_ok_iff : build units = .ok known ↔
    ((declared units).map fun d => Naming.attributesName d.1).Nodup ∧
      known = ⟨.ofList (dependencies units)⟩ := by
  rw [build, ← checkDistinct_empty_ok_iff]
  cases checkDistinct .empty (declared units) with
  | error e => simp
  | ok done => simp [eq_comm]

/-- The schema functions of all types of all units have different names. -/
theorem nodup_functions (h : build units = .ok known) :
    (units.flatMap fun u => u.types.map fun t => Naming.attributesName t.name).Nodup := by
  have hnodup := (build_ok_iff.1 h).1
  rw [declared, List.map_flatMap] at hnodup
  simpa only [List.map_map, Function.comp_def] using hnodup

/-- All types of all units have different names. -/
theorem nodup_types (h : build units = .ok known) :
    (units.flatMap fun u => u.types.map Descriptor.name).Nodup := by
  have hnodup := nodup_functions h
  have hmap : (units.flatMap fun u => u.types.map fun t => Naming.attributesName t.name) =
      (units.flatMap fun u => u.types.map Descriptor.name).map Naming.attributesName := by
    rw [List.map_flatMap]
    simp only [List.map_map, Function.comp_def]
  rw [hmap] at hnodup
  exact List.Nodup.of_map _ hnodup

theorem mem_dependsOn_of_owner? (h : build units = .ok known) {type owner : String}
    (howner : known.owner? type = some owner) :
    ∃ v ∈ units, v.name = owner ∧ ∃ t ∈ v.dependsOn, t.name = type := by
  obtain rfl := (build_ok_iff.1 h).2
  have hmem : (type, owner) ∈ dependencies units := SortedMap.mem_of_get?_ofList howner
  rw [dependencies, List.mem_flatMap] at hmem
  obtain ⟨v, hv, hmem⟩ := hmem
  obtain ⟨t, ht, heq⟩ := List.mem_map.1 hmem
  obtain ⟨rfl, rfl⟩ := Prod.mk.inj heq
  exact ⟨v, hv, rfl, t, ht, rfl⟩

theorem exists_owner?_of_contains {type : String} (h : known.contains type = true) :
    ∃ owner, known.owner? type = some owner :=
  Option.isSome_iff_exists.1 h

theorem mem_declared {u : GenerationUnit} (hu : u ∈ units) {t : Descriptor} (ht : t ∈ u.types) :
    (t.name, u.name) ∈ declared units :=
  List.mem_flatMap.2 ⟨u, hu, List.mem_map.2 ⟨t, ht, rfl⟩⟩

/-- Different types have different schema functions. -/
theorem eq_of_attributesName_eq (h : build units = .ok known) {u v : GenerationUnit} (hu : u ∈ units)
    (hv : v ∈ units) {s t : Descriptor} (hs : s ∈ u.types) (ht : t ∈ v.types)
    (heq : Naming.attributesName s.name = Naming.attributesName t.name) : s.name = t.name := by
  have hnodup := (build_ok_iff.1 h).1
  exact congrArg Prod.fst (List.inj_on_of_nodup_map hnodup (mem_declared hu hs) (mem_declared hv ht) heq)

/-- No two units have a type of one name. -/
theorem eq_of_type_eq (h : build units = .ok known) {u v : GenerationUnit} (hu : u ∈ units)
    (hv : v ∈ units) {s t : Descriptor} (hs : s ∈ u.types) (ht : t ∈ v.types)
    (heq : s.name = t.name) : u = v := by
  by_contra hne
  have hdisjoint := (List.nodup_flatMap.1 (nodup_types h)).2
  have hsymm : Std.Symm (Function.onFun List.Disjoint
      fun u : GenerationUnit => u.types.map Descriptor.name) := ⟨fun _ _ => List.disjoint_symm⟩
  exact hdisjoint.forall hu hv hne (List.mem_map_of_mem hs) (heq ▸ List.mem_map_of_mem ht)

theorem unit_eq_of_type_eq (h : build units = .ok known) {u v : GenerationUnit} (hu : u ∈ units)
    (hv : v ∈ units) {s t : Descriptor} (hs : s ∈ u.types) (ht : t ∈ v.types)
    (heq : s.name = t.name) : u.name = v.name :=
  congrArg GenerationUnit.name (eq_of_type_eq h hu hv hs ht heq)

theorem dependencies_sublist (units : List GenerationUnit) :
    (dependencies units).Sublist (declared units) := by
  induction units with
  | nil => exact .refl _
  | cons u rest ih =>
      rw [dependencies, declared, List.flatMap_cons, List.flatMap_cons]
      exact ((List.sublist_cons_self _ _).map _).append ih

/-- No type has two units that depend on it. -/
theorem nodup_dependencies (h : build units = .ok known) :
    ((dependencies units).map Prod.fst).Nodup := by
  have hfunctions : ((dependencies units).map (Naming.attributesName ∘ Prod.fst)).Nodup :=
    (build_ok_iff.1 h).1.sublist ((dependencies_sublist units).map _)
  rw [← List.map_map] at hfunctions
  exact List.Nodup.of_map _ hfunctions

end KnownTypes

end AttributeSchema
