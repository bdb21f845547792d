import AttributeSchema.Generator.UnitModule
import AttributeSchema.Proofs.Generator.Emission
import AttributeSchema.Proofs.SortedMap
/-!
# Types that a module takes from others

The nested types of other units are grouped by their owners. Each of them stands in one group, once.
-/

namespace AttributeSchema.UnitModule

open Source.Parser (ident?)

/-! ## Which types are foreign -/

theorem mem_foreignNested {unit : String} {known : KnownTypes} {fields : List MappedField}
    {owner name : String} :
    (owner, name) ∈ foreignNested unit known fields ↔
      ∃ f ∈ fields, f.type.nested? = some name ∧ known.owner? name = some owner ∧ owner ≠ unit := by
  simp only [foreignNested, List.mem_filterMap, bind, Option.bind_eq_some_iff]
  constructor
  · rintro ⟨f, hf, n, hn, o, ho, h⟩
    split at h
    · exact absurd h (by simp)
    · rename_i hne
      obtain ⟨rfl, rfl⟩ := Prod.mk.inj (Option.some.inj h)
      exact ⟨f, hf, hn, ho, hne⟩
  · rintro ⟨f, hf, hn, ho, hne⟩
    exact ⟨f, hf, name, hn, owner, ho, by rw [if_neg hne]⟩

/-! ## Groups -/

def InGroups (groups : SortedMap (SortedMap Unit)) (owner name : String) : Prop :=
  ∃ group, groups.get? owner = some group ∧ group.get? name = some ()

theorem inGroups_addForeign {groups : SortedMap (SortedMap Unit)} {e : String × String}
    {owner name : String} :
    InGroups (addForeign groups e) owner name ↔ (owner, name) = e ∨ InGroups groups owner name := by
  obtain ⟨o, n⟩ := e
  simp only [InGroups, addForeign, SortedMap.get?_insert, Prod.mk.injEq]
  by_cases howner : owner = o
  · subst howner
    simp only [if_true, Option.some.injEq, exists_eq_left', SortedMap.get?_insert, true_and]
    by_cases hname : name = n
    · simp [hname]
    · simp only [hname, false_or]
      cases groups.get? owner with
      | none => simp
      | some group => simp
  · simp only [howner, if_false, false_and, false_or]

theorem inGroups_foldl {types : List (String × String)} {groups : SortedMap (SortedMap Unit)}
    {owner name : String} :
    InGroups (types.foldl addForeign groups) owner name ↔
      (owner, name) ∈ types ∨ InGroups groups owner name := by
  induction types generalizing groups with
  | nil => simp
  | cons e types ih =>
      rw [List.foldl_cons, ih, inGroups_addForeign, List.mem_cons]
      constructor
      · rintro (h | h | h)
        · exact .inl (.inr h)
        · exact .inl (.inl h)
        · exact .inr h
      · rintro ((h | h) | h)
        · exact .inr (.inl h)
        · exact .inl h
        · exact .inr (.inr h)

theorem inGroups_grouped {types : List (String × String)} {owner name : String} :
    InGroups (grouped types) owner name ↔ (owner, name) ∈ types := by
  rw [grouped, inGroups_foldl]
  simp [InGroups]

def members (groups : SortedMap (SortedMap Unit)) : List (String × String) :=
  groups.entries.flatMap fun group => group.2.keys.map (group.1, ·)

theorem mem_members {groups : SortedMap (SortedMap Unit)} {owner name : String} :
    (owner, name) ∈ members groups ↔ InGroups groups owner name := by
  simp only [members, List.mem_flatMap, List.mem_map, Prod.exists, Prod.mk.injEq, InGroups]
  constructor
  · rintro ⟨o, group, hgroup, n, hn, rfl, rfl⟩
    obtain ⟨value, hvalue⟩ := SortedMap.mem_keys_iff.1 hn
    exact ⟨group, SortedMap.mem_entries_iff.1 hgroup, hvalue⟩
  · rintro ⟨group, hgroup, hname⟩
    exact ⟨owner, group, SortedMap.mem_entries_iff.2 hgroup, name,
      SortedMap.mem_keys_iff.2 ⟨_, hname⟩, rfl, rfl⟩

/-- No type stands twice in the groups. -/
theorem nodup_members (groups : SortedMap (SortedMap Unit)) : (members groups).Nodup := by
  rw [members, List.nodup_flatMap]
  constructor
  · intro group _
    exact group.2.nodup_keys.map fun a b h => (Prod.mk.inj h).2
  · apply groups.sorted.imp
    intro a b hlt e ha hb
    obtain ⟨n, -, rfl⟩ := List.mem_map.1 ha
    obtain ⟨n', -, heq⟩ := List.mem_map.1 hb
    rw [(Prod.mk.inj heq).1] at hlt
    exact String.lt_irrefl _ hlt

/-! ## Imports -/

def IsExact (name : String) : Prop := ident? name = some name

theorem foreignNames_ok {unit name : String} {names : String × String} (hname : IsExact name)
    (h : foreignNames unit name = .ok names) : names = (name, Naming.attributesName name) := by
  obtain ⟨holder, hholder, h⟩ := bind_ok_iff.1 h
  obtain ⟨function, hfunction, h⟩ := bind_ok_iff.1 h
  obtain rfl := Except.ok.inj h
  have hread := identifier_ok hholder
  rw [hname] at hread
  rw [Naming.eq_attributesName_of_ident? hname (identifier_ok hfunction), ← Option.some.inj hread]

theorem importPairs_of_foreignOf {unit : String} {group : String × SortedMap Unit}
    {types : ForeignTypes} (hexact : ∀ name ∈ group.2.keys, IsExact group.1 ∧ IsExact name)
    (h : foreignOf unit group = .ok types) :
    types.names.map (types.owner, ·) =
      group.2.keys.map fun name => (group.1, name, Naming.attributesName name) := by
  obtain ⟨owner, hread, h⟩ := bind_ok_iff.1 h
  obtain ⟨names, hnames, h⟩ := bind_ok_iff.1 h
  obtain rfl := Except.ok.inj h
  have hmap := eq_map_of_mapM_ok (fun name hname _ hstep =>
    foreignNames_ok (hexact name hname).2 hstep) hnames
  rw [hmap, List.map_map]
  apply List.map_congr_left
  intro name hname
  have howner := identifier_ok hread
  rw [(hexact name hname).1] at howner
  rw [Function.comp_apply, ← Option.some.inj howner]

/-- What a module imports when all names are read as they are spelled: one pair for each foreign type. -/
theorem importPairs_of_groups {unit : String} {groups : SortedMap (SortedMap Unit)}
    {foreign : List ForeignTypes} (hexact : ∀ e ∈ members groups, IsExact e.1 ∧ IsExact e.2)
    (h : groups.entries.mapM (foreignOf unit) = .ok foreign) :
    (foreign.flatMap fun types => types.names.map (types.owner, ·)) =
      (members groups).map fun e => (e.1, e.2, Naming.attributesName e.2) := by
  have hpairs : foreign.map (fun types => types.names.map (types.owner, ·)) =
      groups.entries.map fun group =>
        group.2.keys.map fun name => (group.1, name, Naming.attributesName name) := by
    have hgroup : ∀ group ∈ groups.entries, ∀ name ∈ group.2.keys,
        IsExact group.1 ∧ IsExact name := by
      intro group hgroup name hname
      exact hexact (group.1, name)
        (List.mem_flatMap.2 ⟨group, hgroup, List.mem_map.2 ⟨name, hname, rfl⟩⟩)
    generalize groups.entries = entries at h hgroup
    have hsteps := mapM_ok_iff.1 h
    clear h
    induction hsteps with
    | nil => rfl
    | cons hstep hmore ih =>
        rw [List.map_cons, List.map_cons, ih fun g hg => hgroup g (List.mem_cons_of_mem _ hg),
          importPairs_of_foreignOf (hgroup _ List.mem_cons_self) hstep]
  rw [members, List.flatMap_def, hpairs, ← List.flatMap_def, List.map_flatMap]
  simp only [List.map_map, Function.comp_def]

end AttributeSchema.UnitModule
