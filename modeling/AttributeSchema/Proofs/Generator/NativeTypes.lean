import AttributeSchema.Descriptor.Describe
import AttributeSchema.Proofs.Generator.Mapping
import AttributeSchema.Proofs.SortedMap
import AttributeSchema.Proofs.Source.Identifier
import Mathlib.Data.List.Basic
/-!
# Native types with an attribute

Descriptors stand for native types, and an attribute belongs to few of these. At most one rule of the mapping
applies to a descriptor, so the rules may be tried in any order. Wrapped types have names with angle
brackets, so that none of them is taken for a known type.
-/

namespace AttributeSchema

open Source (IsWord IsPlainWord)

/-! ## Types and their descriptors -/

inductive NativeType
  | bool
  | integer (kind : IntKind)
  | string
  | duration
  | timestamp
  | struct (name : String)
  | optional (inner : NativeType)
  | sequence (item : NativeType)
  | sortedMap (key value : NativeType)
  | hashMap (key value : NativeType)
  deriving DecidableEq, Repr

def builtInNames : List String :=
  [Descriptor.bool.name, Descriptor.string.name, Descriptor.duration.name, Descriptor.timestamp.name] ++
    IntKind.all.map fun kind => (Descriptor.integer kind).name

structure IsStructName (name : String) : Prop where
  isWord : IsWord name.toList
  notBuiltIn : name ∉ builtInNames

structure Descriptor.IsLike (d e : Descriptor) : Prop where
  name_eq : d.name = e.name
  kind_eq : d.kind = e.kind

theorem Descriptor.IsLike.refl (d : Descriptor) : d.IsLike d := ⟨rfl, rfl⟩

inductive Describes : NativeType → Descriptor → Prop
  | bool {d : Descriptor} (h : d.IsLike .bool) : Describes .bool d
  | integer {d : Descriptor} {kind : IntKind} (h : d.IsLike (.integer kind)) :
      Describes (.integer kind) d
  | string {d : Descriptor} (h : d.IsLike .string) : Describes .string d
  | duration {d : Descriptor} (h : d.IsLike .duration) : Describes .duration d
  | timestamp {d : Descriptor} (h : d.IsLike .timestamp) : Describes .timestamp d
  | struct {d : Descriptor} {name path : String} {fields : List Field} (hname : IsStructName name)
      (h : d.IsLike (.ofFields name path fields)) : Describes (.struct name) d
  | optional {d inner : Descriptor} {t : NativeType} (h : d.IsLike (.optional inner))
      (hinner : Describes t inner) : Describes (.optional t) d
  | sequence {d item : Descriptor} {t : NativeType} (h : d.IsLike (.sequence item))
      (hitem : Describes t item) : Describes (.sequence t) d
  | sortedMap {d key value : Descriptor} {k v : NativeType} (h : d.IsLike (.sortedMap key value))
      (hkey : Describes k key) (hvalue : Describes v value) : Describes (.sortedMap k v) d
  | hashMap {d key value : Descriptor} {k v : NativeType} (h : d.IsLike (.hashMap key value))
      (hkey : Describes k key) (hvalue : Describes v value) : Describes (.hashMap k v) d

def NativeType.HasKind (t : NativeType) : Kind → Prop
  | .bool => t = .bool
  | .integer kind => t = .integer kind
  | .string => t = .string
  | .encoded .duration => t = .duration
  | .encoded .timestamp => t = .timestamp
  | .struct => ∃ name, t = .struct name
  | .optional inner => ∃ u, t = .optional u ∧ Describes u inner
  | .sequence item => ∃ u, t = .sequence u ∧ Describes u item
  | .mapping key value =>
    ∃ k v, (t = .sortedMap k v ∨ t = .hashMap k v) ∧ Describes k key ∧ Describes v value

inductive MapsTo (known : KnownTypes) : NativeType → MappedType × Conversion → Prop
  | bool : MapsTo known .bool (.leaf .bool, .leaf .bool)
  | integer (kind : IntKind) : MapsTo known (.integer kind) (.leaf .number, .leaf (.integer kind))
  | string : MapsTo known .string (.leaf .string, .leaf .text)
  | duration : MapsTo known .duration (.leaf .string, .leaf .duration)
  | timestamp : MapsTo known .timestamp (.leaf .string, .leaf .timestamp)
  | bytes : MapsTo known (.sequence (.integer .u8)) (.leaf .string, .leaf .bytes)
  | stringList : MapsTo known (.sequence .string) (.leaf .listOfString, .leaf .stringList)
  | sortedMap :
      MapsTo known (.sortedMap .string .string) (.leaf .mapOfStringToString, .leaf .stringMap)
  | hashMap : MapsTo known (.hashMap .string .string) (.leaf .mapOfStringToString, .leaf .stringMap)
  | struct {name : String} (h : known.contains name = true) :
      MapsTo known (.struct name) (.nested name, .nested false)
  | optional {name : String} (h : known.contains name = true) :
      MapsTo known (.optional (.struct name)) (.nested name, .nested true)
  | list {name : String} (h : known.contains name = true) :
      MapsTo known (.sequence (.struct name)) (.nestedList name, .nestedList false)
  | optionalItems {name : String} (h : known.contains name = true) :
      MapsTo known (.sequence (.optional (.struct name))) (.nestedList name, .nestedList true)

/-! ## Names and kinds -/

theorem mem_builtInNames_integer (kind : IntKind) : (Descriptor.integer kind).name ∈ builtInNames := by
  cases kind <;> decide

theorem not_isStructName_applied (outer inner : String) :
    ¬ IsStructName (Descriptor.applied outer inner) := by
  intro h
  -- No identifier has a bracket in it.
  have hbracket : '<' ∈ (Descriptor.applied outer inner).toList := by
    simp [Descriptor.applied, String.toList_append]
  rcases h.isWord with hword | ⟨rest, hraw, hword⟩
  · exact Source.Lexer.not_mem_of_isPlainWord hword (by decide) (by decide) hbracket
  · rw [hraw, List.mem_cons, List.mem_cons] at hbracket
    rcases hbracket with hbracket | hbracket | hbracket
    · exact absurd hbracket (by decide)
    · exact absurd hbracket (by decide)
    · exact Source.Lexer.not_mem_of_isPlainWord hword (by decide) (by decide) hbracket

section

variable {t : NativeType} {d : Descriptor}

theorem Describes.eq_struct (h : Describes t d) (hname : IsStructName d.name) : t = .struct d.name := by
  -- The other types have a built-in name, or one with a bracket.
  cases h with
  | bool h => exact absurd (h.name_eq ▸ hname).notBuiltIn (by decide)
  | integer h => exact absurd (mem_builtInNames_integer _) (h.name_eq ▸ hname).notBuiltIn
  | string h => exact absurd (h.name_eq ▸ hname).notBuiltIn (by decide)
  | duration h => exact absurd (h.name_eq ▸ hname).notBuiltIn (by decide)
  | timestamp h => exact absurd (h.name_eq ▸ hname).notBuiltIn (by decide)
  | struct _ h => rw [h.name_eq]; rfl
  | optional h => exact absurd (h.name_eq ▸ hname) (not_isStructName_applied _ _)
  | sequence h => exact absurd (h.name_eq ▸ hname) (not_isStructName_applied _ _)
  | sortedMap h => exact absurd (h.name_eq ▸ hname) (not_isStructName_applied _ _)
  | hashMap h => exact absurd (h.name_eq ▸ hname) (not_isStructName_applied _ _)

theorem Describes.name_eq {name : String} (h : Describes (.struct name) d) : d.name = name := by
  cases h with
  | struct _ h => exact h.name_eq

theorem Describes.hasKind (h : Describes t d) {kind : Kind} (hkind : d.kind = kind) : t.HasKind kind := by
  subst hkind
  cases h with
  | bool h => rw [h.kind_eq]; rfl
  | integer h => rw [h.kind_eq]; rfl
  | string h => rw [h.kind_eq]; rfl
  | duration h => rw [h.kind_eq]; rfl
  | timestamp h => rw [h.kind_eq]; rfl
  | struct _ h => rw [h.kind_eq]; exact ⟨_, rfl⟩
  | optional h hinner => rw [h.kind_eq]; exact ⟨_, rfl, hinner⟩
  | sequence h hitem => rw [h.kind_eq]; exact ⟨_, rfl, hitem⟩
  | sortedMap h hkey hvalue => rw [h.kind_eq]; exact ⟨_, _, .inl rfl, hkey, hvalue⟩
  | hashMap h hkey hvalue => rw [h.kind_eq]; exact ⟨_, _, .inr rfl, hkey, hvalue⟩

end

namespace Mapping

/-! ## One rule for each type -/

def rules (known : KnownTypes) (d : Descriptor) : List (Option (MappedType × Conversion)) :=
  [opaqueRule d.kind, textsRule d.kind, knownRule known d, optionalRule known d.kind,
    listRule known d.kind, plainRule d.kind]

/-- The place of the only rule that may apply to a type. -/
def ruleOf : NativeType → Nat
  | .duration => 0
  | .timestamp => 0
  | .sequence (.integer .u8) => 0
  | .sequence .string => 1
  | .sortedMap _ _ => 1
  | .hashMap _ _ => 1
  | .struct _ => 2
  | .optional _ => 3
  | .sequence _ => 4
  | .bool => 5
  | .integer _ => 5
  | .string => 5

section

variable {known : KnownTypes} {t : NativeType} {d : Descriptor} {mapped : MappedType × Conversion}

theorem mapsTo_of_opaqueRule (hd : Describes t d) (h : opaqueRule d.kind = some mapped) :
    ruleOf t = 0 ∧ MapsTo known t mapped := by
  rcases opaqueRule_eq_some_iff.1 h with
    ⟨hduration, rfl⟩ | ⟨htimestamp, rfl⟩ | ⟨item, hsequence, hitem, rfl⟩
  · obtain rfl := hd.hasKind hduration
    exact ⟨rfl, .duration⟩
  · obtain rfl := hd.hasKind htimestamp
    exact ⟨rfl, .timestamp⟩
  · obtain ⟨u, rfl, hu⟩ := hd.hasKind hsequence
    obtain rfl := hu.hasKind hitem
    exact ⟨rfl, .bytes⟩

theorem mapsTo_of_textsRule (hd : Describes t d) (h : textsRule d.kind = some mapped) :
    ruleOf t = 1 ∧ MapsTo known t mapped := by
  rcases textsRule_eq_some_iff.1 h with
    ⟨item, hsequence, hitem, rfl⟩ | ⟨key, value, hmapping, hkey, hvalue, rfl⟩
  · obtain ⟨u, rfl, hu⟩ := hd.hasKind hsequence
    obtain rfl := hu.hasKind hitem
    exact ⟨rfl, .stringList⟩
  · obtain ⟨k, v, hmap, hk, hv⟩ := hd.hasKind hmapping
    obtain rfl := hk.hasKind hkey
    obtain rfl := hv.hasKind hvalue
    rcases hmap with rfl | rfl
    · exact ⟨rfl, .sortedMap⟩
    · exact ⟨rfl, .hashMap⟩

theorem mapsTo_of_plainRule (hd : Describes t d) (h : plainRule d.kind = some mapped) :
    ruleOf t = 5 ∧ MapsTo known t mapped := by
  rcases plainRule_eq_some_iff.1 h with ⟨hbool, rfl⟩ | ⟨width, hinteger, rfl⟩ | ⟨hstring, rfl⟩
  · obtain rfl := hd.hasKind hbool
    exact ⟨rfl, .bool⟩
  · obtain rfl := hd.hasKind hinteger
    exact ⟨rfl, .integer width⟩
  · obtain rfl := hd.hasKind hstring
    exact ⟨rfl, .string⟩

theorem textsRule_of_mapping {key value : Descriptor} (hd : d.kind = .mapping key value)
    (hkey : Describes .string key) (hvalue : Describes .string value) :
    textsRule d.kind = some (.leaf .mapOfStringToString, .leaf .stringMap) := by
  cases hkey with
  | string hkey =>
      cases hvalue with
      | string hvalue =>
          exact textsRule_eq_some_iff.2 (.inr ⟨_, _, hd, hkey.kind_eq, hvalue.kind_eq, rfl⟩)

variable (hknown : ∀ name ∈ known.names, IsStructName name)

include hknown

theorem eq_struct_of_contains (hd : Describes t d) (h : known.contains d.name = true) :
    t = .struct d.name :=
  hd.eq_struct (hknown d.name (SortedMap.mem_keys_iff.2 (Option.isSome_iff_exists.1 h)))

theorem mapsTo_of_knownRule (hd : Describes t d) (h : knownRule known d = some mapped) :
    ruleOf t = 2 ∧ MapsTo known t mapped := by
  obtain ⟨hcontains, rfl⟩ := knownRule_eq_some_iff.1 h
  rw [eq_struct_of_contains hknown hd hcontains]
  exact ⟨rfl, .struct hcontains⟩

theorem mapsTo_of_optionalRule (hd : Describes t d) (h : optionalRule known d.kind = some mapped) :
    ruleOf t = 3 ∧ MapsTo known t mapped := by
  obtain ⟨inner, hoptional, hcontains, rfl⟩ := optionalRule_eq_some_iff.1 h
  obtain ⟨u, rfl, hu⟩ := hd.hasKind hoptional
  rw [eq_struct_of_contains hknown hu hcontains]
  exact ⟨rfl, .optional hcontains⟩

theorem mapsTo_of_listRule (hd : Describes t d) (h : listRule known d.kind = some mapped) :
    ruleOf t = 4 ∧ MapsTo known t mapped := by
  obtain ⟨item, hsequence, hitem⟩ := listRule_eq_some_iff.1 h
  obtain ⟨u, rfl, hu⟩ := hd.hasKind hsequence
  rcases hitem with ⟨hcontains, rfl⟩ | ⟨-, inner, hoptional, hcontains, rfl⟩
  · rw [eq_struct_of_contains hknown hu hcontains]
    exact ⟨rfl, .list hcontains⟩
  · obtain ⟨v, rfl, hv⟩ := hu.hasKind hoptional
    rw [eq_struct_of_contains hknown hv hcontains]
    exact ⟨rfl, .optionalItems hcontains⟩

/-- A rule that applies is the one for the type, and it gives the attribute that belongs to it. -/
theorem mapsTo_of_getElem (hd : Describes t d) {i : Nat} (hi : i < (rules known d).length)
    (h : (rules known d)[i] = some mapped) : ruleOf t = i ∧ MapsTo known t mapped := by
  match i, hi, h with
  | 0, _, h => exact mapsTo_of_opaqueRule hd h
  | 1, _, h => exact mapsTo_of_textsRule hd h
  | 2, _, h => exact mapsTo_of_knownRule hknown hd h
  | 3, _, h => exact mapsTo_of_optionalRule hknown hd h
  | 4, _, h => exact mapsTo_of_listRule hknown hd h
  | 5, _, h => exact mapsTo_of_plainRule hd h

/-- If an attribute belongs to a type, the rule for the type gives it. -/
theorem getElem?_rules_of_mapsTo (hd : Describes t d) (h : MapsTo known t mapped) :
    (rules known d)[ruleOf t]? = some (some mapped) := by
  cases h with
  | bool =>
      cases hd with
      | bool hd => exact congrArg some (plainRule_eq_some_iff.2 (.inl ⟨hd.kind_eq, rfl⟩))
  | integer kind =>
      cases hd with
      | integer hd => exact congrArg some (plainRule_eq_some_iff.2 (.inr (.inl ⟨kind, hd.kind_eq, rfl⟩)))
  | string =>
      cases hd with
      | string hd => exact congrArg some (plainRule_eq_some_iff.2 (.inr (.inr ⟨hd.kind_eq, rfl⟩)))
  | duration =>
      cases hd with
      | duration hd => exact congrArg some (opaqueRule_eq_some_iff.2 (.inl ⟨hd.kind_eq, rfl⟩))
  | timestamp =>
      cases hd with
      | timestamp hd => exact congrArg some (opaqueRule_eq_some_iff.2 (.inr (.inl ⟨hd.kind_eq, rfl⟩)))
  | bytes =>
      cases hd with
      | sequence hd hitem =>
          cases hitem with
          | integer hitem =>
              exact congrArg some
                (opaqueRule_eq_some_iff.2 (.inr (.inr ⟨_, hd.kind_eq, hitem.kind_eq, rfl⟩)))
  | stringList =>
      cases hd with
      | sequence hd hitem =>
          cases hitem with
          | string hitem =>
              exact congrArg some (textsRule_eq_some_iff.2 (.inl ⟨_, hd.kind_eq, hitem.kind_eq, rfl⟩))
  | sortedMap =>
      cases hd with
      | sortedMap hd hkey hvalue => exact congrArg some (textsRule_of_mapping hd.kind_eq hkey hvalue)
  | hashMap =>
      cases hd with
      | hashMap hd hkey hvalue => exact congrArg some (textsRule_of_mapping hd.kind_eq hkey hvalue)
  | struct hcontains =>
      obtain rfl := hd.name_eq
      exact congrArg some (knownRule_eq_some_iff.2 ⟨hcontains, rfl⟩)
  | optional hcontains =>
      cases hd with
      | optional hd hinner =>
          obtain rfl := hinner.name_eq
          exact congrArg some (optionalRule_eq_some_iff.2 ⟨_, hd.kind_eq, hcontains, rfl⟩)
  | list hcontains =>
      cases hd with
      | sequence hd hitem =>
          obtain rfl := hitem.name_eq
          exact congrArg some (listRule_eq_some_iff.2 ⟨_, hd.kind_eq, .inl ⟨hcontains, rfl⟩⟩)
  | optionalItems hcontains =>
      cases hd with
      | sequence hd hitem =>
          -- The item is an option, and none of these has a known name.
          have hfree := Bool.eq_false_iff.2 fun h => absurd (eq_struct_of_contains hknown hitem h) (by simp)
          cases hitem with
          | optional hitem hinner =>
              obtain rfl := hinner.name_eq
              exact congrArg some (listRule_eq_some_iff.2
                ⟨_, hd.kind_eq, .inr ⟨hfree, _, hitem.kind_eq, hcontains, rfl⟩⟩)

theorem pairwise_rules (hd : Describes t d) :
    (rules known d).Pairwise fun r r' => r = none ∨ r' = none := by
  rw [List.pairwise_iff_getElem]
  intro i j hi hj hlt
  cases hfirst : (rules known d)[i] with
  | none => exact .inl rfl
  | some first =>
      cases hsecond : (rules known d)[j] with
      | none => exact .inr rfl
      | some second =>
          -- Each of two rules that apply is the one for the type.
          have h := (mapsTo_of_getElem hknown hd hi hfirst).1
          have h' := (mapsTo_of_getElem hknown hd hj hsecond).1
          omega

theorem some_mem_rules_iff (hd : Describes t d) :
    some mapped ∈ rules known d ↔ MapsTo known t mapped := by
  constructor
  · intro h
    obtain ⟨i, hi, h⟩ := List.getElem_of_mem h
    exact (mapsTo_of_getElem hknown hd hi h).2
  · intro h
    exact List.mem_of_getElem? (getElem?_rules_of_mapsTo hknown hd h)

end

/-! ## The first rule that applies -/

/-- Of results that exclude each other the first one is the only one. -/
theorem findSome?_eq_some_iff_mem {α : Type} {results : List (Option α)} {x : α}
    (h : results.Pairwise fun r r' => r = none ∨ r' = none) :
    results.findSome? id = some x ↔ some x ∈ results := by
  induction results with
  | nil => simp
  | cons r rest ih =>
      obtain ⟨hfirst, hrest⟩ := List.pairwise_cons.1 h
      cases r with
      | none => simpa using ih hrest
      | some y =>
          have hnone : some x ∉ rest := fun hx => by simpa using hfirst _ hx
          simp [hnone, eq_comm]

theorem ofType?_eq_findSome? (known : KnownTypes) (d : Descriptor) :
    ofType? known d = (rules known d).findSome? id := by
  have hcons {r : Option (MappedType × Conversion)} {rest : List (Option (MappedType × Conversion))} :
      (r :: rest).findSome? id = r.or (rest.findSome? id) := by cases r <;> rfl
  rw [ofType?, rules]
  simp only [hcons, List.findSome?_nil, Option.or_none]

/-- Where known types have names that no built-in type has, a descriptor is mapped exactly if an attribute
belongs to its type, and to that attribute. At most one rule applies, so their order does not matter. -/
theorem ofType?_exact {known : KnownTypes} (hknown : ∀ name ∈ known.names, IsStructName name)
    {t : NativeType} {d : Descriptor} (hd : Describes t d) :
    (∀ mapped, ofType? known d = some mapped ↔ MapsTo known t mapped) ∧
    ((rules known d).Pairwise fun r r' => r = none ∨ r' = none) ∧
    ∀ reordered : List (Option (MappedType × Conversion)), reordered.Perm (rules known d) →
      reordered.findSome? id = ofType? known d := by
  have hpairwise := pairwise_rules hknown hd
  refine ⟨fun mapped => ?_, hpairwise, fun reordered hperm => ?_⟩
  · rw [ofType?_eq_findSome?, findSome?_eq_some_iff_mem hpairwise, some_mem_rules_iff hknown hd]
  · have hreordered := (hperm.pairwise_iff Or.symm).2 hpairwise
    ext mapped
    rw [ofType?_eq_findSome?, findSome?_eq_some_iff_mem hreordered, findSome?_eq_some_iff_mem hpairwise,
      hperm.mem_iff]

def innerKnown : KnownTypes := ⟨.ofList [("Inner", "outer")]⟩

def innerItems : Descriptor := .sequence (.optional (.ofFields "Inner" "native::Inner" []))

theorem ofType?_exact_inner :
    (∀ name ∈ innerKnown.names, IsStructName name) ∧
    Describes (.sequence (.optional (.struct "Inner"))) innerItems ∧
    ofType? innerKnown innerItems = some (.nestedList "Inner", .nestedList true) ∧
    (rules innerKnown innerItems).reverse.findSome? id = some (.nestedList "Inner", .nestedList true) ∧
    ofType? innerKnown (.optional .string) = none := by
  have hident : Source.Parser.ident? "Inner" = some "Inner" := by decide +kernel
  have hstruct : IsStructName "Inner" := ⟨Source.isWord_of_ident? hident, by decide +kernel⟩
  have hknown : ∀ name ∈ innerKnown.names, IsStructName name := by
    intro name hname
    obtain rfl := List.mem_singleton.1 hname
    exact hstruct
  have hitems : Describes (.sequence (.optional (.struct "Inner"))) innerItems :=
    .sequence (.refl _) (.optional (.refl _) (.struct hstruct (.refl _)))
  obtain ⟨hmapped, -, horder⟩ := ofType?_exact hknown hitems
  have hlist := (hmapped _).2 (.optionalItems (by decide +kernel))
  refine ⟨hknown, hitems, hlist, (horder _ (List.reverse_perm _)).trans hlist, ?_⟩
  rw [Option.eq_none_iff_forall_ne_some]
  intro mapped h
  cases ((ofType?_exact hknown (.optional (.refl _) (.string (.refl _)))).1 mapped).1 h

end Mapping

end AttributeSchema
