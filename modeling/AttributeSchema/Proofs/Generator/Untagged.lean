import AttributeSchema.Generator.Output
import AttributeSchema.Proofs.Generator.Crate
import AttributeSchema.Proofs.Traverse
/-!
# Untagged fields leave no trace

Two descriptors are alike if they differ in untagged fields only: in the fields of a struct, and in those of
the descriptors in it, at any depth. Generation looks at names, paths, kinds and tagged fields, so lists of
units that are alike give the same files, or the same error.
-/

namespace AttributeSchema

/-! ## Descriptors that differ in untagged fields -/

mutual

inductive Kind.Alike : Kind → Kind → Prop
  | same (k : Kind) : Kind.Alike k k
  | optional {d e : Descriptor} (h : Descriptor.Alike d e) :
      Kind.Alike (.optional d) (.optional e)
  | sequence {d e : Descriptor} (h : Descriptor.Alike d e) :
      Kind.Alike (.sequence d) (.sequence e)
  | mapping {k k' v v' : Descriptor} (hkey : Descriptor.Alike k k') (hvalue : Descriptor.Alike v v') :
      Kind.Alike (.mapping k v) (.mapping k' v')

inductive Descriptor.Alike : Descriptor → Descriptor → Prop
  | mk (name path : String) {k k' : Kind} {fs fs' : List Field} (hkind : Kind.Alike k k')
      (hfields : FieldsAlike fs fs') :
      Descriptor.Alike (.mk name path k fs) (.mk name path k' fs')

/-- Lists of fields in which the fields with a tag are alike, one by one. Fields without a tag may stand
anywhere in either list. -/
inductive FieldsAlike : List Field → List Field → Prop
  | nil : FieldsAlike [] []
  | left (name : String) (type : Descriptor) {fs gs : List Field} (h : FieldsAlike fs gs) :
      FieldsAlike (.mk name type "" :: fs) gs
  | right (name : String) (type : Descriptor) {fs gs : List Field} (h : FieldsAlike fs gs) :
      FieldsAlike fs (.mk name type "" :: gs)
  | both (name tag : String) {d e : Descriptor} {fs gs : List Field} (htype : Descriptor.Alike d e)
      (h : FieldsAlike fs gs) : FieldsAlike (.mk name d tag :: fs) (.mk name e tag :: gs)

end

mutual

theorem Descriptor.Alike.refl : ∀ d : Descriptor, Descriptor.Alike d d
  | .mk name path kind fields => .mk name path (.same kind) (FieldsAlike.refl fields)

theorem FieldsAlike.refl : ∀ fields : List Field, FieldsAlike fields fields
  | [] => .nil
  | .mk name type tag :: fields => .both name tag (Descriptor.Alike.refl type) (FieldsAlike.refl fields)

end

namespace Descriptor

theorem Alike.name_eq {d e : Descriptor} (h : Alike d e) : d.name = e.name := by
  cases h
  rfl

theorem Alike.path_eq {d e : Descriptor} (h : Alike d e) : d.path = e.path := by
  cases h
  rfl

theorem Alike.kind {d e : Descriptor} (h : Alike d e) : Kind.Alike d.kind e.kind := by
  cases h with
  | mk name path hkind hfields => exact hkind

end Descriptor

/-- Fields of one name and one tag whose types are alike. -/
structure Field.Alike (f g : Field) : Prop where
  name_eq : f.name = g.name
  tag_eq : f.tag = g.tag
  type : Descriptor.Alike f.type g.type

theorem FieldsAlike.tagged {fs gs : List Field} : FieldsAlike fs gs →
    List.Forall₂ Field.Alike (fs.filter Field.isTagged) (gs.filter Field.isTagged)
  | .nil => .nil
  | .left _ _ h => h.tagged
  | .right _ _ h => h.tagged
  | .both name tag htype h => by
      have hmore := h.tagged
      rw [List.filter_cons, List.filter_cons]
      change List.Forall₂ Field.Alike (if !tag.isEmpty then _ else _) (if !tag.isEmpty then _ else _)
      split
      · exact .cons ⟨rfl, rfl, htype⟩ hmore
      · exact hmore

theorem Descriptor.Alike.taggedFields {d e : Descriptor} (h : Alike d e) :
    List.Forall₂ Field.Alike d.taggedFields e.taggedFields := by
  cases h with
  | mk name path hkind hfields => exact hfields.tagged

/-! ## Mapping -/

namespace Mapping

variable {known : KnownTypes} {k k' : Kind} {d e : Descriptor}

theorem opaqueRule_alike (h : Kind.Alike k k') : opaqueRule k = opaqueRule k' := by
  cases h with
  | same => rfl
  | optional => rfl
  | mapping => rfl
  | @sequence d e h =>
      have hitem := h.kind
      simp only [opaqueRule]
      generalize d.kind = kd, e.kind = ke at hitem ⊢
      cases hitem <;> rfl

theorem textsRule_alike (h : Kind.Alike k k') : textsRule k = textsRule k' := by
  cases h with
  | same => rfl
  | optional => rfl
  | @sequence d e h =>
      have hitem := h.kind
      simp only [textsRule]
      generalize d.kind = kd, e.kind = ke at hitem ⊢
      cases hitem <;> rfl
  | @mapping d e v w hkey hvalue =>
      have hkey := hkey.kind
      have hvalue := hvalue.kind
      simp only [textsRule]
      generalize d.kind = kd, e.kind = ke, v.kind = kv, w.kind = kw at hkey hvalue ⊢
      cases hkey with
      | optional => rfl
      | sequence => rfl
      | mapping => rfl
      | same => cases hvalue with
        | same => rfl
        | _ => cases kd <;> rfl

theorem knownRule_alike (h : Descriptor.Alike d e) : knownRule known d = knownRule known e := by
  rw [knownRule, knownRule, h.name_eq]

theorem optionalRule_alike (h : Kind.Alike k k') : optionalRule known k = optionalRule known k' := by
  cases h with
  | same => rfl
  | sequence => rfl
  | mapping => rfl
  | optional h => rw [optionalRule, optionalRule, h.name_eq]

theorem listRule_alike (h : Kind.Alike k k') : listRule known k = listRule known k' := by
  cases h with
  | same => rfl
  | optional => rfl
  | mapping => rfl
  | @sequence d e h =>
      have hitem := h.kind
      simp only [listRule, h.name_eq]
      generalize d.kind = kd, e.kind = ke at hitem ⊢
      cases hitem with
      | same => rfl
      | sequence => rfl
      | mapping => rfl
      | optional hinner => simp only [hinner.name_eq]

theorem plainRule_alike (h : Kind.Alike k k') : plainRule k = plainRule k' := by
  cases h <;> rfl

/-- No rule sees an untagged field. -/
theorem ofType?_alike (h : Descriptor.Alike d e) : ofType? known d = ofType? known e := by
  rw [ofType?, ofType?, opaqueRule_alike h.kind, textsRule_alike h.kind, knownRule_alike h,
    optionalRule_alike h.kind, listRule_alike h.kind, plainRule_alike h.kind]

theorem ofField_alike (unit : String) {f g : Field} (h : f.Alike g) :
    ofField unit known f = ofField unit known g := by
  rw [ofField, ofField, ofType?_alike h.type, h.name_eq, h.tag_eq, h.type.name_eq]

theorem ofFields_alike (unit : String) (h : Descriptor.Alike d e) :
    ofFields unit known d = ofFields unit known e :=
  mapM_eq_of_forall₂ (h.taggedFields.imp fun _ _ => ofField_alike unit)

end Mapping

/-! ## Modules -/

/-- Units that differ in untagged fields of their types only. -/
structure GenerationUnit.Alike (u v : GenerationUnit) : Prop where
  name_eq : u.name = v.name
  imports_eq : u.imports = v.imports
  object : Descriptor.Alike u.object v.object
  dependsOn : List.Forall₂ Descriptor.Alike u.dependsOn v.dependsOn

theorem GenerationUnit.Alike.types {u v : GenerationUnit} (h : u.Alike v) :
    List.Forall₂ Descriptor.Alike u.types v.types :=
  .cons h.object h.dependsOn

theorem names_alike {ds es : List Descriptor} (h : List.Forall₂ Descriptor.Alike ds es)
    {unit : String} : ds.map (fun t => (t.name, unit)) = es.map fun t => (t.name, unit) := by
  induction h with
  | nil => rfl
  | cons hd hmore ih => rw [List.map_cons, List.map_cons, hd.name_eq, ih]

theorem SchemaFunction.ofType_alike {d e : Descriptor} (h : Descriptor.Alike d e) (unit : String)
    (fields : List MappedField) (isPublic : Bool) :
    ofType unit d fields isPublic = ofType unit e fields isPublic := by
  rw [ofType, ofType, h.name_eq, h.path_eq]

theorem HolderType.ofType_alike {d e : Descriptor} (h : Descriptor.Alike d e)
    (fields : List MappedField) : ofType d fields = ofType e fields := by
  rw [ofType, ofType, h.name_eq, h.path_eq]

namespace UnitModule

variable {known : KnownTypes} {u v : GenerationUnit}

theorem typeParts_alike {d e : Descriptor} (h : Descriptor.Alike d e) (unit : String)
    (isPrimary : Bool) : typeParts unit known isPrimary d = typeParts unit known isPrimary e := by
  simp only [typeParts, Mapping.ofFields_alike unit h, SchemaFunction.ofType_alike h,
    HolderType.ofType_alike h]

theorem allParts_alike (h : u.Alike v) : allParts known u = allParts known v := by
  have hothers : u.dependsOn.mapM (typeParts v.name known false) =
      v.dependsOn.mapM (typeParts v.name known false) :=
    mapM_eq_of_forall₂ (h.dependsOn.imp fun _ _ hd => typeParts_alike hd v.name false)
  rw [allParts, allParts, h.name_eq, typeParts_alike h.object, hothers]

theorem ofUnit_alike (h : u.Alike v) : ofUnit known u = ofUnit known v := by
  rw [ofUnit, ofUnit, allParts_alike h, h.name_eq, h.imports_eq]

end UnitModule

/-! ## Lists of units -/

section

variable {units units' : List GenerationUnit} (h : List.Forall₂ GenerationUnit.Alike units units')

include h

theorem Validation.checkNames_alike (seen : List String) :
    checkNames seen units = checkNames seen units' := by
  induction h generalizing seen with
  | nil => rfl
  | cons hunit hmore ih => rw [checkNames, checkNames, hunit.name_eq, ih]

theorem Validation.check_alike : check units = check units' := by
  cases h with
  | nil => rfl
  | cons hunit hmore => exact checkNames_alike (.cons hunit hmore) []

theorem KnownTypes.declared_alike : declared units = declared units' := by
  rw [declared, declared]
  induction h with
  | nil => rfl
  | cons hunit hmore ih =>
      rw [List.flatMap_cons, List.flatMap_cons, ih, hunit.name_eq, names_alike hunit.types]

theorem KnownTypes.dependencies_alike : dependencies units = dependencies units' := by
  rw [dependencies, dependencies]
  induction h with
  | nil => rfl
  | cons hunit hmore ih =>
      rw [List.flatMap_cons, List.flatMap_cons, ih, hunit.name_eq, names_alike hunit.dependsOn]

theorem KnownTypes.build_alike : build units = build units' := by
  rw [build, build, declared_alike h, dependencies_alike h]

theorem RootModule.ofUnits_alike : ofUnits units = ofUnits units' := by
  have hentries : units.mapM entryOf = units'.mapM entryOf := by
    apply mapM_eq_of_forall₂ (h.imp ?_)
    intro u v hunit
    rw [entryOf, entryOf, hunit.name_eq, hunit.object.name_eq]
  rw [ofUnits, ofUnits, hentries]

end

namespace Artifact

theorem ofUnit_alike {known : KnownTypes} {u v : GenerationUnit} (h : u.Alike v) :
    ofUnit known u = ofUnit known v := by
  rw [ofUnit, ofUnit, UnitModule.ofUnit_alike h, h.name_eq]

/-- Lists of units that differ in untagged fields only give the same files, or the same error. -/
theorem generate_alike {units units' : List GenerationUnit}
    (h : List.Forall₂ GenerationUnit.Alike units units') : generate units = generate units' := by
  have hmodules (known : KnownTypes) : units.mapM (ofUnit known) = units'.mapM (ofUnit known) :=
    mapM_eq_of_forall₂ (h.imp fun _ _ => ofUnit_alike)
  have hroot : root units = root units' := by rw [root, root, RootModule.ofUnits_alike h]
  rw [generate, generate, Validation.check_alike h, KnownTypes.build_alike h, hroot]
  simp only [hmodules]

def flagField : Field := .mk "flag" (.scalar "bool" .bool) "flag"

def noteField : Field := .mk "note" (.scalar "Opaque" .struct) ""

theorem alike_flag {fs gs : List Field} (h : FieldsAlike fs gs) :
    FieldsAlike (flagField :: fs) (flagField :: gs) :=
  .both _ _ (.refl _) h

theorem alike_note {fs gs : List Field} (h : FieldsAlike fs gs) :
    FieldsAlike fs (noteField :: gs) :=
  .right _ _ h

/-- The crossing units with untagged fields: before and between the others, in a dependency, and in the
descriptors of a field and of the items of a list. -/
def annotatedUnits : List GenerationUnit :=
  let left : Descriptor := .ofFields "LeftLink" "native::LeftLink" [noteField, flagField]
  let right : Descriptor := .ofFields "RightLink" "native::RightLink" [flagField, noteField, noteField]
  [⟨"left", [], .ofFields "Left" "native::Left"
      [noteField, flagField, noteField, .mk "link" right "link"], [left]⟩,
    ⟨"right", ["native"], .ofFields "Right" "native::Right"
      [.mk "links" (.scalar "Vec" (.sequence left)) "links", noteField, .mk "own" right "own"], [right]⟩]

theorem generate_alike_annotated :
    List.Forall₂ GenerationUnit.Alike crossingUnits annotatedUnits ∧
      generate crossingUnits = generate annotatedUnits := by
  have hleft : Descriptor.Alike (.ofFields "LeftLink" "native::LeftLink" [flagField])
      (.ofFields "LeftLink" "native::LeftLink" [noteField, flagField]) :=
    .mk _ _ (.same _) (alike_note (alike_flag .nil))
  have hright : Descriptor.Alike (.ofFields "RightLink" "native::RightLink" [flagField])
      (.ofFields "RightLink" "native::RightLink" [flagField, noteField, noteField]) :=
    .mk _ _ (.same _) (alike_flag (alike_note (alike_note .nil)))
  have hunits : List.Forall₂ GenerationUnit.Alike crossingUnits annotatedUnits := by
    refine .cons ⟨rfl, rfl, ?_, .cons hleft .nil⟩ (.cons ⟨rfl, rfl, ?_, .cons hright .nil⟩ .nil)
    · exact .mk _ _ (.same _) (alike_note (alike_flag (alike_note (.both _ _ hright .nil))))
    · exact .mk _ _ (.same _) (.both _ _ (.mk _ _ (.sequence hleft) .nil)
        (alike_note (.both _ _ hright .nil)))
  exact ⟨hunits, generate_alike hunits⟩

end Artifact

end AttributeSchema
