import AttributeSchema.CommandLine
import AttributeSchema.Proofs.Json.Trees
/-!
# Descriptors are told apart by their JSON

The entry `kind` of a descriptor names the constructor of its kind, and what the entry `of` holds, if it is
there, is told apart among kinds of one constructor. So nothing is lost by the entries that are left out,
whether an object keeps its entries as they are written or in the order of their keys.
-/

namespace AttributeSchema

open Json (Value)
open Json.Value (Rearranges)

/-! ## Looking up entries -/

theorem lookup_map {α β : Type} (g : α → β) (entries : List (String × α)) (key : String) :
    (entries.map fun e => (e.1, g e.2)).lookup key = (entries.lookup key).map g := by
  induction entries with
  | nil => rfl
  | cons e entries ih =>
      rw [List.map_cons, List.lookup_cons, List.lookup_cons, ih]
      cases key == e.1 <;> rfl

/-- Whatever the order of the entries, each is found at its key. -/
theorem Json.Value.Rearranges.get?_eq {g : Value → Value} (hg : Rearranges g)
    {entries : List (String × Value)} (hkeys : (entries.map Prod.fst).Nodup) (key : String) :
    (g (.object entries)).get? key = (entries.lookup key).map g := by
  obtain ⟨entries', hobject, hperm⟩ := hg.object_eq hkeys
  have hkeys' : ((entries.map fun e => (e.1, g e.2)).map Prod.fst).Nodup := by
    rw [List.map_map]
    exact hkeys
  rw [hobject, Value.get?, SortedMap.lookup_perm hkeys' hperm, lookup_map]

/-! ## What the object of a descriptor holds -/

def Kind.word : Kind → String
  | bool => "bool"
  | integer _ => "integer"
  | string => "string"
  | encoded _ => "opaque"
  | struct => "struct"
  | optional _ => "optional"
  | sequence _ => "sequence"
  | mapping .. => "mapping"

def Kind.content? : Kind → Option Value
  | integer kind => some (.string kind.name)
  | encoded kind => some (.string kind.name)
  | optional inner => some inner.toJson
  | sequence item => some item.toJson
  | mapping key value => some (.array [key.toJson, value.toJson])
  | _ => none

theorem Kind.entries_eq (k : Kind) :
    k.entries = ("kind", .string k.word) :: (k.content?.map ("of", ·)).toList := by
  cases k with
  | bool => rw [entries]; rfl
  | integer kind => rw [entries]; rfl
  | string => rw [entries]; rfl
  | encoded kind => rw [entries]; rfl
  | struct => rw [entries]; rfl
  | optional inner => rw [entries]; rfl
  | sequence item => rw [entries]; rfl
  | mapping key value => rw [entries]; rfl

theorem Field.toJsonList_eq (fields : List Field) : Field.toJsonList fields = fields.map Field.toJson := by
  induction fields with
  | nil => rw [toJsonList]; rfl
  | cons f fields ih => rw [toJsonList, ih, List.map_cons]

def Field.content? (fields : List Field) : Option Value :=
  if fields = [] then none else some (.array (fields.map Field.toJson))

namespace Descriptor

theorem toJson_eq (d : Descriptor) :
    d.toJson = .object (("name", .string d.name) :: ("path", .string d.path) ::
      ("kind", .string d.kind.word) ::
        ((d.kind.content?.map ("of", ·)).toList ++ ((Field.content? d.fields).map ("fields", ·)).toList)) := by
  obtain ⟨name, path, kind, fields⟩ := d
  cases fields with
  | nil =>
      rw [toJson, Kind.entries_eq]
      simp [Field.content?, Descriptor.name, Descriptor.path, Descriptor.kind, Descriptor.fields]
  | cons f fields =>
      rw [toJson, Kind.entries_eq, Field.toJsonList_eq]
      simp [Field.content?, Descriptor.name, Descriptor.path, Descriptor.kind, Descriptor.fields]

/-- A tree in which each entry of a descriptor's object is found, with its own entries in some order. -/
structure IsShown (g : Value → Value) (d : Descriptor) (tree : Value) : Prop where
  name : tree.get? "name" = some (.string d.name)
  path : tree.get? "path" = some (.string d.path)
  kind : tree.get? "kind" = some (.string d.kind.word)
  content : tree.get? "of" = d.kind.content?.map g
  fields : tree.get? "fields" = (Field.content? d.fields).map g

theorem isShown_toJson {g : Value → Value} (hg : Rearranges g) (d : Descriptor) :
    d.IsShown g (g d.toJson) := by
  rw [toJson_eq]
  -- Both of the last entries may be missing.
  generalize hcontent : d.kind.content? = content
  generalize hfields : Field.content? d.fields = fields
  have hkeys : ((("name", Value.string d.name) :: ("path", .string d.path) ::
      ("kind", .string d.kind.word) :: ((content.map ("of", ·)).toList ++
        (fields.map ("fields", ·)).toList)).map Prod.fst).Nodup := by
    cases content <;> cases fields <;> simp
  constructor
  · rw [hg.get?_eq hkeys]
    simp [hg.string_eq]
  · rw [hg.get?_eq hkeys]
    simp [List.lookup_cons, hg.string_eq]
  · rw [hg.get?_eq hkeys]
    simp [List.lookup_cons, hg.string_eq]
  · rw [hg.get?_eq hkeys, hcontent]
    cases content <;> cases fields <;> simp [List.lookup_cons]
  · rw [hg.get?_eq hkeys, hfields]
    cases content <;> cases fields <;> simp [List.lookup_cons]

end Descriptor

structure Field.IsShown (g : Value → Value) (f : Field) (tree : Value) : Prop where
  name : tree.get? "name" = some (.string f.name)
  type : tree.get? "ty" = some (g f.type.toJson)
  tag : tree.get? "tag" = some (.string f.tag)

theorem Field.isShown_toJson {g : Value → Value} (hg : Rearranges g) (f : Field) :
    f.IsShown g (g f.toJson) := by
  obtain ⟨name, type, tag⟩ := f
  rw [toJson]
  have hkeys : ([("name", Value.string name), ("ty", type.toJson), ("tag", .string tag)].map
      Prod.fst).Nodup := by simp
  constructor
  · rw [hg.get?_eq hkeys]
    simp [hg.string_eq, Field.name]
  · rw [hg.get?_eq hkeys]
    simp [List.lookup_cons, Field.type]
  · rw [hg.get?_eq hkeys]
    simp [List.lookup_cons, hg.string_eq, Field.tag]

/-! ## Nothing is lost -/

theorem OpaqueKind.name_inj {a b : OpaqueKind} (h : a.name = b.name) : a = b := by
  revert h
  cases a <;> cases b <;> decide

theorem IntKind.name_inj {a b : IntKind} (h : a.name = b.name) : a = b := by
  have hread := ofName?_name a
  rw [h, ofName?_name b] at hread
  exact (Option.some.inj hread).symm

theorem Field.content?_eq_iff {g : Value → Value} (hg : Rearranges g) {fs fs' : List Field} :
    (Field.content? fs).map g = (Field.content? fs').map g ↔
      fs.map (fun f => g f.toJson) = fs'.map fun f => g f.toJson := by
  cases fs <;> cases fs' <;> simp [Field.content?, hg.array_eq, Function.comp_def]

mutual

theorem Kind.eq_of_shown {g : Value → Value} (hg : Rearranges g) : ∀ k l : Kind, k.word = l.word →
    k.content?.map g = l.content?.map g → k = l
  | .bool, l, hword, _ => by
      cases l with
      | bool => rfl
      | _ => simp [Kind.word] at hword
  | .string, l, hword, _ => by
      cases l with
      | string => rfl
      | _ => simp [Kind.word] at hword
  | .struct, l, hword, _ => by
      cases l with
      | struct => rfl
      | _ => simp [Kind.word] at hword
  | .integer a, l, hword, hcontent => by
      cases l with
      | integer b =>
          have hname : g (.string a.name) = g (.string b.name) := Option.some.inj hcontent
          rw [hg.string_eq, hg.string_eq] at hname
          rw [IntKind.name_inj (Value.string.inj hname)]
      | _ => simp [Kind.word] at hword
  | .encoded a, l, hword, hcontent => by
      cases l with
      | encoded b =>
          have hname : g (.string a.name) = g (.string b.name) := Option.some.inj hcontent
          rw [hg.string_eq, hg.string_eq] at hname
          rw [OpaqueKind.name_inj (Value.string.inj hname)]
      | _ => simp [Kind.word] at hword
  | .optional d, l, hword, hcontent => by
      cases l with
      | optional e => rw [Descriptor.eq_of_shown hg d e (Option.some.inj hcontent)]
      | _ => simp [Kind.word] at hword
  | .sequence d, l, hword, hcontent => by
      cases l with
      | sequence e => rw [Descriptor.eq_of_shown hg d e (Option.some.inj hcontent)]
      | _ => simp [Kind.word] at hword
  | .mapping d d', l, hword, hcontent => by
      cases l with
      | mapping e e' =>
          have hitems : g (.array [d.toJson, d'.toJson]) = g (.array [e.toJson, e'.toJson]) :=
            Option.some.inj hcontent
          rw [hg.array_eq, hg.array_eq] at hitems
          obtain ⟨hkey, hrest⟩ := List.cons.inj (Value.array.inj hitems)
          rw [Descriptor.eq_of_shown hg d e hkey,
            Descriptor.eq_of_shown hg d' e' (List.cons.inj hrest).1]
      | _ => simp [Kind.word] at hword

theorem Descriptor.eq_of_shown {g : Value → Value} (hg : Rearranges g) : ∀ d e : Descriptor,
    g d.toJson = g e.toJson → d = e
  | .mk name path kind fields, .mk name' path' kind' fields', h => by
      have hd := Descriptor.isShown_toJson hg (.mk name path kind fields)
      have he := Descriptor.isShown_toJson hg (.mk name' path' kind' fields')
      rw [← h] at he
      have hname : name = name' := Value.string.inj (Option.some.inj (hd.name.symm.trans he.name))
      have hpath : path = path' := Value.string.inj (Option.some.inj (hd.path.symm.trans he.path))
      have hword : kind.word = kind'.word :=
        Value.string.inj (Option.some.inj (hd.kind.symm.trans he.kind))
      have hkind : kind = kind' :=
        Kind.eq_of_shown hg kind kind' hword (hd.content.symm.trans he.content)
      have hfields : fields = fields' :=
        Field.eq_of_shown hg fields fields'
          ((Field.content?_eq_iff hg).1 (hd.fields.symm.trans he.fields))
      rw [hname, hpath, hkind, hfields]

theorem Field.eq_of_shown {g : Value → Value} (hg : Rearranges g) : ∀ fs fs' : List Field,
    (fs.map fun f => g f.toJson) = (fs'.map fun f => g f.toJson) → fs = fs'
  | [], [], _ => rfl
  | [], _ :: _, h => by cases h
  | _ :: _, [], h => by cases h
  | .mk name type tag :: fs, .mk name' type' tag' :: fs', h => by
      rw [List.map_cons, List.map_cons] at h
      obtain ⟨hhead, hrest⟩ := List.cons.inj h
      have hf := Field.isShown_toJson hg (.mk name type tag)
      have hf' := Field.isShown_toJson hg (.mk name' type' tag')
      rw [← hhead] at hf'
      have hname : name = name' := Value.string.inj (Option.some.inj (hf.name.symm.trans hf'.name))
      have htag : tag = tag' := Value.string.inj (Option.some.inj (hf.tag.symm.trans hf'.tag))
      have htype : type = type' :=
        Descriptor.eq_of_shown hg type type' (Option.some.inj (hf.type.symm.trans hf'.type))
      rw [hname, htag, htype, Field.eq_of_shown hg fs fs' hrest]

end

structure GenerationUnit.IsShown (g : Value → Value) (u : GenerationUnit) (tree : Value) : Prop where
  name : tree.get? "name" = some (.string u.name)
  imports : tree.get? "imports" = some (.strings u.imports)
  object : tree.get? "object" = some (g u.object.toJson)
  dependsOn : tree.get? "depends_on" = some (.array (u.dependsOn.map fun d => g d.toJson))

theorem GenerationUnit.isShown_toJson {g : Value → Value} (hg : Rearranges g) (u : GenerationUnit) :
    u.IsShown g (g u.toJson) := by
  rw [toJson]
  have hkeys : ([("name", Value.string u.name), ("imports", .strings u.imports),
      ("object", u.object.toJson), ("depends_on", .array (u.dependsOn.map Descriptor.toJson))].map
      Prod.fst).Nodup := by simp
  have hstrings : g (.strings u.imports) = .strings u.imports := by
    rw [Value.strings, hg.array_eq, List.map_map]
    exact congrArg Value.array (List.map_congr_left fun s _ => hg.string_eq s)
  constructor
  · rw [hg.get?_eq hkeys]
    simp [hg.string_eq]
  · rw [hg.get?_eq hkeys]
    simp [List.lookup_cons, hstrings]
  · rw [hg.get?_eq hkeys]
    simp [List.lookup_cons]
  · rw [hg.get?_eq hkeys]
    simp [List.lookup_cons, hg.array_eq, Function.comp_def]

theorem GenerationUnit.eq_of_shown {g : Value → Value} (hg : Rearranges g) {u v : GenerationUnit}
    (h : g u.toJson = g v.toJson) : u = v := by
  have hu := isShown_toJson hg u
  have hv := isShown_toJson hg v
  rw [← h] at hv
  have hname : u.name = v.name := Value.string.inj (Option.some.inj (hu.name.symm.trans hv.name))
  have himports : u.imports = v.imports := by
    have htexts := Value.array.inj (Option.some.inj (hu.imports.symm.trans hv.imports))
    exact List.map_injective_iff.2 (fun _ _ => Value.string.inj) htexts
  have hobject : u.object = v.object :=
    Descriptor.eq_of_shown hg u.object v.object (Option.some.inj (hu.object.symm.trans hv.object))
  have hdependsOn : u.dependsOn = v.dependsOn := by
    have htrees := Value.array.inj (Option.some.inj (hu.dependsOn.symm.trans hv.dependsOn))
    exact List.map_injective_iff.2 (fun d e => Descriptor.eq_of_shown hg d e) htrees
  cases u
  cases v
  simp_all

/-! ## The texts of descriptors and units -/

mutual

theorem Kind.isTextual_content : ∀ (k : Kind) {v : Value}, k.content? = some v → v.IsTextual
  | .bool, _, h => nomatch h
  | .string, _, h => nomatch h
  | .struct, _, h => nomatch h
  | .integer kind, _, h => Option.some.inj h ▸ .string kind.name
  | .encoded kind, _, h => Option.some.inj h ▸ .string kind.name
  | .optional inner, _, h => Option.some.inj h ▸ Descriptor.isTextual_toJson inner
  | .sequence item, _, h => Option.some.inj h ▸ Descriptor.isTextual_toJson item
  | .mapping key value, _, h => by
      have hkey := Descriptor.isTextual_toJson key
      have hvalue := Descriptor.isTextual_toJson value
      rw [← Option.some.inj h]
      refine .array ?_
      simp [hkey, hvalue]

theorem Descriptor.isTextual_toJson : ∀ d : Descriptor, d.toJson.IsTextual
  | .mk name path kind fields => by
      have hcontent := @Kind.isTextual_content kind
      have hfields : ∀ v, Field.content? fields = some v → v.IsTextual := by
        intro v hv
        unfold Field.content? at hv
        split at hv
        · exact nomatch hv
        · rw [← Option.some.inj hv]
          exact .array (List.forall_mem_map.2 (Field.isTextual_toJson fields))
      rw [Descriptor.toJson_eq]
      refine .object ?_
      intro e he
      simp only [List.mem_cons, List.mem_append, Option.mem_toList, Option.map_eq_some_iff] at he
      rcases he with rfl | rfl | rfl | ⟨v, hv, rfl⟩ | ⟨v, hv, rfl⟩
      · exact .string _
      · exact .string _
      · exact .string _
      · exact hcontent hv
      · exact hfields v hv

theorem Field.isTextual_toJson : ∀ (fs : List Field), ∀ f ∈ fs, f.toJson.IsTextual
  | [], _, h => nomatch h
  | .mk name type tag :: fs, f, h => by
      have htype := Descriptor.isTextual_toJson type
      have hfields := Field.isTextual_toJson fs
      rcases List.mem_cons.1 h with rfl | h
      · rw [Field.toJson]
        refine .object ?_
        simp [htype, Value.IsTextual.string]
      · exact hfields f h

end

theorem GenerationUnit.isTextual_toJson (u : GenerationUnit) : u.toJson.IsTextual := by
  rw [toJson]
  refine .object ?_
  simp only [List.forall_mem_cons, List.not_mem_nil, false_imp_iff, implies_true, and_true]
  refine ⟨.string u.name, .array ?_, u.object.isTextual_toJson, .array ?_⟩
  · simp [Value.IsTextual.string]
  · simp [Descriptor.isTextual_toJson]

/-- The descriptors of units are read back as they were written, up to the order of entries. -/
theorem CommandLine.ofText?_description (us : List GenerationUnit) :
    Value.ofText? (CommandLine.description us) =
      some (.array (us.map fun u => u.toJson.arranged)) := by
  have htextual : (Value.array (us.map GenerationUnit.toJson)).IsTextual :=
    .array (List.forall_mem_map.2 fun u _ => u.isTextual_toJson)
  rw [description, Json.ofText?_pretty htextual 2 (by decide), Value.arranged, Value.arrangedItems_eq,
    List.map_map]
  rfl

theorem Json.Value.IsTextual.arranged_eq_of_pretty {v w : Value} (hv : v.IsTextual) (hw : w.IsTextual)
    {step : Nat} (h : Json.pretty step v = Json.pretty step w) : v.arranged = w.arranged := by
  have hnone : Json.skipSpaces "".toList = [] := rfl
  have hread := Json.ofText?_pretty hv step hnone
  rw [h, Json.ofText?_pretty hw step hnone] at hread
  exact (Option.some.inj hread).symm

theorem CommandLine.description_inj {us vs : List GenerationUnit} :
    CommandLine.description us = CommandLine.description vs ↔ us = vs := by
  refine ⟨fun h => ?_, congrArg _⟩
  have hread := CommandLine.ofText?_description us
  rw [h, CommandLine.ofText?_description vs] at hread
  have htrees := Value.array.inj (Option.some.inj hread)
  exact (List.map_injective_iff.2 (fun u v =>
    GenerationUnit.eq_of_shown Value.rearranges_arranged) htrees).symm

/-- Descriptors, and units, are told apart by their trees, in the order of the entries or of the keys, and
by their texts. -/
theorem descriptions_inj :
    (∀ d e : Descriptor, (d.toJson = e.toJson ↔ d = e) ∧
      (d.toJson.arranged = e.toJson.arranged ↔ d = e) ∧
      ∀ step, Json.pretty step d.toJson = Json.pretty step e.toJson ↔ d = e) ∧
    (∀ u v : GenerationUnit, (u.toJson = v.toJson ↔ u = v) ∧
      (u.toJson.arranged = v.toJson.arranged ↔ u = v) ∧
      ∀ step, Json.pretty step u.toJson = Json.pretty step v.toJson ↔ u = v) ∧
    ∀ us vs : List GenerationUnit,
      CommandLine.description us = CommandLine.description vs ↔ us = vs := by
  refine ⟨fun d e => ?_, fun u v => ?_, fun us vs => CommandLine.description_inj⟩
  · have harranged : d.toJson.arranged = e.toJson.arranged → d = e :=
      Descriptor.eq_of_shown Value.rearranges_arranged d e
    refine ⟨⟨Descriptor.eq_of_shown Value.rearranges_id d e, congrArg _⟩,
      ⟨harranged, congrArg fun d : Descriptor => d.toJson.arranged⟩,
      fun step => ⟨fun h => harranged ?_, congrArg fun d : Descriptor => Json.pretty step d.toJson⟩⟩
    exact d.isTextual_toJson.arranged_eq_of_pretty e.isTextual_toJson h
  · have harranged : u.toJson.arranged = v.toJson.arranged → u = v :=
      GenerationUnit.eq_of_shown Value.rearranges_arranged
    refine ⟨⟨GenerationUnit.eq_of_shown Value.rearranges_id, congrArg _⟩,
      ⟨harranged, congrArg fun u : GenerationUnit => u.toJson.arranged⟩,
      fun step => ⟨fun h => harranged ?_, congrArg fun u : GenerationUnit => Json.pretty step u.toJson⟩⟩
    exact u.isTextual_toJson.arranged_eq_of_pretty v.isTextual_toJson h

end AttributeSchema
