import AttributeSchema.Proofs.Generator.Lookup
import AttributeSchema.Proofs.Source.Layout
import AttributeSchema.Proofs.Source.Literal
/-!
# Tags reach the generated text

The literal of each tag is written whole in the file of its unit: in the schema function of its type, and
in an attribute of the member that it renames. Whoever reads such a literal gets the tag back.
-/

namespace AttributeSchema

open Source (Attr Expr Item FieldItem Stmt)
open Source.Layout (Doc Woven allWords_append allWords_flatMap allWords_outdentLast sublist_enclosed
  sublist_commaSeparated)
open Source.Literal (Denotes)

/-- A literal that is read as one token, and denotes a text and no other. -/
structure IsLiteralOf (text literal : String) : Prop where
  isToken : Source.Lexer.tokens? literal = some [.literal literal]
  denotes_iff : ∀ t, Denotes literal t ↔ t = text

def EntryHolds (tag : String) (entry : Expr) : Prop :=
  ∃ literal type, entry = .tuple [.literal literal, type] false ∧ IsLiteralOf tag literal

def MemberHolds (tag : String) (member : FieldItem) : Prop :=
  ∃ literal rename, member.attributes = [rename] ∧
    Doc.allWords rename.docs = ["#[", "serde", "(", "rename", " = ", literal, ")", "]"] ∧
    IsLiteralOf tag literal

def Descriptor.tagLiterals (d : Descriptor) : List String :=
  d.taggedFields.map fun t => Source.Literal.ofText t.tag

theorem isLiteralOf_ofText (text : String) : IsLiteralOf text (Source.Literal.ofText text) where
  isToken := (Source.Literal.denotes_ofText_iff.2 rfl).tokens?_eq
  denotes_iff _ := Source.Literal.denotes_ofText_iff

theorem SchemaEntry.entryHolds (e : SchemaEntry) : EntryHolds e.tag e.expr :=
  ⟨Source.Literal.ofText e.tag, _, rfl, isLiteralOf_ofText e.tag⟩

theorem HolderField.memberHolds (f : HolderField) : MemberHolds f.tag f.member :=
  ⟨Source.Literal.ofText f.tag, _, rfl, rfl, isLiteralOf_ofText f.tag⟩

/-! ## Words of parts -/

theorem sublist_flatMap {α β γ : Type} {f : α → List γ} {g : β → List γ} {xs : List α} {ys : List β}
    (h : List.Forall₂ (fun x y => (f x).Sublist (g y)) xs ys) :
    (xs.flatMap f).Sublist (ys.flatMap g) := by
  induction h with
  | nil => exact List.Sublist.refl _
  | cons hxy _ ih =>
      rw [List.flatMap_cons, List.flatMap_cons]
      exact hxy.append ih

theorem docsList_eq (es : List Expr) : Expr.docsList es = es.map (Expr.docs .operand) := by
  induction es with
  | nil => rfl
  | cons e es ih => rw [List.map_cons, ← ih]; rfl

theorem sublist_array (isSmall : Bool) (items : List (List Doc)) :
    (items.flatMap Doc.allWords).Sublist (Doc.allWords (Source.arrayDocs isSmall items)) := by
  unfold Source.arrayDocs
  split
  · exact List.nil_sublist _
  · have hinside := sublist_commaSeparated items
    simp only [Doc.allWords, Doc.words, Source.Layout.cbox, Source.Layout.ibox, Source.Layout.word,
      Source.Layout.zero, Source.Layout.blank, Source.Layout.lastComma, List.append_nil,
      List.nil_append, List.singleton_append]
    exact (hinside.trans (List.sublist_append_left _ _)).trans (List.sublist_cons_self _ _)
  · exact sublist_enclosed _ _ _

theorem SchemaEntry.sublist_docs (e : SchemaEntry) :
    [Source.Literal.ofText e.tag].Sublist (Doc.allWords (e.expr.docs .operand)) := by
  let typed : Expr := .invoke ["attrgen", "Attribute", "optional"] [e.type.expr]
  have hdocs : e.expr.docs .operand = Source.Layout.enclosed "(" ")"
      [[.text (Source.Literal.ofText e.tag)], typed.docs .operand] := rfl
  rw [hdocs]
  refine List.Sublist.trans ?_ (sublist_enclosed _ _ _)
  exact List.sublist_append_left [_] _

theorem sublist_bracedBody (docs : List Doc) :
    (Doc.allWords docs).Sublist (Doc.allWords (Source.bracedBody docs)) := by
  unfold Source.bracedBody
  split
  · rename_i hempty
    rw [List.isEmpty_iff.1 hempty]
  · rw [allWords_outdentLast]
    exact List.Sublist.refl (Doc.allWords docs)

theorem Source.FunctionItem.sublist_docs (f : Source.FunctionItem) :
    (Doc.allWords (Stmt.allDocs f.body)).Sublist (Doc.allWords f.docs) := by
  have hbody := sublist_bracedBody (Stmt.allDocs f.body)
  unfold Source.FunctionItem.docs
  simp only [allWords_append, Doc.allWords, Doc.words, Source.Layout.cbox, Source.Layout.word]
  refine List.Sublist.trans ?_ (List.sublist_append_right _ _)
  refine List.Sublist.trans ?_ (List.sublist_append_left _ _)
  exact hbody.trans (List.sublist_append_right _ _)

theorem sublist_result (value : Expr) :
    (Doc.allWords (value.docs .start)).Sublist (Doc.allWords (Stmt.allDocs [.result value])) := by
  simp only [Stmt.result, Stmt.allDocs, Stmt.docs, Source.Layout.ibox, Doc.allWords, Doc.words,
    allWords_append, List.append_assoc]
  exact List.sublist_append_left _ _

theorem sublist_invoke (names : List String) (argument : Expr) :
    (Doc.allWords (argument.docs .operand)).Sublist
      (Doc.allWords ((Expr.invoke names [argument]).docs .start)) := by
  have hdocs : (Expr.invoke names [argument]).docs .start =
      (Expr.ofNames names).docs .start ++ Source.Layout.word "(" ::
        Expr.argumentDocs [argument] ++ [Source.Layout.word ")"] := rfl
  have hargument : (Doc.allWords (argument.docs .operand)).Sublist
      (Doc.allWords (Expr.argumentDocs [argument])) := by
    unfold Expr.argumentDocs
    split
    · exact List.Sublist.refl _
    · have hinside := Source.Layout.sublist_separated (Source.Layout.lastComma 0 (-Source.Layout.step))
        [argument.docs .operand]
      simpa [Doc.allWords, Doc.words, Source.Layout.cbox, Source.Layout.zero, Source.Layout.blank]
        using hinside
  rw [hdocs, allWords_append, allWords_append]
  refine List.Sublist.trans ?_ (List.sublist_append_left _ _)
  refine List.Sublist.trans ?_ (List.sublist_append_right _ _)
  exact hargument.trans (List.sublist_cons_self _ _)

/-- A schema function has the literals of its tags, in their order. -/
theorem SchemaFunction.sublist_docs (f : SchemaFunction) :
    (f.entries.map fun e => Source.Literal.ofText e.tag).Sublist (Doc.allWords f.item.docs) := by
  let entries : Expr := .array (f.entries.map SchemaEntry.expr) false
  have hentries : (f.entries.map fun e => Source.Literal.ofText e.tag).Sublist
      (Doc.allWords (entries.docs .operand)) := by
    have hdocs : entries.docs .operand =
        Source.arrayDocs (Source.areSmall (f.entries.map SchemaEntry.expr))
          (Expr.docsList (f.entries.map SchemaEntry.expr)) := rfl
    rw [hdocs, docsList_eq, List.map_map]
    refine List.Sublist.trans ?_ (sublist_array _ _)
    rw [List.map_eq_flatMap, List.flatMap_map]
    exact sublist_flatMap (List.forall₂_same.2 fun e _ => e.sublist_docs)
  obtain ⟨g, hitem, hbody⟩ : ∃ g : Source.FunctionItem, f.item = .function g ∧
      g.body = [.result (.invoke ["attrgen", "Attributes", "from"] [entries])] := ⟨_, rfl, rfl⟩
  have hresult := sublist_result (.invoke ["attrgen", "Attributes", "from"] [entries])
  rw [← hbody] at hresult
  rw [hitem]
  exact ((hentries.trans (sublist_invoke _ entries)).trans hresult).trans g.sublist_docs

/-- A holder has the literals of its tags, in their order. -/
theorem HolderType.sublist_docs (h : HolderType) :
    (h.fields.map fun f => Source.Literal.ofText f.tag).Sublist
      (Doc.allWords (h.items.flatMap Item.docs)) := by
  have hmember (f : HolderField) :
      [Source.Literal.ofText f.tag].Sublist (Doc.allWords f.member.docs) := by
    have hwords : Doc.allWords (Source.attributeDocs f.member.attributes) =
        ["#[", "serde", "(", "rename", " = ", Source.Literal.ofText f.tag, ")", "]"] := rfl
    unfold Source.FieldItem.docs
    rw [allWords_append, allWords_append, allWords_append, hwords]
    refine List.singleton_sublist.2 ?_
    simp
  have hmembers : (h.fields.map fun f => Source.Literal.ofText f.tag).Sublist
      (Doc.allWords ((h.fields.map HolderField.member).flatMap FieldItem.docs)) := by
    rw [allWords_flatMap, List.map_eq_flatMap, List.flatMap_map]
    exact sublist_flatMap (List.forall₂_same.2 fun f _ => hmember f)
  obtain ⟨attributes, name, functions, hitems⟩ : ∃ attributes name functions,
      h.items = [.struct attributes name (h.fields.map HolderField.member),
        .implementation name functions] := ⟨_, _, _, rfl⟩
  rw [hitems, List.flatMap_cons, allWords_append]
  refine List.Sublist.trans ?_ (List.sublist_append_left _ _)
  have hwords : Doc.allWords (Item.struct attributes name (h.fields.map HolderField.member)).docs =
      Doc.allWords (Source.attributeDocs attributes) ++ (["pub ", "struct ", name, " ", "\x7b"] ++
        (Doc.allWords (Source.bracedBody ((h.fields.map HolderField.member).flatMap FieldItem.docs)) ++
          ["\x7d"])) := by
    unfold Item.docs
    rw [allWords_append]
    rfl
  rw [hwords]
  refine List.Sublist.trans ?_ (List.sublist_append_right _ _)
  refine List.Sublist.trans ?_ (List.sublist_append_right _ _)
  exact (hmembers.trans (sublist_bracedBody _)).trans (List.sublist_append_left _ _)

/-! ## The file of a unit -/

theorem forall₂_of_map_eq {α β γ : Type} {f : α → γ} {g : β → γ} {xs : List α} {ys : List β}
    (h : xs.map f = ys.map g) : List.Forall₂ (fun x y => f x = g y) xs ys := by
  have hpairs : List.Forall₂ (· = ·) (xs.map f) (ys.map g) := List.forall₂_eq_eq_eq ▸ h
  rwa [List.forall₂_map_left_iff, List.forall₂_map_right_iff] at hpairs

section

variable {known : KnownTypes} {u : GenerationUnit} {m : UnitModule}

theorem UnitModule.tags_of_typeParts {unit : String} {isPrimary : Bool} {d : Descriptor} {p : TypeParts}
    (h : typeParts unit known isPrimary d = .ok p) :
    p.function.entries.map SchemaEntry.tag = d.taggedFields.map Field.tag ∧
      p.holder.fields.map HolderField.tag = d.taggedFields.map Field.tag := by
  obtain ⟨hfields, hfunction, hholder⟩ := typeParts_ok h
  have htags : p.fields.map MappedField.tag = d.taggedFields.map Field.tag :=
    map_eq_map_of_mapM_ok (fun _ _ hm => (Mapping.ofField_spec hm).2.1) hfields
  constructor
  · rw [← htags]
    apply map_eq_map_of_mapM_ok ?_ (entries_of_ofType hfunction)
    intro m e he
    obtain ⟨type, -, rfl⟩ := map_ok_iff.1 he
    rfl
  · rw [← htags]
    apply map_eq_map_of_mapM_ok ?_ (fields_of_ofType hholder)
    intro m held hheld
    obtain ⟨name, -, hheld⟩ := bind_ok_iff.1 hheld
    obtain ⟨conversion, -, hheld⟩ := bind_ok_iff.1 hheld
    rw [← Except.ok.inj hheld]

theorem UnitModule.forall₂_allParts {parts : List TypeParts} (h : allParts known u = .ok parts) :
    List.Forall₂ (fun d p => ∃ isPrimary, typeParts u.name known isPrimary d = .ok p) u.types parts := by
  obtain ⟨primary, others, rfl, hprimary, hothers⟩ := allParts_ok h
  exact .cons ⟨true, hprimary⟩ ((mapM_ok_iff.1 hothers).imp fun _ _ hstep => ⟨false, hstep⟩)

theorem UnitModule.tagLiterals_of_typeParts {unit : String} {isPrimary : Bool} {d : Descriptor}
    {p : TypeParts} (h : typeParts unit known isPrimary d = .ok p) :
    p.function.entries.map (fun e => Source.Literal.ofText e.tag) = d.tagLiterals ∧
      p.holder.fields.map (fun f => Source.Literal.ofText f.tag) = d.tagLiterals := by
  obtain ⟨hentries, hfields⟩ := tags_of_typeParts h
  have hliterals : d.tagLiterals = (d.taggedFields.map Field.tag).map Source.Literal.ofText := by
    rw [List.map_map]
    rfl
  rw [hliterals]
  constructor
  · rw [← hentries, List.map_map]
    rfl
  · rw [← hfields, List.map_map]
    rfl

/-- All literals of tags stand in the text, once for the schema functions and once for the holders, in the
order of the types. -/
theorem UnitModule.woven_file (h : ofUnit known u = .ok m) :
    Woven (u.types.flatMap Descriptor.tagLiterals ++ u.types.flatMap Descriptor.tagLiterals)
      m.file.text.toList := by
  obtain ⟨parts, hparts, hfunctions, hholders, -⟩ := ofUnit_ok h
  have hsteps := forall₂_allParts hparts
  have hschemas : (u.types.flatMap Descriptor.tagLiterals).Sublist
      (Doc.allWords ((m.functions.map SchemaFunction.item).flatMap Item.docs)) := by
    rw [hfunctions, List.map_map, List.flatMap_map, allWords_flatMap]
    refine sublist_flatMap (hsteps.imp fun d p hp => ?_)
    obtain ⟨isPrimary, hp⟩ := hp
    rw [← (tagLiterals_of_typeParts hp).1]
    exact p.function.sublist_docs
  have hrenames : (u.types.flatMap Descriptor.tagLiterals).Sublist
      (Doc.allWords ((m.holders.flatMap HolderType.items).flatMap Item.docs)) := by
    rw [hholders, List.flatMap_assoc, List.flatMap_map, allWords_flatMap]
    refine sublist_flatMap (hsteps.imp fun d p hp => ?_)
    obtain ⟨isPrimary, hp⟩ := hp
    rw [← (tagLiterals_of_typeParts hp).2]
    exact p.holder.sublist_docs
  unfold Source.File.text
  apply (Source.Layout.woven_render _).sublist
  have hitems : Doc.allWords (m.file.items.flatMap Item.docs) =
      Doc.allWords ((m.imports.map Item.import ++ m.foreign.map foreignItem).flatMap Item.docs) ++
        (Doc.allWords ((m.functions.map SchemaFunction.item).flatMap Item.docs) ++
          Doc.allWords ((m.holders.flatMap HolderType.items).flatMap Item.docs)) := by
    simp only [file, List.flatMap_append, allWords_append, List.append_assoc]
  simp only [Source.Layout.cbox, Doc.allWords, Doc.words, allWords_append, List.append_nil, hitems]
  refine (hschemas.append hrenames).trans ?_
  exact (List.sublist_append_right _ _).trans (List.sublist_append_right _ _)

end

/-- Every tag has a literal that is read as one token and denotes that tag alone. That literal stands in
the entry of the schema function for the tagged field and in the attribute of its member, and both are
written whole in the file of the unit. -/
theorem tags_reach_text :
    (∀ tag, IsLiteralOf tag (Source.Literal.ofText tag)) ∧
    (∀ s t, Source.Literal.ofText s = Source.Literal.ofText t ↔ s = t) ∧
    ∀ units artifacts, Artifact.generate units = .ok artifacts →
      ∃ known, KnownTypes.build units = .ok known ∧ ∀ u ∈ units, ∃ m content,
        UnitModule.ofUnit known u = .ok m ∧ ⟨Artifact.fileName u.name, content⟩ ∈ artifacts ∧
        Woven (u.types.flatMap Descriptor.tagLiterals ++ u.types.flatMap Descriptor.tagLiterals)
          content.toList ∧
        ∀ (i : Nat) (d : Descriptor), u.types[i]? = some d → ∃ f held entries members setters getters
          isMutable, m.functions[i]? = some f ∧ m.holders[i]? = some held ∧
          f.item.HasEntries entries ∧ AreHolder members setters getters isMutable held.items ∧
          List.Forall₂ (fun t entry => EntryHolds t.tag entry) d.taggedFields entries ∧
          List.Forall₂ (fun t member => MemberHolds t.tag member) d.taggedFields members := by
  refine ⟨isLiteralOf_ofText, fun s t => Source.Literal.ofText_injective.eq_iff, ?_⟩
  intro units artifacts h
  obtain ⟨known, modules, root, -, hbuild, hmodules, -, rfl⟩ := generate_ok h
  refine ⟨known, hbuild, fun u hu => ?_⟩
  obtain ⟨j, hj⟩ := List.getElem?_of_mem hu
  obtain ⟨artifact, hartifact, hofUnit⟩ := getElem?_of_mapM_ok hmodules hj
  obtain ⟨m, hm, rfl⟩ := ofUnitArtifact_ok hofUnit
  refine ⟨m, _, hm, List.mem_append_left _ (List.mem_of_getElem? hartifact), ?_, ?_⟩
  · rw [String.toList_append]
    exact (UnitModule.woven_file hm).behind _
  · intro i d hd
    obtain ⟨parts, hparts, hfunctions, hholders, -⟩ := UnitModule.ofUnit_ok hm
    obtain ⟨isPrimary, p, hp, hstep⟩ := UnitModule.getElem?_allParts hparts hd
    obtain ⟨hentries, hfields⟩ := UnitModule.tags_of_typeParts hstep
    refine ⟨p.function, p.holder, _, _, _, _, _, ?_, ?_, hasEntries_item p.function,
      areHolder_items p.holder, ?_, ?_⟩
    · rw [hfunctions, List.getElem?_map, hp, Option.map_some]
    · rw [hholders, List.getElem?_map, hp, Option.map_some]
    · rw [List.forall₂_map_right_iff]
      refine (forall₂_of_map_eq hentries.symm).imp fun t e htag => ?_
      rw [htag]
      exact e.entryHolds
    · rw [List.forall₂_map_right_iff]
      refine (forall₂_of_map_eq hfields.symm).imp fun t f htag => ?_
      rw [htag]
      exact f.memberHolds

/-- A type whose tags have a quote and a backslash, a null character before a digit, a line end, and a mark
that combines with what stands before it. -/
def escapedUnit : GenerationUnit :=
  let flag (name tag : String) : Field := .mk name (.scalar "bool" .bool) tag
  ⟨"escaped", [],
    .ofFields "Escaped" "Escaped"
      [flag "quoted" "a\"\\b", flag "octal" "\x007", flag "lines" "\r\n", flag "combined" "\u0301"], []⟩

theorem tags_reach_text_escaped :
    ∃ artifacts known m content, Artifact.generate [escapedUnit] = .ok artifacts ∧
      KnownTypes.build [escapedUnit] = .ok known ∧ UnitModule.ofUnit known escapedUnit = .ok m ∧
      ⟨"escaped.rs", content⟩ ∈ artifacts ∧
      Woven ["\"a\\\"\\\\b\"", "\"\\x007\"", "\"\\r\\n\"", "\"\\u\x7b301\x7d\"", "\"a\\\"\\\\b\"",
        "\"\\x007\"", "\"\\r\\n\"", "\"\\u\x7b301\x7d\""] content.toList := by
  obtain ⟨artifacts, h⟩ : ∃ artifacts, Artifact.generate [escapedUnit] = .ok artifacts :=
    exists_of_isOk (by decide +kernel)
  obtain ⟨known, hbuild, hunits⟩ := tags_reach_text.2.2 _ _ h
  obtain ⟨m, content, hm, hcontent, hwoven, -⟩ := hunits escapedUnit List.mem_cons_self
  refine ⟨artifacts, known, m, content, h, hbuild, hm, hcontent, ?_⟩
  have hliterals : escapedUnit.types.flatMap Descriptor.tagLiterals =
      ["\"a\\\"\\\\b\"", "\"\\x007\"", "\"\\r\\n\"", "\"\\u\x7b301\x7d\""] := by
    decide +kernel
  rw [hliterals] at hwoven
  exact hwoven

end AttributeSchema
