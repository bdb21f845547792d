import AttributeSchema.Proofs.Json.Arrangement
import AttributeSchema.Proofs.Record.Conformance
import AttributeSchema.Proofs.Record.Sources
import Mathlib.Data.List.Perm.Basic
/-!
# Holders survive their own JSON

A holder is read back from its JSON text, and from its JSON tree, which keeps the keys in another order: each
key is read into an attribute of its own, so the order does not matter.
-/

namespace AttributeSchema

open Json (Value)
open Json.Value (Rearranges)

/-! ## Plain attributes -/

namespace LeafType

theorem textsOfTrees_strings (texts : List String) :
    textsOfTrees (texts.map Value.string) = .ok texts := by
  induction texts with
  | nil => rfl
  | cons text texts ih =>
      rw [List.map_cons, textsOfTrees, ih]
      rfl

theorem mapOfEntries_strings (m : SortedMap String) (texts : List (String × String)) :
    mapOfEntries m (texts.map fun e => (e.1, Value.string e.2)) =
      .ok (texts.foldl (fun m e => m.insert e.1 e.2) m) := by
  induction texts generalizing m with
  | nil => rfl
  | cons e texts ih => exact ih _

theorem mapOfEntries_perm {m : SortedMap String} {entries : List (String × Value)}
    (h : (m.entries.map fun e => (e.1, Value.string e.2)).Perm entries) :
    mapOfEntries .empty entries = .ok m := by
  have hforall : List.Forall₂ (fun x (e : String × String) => x = (e.1, Value.string e.2))
      (m.entries.map fun e => (e.1, Value.string e.2)) m.entries :=
    List.forall₂_map_left_iff.2 (List.forall₂_same.2 fun _ _ => rfl)
  obtain ⟨texts, hentries, hperm⟩ := List.perm_comp_forall₂ h.symm hforall
  have htexts : entries = texts.map fun e => (e.1, Value.string e.2) := by
    rw [← List.forall₂_eq_eq_eq, List.forall₂_map_right_iff]
    exact hentries
  have hofList := SortedMap.ofList_perm m.nodup_keys hperm.symm
  rw [SortedMap.ofList_entries] at hofList
  rw [htexts, mapOfEntries_strings, hofList]
  rfl

theorem carrierOfTree_rearranged {g : Value → Value} (hg : Rearranges g) (t : LeafType) (x : t.Carrier) :
    t.carrierOfTree (g (t.carrierJson x)) = .ok x := by
  cases t with
  | bool =>
      rw [carrierJson, hg.bool_eq]
      rfl
  | number =>
      have hnumber : Number.ofInt? x.value = some x := by
        rw [Number.ofInt?, dif_pos ⟨x.lower, x.upper⟩]
      rw [carrierJson, hg.integer_eq, carrierOfTree, hnumber]
  | string =>
      rw [carrierJson, hg.string_eq]
      rfl
  | listOfString =>
      have hstrings : (x.map Value.string).map g = x.map Value.string := by
        rw [List.map_map]
        exact List.map_congr_left fun s _ => hg.string_eq s
      rw [carrierJson, hg.array_eq, hstrings, carrierOfTree, textsOfTrees_strings]
  | mapOfStringToString =>
      have hkeys : ((x.entries.map fun e => (e.1, Value.string e.2)).map Prod.fst).Nodup := by
        rw [List.map_map]
        exact x.nodup_keys
      obtain ⟨entries, hentries, hperm⟩ := hg.object_eq hkeys
      have hstrings : (x.entries.map fun e => (e.1, Value.string e.2)).map (fun e => (e.1, g e.2)) =
          x.entries.map fun e => (e.1, Value.string e.2) := by
        rw [List.map_map]
        exact List.map_congr_left fun e _ => congrArg (Prod.mk e.1) (hg.string_eq e.2)
      rw [hstrings] at hperm
      rw [carrierJson, hentries, carrierOfTree, mapOfEntries_perm hperm]

theorem ofTree_rearranged {g : Value → Value} (hg : Rearranges g) (t : LeafType)
    (x : Option t.Carrier) : t.ofTree (g (t.toJson x)) = .ok x := by
  cases x with
  | none =>
      rw [toJson, hg.null_eq]
      rfl
  | some x =>
      have hread := carrierOfTree_rearranged hg t x
      rw [toJson]
      have hne : g (t.carrierJson x) ≠ .null := by
        intro hnull
        rw [hnull] at hread
        cases t <;> exact absurd hread (by simp [carrierOfTree])
      rw [ofTree_of_ne_null hne, hread]
      rfl

end LeafType

/-! ## The order of entries -/

namespace Record.Tree

section

variable {α H : Type} {r : Reader H} {name : String} {read : Value → Except String (Option α)}

/-- An attribute in front of others takes its own values, and no others. -/
theorem cons_entry_ok_iff {key : String} {v : Value} {h h' : Option α × H} :
    (Reader.cons name read r).entry key v h = .ok h' ↔
      if key = name then read v = .ok h'.1 ∧ h'.2 = h.2
      else h'.1 = h.1 ∧ r.entry key v h.2 = .ok h'.2 := by
  change (if key = name then (read v).map fun first => (first, h.2)
    else (r.entry key v h.2).map fun more => (h.1, more)) = .ok h' ↔ _
  obtain ⟨first, more⟩ := h'
  split
  · rw [map_ok_iff]
    constructor
    · rintro ⟨x, hx, heq⟩
      obtain ⟨rfl, rfl⟩ := Prod.mk.inj heq
      exact ⟨hx, rfl⟩
    · rintro ⟨hx, rfl⟩
      exact ⟨first, hx, rfl⟩
  · rw [map_ok_iff]
    constructor
    · rintro ⟨x, hx, heq⟩
      obtain ⟨rfl, rfl⟩ := Prod.mk.inj heq
      exact ⟨rfl, hx⟩
    · rintro ⟨rfl, hx⟩
      exact ⟨more, hx, rfl⟩

structure IsOrderless (r : Reader H) : Prop where
  swap {key key' : String} (hne : key ≠ key') {v v' : Value} {h h₁ h₂ : H}
    (hfirst : r.entry key v h = .ok h₁) (hsecond : r.entry key' v' h₁ = .ok h₂) :
    ∃ h₁', r.entry key' v' h = .ok h₁' ∧ r.entry key v h₁' = .ok h₂

theorem isOrderless_done : IsOrderless Reader.done where
  swap _ _ _ _ _ _ _ _ := ⟨(), rfl, rfl⟩

theorem IsOrderless.cons (hr : IsOrderless r) : IsOrderless (Reader.cons name read r) := by
  constructor
  intro key key' hne v v' h h₁ h₂ hfirst hsecond
  rw [cons_entry_ok_iff] at hfirst hsecond
  by_cases hkey : key = name
  · have hkey' : key' ≠ name := fun heq => hne (hkey.trans heq.symm)
    rw [if_pos hkey] at hfirst
    rw [if_neg hkey'] at hsecond
    refine ⟨(h.1, h₂.2), cons_entry_ok_iff.2 ?_, cons_entry_ok_iff.2 ?_⟩
    · rw [if_neg hkey']
      exact ⟨rfl, hfirst.2 ▸ hsecond.2⟩
    · rw [if_pos hkey]
      exact ⟨hsecond.1 ▸ hfirst.1, rfl⟩
  · rw [if_neg hkey] at hfirst
    by_cases hkey' : key' = name
    · rw [if_pos hkey'] at hsecond
      refine ⟨(h₂.1, h.2), cons_entry_ok_iff.2 ?_, cons_entry_ok_iff.2 ?_⟩
      · rw [if_pos hkey']
        exact ⟨hsecond.1, rfl⟩
      · rw [if_neg hkey]
        exact ⟨rfl, hsecond.2 ▸ hfirst.2⟩
    · rw [if_neg hkey'] at hsecond
      obtain ⟨more, hmore, hmore'⟩ := hr.swap hne hfirst.2 hsecond.2
      refine ⟨(h.1, more), cons_entry_ok_iff.2 ?_, cons_entry_ok_iff.2 ?_⟩
      · rw [if_neg hkey']
        exact ⟨rfl, hmore⟩
      · rw [if_neg hkey]
        exact ⟨hsecond.1.trans hfirst.1, hmore'⟩

theorem entries_cons_ok_iff {e : String × Value} {entries : List (String × Value)} {h h' : H} :
    r.entries h (e :: entries) = .ok h' ↔
      ∃ h₁, r.entry e.1 e.2 h = .ok h₁ ∧ r.entries h₁ entries = .ok h' := by
  rw [Reader.entries, bind_ok_iff]

theorem IsOrderless.entries_perm (hr : IsOrderless r) {entries entries' : List (String × Value)}
    (hperm : entries.Perm entries') (hkeys : (entries.map Prod.fst).Nodup) {h h' : H}
    (hread : r.entries h entries = .ok h') : r.entries h entries' = .ok h' := by
  induction hperm generalizing h with
  | nil => exact hread
  | cons e hmore ih =>
      obtain ⟨h₁, hentry, hread⟩ := entries_cons_ok_iff.1 hread
      exact entries_cons_ok_iff.2 ⟨h₁, hentry, ih (List.nodup_cons.1 hkeys).2 hread⟩
  | swap e e' entries =>
      obtain ⟨h₁, hfirst, hread⟩ := entries_cons_ok_iff.1 hread
      obtain ⟨h₂, hsecond, hread⟩ := entries_cons_ok_iff.1 hread
      have hne : e'.1 ≠ e.1 := by
        intro heq
        apply (List.nodup_cons.1 hkeys).1
        rw [heq]
        exact List.mem_cons_self
      obtain ⟨h₁', hsecond', hfirst'⟩ := hr.swap hne hfirst hsecond
      exact entries_cons_ok_iff.2 ⟨h₁', hsecond', entries_cons_ok_iff.2 ⟨h₂, hfirst', hread⟩⟩
  | trans hleft hright ihLeft ihRight =>
      exact ihRight ((hleft.map Prod.fst).nodup hkeys) (ihLeft hkeys hread)

theorem entries_cons_of_not_mem {entries : List (String × Value)}
    (hname : name ∉ entries.map Prod.fst) (first : Option α) {h h' : H}
    (hread : r.entries h entries = .ok h') :
    (Reader.cons name read r).entries (first, h) entries = .ok (first, h') := by
  induction entries generalizing h with
  | nil =>
      obtain rfl := Except.ok.inj hread
      rfl
  | cons e entries ih =>
      obtain ⟨hne, hname⟩ := not_or.1 fun hmem => hname (List.mem_cons.2 hmem)
      obtain ⟨h₁, hentry, hread⟩ := entries_cons_ok_iff.1 hread
      refine entries_cons_ok_iff.2 ⟨(first, h₁), cons_entry_ok_iff.2 ?_, ih hname hread⟩
      rw [if_neg (Ne.symm hne)]
      exact ⟨rfl, hentry⟩

theorem entries_cons {entries : List (String × Value)} (hname : name ∉ entries.map Prod.fst) {v : Value}
    {x : Option α} (hread : read v = .ok x) {h : H} (hmore : r.entries r.null entries = .ok h) :
    (Reader.cons name read r).entries (Reader.cons name read r).null ((name, v) :: entries) =
      .ok (x, h) := by
  refine entries_cons_ok_iff.2 ⟨(x, r.null), cons_entry_ok_iff.2 ?_, entries_cons_of_not_mem hname x hmore⟩
  rw [if_pos rfl]
  exact ⟨hread, rfl⟩

end

theorem isOrderless_reader (s : Shape) : IsOrderless (reader s) := by
  induction s with
  | done => exact isOrderless_done
  | leaf name conversion rest ih => exact ih.cons
  | untagged name conversion rest ih => exact ih
  | nested name record inner rest _ ih => exact ih.cons
  | optional name record inner rest _ ih => exact ih.cons
  | list name record inner rest _ ih => exact ih.cons

end Record.Tree

/-! ## Holders of any shape -/

namespace Shape

open Record.Tree (reader)

theorem nodup_tags {s : Shape} (hs : s.HasDistinctTags) : s.tags.Nodup := by
  induction s with
  | done => exact List.nodup_nil
  | leaf name conversion rest ih => exact List.nodup_cons.2 ⟨hs.1, ih hs.2⟩
  | untagged name conversion rest ih => exact ih hs
  | nested name record inner rest _ ih => exact List.nodup_cons.2 ⟨hs.1, ih hs.2.2⟩
  | optional name record inner rest _ ih => exact List.nodup_cons.2 ⟨hs.1, ih hs.2.2⟩
  | list name record inner rest _ ih => exact List.nodup_cons.2 ⟨hs.1, ih hs.2.2⟩

theorem nodup_keys_entries {s : Shape} (hs : s.HasDistinctTags) (h : s.Holder) :
    ((s.entries h).map Prod.fst).Nodup := by
  rw [s.keys_entries h]
  exact nodup_tags hs

def ReadsBack (g : Value → Value) (s : Shape) : Prop :=
  ∀ h, (reader s).entries (reader s).null ((s.entries h).map fun e => (e.1, g e.2)) = .ok h

section

variable {g : Value → Value} (hg : Rearranges g) {s : Shape} (hs : s.HasDistinctTags)
  (hreads : ReadsBack g s) (record : String)

include hg hs hreads

theorem read_rearranged (h : s.Holder) :
    (∃ entries, g (s.toJson h) = .object entries) ∧
      (reader s).read record (g (s.toJson h)) = .ok h := by
  obtain ⟨entries, hentries, hperm⟩ := hg.object_eq (nodup_keys_entries hs h)
  have hkeys : (((s.entries h).map fun e => (e.1, g e.2)).map Prod.fst).Nodup := by
    rw [List.map_map]
    exact nodup_keys_entries hs h
  have hread := (Record.Tree.isOrderless_reader s).entries_perm hperm hkeys (hreads h)
  rw [toJson, hentries]
  exact ⟨⟨entries, rfl⟩, hread⟩

theorem readNullable_rearranged (x : Option s.Holder) :
    (reader s).readNullable record (g ((x.map fun h => .object (s.entries h)).getD .null)) = .ok x := by
  cases x with
  | none =>
      rw [Option.map_none, Option.getD_none, hg.null_eq]
      rfl
  | some h =>
      obtain ⟨⟨entries, hentries⟩, hread⟩ := read_rearranged hg hs hreads record h
      rw [hentries] at hread
      rw [Option.map_some, Option.getD_some, ← toJson, hentries]
      change ((reader s).read record (.object entries)).map some = .ok (some h)
      rw [hread]
      rfl

theorem readList_rearranged (x : Option (List s.Holder)) :
    (reader s).readList record
      (g ((x.map fun hs => .array (hs.map fun h => .object (s.entries h))).getD .null)) = .ok x := by
  cases x with
  | none =>
      rw [Option.map_none, Option.getD_none, hg.null_eq]
      rfl
  | some holders =>
      have hitems : ((holders.map s.toJson).map g).mapM ((reader s).read record) = .ok holders := by
        rw [mapM_ok_iff, List.map_map, List.forall₂_map_left_iff, List.forall₂_same]
        exact fun h _ => (read_rearranged hg hs hreads record h).2
      rw [Option.map_some, Option.getD_some, hg.array_eq]
      change ((reader s).readAll record ((holders.map s.toJson).map g)).map some = .ok (some holders)
      rw [Record.treeReadAll_eq, hitems]
      rfl

end

theorem readsBack {g : Value → Value} (hg : Rearranges g) {s : Shape} (hs : s.HasDistinctTags) :
    ReadsBack g s := by
  have hkeys (s : Shape) (h : s.Holder) :
      ((s.entries h).map fun e => (e.1, g e.2)).map Prod.fst = s.tags := by
    rw [List.map_map]
    exact s.keys_entries h
  induction s with
  | done => exact fun h => rfl
  | leaf name conversion rest ih =>
      rintro ⟨x, more⟩
      exact Record.Tree.entries_cons ((hkeys rest more).symm ▸ hs.1)
        (LeafType.ofTree_rearranged hg conversion.type x) (ih hs.2 more)
  | untagged name conversion rest ih => exact ih hs
  | nested name record inner rest ihInner ih =>
      rintro ⟨x, more⟩
      exact Record.Tree.entries_cons ((hkeys rest more).symm ▸ hs.1)
        (readNullable_rearranged hg hs.2.1 (ihInner hs.2.1) record x) (ih hs.2.2 more)
  | optional name record inner rest ihInner ih =>
      rintro ⟨x, more⟩
      exact Record.Tree.entries_cons ((hkeys rest more).symm ▸ hs.1)
        (readNullable_rearranged hg hs.2.1 (ihInner hs.2.1) record x) (ih hs.2.2 more)
  | list name record inner rest ihInner ih =>
      rintro ⟨x, more⟩
      exact Record.Tree.entries_cons ((hkeys rest more).symm ▸ hs.1)
        (readList_rearranged hg hs.2.1 (ihInner hs.2.1) record x) (ih hs.2.2 more)

theorem ofTree_rearranged {g : Value → Value} (hg : Rearranges g) {r : Record}
    (hr : r.shape.HasDistinctTags) (h : r.shape.Holder) : r.ofTree (g (r.shape.toJson h)) = .ok h :=
  (read_rearranged hg hr (readsBack hg hr) r.name h).2

end Shape

/-! ## Text and trees of holders -/

namespace LeafType

def IsExact : (t : LeafType) → t.Carrier → Prop
  | number, n => Value.isExact n.value = true
  | _, _ => True

theorem hasDistinctKeys_carrierJson (t : LeafType) (x : t.Carrier) :
    (t.carrierJson x).HasDistinctKeys := by
  cases t with
  | bool => exact .bool x
  | number => exact .integer x.value
  | string => exact .string x
  | listOfString =>
      refine .array fun v hv => ?_
      obtain ⟨text, -, rfl⟩ := List.mem_map.1 hv
      exact .string text
  | mapOfStringToString =>
      refine .object ?_ fun e he => ?_
      · rw [List.map_map]
        exact x.nodup_keys
      · obtain ⟨entry, -, rfl⟩ := List.mem_map.1 he
        exact .string entry.2

theorem canonical_carrierJson_iff {t : LeafType} {x : t.Carrier} :
    (t.carrierJson x).arranged.Canonical ↔ t.IsExact x := by
  cases t with
  | bool => simp [carrierJson, Value.arranged, Value.Canonical, IsExact]
  | number => simp [carrierJson, Value.arranged, Value.Canonical, IsExact]
  | string => simp [carrierJson, Value.arranged, Value.Canonical, IsExact]
  | listOfString =>
      rw [carrierJson, Value.canonical_arranged_array]
      simp [Value.arranged, Value.Canonical, IsExact]
  | mapOfStringToString =>
      rw [carrierJson, Value.canonical_arranged_object, List.forall_mem_map]
      · simp [Value.arranged, Value.Canonical, IsExact]
      · rw [List.map_map]
        exact x.nodup_keys

end LeafType

namespace Shape

def HasExactNumbers : (s : Shape) → s.Holder → Prop
  | done, _ => True
  | leaf _ conversion rest, (x, more) => (∀ v ∈ x, conversion.type.IsExact v) ∧ rest.HasExactNumbers more
  | untagged _ _ rest, more => rest.HasExactNumbers more
  | nested _ _ inner rest, (x, more) =>
    (∀ v ∈ x, inner.HasExactNumbers v) ∧ rest.HasExactNumbers more
  | optional _ _ inner rest, (x, more) =>
    (∀ v ∈ x, inner.HasExactNumbers v) ∧ rest.HasExactNumbers more
  | list _ _ inner rest, (xs, more) =>
    (∀ vs ∈ xs, ∀ v ∈ vs, inner.HasExactNumbers v) ∧ rest.HasExactNumbers more

theorem hasDistinctKeys_entries {s : Shape} (hs : s.HasDistinctTags) (h : s.Holder) :
    ∀ e ∈ s.entries h, e.2.HasDistinctKeys := by
  induction s with
  | done => exact fun e he => absurd he List.not_mem_nil
  | leaf name conversion rest ih =>
      refine List.forall_mem_cons.2 ⟨?_, ih hs.2 h.2⟩
      cases hx : h.1 with
      | none => exact .null
      | some x => exact LeafType.hasDistinctKeys_carrierJson _ x
  | untagged name conversion rest ih => exact ih hs h
  | nested name record inner rest ihInner ih =>
      refine List.forall_mem_cons.2 ⟨?_, ih hs.2.2 h.2⟩
      cases hx : h.1 with
      | none => exact .null
      | some x => exact .object (nodup_keys_entries hs.2.1 x) (ihInner hs.2.1 x)
  | optional name record inner rest ihInner ih =>
      refine List.forall_mem_cons.2 ⟨?_, ih hs.2.2 h.2⟩
      cases hx : h.1 with
      | none => exact .null
      | some x => exact .object (nodup_keys_entries hs.2.1 x) (ihInner hs.2.1 x)
  | list name record inner rest ihInner ih =>
      refine List.forall_mem_cons.2 ⟨?_, ih hs.2.2 h.2⟩
      cases hx : h.1 with
      | none => exact .null
      | some xs =>
          refine .array fun v hv => ?_
          obtain ⟨x, -, rfl⟩ := List.mem_map.1 hv
          exact .object (nodup_keys_entries hs.2.1 x) (ihInner hs.2.1 x)

theorem canonical_entries_iff {s : Shape} (hs : s.HasDistinctTags) (h : s.Holder) :
    (∀ e ∈ s.entries h, e.2.arranged.Canonical) ↔ s.HasExactNumbers h := by
  have hnull : Value.null.arranged.Canonical := by simp [Value.arranged, Value.Canonical]
  have hinner {inner : Shape} (hs : inner.HasDistinctTags)
      (ih : ∀ h, (∀ e ∈ inner.entries h, e.2.arranged.Canonical) ↔ inner.HasExactNumbers h)
      (h : inner.Holder) :
      (Value.object (inner.entries h)).arranged.Canonical ↔ inner.HasExactNumbers h := by
    rw [Value.canonical_arranged_object (nodup_keys_entries hs h), ih]
  have hgetD {α : Type} (write : α → Value) (x : Option α) :
      ((x.map write).getD .null).arranged.Canonical ↔ ∀ v ∈ x, (write v).arranged.Canonical := by
    cases x with
    | none => simp [hnull]
    | some v => simp
  induction s with
  | done => simp [entries, HasExactNumbers]
  | leaf name conversion rest ih =>
      obtain ⟨x, more⟩ := h
      rw [entries, HasExactNumbers, List.forall_mem_cons]
      refine and_congr ?_ (ih hs.2 more)
      cases x with
      | none => simp [LeafType.toJson, hnull]
      | some x => simp [LeafType.toJson, LeafType.canonical_carrierJson_iff]
  | untagged name conversion rest ih => exact ih hs h
  | nested name record inner rest ihInner ih =>
      obtain ⟨x, more⟩ := h
      rw [entries, HasExactNumbers, List.forall_mem_cons]
      refine and_congr ?_ (ih hs.2.2 more)
      rw [hgetD]
      simp only [hinner hs.2.1 (ihInner hs.2.1)]
  | optional name record inner rest ihInner ih =>
      obtain ⟨x, more⟩ := h
      rw [entries, HasExactNumbers, List.forall_mem_cons]
      refine and_congr ?_ (ih hs.2.2 more)
      rw [hgetD]
      simp only [hinner hs.2.1 (ihInner hs.2.1)]
  | list name record inner rest ihInner ih =>
      obtain ⟨x, more⟩ := h
      rw [entries, HasExactNumbers, List.forall_mem_cons]
      refine and_congr ?_ (ih hs.2.2 more)
      rw [hgetD]
      simp only [Value.canonical_arranged_array, List.forall_mem_map, hinner hs.2.1 (ihInner hs.2.1)]

end Shape

namespace Bundled

open Json.Value (rearranges_id rearranges_arranged)

/-- Every holder is read back from its text, and from its tree if it has one: a tree has no numbers but those
that it keeps exactly. So different holders have different texts and trees. -/
theorem holders_read_back : ∀ e ∈ records, ∀ h : e.2.shape.Holder,
    e.2.ofText (Json.compact (e.2.shape.toJson h)) = .ok h ∧
    ((e.2.shape.toJson h).arranged.Canonical ↔ e.2.shape.HasExactNumbers h) ∧
    (e.2.shape.HasExactNumbers h → e.2.ofTree (e.2.shape.toJson h).arranged = .ok h) ∧
    ∀ h', Json.compact (e.2.shape.toJson h') = Json.compact (e.2.shape.toJson h) ∨
      (e.2.shape.toJson h').arranged = (e.2.shape.toJson h).arranged → h' = h := by
  intro e he h
  have htags := hasDistinctTags_of_mem e he
  have htree (h : e.2.shape.Holder) : e.2.ofTree (e.2.shape.toJson h).arranged = .ok h :=
    Shape.ofTree_rearranged rearranges_arranged htags h
  have htext (h : e.2.shape.Holder) : e.2.ofText (Json.compact (e.2.shape.toJson h)) = .ok h := by
    have hread : e.2.ofTree (e.2.shape.toJson h) = .ok h :=
      Shape.ofTree_rearranged rearranges_id htags h
    have hkeys : (e.2.shape.toJson h).HasDistinctKeys :=
      .object (Shape.nodup_keys_entries htags h) (Shape.hasDistinctKeys_entries htags h)
    rcases Record.ofText_compact e.2 hkeys with ⟨h', htree, htext⟩ | ⟨detail, _, htree, _⟩
    · obtain rfl := Except.ok.inj (hread.symm.trans htree)
      exact htext
    · exact absurd (hread.symm.trans htree) (by simp)
  have hcanonical : (e.2.shape.toJson h).arranged.Canonical ↔ e.2.shape.HasExactNumbers h := by
    rw [Shape.toJson, Json.Value.canonical_arranged_object (Shape.nodup_keys_entries htags h),
      Shape.canonical_entries_iff htags]
  refine ⟨htext h, hcanonical, fun _ => htree h, ?_⟩
  rintro h' (hsame | hsame)
  · exact Except.ok.inj ((htext h').symm.trans ((congrArg e.2.ofText hsame).trans (htext h)))
  · exact Except.ok.inj ((htree h').symm.trans ((congrArg e.2.ofTree hsame).trans (htree h)))

/-- A token with empty texts and lists, policies of nulls, and a number. -/
def sparseToken (index : Number) : aclToken.shape.Holder :=
  (some "", none, some "\"a\"\n\x01", some true, none, none, some index,
    some [(none, none, ()), (some "", none, ())], some [(some "x", some [], ())], ())

def lowestIndex : Number := ⟨-0x8000_0000_0000_0000_0000_0000_0000_0000, by decide, by decide⟩

def highestIndex : Number := ⟨0xFFFF_FFFF_FFFF_FFFF, by decide, by decide⟩

def emptyAuthConfig : config.shape.Holder :=
  (none, none, none, none, none, none, none, none, some (none, none, ()), none, none, ())

theorem holders_read_back_token :
    aclToken.ofText (Json.compact (aclToken.shape.toJson (sparseToken lowestIndex))) =
      .ok (sparseToken lowestIndex) ∧
    aclToken.shape.HasExactNumbers (sparseToken highestIndex) ∧
    aclToken.ofTree (aclToken.shape.toJson (sparseToken highestIndex)).arranged =
      .ok (sparseToken highestIndex) ∧
    Json.compact (config.shape.toJson config.shape.null) ≠
      Json.compact (config.shape.toJson emptyAuthConfig) := by
  have htoken := holders_read_back ("acl_token", aclToken) (by simp [records])
  have hexact : aclToken.shape.HasExactNumbers (sparseToken highestIndex) := by
    simp [aclToken, aclTokenPolicyLink, aclServiceIdentity, text, Shape.HasExactNumbers, sparseToken,
      LeafConversion.type, LeafType.IsExact, highestIndex, Json.Value.isExact]
  refine ⟨(htoken _).1, hexact, (htoken _).2.2.1 hexact, ?_⟩
  intro hsame
  have heq := (holders_read_back ("consul_config", config) (by simp [records]) emptyAuthConfig).2.2.2
    config.shape.null (.inl hsame)
  have hauth : (none : Option httpBasicAuth.shape.Holder) = some (none, none, ()) :=
    congrArg (fun h : config.shape.Holder => h.2.2.2.2.2.2.2.2.1) heq
  exact absurd hauth (by simp)

end Bundled

end AttributeSchema
