import AttributeSchema.Proofs.Json.Values
import AttributeSchema.Proofs.SortedMap
import AttributeSchema.Proofs.Traverse
import AttributeSchema.Record.Bundled
import AttributeSchema.Record.Decode
/-!
# What conforms to a schema is read

A JSON value conforms to a published schema if its keys, or its items in order, hold values of the types of
the attributes, or null. Readers of records are put together in the way in which schemas are, so they read
exactly what conforms to the schema.
-/

namespace AttributeSchema

/-! ## Conforming values -/

/-- The JSON values of an attribute type. An object may have further keys; of an array there may be fewer
items than attributes. -/
inductive Conforms : AttributeType → Json.Value → Prop
  | bool (b : Bool) : Conforms (.leaf .bool) (.bool b)
  | number (n : Int) : Conforms (.leaf .number) (.integer n)
  | string (s : String) : Conforms (.leaf .string) (.string s)
  | listOfString {items : List Json.Value} (h : ∀ item ∈ items, ∃ s, item = .string s) :
      Conforms (.leaf .listOfString) (.array items)
  | mapOfStringToString {entries : List (String × Json.Value)}
      (h : ∀ e ∈ entries, ∃ s, e.2 = .string s) :
      Conforms (.leaf .mapOfStringToString) (.object entries)
  | object {a : Attributes} {entries : List (String × Json.Value)}
      (h : ∀ e ∈ a.entries, ∀ value, (e.1, value) ∈ entries → value ≠ .null →
        Conforms e.2.type value) :
      Conforms (.nested a) (.object entries)
  | array {a : Attributes} {items : List Json.Value} (hlength : items.length ≤ a.size)
      (h : ∀ (k : Nat) e value, a.entries[k]? = some e → items[k]? = some value → value ≠ .null →
        Conforms e.2.type value) :
      Conforms (.nested a) (.array items)
  | list {a : Attributes} {items : List Json.Value} (h : ∀ item ∈ items, Conforms (.nested a) item) :
      Conforms (.nestedList a) (.array items)

def Suits (type : AttributeType) (value : Json.Value) : Prop := value ≠ .null → Conforms type value

def SuitEntries (a : Attributes) (entries : List (String × Json.Value)) : Prop :=
  ∀ e ∈ a.entries, ∀ value, (e.1, value) ∈ entries → Suits e.2.type value

open Json.Value (canonicalItems_iff canonicalEntries_iff)

/-! ## Reading plain attributes -/

namespace LeafType

theorem textOfTree_ok_iff {value : Json.Value} :
    (∃ s, textOfTree value = .ok s) ↔ ∃ s, value = .string s := by
  cases value <;> simp [textOfTree]

theorem textsOfTrees_ok_iff {items : List Json.Value} :
    (∃ texts, textsOfTrees items = .ok texts) ↔ ∀ item ∈ items, ∃ s, item = .string s := by
  induction items with
  | nil => simp [textsOfTrees]
  | cons item items ih =>
      rw [List.forall_mem_cons, ← textOfTree_ok_iff, ← ih, textsOfTrees]
      constructor
      · rintro ⟨texts, h⟩
        obtain ⟨first, hfirst, h⟩ := bind_ok_iff.1 h
        obtain ⟨more, hmore, -⟩ := bind_ok_iff.1 h
        exact ⟨⟨first, hfirst⟩, more, hmore⟩
      · rintro ⟨⟨first, hfirst⟩, more, hmore⟩
        exact ⟨first :: more, bind_ok_iff.2 ⟨first, hfirst, bind_ok_iff.2 ⟨more, hmore, rfl⟩⟩⟩

theorem mapOfEntries_ok_iff {m : SortedMap String} {entries : List (String × Json.Value)} :
    (∃ m', mapOfEntries m entries = .ok m') ↔ ∀ e ∈ entries, ∃ s, e.2 = .string s := by
  induction entries generalizing m with
  | nil => simp [mapOfEntries]
  | cons e entries ih =>
      obtain ⟨key, value⟩ := e
      rw [List.forall_mem_cons, ← textOfTree_ok_iff, mapOfEntries]
      constructor
      · rintro ⟨m', h⟩
        obtain ⟨text, htext, h⟩ := bind_ok_iff.1 h
        exact ⟨⟨text, htext⟩, ih.1 ⟨m', h⟩⟩
      · rintro ⟨⟨text, htext⟩, hmore⟩
        obtain ⟨m', h⟩ := ih.2 hmore
        exact ⟨m', bind_ok_iff.2 ⟨text, htext, h⟩⟩

theorem ofInt?_of_isExact {n : Int} (h : Json.Value.isExact n = true) :
    ∃ number, Number.ofInt? n = some number := by
  simp only [Json.Value.isExact, Bool.and_eq_true, decide_eq_true_eq] at h
  rw [Number.ofInt?, dif_pos ⟨by omega, by omega⟩]
  exact ⟨_, rfl⟩

theorem carrierOfTree_ok_iff {t : LeafType} {value : Json.Value} (hvalue : value.Canonical) :
    (∃ x, t.carrierOfTree value = .ok x) ↔ Conforms (.leaf t) value := by
  constructor
  · rintro ⟨x, h⟩
    unfold carrierOfTree at h
    split at h
    · exact .bool _
    · exact .number _
    · exact .string _
    · exact .listOfString (textsOfTrees_ok_iff.1 ⟨x, h⟩)
    · exact .mapOfStringToString (mapOfEntries_ok_iff.1 ⟨x, h⟩)
    · exact absurd h (by simp)
  · intro h
    cases h with
    | bool b => exact ⟨b, rfl⟩
    | number n =>
        obtain ⟨number, hnumber⟩ := ofInt?_of_isExact hvalue
        exact ⟨number, by rw [carrierOfTree, hnumber]⟩
    | string s => exact ⟨s, rfl⟩
    | listOfString h => exact textsOfTrees_ok_iff.2 h
    | mapOfStringToString h => exact mapOfEntries_ok_iff.2 h

end LeafType

/-! ## Reading what may be null -/

/-- What may be null is read if it is null, or else if there is something to be read. -/
theorem suits_of_read {α : Type} {read : Json.Value → Except String (Option α)} {type : AttributeType}
    {value : Json.Value} (hnull : read .null = .ok none)
    (hread : value ≠ .null → ((∃ x, read value = .ok x) ↔ Conforms type value)) :
    (∃ x, read value = .ok x) ↔ Suits type value := by
  by_cases hvalue : value = .null
  · rw [hvalue]
    exact ⟨fun _ h => absurd rfl h, fun _ => ⟨none, hnull⟩⟩
  · rw [hread hvalue]
    exact ⟨fun h _ => h, fun h => h hvalue⟩

theorem LeafType.ofTree_of_ne_null {t : LeafType} {value : Json.Value} (h : value ≠ .null) :
    t.ofTree value = (t.carrierOfTree value).map some := by
  cases value with
  | null => exact absurd rfl h
  | _ => rfl

theorem LeafType.ofTree_ok_iff {t : LeafType} {value : Json.Value} (hvalue : value.Canonical) :
    (∃ x, t.ofTree value = .ok x) ↔ Suits (.leaf t) value := by
  apply suits_of_read rfl
  intro hne
  rw [← carrierOfTree_ok_iff hvalue, ofTree_of_ne_null hne, exists_map_ok_iff]

/-! ## Reading records -/

namespace Record.Tree

/-- A reader of records reads exactly what suits the attributes of a schema. -/
structure Reads {H : Type} (r : Reader H) (a : Attributes) : Prop where
  entry_ok_iff : ∀ key value h, value.Canonical →
    ((∃ h', r.entry key value h = .ok h') ↔ ∀ e ∈ a.entries, e.1 = key → Suits e.2.type value)
  items_ok_iff : ∀ items : List Json.Value, (∀ item ∈ items, item.Canonical) →
    ((∃ h, r.items items = .ok h) ↔
      ∀ (k : Nat) e value, a.entries[k]? = some e → items[k]? = some value → Suits e.2.type value)
  width_eq : r.width = a.size

theorem reads_done : Reads Reader.done .nil where
  entry_ok_iff key value h _ := by simp [Reader.done, Attributes.entries]
  items_ok_iff items _ := by simp [Reader.done, Attributes.entries]
  width_eq := rfl

/-- An attribute in front of others, of which none has its name. -/
theorem Reads.cons {α H : Type} {r : Reader H} {a : Attributes} {name : String}
    {type : AttributeType} {read : Json.Value → Except String (Option α)} (h : Reads r a)
    (hname : name ∉ a.names)
    (hread : ∀ value, value.Canonical → ((∃ x, read value = .ok x) ↔ Suits type value)) :
    Reads (Reader.cons name read r) (.cons name type true a) where
  entry_ok_iff := by
    intro key value held hvalue
    rw [Attributes.entries, List.forall_mem_cons]
    change (∃ h', (if key = name then (read value).map fun first => (first, held.2)
      else (r.entry key value held.2).map fun more => (held.1, more)) = .ok h') ↔ _
    split
    · rename_i hkey
      subst hkey
      have hother : ∀ e ∈ a.entries, e.1 = key → Suits e.2.type value := by
        rintro e he rfl
        exact absurd (List.mem_map_of_mem he) hname
      rw [exists_map_ok_iff, hread value hvalue]
      exact ⟨fun hsuits => ⟨fun _ => hsuits, hother⟩, fun hsuits => hsuits.1 rfl⟩
    · rename_i hkey
      rw [exists_map_ok_iff, h.entry_ok_iff key value held.2 hvalue]
      exact ⟨fun hsuits => ⟨fun hname => absurd hname.symm hkey, hsuits⟩, And.right⟩
  items_ok_iff := by
    intro items hitems
    cases items with
    | nil =>
        refine ⟨fun _ k e value _ hvalue => absurd hvalue (by simp), fun _ => ⟨_, rfl⟩⟩
    | cons value items =>
        obtain ⟨hvalue, hitems⟩ := List.forall_mem_cons.1 hitems
        have hmore := h.items_ok_iff items hitems
        change (∃ h', (read value >>= fun first => r.items items >>= fun more =>
          .ok (first, more)) = .ok h') ↔ _
        constructor
        · rintro ⟨h', hok⟩
          obtain ⟨first, hfirst, hok⟩ := bind_ok_iff.1 hok
          obtain ⟨more, hrest, -⟩ := bind_ok_iff.1 hok
          intro k e item he hitem
          cases k with
          | zero =>
              obtain rfl := Option.some.inj he
              obtain rfl := Option.some.inj hitem
              exact (hread value hvalue).1 ⟨first, hfirst⟩
          | succ k => exact hmore.1 ⟨more, hrest⟩ k e item he hitem
        · intro hsuits
          obtain ⟨first, hfirst⟩ := (hread value hvalue).2 (hsuits 0 _ _ rfl rfl)
          obtain ⟨more, hrest⟩ := hmore.2 fun k e item he hitem => hsuits (k + 1) e item he hitem
          exact ⟨(first, more), bind_ok_iff.2 ⟨first, hfirst, bind_ok_iff.2 ⟨more, hrest, rfl⟩⟩⟩
  width_eq := congrArg Nat.succ h.width_eq

section

variable {H : Type} {r : Reader H} {a : Attributes} (h : Reads r a)

include h

/-- All entries of an object are read if each of them can be read, in whatever holder. -/
theorem Reads.entries_ok_iff (held : H) {entries : List (String × Json.Value)}
    (hentries : ∀ e ∈ entries, e.2.Canonical) :
    (∃ h', r.entries held entries = .ok h') ↔ SuitEntries a entries := by
  induction entries generalizing held with
  | nil => simp [Reader.entries, SuitEntries]
  | cons entry entries ih =>
      obtain ⟨key, value⟩ := entry
      obtain ⟨hvalue, hentries⟩ := List.forall_mem_cons.1 hentries
      rw [Reader.entries]
      constructor
      · rintro ⟨h', hok⟩
        obtain ⟨held', hentry, hok⟩ := bind_ok_iff.1 hok
        intro e he item hitem
        rcases List.mem_cons.1 hitem with heq | hitem
        · obtain ⟨hkey, rfl⟩ := Prod.mk.inj heq
          exact (h.entry_ok_iff key item held hvalue).1 ⟨held', hentry⟩ e he hkey
        · exact (ih held' hentries).1 ⟨h', hok⟩ e he item hitem
      · intro hsuits
        obtain ⟨held', hentry⟩ := (h.entry_ok_iff key value held hvalue).2 fun e he hkey =>
          hsuits e he value (hkey ▸ List.mem_cons_self)
        obtain ⟨h', hok⟩ := (ih held' hentries).2 fun e he item hitem =>
          hsuits e he item (List.mem_cons_of_mem _ hitem)
        exact ⟨h', bind_ok_iff.2 ⟨held', hentry, hok⟩⟩

/-- A holder is read exactly from what conforms. -/
theorem Reads.read_ok_iff (record : String) {value : Json.Value} (hvalue : value.Canonical) :
    (∃ held, r.read record value = .ok held) ↔ Conforms (.nested a) value := by
  constructor
  · rintro ⟨held, hok⟩
    unfold Reader.read at hok
    split at hok
    · exact .object ((h.entries_ok_iff _ (canonicalEntries_iff.1 hvalue.2)).1 ⟨held, hok⟩)
    · obtain ⟨held', hitems, hok⟩ := bind_ok_iff.1 hok
      split at hok
      · rename_i hlength
        exact .array (h.width_eq ▸ hlength)
          ((h.items_ok_iff _ (canonicalItems_iff.1 hvalue)).1 ⟨held', hitems⟩)
      · exact absurd hok (by simp)
    · exact absurd hok (by simp)
  · intro hconforms
    cases hconforms with
    | object hsuits => exact (h.entries_ok_iff _ (canonicalEntries_iff.1 hvalue.2)).2 hsuits
    | array hlength hsuits =>
        obtain ⟨held, hitems⟩ := (h.items_ok_iff _ (canonicalItems_iff.1 hvalue)).2 hsuits
        exact ⟨held, bind_ok_iff.2 ⟨held, hitems, if_pos (h.width_eq.symm ▸ hlength)⟩⟩

theorem Reads.readNullable_ok_iff {record : String} {value : Json.Value}
    (hvalue : value.Canonical) :
    (∃ x, r.readNullable record value = .ok x) ↔ Suits (.nested a) value := by
  apply suits_of_read rfl
  intro hne
  rw [← h.read_ok_iff record hvalue]
  have hnullable : r.readNullable record value = (r.read record value).map some := by
    cases value with
    | null => exact absurd rfl hne
    | _ => rfl
  rw [hnullable, exists_map_ok_iff]

theorem Reads.readAll_ok_iff {record : String} {items : List Json.Value}
    (hitems : ∀ item ∈ items, item.Canonical) :
    (∃ hs, r.readAll record items = .ok hs) ↔ ∀ item ∈ items, Conforms (.nested a) item := by
  induction items with
  | nil => simp [Reader.readAll]
  | cons item items ih =>
      obtain ⟨hitem, hitems⟩ := List.forall_mem_cons.1 hitems
      rw [List.forall_mem_cons, ← h.read_ok_iff record hitem, ← ih hitems, Reader.readAll]
      constructor
      · rintro ⟨hs, hok⟩
        obtain ⟨first, hfirst, hok⟩ := bind_ok_iff.1 hok
        obtain ⟨more, hmore, -⟩ := bind_ok_iff.1 hok
        exact ⟨⟨first, hfirst⟩, more, hmore⟩
      · rintro ⟨⟨first, hfirst⟩, more, hmore⟩
        exact ⟨first :: more, bind_ok_iff.2 ⟨first, hfirst, bind_ok_iff.2 ⟨more, hmore, rfl⟩⟩⟩

theorem Reads.readList_ok_iff {record : String} {value : Json.Value} (hvalue : value.Canonical) :
    (∃ x, r.readList record value = .ok x) ↔ Suits (.nestedList a) value := by
  apply suits_of_read rfl
  intro hne
  constructor
  · rintro ⟨x, hok⟩
    unfold Reader.readList at hok
    split at hok
    · exact absurd rfl hne
    · obtain ⟨hs, hok, -⟩ := map_ok_iff.1 hok
      exact .list ((h.readAll_ok_iff (canonicalItems_iff.1 hvalue)).1 ⟨hs, hok⟩)
    · exact absurd hok (by simp)
  · intro hconforms
    cases hconforms with
    | list hitems =>
        exact exists_map_ok_iff.2 ((h.readAll_ok_iff (canonicalItems_iff.1 hvalue)).2 hitems)

end

end Record.Tree

/-! ## Readers of shapes -/

namespace Shape

/-- The attributes of a record have different names, and so have those of the records in it. -/
def HasDistinctTags : Shape → Prop
  | done => True
  | leaf name _ rest => name ∉ rest.tags ∧ rest.HasDistinctTags
  | untagged _ _ rest => rest.HasDistinctTags
  | nested name _ inner rest => name ∉ rest.tags ∧ inner.HasDistinctTags ∧ rest.HasDistinctTags
  | optional name _ inner rest => name ∉ rest.tags ∧ inner.HasDistinctTags ∧ rest.HasDistinctTags
  | list name _ inner rest => name ∉ rest.tags ∧ inner.HasDistinctTags ∧ rest.HasDistinctTags

theorem names_attributes (s : Shape) : s.attributes.names = s.tags := by
  induction s with
  | done => rfl
  | leaf name conversion rest ih => exact congrArg (name :: ·) ih
  | untagged name conversion rest ih => exact ih
  | nested name record inner rest _ ih => exact congrArg (name :: ·) ih
  | optional name record inner rest _ ih => exact congrArg (name :: ·) ih
  | list name record inner rest _ ih => exact congrArg (name :: ·) ih

theorem reads_reader {s : Shape} (h : s.HasDistinctTags) :
    Record.Tree.Reads (Record.Tree.reader s) s.attributes := by
  induction s with
  | done => exact Record.Tree.reads_done
  | leaf name conversion rest ih =>
      exact (ih h.2).cons (rest.names_attributes ▸ h.1) fun value => LeafType.ofTree_ok_iff
  | untagged name conversion rest ih => exact ih h
  | nested name record inner rest ihInner ih =>
      exact (ih h.2.2).cons (rest.names_attributes ▸ h.1) fun value =>
        (ihInner h.2.1).readNullable_ok_iff
  | optional name record inner rest ihInner ih =>
      exact (ih h.2.2).cons (rest.names_attributes ▸ h.1) fun value =>
        (ihInner h.2.1).readNullable_ok_iff
  | list name record inner rest ihInner ih =>
      exact (ih h.2.2).cons (rest.names_attributes ▸ h.1) fun value =>
        (ihInner h.2.1).readList_ok_iff

/-! ## Writing holders -/

theorem keys_entries (s : Shape) (h : s.Holder) : (s.entries h).map Prod.fst = s.tags := by
  induction s with
  | done => rfl
  | leaf name conversion rest ih => exact congrArg (name :: ·) (ih h.2)
  | untagged name conversion rest ih => exact ih h
  | nested name record inner rest _ ih => exact congrArg (name :: ·) (ih h.2)
  | optional name record inner rest _ ih => exact congrArg (name :: ·) (ih h.2)
  | list name record inner rest _ ih => exact congrArg (name :: ·) (ih h.2)

end Shape

theorem LeafType.conforms_carrierJson (t : LeafType) (x : t.Carrier) :
    Conforms (.leaf t) (t.carrierJson x) := by
  cases t with
  | bool => exact .bool x
  | number => exact .number _
  | string => exact .string x
  | listOfString =>
      refine .listOfString fun item hitem => ?_
      obtain ⟨text, -, rfl⟩ := List.mem_map.1 hitem
      exact ⟨text, rfl⟩
  | mapOfStringToString =>
      refine .mapOfStringToString fun e he => ?_
      obtain ⟨entry, -, rfl⟩ := List.mem_map.1 he
      exact ⟨entry.2, rfl⟩

theorem LeafType.suits_toJson (t : LeafType) (x : Option t.Carrier) : Suits (.leaf t) (t.toJson x) := by
  intro hne
  cases x with
  | none => exact absurd rfl hne
  | some x => exact t.conforms_carrierJson x

/-- What is absent is written as null. -/
theorem suits_getD {α : Type} {type : AttributeType} {write : α → Json.Value}
    (h : ∀ x, Conforms type (write x)) (x : Option α) : Suits type ((x.map write).getD .null) := by
  intro hne
  cases x with
  | none => exact absurd rfl hne
  | some x => exact h x

theorem suitEntries_cons {name : String} {type : AttributeType} {a : Attributes} {value : Json.Value}
    {entries : List (String × Json.Value)} (hname : name ∉ a.names)
    (hkeys : entries.map Prod.fst = a.names) (hvalue : Suits type value)
    (hmore : SuitEntries a entries) :
    SuitEntries (.cons name type true a) ((name, value) :: entries) := by
  intro e he v hv
  rw [Attributes.entries] at he
  rcases List.mem_cons.1 he with rfl | he <;> rcases List.mem_cons.1 hv with heq | hv
  · obtain ⟨-, rfl⟩ := Prod.mk.inj heq
    exact hvalue
  · exact absurd (hkeys ▸ List.mem_map_of_mem hv) hname
  · obtain ⟨hkey, -⟩ := Prod.mk.inj heq
    exact absurd (hkey ▸ List.mem_map_of_mem he) hname
  · exact hmore e he v hv

namespace Shape

theorem suitEntries_entries {s : Shape} (hs : s.HasDistinctTags) (h : s.Holder) :
    SuitEntries s.attributes (s.entries h) := by
  induction s with
  | done => exact fun e he => absurd he List.not_mem_nil
  | leaf name conversion rest ih =>
      exact suitEntries_cons (rest.names_attributes ▸ hs.1)
        ((rest.keys_entries h.2).trans rest.names_attributes.symm)
        (conversion.type.suits_toJson h.1) (ih hs.2 h.2)
  | untagged name conversion rest ih => exact ih hs h
  | nested name record inner rest ihInner ih =>
      exact suitEntries_cons (rest.names_attributes ▸ hs.1)
        ((rest.keys_entries h.2).trans rest.names_attributes.symm)
        (suits_getD (fun value => .object (ihInner hs.2.1 value)) h.1) (ih hs.2.2 h.2)
  | optional name record inner rest ihInner ih =>
      exact suitEntries_cons (rest.names_attributes ▸ hs.1)
        ((rest.keys_entries h.2).trans rest.names_attributes.symm)
        (suits_getD (fun value => .object (ihInner hs.2.1 value)) h.1) (ih hs.2.2 h.2)
  | list name record inner rest ihInner ih =>
      refine suitEntries_cons (rest.names_attributes ▸ hs.1)
        ((rest.keys_entries h.2).trans rest.names_attributes.symm)
        (suits_getD (fun values => .list ?_) h.1) (ih hs.2.2 h.2)
      intro item hitem
      obtain ⟨value, -, rfl⟩ := List.mem_map.1 hitem
      exact .object (ihInner hs.2.1 value)

end Shape

/-! ## The bundled records -/

namespace Bundled

theorem hasDistinctTags_of_mem : ∀ e ∈ records, e.2.shape.HasDistinctTags := by
  simp only [records, List.forall_mem_cons]
  refine ⟨?_, ?_, ?_, ?_, ?_, ?_, ?_, by simp⟩
  all_goals
    simp only [Shape.HasDistinctTags, providerConfig, config, aclToken, httpBasicAuth, tlsConfig,
      aclTokenPolicyLink, aclServiceIdentity, text, Shape.tags]
    decide

theorem units_subset_records : units ⊆ records := by
  simp [units, records]

/-- The attributes that are published for the records are those of their shapes. -/
theorem attributes_records :
    records.map (fun e => e.2.shape.attributes) =
      [providerConfigAttributes, configAttributes, httpBasicAuthAttributes, tlsConfigAttributes,
        aclTokenAttributes, aclTokenPolicyLinkAttributes, aclServiceIdentityAttributes] := rfl

theorem schemas_eq : schemas = .ofList (units.map fun e => (e.1, e.2.shape.attributes)) := by
  have htables := attributes_records
  simp only [records, List.map_cons, List.map_nil, List.cons.injEq] at htables
  obtain ⟨hprovider, hconfig, -, -, htoken, -⟩ := htables
  simp only [schemas, units, List.map_cons, List.map_nil, hprovider, hconfig, htoken]

theorem get?_schemas {e : String × Record} (he : e ∈ units) :
    schemas.get? e.1 = some e.2.shape.attributes := by
  rw [schemas_eq]
  apply SortedMap.get?_ofList_of_mem
  · decide
  · exact List.mem_map.2 ⟨e, he, rfl⟩

/-- The published schema of a unit describes exactly the values from which its record is read, and the
values that are written for its records are among them. -/
theorem reads_iff_conforms : ∀ e ∈ units, ∃ a, schemas.get? e.1 = some a ∧
    (∀ value : Json.Value, value.Canonical →
      ((∃ h, e.2.ofTree value = .ok h) ↔ Conforms (.nested a) value)) ∧
    ∀ x : e.2.shape.Native, ∃ h entries, e.2.encode (some x) = some h ∧
      e.2.shape.toJson h = .object entries ∧ entries.map Prod.fst = a.names ∧
      Conforms (.nested a) (.object entries) := by
  intro e he
  have htags := hasDistinctTags_of_mem e (units_subset_records he)
  refine ⟨e.2.shape.attributes, get?_schemas he, ?_, ?_⟩
  · intro value hvalue
    exact (Shape.reads_reader htags).read_ok_iff _ hvalue
  · intro x
    refine ⟨e.2.shape.encode x, e.2.shape.entries (e.2.shape.encode x), rfl, rfl, ?_, ?_⟩
    · rw [Shape.keys_entries, Shape.names_attributes]
    · exact .object (Shape.suitEntries_entries htags _)

/-- A token with policies by name and in order, a null attribute and an unknown one. -/
def mixedToken : Json.Value :=
  .object [("create_index", .integer 7), ("expiration_ttl", .null),
    ("policies", .array [.object [("id", .string "p"), ("unknown", .bool true)], .array [.string "q"]])]

def tokenWithoutPolicy : Json.Value := .object [("policies", .array [.null])]

theorem reads_iff_conforms_token :
    ∃ a, schemas.get? "acl_token" = some a ∧
      (mixedToken.Canonical ∧ Conforms (.nested a) mixedToken) ∧
      tokenWithoutPolicy.Canonical ∧ ¬ Conforms (.nested a) tokenWithoutPolicy := by
  have hmixed : mixedToken.Canonical := by
    simp only [mixedToken, Json.Value.Canonical, Json.Value.CanonicalEntries,
      Json.Value.CanonicalItems]
    decide
  have hwithout : tokenWithoutPolicy.Canonical := by
    simp only [tokenWithoutPolicy, Json.Value.Canonical, Json.Value.CanonicalEntries,
      Json.Value.CanonicalItems]
    decide
  obtain ⟨a, ha, hiff, -⟩ := reads_iff_conforms ("acl_token", aclToken) (by simp [units])
  refine ⟨a, ha, ⟨hmixed, (hiff _ hmixed).1 ?_⟩, hwithout, ?_⟩
  · exact exists_of_isOk (by decide)
  · rw [← hiff _ hwithout]
    rintro ⟨h, hok⟩
    have hfails : (aclToken.ofTree tokenWithoutPolicy).isOk = false := by decide
    rw [hok] at hfails
    exact absurd hfails (by simp [Except.isOk, Except.toBool])

end Bundled

end AttributeSchema
