import AttributeSchema.Proofs.Traverse
import AttributeSchema.Record.Bundled
import AttributeSchema.Record.Decode
/-!
# Writing holders onto records

Attributes are written in the order of their fields up to the first one that does not convert. What stands
before it is overwritten, except by nulls, and the rest of the record stays as it was. A nested record is
overwritten field by field, and a list is replaced by new records.
-/

namespace AttributeSchema

/-! ## Plain attributes -/

namespace LeafConversion

/-- Values of plain attributes that have no native value, with what is reported about them. -/
inductive IsFault : (c : LeafConversion) → c.type.Carrier → String → Prop
  | duration {s : String} {fault : Duration.Fault} (h : Duration.ofText s = .error fault) :
      IsFault .duration s (fault.message (Text.trimmed s))
  | timestamp {s : String} {fault : Timestamp.Fault} (h : Timestamp.ofText s = .error fault) :
      IsFault .timestamp s (fault.message s)
  | tooSmall {kind : IntKind} {n : Number} (h : n.value < kind.least) :
      IsFault (.integer kind) n "number too small to fit in target type"
  | tooLarge {kind : IntKind} {n : Number} (h : kind.greatest < n.value) :
      IsFault (.integer kind) n "number too large to fit in target type"

theorem narrow_error_iff {kind : IntKind} {n : Number} {detail : String} :
    narrow kind n = .error detail ↔ IsFault (.integer kind) n detail := by
  rw [narrow, Sized.ofInt?]
  by_cases hrange : kind.least ≤ n.value ∧ n.value ≤ kind.greatest
  · rw [dif_pos hrange]
    constructor
    · intro h
      exact absurd h (by simp)
    · rintro (_ | _ | hsmall | hlarge) <;> omega
  · rw [dif_neg hrange]
    by_cases hsmall : n.value < kind.least
    · simp only [if_pos hsmall, Except.error.injEq]
      constructor
      · rintro rfl
        exact .tooSmall hsmall
      · rintro (_ | _ | _ | hlarge)
        · rfl
        · have := Int.le_trans kind.least_nonpos kind.greatest_nonneg
          omega
    · simp only [if_neg hsmall, Except.error.injEq]
      constructor
      · rintro rfl
        exact .tooLarge (by omega)
      · rintro (_ | _ | hsmall' | _)
        · exact absurd hsmall' hsmall
        · rfl

theorem mapError_error_iff {φ α : Type} {x : Except φ α} {message : φ → String} {detail : String} :
    x.mapError message = .error detail ↔ ∃ fault, x = .error fault ∧ message fault = detail := by
  cases x <;> simp [Except.mapError]

theorem toNative_duration (s : String) :
    duration.toNative s = (Duration.ofText s).mapError (·.message (Text.trimmed s)) := by
  rw [toNative]
  cases Duration.ofText s <;> rfl

theorem toNative_timestamp (s : String) :
    timestamp.toNative s = (Timestamp.ofText s).mapError (·.message s) := by
  rw [toNative]
  cases Timestamp.ofText s <;> rfl

theorem toNative_error_iff {c : LeafConversion} {v : c.type.Carrier} {detail : String} :
    c.toNative v = .error detail ↔ c.IsFault v detail := by
  cases c with
  | integer kind => exact narrow_error_iff
  | duration =>
      rw [toNative_duration, mapError_error_iff]
      constructor
      · rintro ⟨fault, h, rfl⟩
        exact .duration h
      · rintro ⟨h⟩
        exact ⟨_, h, rfl⟩
  | timestamp =>
      rw [toNative_timestamp, mapError_error_iff]
      constructor
      · rintro ⟨fault, h, rfl⟩
        exact .timestamp h
      · rintro (_ | h)
        exact ⟨_, h, rfl⟩
  | bool => exact ⟨nofun, nofun⟩
  | text => exact ⟨nofun, nofun⟩
  | bytes => exact ⟨nofun, nofun⟩
  | stringList => exact ⟨nofun, nofun⟩
  | stringMap => exact ⟨nofun, nofun⟩

/-- A field after its attribute has been written: a null and a value at fault change nothing. -/
def updated (c : LeafConversion) (value : Option c.type.Carrier) (old : c.Native) : c.Native :=
  (value.bind fun v => (c.toNative v).toOption).getD old

theorem updated_null (c : LeafConversion) (old : c.Native) : c.updated none old = old := rfl

theorem updated_of_ok {c : LeafConversion} {v : c.type.Carrier} {new : c.Native}
    (h : c.toNative v = .ok new) (old : c.Native) : c.updated (some v) old = new := by
  rw [updated, Option.bind_some, h]
  rfl

end LeafConversion

/-! ## Records of any shape -/

namespace Shape

/-- A record after every attribute that is not null has been written. A nested record that was absent is
made first, and a list is replaced by new records. -/
def updated : (s : Shape) → s.Holder → s.Native → s.Native
  | done, _, _ => ()
  | leaf _ conversion rest, (value, more), (old, others) =>
    (conversion.updated value old, rest.updated more others)
  | untagged _ _ rest, more, (old, others) => (old, rest.updated more others)
  | nested _ _ inner rest, (value, more), (old, others) =>
    (match value with
      | none => old
      | some holder => inner.updated holder old, rest.updated more others)
  | optional _ _ inner rest, (value, more), (old, others) =>
    (match value with
      | none => old
      | some holder => some (inner.updated holder (old.getD inner.initial)), rest.updated more others)
  | list _ _ inner rest, (value, more), (old, others) =>
    (match value with
      | none => old
      | some holders => holders.map fun holder => inner.updated holder inner.initial,
      rest.updated more others)

def Converts : (s : Shape) → s.Holder → Prop
  | done, _ => True
  | leaf _ conversion rest, (value, more) =>
    (∀ v ∈ value, ∃ new, conversion.toNative v = .ok new) ∧ rest.Converts more
  | untagged _ _ rest, more => rest.Converts more
  | nested _ _ inner rest, (value, more) =>
    (∀ holder ∈ value, inner.Converts holder) ∧ rest.Converts more
  | optional _ _ inner rest, (value, more) =>
    (∀ holder ∈ value, inner.Converts holder) ∧ rest.Converts more
  | list _ _ inner rest, (value, more) =>
    (∀ holders ∈ value, ∀ holder ∈ holders, inner.Converts holder) ∧ rest.Converts more

theorem decodeInto_items {inner : Shape} {holders : List inner.Holder}
    (h : ∀ holder ∈ holders,
      inner.decodeInto holder inner.initial = (inner.updated holder inner.initial, [])) :
    (holders.map (inner.decodeInto · inner.initial)).map (·.1) =
        holders.map (inner.updated · inner.initial) ∧
      (holders.map (inner.decodeInto · inner.initial)).flatMap (·.2) = [] := by
  have hitems := List.map_congr_left h
  constructor
  · rw [hitems, List.map_map]
    rfl
  · rw [hitems, List.flatMap_map, List.flatMap_eq_nil_iff]
    exact fun _ _ => rfl

theorem decodeInto_of_converts {s : Shape} {h : s.Holder} (hconverts : s.Converts h)
    (target : s.Native) : s.decodeInto h target = (s.updated h target, []) := by
  induction s with
  | done => rfl
  | leaf name conversion rest ih =>
      obtain ⟨value, more⟩ := h
      obtain ⟨old, others⟩ := target
      cases value with
      | none => simp only [decodeInto, ih hconverts.2, updated, LeafConversion.updated_null]
      | some v =>
          obtain ⟨new, hnew⟩ := hconverts.1 v rfl
          simp only [decodeInto, hnew, ih hconverts.2, updated, LeafConversion.updated_of_ok hnew]
  | untagged name conversion rest ih =>
      obtain ⟨old, others⟩ := target
      simp only [decodeInto, ih hconverts, updated]
  | nested name record inner rest ihInner ih =>
      obtain ⟨value, more⟩ := h
      obtain ⟨old, others⟩ := target
      cases value with
      | none => simp only [decodeInto, ih hconverts.2, updated]
      | some holder =>
          simp only [decodeInto, ihInner (hconverts.1 holder rfl), ih hconverts.2, updated,
            List.append_nil]
  | optional name record inner rest ihInner ih =>
      obtain ⟨value, more⟩ := h
      obtain ⟨old, others⟩ := target
      cases value with
      | none => simp only [decodeInto, ih hconverts.2, updated]
      | some holder =>
          simp only [decodeInto, ihInner (hconverts.1 holder rfl), ih hconverts.2, updated,
            List.append_nil]
  | list name record inner rest ihInner ih =>
      obtain ⟨value, more⟩ := h
      obtain ⟨old, others⟩ := target
      cases value with
      | none => simp only [decodeInto, ih hconverts.2, updated]
      | some holders =>
          obtain ⟨hrecords, hreports⟩ := decodeInto_items fun holder hholder =>
            ihInner (hconverts.1 holders rfl holder hholder) inner.initial
          simp only [decodeInto, hrecords, hreports, ih hconverts.2, updated, List.append_nil]

end Shape

/-! ## Fields in order -/

/-- A field of a record together with the attribute that is written into it, if it has one. -/
inductive Slot
  | leaf (name : String) (conversion : LeafConversion) (value : Option conversion.type.Carrier)
    (old : conversion.Native)
  | untagged (name : String) (conversion : LeafConversion) (old : conversion.Native)
  | nested (name : String) (inner : Shape) (value : Option inner.Holder) (old : inner.Native)
  | optional (name : String) (inner : Shape) (value : Option inner.Holder)
    (old : Option inner.Native)
  | list (name : String) (inner : Shape) (value : Option (List inner.Holder))
    (old : List inner.Native)

namespace Slot

def name : Slot → String
  | leaf name _ _ _ => name
  | untagged name _ _ => name
  | nested name _ _ _ => name
  | optional name _ _ _ => name
  | list name _ _ _ => name

def updated : Slot → Slot
  | leaf name conversion value old => leaf name conversion value (conversion.updated value old)
  | untagged name conversion old => untagged name conversion old
  | nested name inner none old => nested name inner none old
  | nested name inner (some holder) old =>
    nested name inner (some holder) (inner.updated holder old)
  | optional name inner none old => optional name inner none old
  | optional name inner (some holder) old =>
    optional name inner (some holder) (some (inner.updated holder (old.getD inner.initial)))
  | list name inner none old => list name inner none old
  | list name inner (some holders) _ =>
    list name inner (some holders) (holders.map (inner.updated · inner.initial))

def Fails : Slot → String → Prop
  | leaf _ conversion (some v) _, detail => conversion.IsFault v detail
  | _, _ => False

def Converts (slot : Slot) : Prop := ∀ detail, ¬ slot.Fails detail

end Slot

/-- What becomes of fields when their attributes are written in order, and what is reported: nothing if all
of them convert, else the first one that does not. From that one on the fields stay as they were. -/
inductive IsPrefixUpdate : List Slot → List Slot → Diagnostics → Prop
  | all {slots : List Slot} (h : ∀ slot ∈ slots, slot.Converts) :
      IsPrefixUpdate slots (slots.map Slot.updated) []
  | upTo {before after : List Slot} {slot : Slot} {detail : String}
      (hbefore : ∀ slot ∈ before, slot.Converts) (hfails : slot.Fails detail) :
      IsPrefixUpdate (before ++ slot :: after) (before.map Slot.updated ++ slot :: after)
        [⟨.error, "Failed to convert " ++ slot.name, detail⟩]

theorem IsPrefixUpdate.cons {slot : Slot} (hslot : slot.Converts) {slots slots' : List Slot}
    {ds : Diagnostics} (h : IsPrefixUpdate slots slots' ds) :
    IsPrefixUpdate (slot :: slots) (slot.updated :: slots') ds := by
  cases h with
  | all h => exact .all (List.forall_mem_cons.2 ⟨hslot, h⟩)
  | upTo hbefore hfails => exact .upTo (List.forall_mem_cons.2 ⟨hslot, hbefore⟩) hfails

namespace Shape

def slots : (s : Shape) → s.Holder → s.Native → List Slot
  | done, _, _ => []
  | leaf name conversion rest, (value, more), (old, others) =>
    .leaf name conversion value old :: rest.slots more others
  | untagged name conversion rest, more, (old, others) =>
    .untagged name conversion old :: rest.slots more others
  | nested name _ inner rest, (value, more), (old, others) =>
    .nested name inner value old :: rest.slots more others
  | optional name _ inner rest, (value, more), (old, others) =>
    .optional name inner value old :: rest.slots more others
  | list name _ inner rest, (value, more), (old, others) =>
    .list name inner value old :: rest.slots more others

def HasConvertingNested : Shape → Prop
  | done => True
  | leaf _ _ rest => rest.HasConvertingNested
  | untagged _ _ rest => rest.HasConvertingNested
  | nested _ _ inner rest => (∀ holder, inner.Converts holder) ∧ rest.HasConvertingNested
  | optional _ _ inner rest => (∀ holder, inner.Converts holder) ∧ rest.HasConvertingNested
  | list _ _ inner rest => (∀ holder, inner.Converts holder) ∧ rest.HasConvertingNested

theorem slots_injective {s : Shape} (h : s.Holder) : Function.Injective (s.slots h) := by
  induction s with
  | done => exact fun _ _ _ => rfl
  | leaf name conversion rest ih =>
      rintro ⟨old, others⟩ ⟨old', others'⟩ heq
      obtain ⟨hslot, hmore⟩ := List.cons.inj heq
      rw [eq_of_heq (Slot.leaf.inj hslot).2.2.2, ih h.2 hmore]
  | untagged name conversion rest ih =>
      rintro ⟨old, others⟩ ⟨old', others'⟩ heq
      obtain ⟨hslot, hmore⟩ := List.cons.inj heq
      rw [eq_of_heq (Slot.untagged.inj hslot).2.2, ih h hmore]
  | nested name record inner rest _ ih =>
      rintro ⟨old, others⟩ ⟨old', others'⟩ heq
      obtain ⟨hslot, hmore⟩ := List.cons.inj heq
      rw [eq_of_heq (Slot.nested.inj hslot).2.2.2, ih h.2 hmore]
  | optional name record inner rest _ ih =>
      rintro ⟨old, others⟩ ⟨old', others'⟩ heq
      obtain ⟨hslot, hmore⟩ := List.cons.inj heq
      rw [eq_of_heq (Slot.optional.inj hslot).2.2.2, ih h.2 hmore]
  | list name record inner rest _ ih =>
      rintro ⟨old, others⟩ ⟨old', others'⟩ heq
      obtain ⟨hslot, hmore⟩ := List.cons.inj heq
      rw [eq_of_heq (Slot.list.inj hslot).2.2.2, ih h.2 hmore]

theorem slots_updated (s : Shape) (h : s.Holder) (target : s.Native) :
    s.slots h (s.updated h target) = (s.slots h target).map Slot.updated := by
  induction s with
  | done => rfl
  | leaf name conversion rest ih => exact congrArg (List.cons _) (ih h.2 target.2)
  | untagged name conversion rest ih => exact congrArg (List.cons _) (ih h target.2)
  | nested name record inner rest _ ih =>
      obtain ⟨value, more⟩ := h
      cases value <;> exact congrArg (List.cons _) (ih more target.2)
  | optional name record inner rest _ ih =>
      obtain ⟨value, more⟩ := h
      cases value <;> exact congrArg (List.cons _) (ih more target.2)
  | list name record inner rest _ ih =>
      obtain ⟨value, more⟩ := h
      cases value <;> exact congrArg (List.cons _) (ih more target.2)

theorem isPrefixUpdate_decodeInto {s : Shape} (hs : s.HasConvertingNested) (h : s.Holder)
    (target : s.Native) :
    IsPrefixUpdate (s.slots h target) (s.slots h (s.decodeInto h target).1)
      (s.decodeInto h target).2 := by
  induction s with
  | done => exact .all fun _ hslot => absurd hslot List.not_mem_nil
  | leaf name conversion rest ih =>
      obtain ⟨value, more⟩ := h
      obtain ⟨old, others⟩ := target
      cases value with
      | none => exact .cons (fun _ => id) (ih hs more others)
      | some v =>
          cases hv : conversion.toNative v with
          | ok new =>
              have hconverts : (Slot.leaf name conversion (some v) old).Converts := by
                intro detail hfault
                exact absurd (hv.symm.trans (LeafConversion.toNative_error_iff.2 hfault)) (by simp)
              have hupdate := (ih hs more others).cons hconverts
              rw [Slot.updated, LeafConversion.updated_of_ok hv] at hupdate
              simp only [decodeInto, hv]
              exact hupdate
          | error detail =>
              have hfails : (Slot.leaf name conversion (some v) old).Fails detail :=
                LeafConversion.toNative_error_iff.1 hv
              have hnone : ∀ slot ∈ ([] : List Slot), slot.Converts :=
                fun _ hslot => absurd hslot List.not_mem_nil
              simp only [decodeInto, hv]
              exact .upTo hnone hfails
  | untagged name conversion rest ih =>
      obtain ⟨old, others⟩ := target
      exact .cons (fun _ => id) (ih hs h others)
  | nested name record inner rest _ ih =>
      obtain ⟨value, more⟩ := h
      obtain ⟨old, others⟩ := target
      cases value with
      | none => exact .cons (fun _ => id) (ih hs.2 more others)
      | some holder =>
          -- A nested holder reports nothing, so the reports are those of the fields behind it.
          simp only [decodeInto, decodeInto_of_converts (hs.1 holder)]
          exact .cons (fun _ => id) (ih hs.2 more others)
  | optional name record inner rest _ ih =>
      obtain ⟨value, more⟩ := h
      obtain ⟨old, others⟩ := target
      cases value with
      | none => exact .cons (fun _ => id) (ih hs.2 more others)
      | some holder =>
          simp only [decodeInto, decodeInto_of_converts (hs.1 holder)]
          exact .cons (fun _ => id) (ih hs.2 more others)
  | list name record inner rest _ ih =>
      obtain ⟨value, more⟩ := h
      obtain ⟨old, others⟩ := target
      cases value with
      | none => exact .cons (fun _ => id) (ih hs.2 more others)
      | some holders =>
          obtain ⟨hrecords, hreports⟩ := decodeInto_items fun holder (_ : holder ∈ holders) =>
            decodeInto_of_converts (hs.1 holder) inner.initial
          simp only [decodeInto, hrecords, hreports]
          exact .cons (fun _ => id) (ih hs.2 more others)

end Shape

namespace Bundled

theorem converts_httpBasicAuth (h : httpBasicAuth.shape.Holder) : httpBasicAuth.shape.Converts h :=
  ⟨fun v _ => ⟨v, rfl⟩, fun v _ => ⟨v, rfl⟩, trivial⟩

theorem converts_tlsConfig (h : tlsConfig.shape.Holder) : tlsConfig.shape.Converts h :=
  ⟨fun v _ => ⟨v, rfl⟩, fun v _ => ⟨v, rfl⟩, fun v _ => ⟨Text.Utf8.encode v.toList, rfl⟩,
    fun v _ => ⟨v, rfl⟩, fun v _ => ⟨v, rfl⟩, fun v _ => ⟨v, rfl⟩, trivial⟩

theorem converts_aclTokenPolicyLink (h : aclTokenPolicyLink.shape.Holder) :
    aclTokenPolicyLink.shape.Converts h :=
  ⟨fun v _ => ⟨v, rfl⟩, fun v _ => ⟨v, rfl⟩, trivial⟩

theorem converts_aclServiceIdentity (h : aclServiceIdentity.shape.Holder) :
    aclServiceIdentity.shape.Converts h :=
  ⟨fun v _ => ⟨v, rfl⟩, fun v _ => ⟨v, rfl⟩, trivial⟩

theorem hasConvertingNested_of_mem : ∀ e ∈ records, e.2.shape.HasConvertingNested := by
  simp only [records, List.forall_mem_cons]
  refine ⟨trivial, ?config, trivial, trivial, ?token, trivial, trivial, by simp⟩
  case config => exact ⟨converts_httpBasicAuth, converts_tlsConfig, trivial⟩
  case token => exact ⟨converts_aclTokenPolicyLink, converts_aclServiceIdentity, trivial⟩

/-- Writing a holder onto a bundled record overwrites its fields up to the first attribute that does not
convert, and reports that one alone. The fields in order tell records apart, and overwriting a record means
overwriting each of its fields. -/
theorem decoding_stops_at_fault : ∀ e ∈ records, ∀ h : e.2.shape.Holder,
    Function.Injective (e.2.shape.slots h) ∧
    (∀ target, e.2.shape.slots h (e.2.shape.updated h target) =
      (e.2.shape.slots h target).map Slot.updated) ∧
    ∀ target, IsPrefixUpdate (e.2.shape.slots h target)
      (e.2.shape.slots h (e.2.shape.decodeInto h target).1) (e.2.shape.decodeInto h target).2 := by
  intro e he h
  refine ⟨Shape.slots_injective h, Shape.slots_updated e.2.shape h, fun target => ?_⟩
  exact Shape.isPrefixUpdate_decodeInto (hasConvertingNested_of_mem e he) h target

def unindexedToken : aclToken.shape.Holder :=
  (none, some "s", none, none, some "0", none, some ⟨-1, by decide, by decide⟩, some [], none, ())

def lastingToken : aclToken.shape.Native :=
  ("a", "", "", true, ⟨45_000_000_000, by decide⟩, .epoch, ⟨3, by decide, by decide⟩,
    [("p", "n", ())], [], ⟨4, by decide, by decide⟩, ())

/-- The index of the old token stays, and so do its policies. -/
theorem decoding_stops_at_fault_token :
    let result : aclToken.shape.Native :=
      ("a", "s", "", true, .zero, .epoch, ⟨3, by decide, by decide⟩, [("p", "n", ())], [],
        ⟨4, by decide, by decide⟩, ())
    let reports : Diagnostics :=
      [⟨.error, "Failed to convert create_index", "number too small to fit in target type"⟩]
    aclToken.shape.decodeInto unindexedToken lastingToken = (result, reports) ∧
      IsPrefixUpdate (aclToken.shape.slots unindexedToken lastingToken)
        (aclToken.shape.slots unindexedToken result) reports := by
  intro result reports
  have hdecode : aclToken.shape.decodeInto unindexedToken lastingToken = (result, reports) := by
    decide +kernel
  have hupdate := (decoding_stops_at_fault ("acl_token", aclToken) (by simp [records])
    unindexedToken).2.2 lastingToken
  rw [hdecode] at hupdate
  exact ⟨hdecode, hupdate⟩

end Bundled

end AttributeSchema
