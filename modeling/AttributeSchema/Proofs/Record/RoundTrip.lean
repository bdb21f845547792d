import AttributeSchema.Proofs.Text.Utf8
import AttributeSchema.Proofs.Time.Duration
import AttributeSchema.Proofs.Time.LeapSecond
import AttributeSchema.Record.Decode
/-!
# Holders carry their records

Filling a holder from a record and writing it onto another one reports nothing and leaves the first
record there. What a holder does not carry stays as it was: fields without an attribute, and records
that are absent. Bytes travel as text, so they come back as the bytes of the text they are read as, and a
timestamp as the one that its text spells.
-/

namespace AttributeSchema

open Text

/-! ## Plain attributes -/

namespace LeafConversion

/-- The value that a plain attribute delivers for a native value. -/
def delivered : (c : LeafConversion) → c.Native → c.Native
  | bool, b => b
  | text, s => s
  | integer _, n => n
  | duration, d => d
  | timestamp, t => t.spelled
  | bytes, bs => Utf8.encode (Utf8.decodeLossy bs)
  | stringList, texts => texts
  | stringMap, m => m

/-- Timestamps are delivered if their year has four digits, and all other values in any case. -/
def Carries : (c : LeafConversion) → c.Native → Prop
  | timestamp, t => 0 ≤ t.year ∧ t.year ≤ 9999
  | _, _ => True

theorem narrow_widen {kind : IntKind} (n : Sized kind) : narrow kind (widen n) = .ok n := by
  have hsized : (Sized.ofInt? n.value : Option (Sized kind)) = some n := by
    rw [Sized.ofInt?, dif_pos ⟨n.lower, n.upper⟩]
  rw [narrow, widen, hsized]

theorem toNative_ofNative {c : LeafConversion} {x : c.Native} (h : c.Carries x) :
    c.toNative (c.ofNative x) = .ok (c.delivered x) := by
  cases c with
  | integer kind => exact narrow_widen x
  | duration =>
      rw [ofNative, toNative, Duration.ofText_text]
      rfl
  | timestamp =>
      have hyear : 0 ≤ Timestamp.year x ∧ Timestamp.year x ≤ 9999 := h
      rw [ofNative, toNative, Timestamp.ofText_text_eq, if_pos hyear]
      rfl
  | bytes =>
      rw [ofNative, toNative, String.toList_ofList]
      rfl
  | bool => rfl
  | text => rfl
  | stringList => rfl
  | stringMap => rfl

end LeafConversion

/-! ## Records of any shape -/

namespace Shape

/-- Every value of a record can be delivered by its attribute. -/
def Carries : (s : Shape) → s.Native → Prop
  | done, _ => True
  | leaf _ conversion rest, (x, more) => conversion.Carries x ∧ rest.Carries more
  | untagged _ _ rest, (_, more) => rest.Carries more
  | nested _ _ inner rest, (x, more) => inner.Carries x ∧ rest.Carries more
  | optional _ _ inner rest, (x, more) => (∀ v ∈ x, inner.Carries v) ∧ rest.Carries more
  | list _ _ inner rest, (xs, more) => (∀ v ∈ xs, inner.Carries v) ∧ rest.Carries more

/-- The target after the holder of a record has been written onto it. -/
def restored : (s : Shape) → s.Native → s.Native → s.Native
  | done, _, _ => ()
  | leaf _ conversion rest, (x, more), (_, others) => (conversion.delivered x, rest.restored more others)
  | untagged _ _ rest, (_, more), (old, others) => (old, rest.restored more others)
  | nested _ _ inner rest, (x, more), (old, others) =>
    (inner.restored x old, rest.restored more others)
  | optional _ _ inner rest, (x, more), (old, others) =>
    ((x.map fun v => inner.restored v (old.getD inner.initial)).or old, rest.restored more others)
  | list _ _ inner rest, (xs, more), (_, others) =>
    (xs.map fun v => inner.restored v inner.initial, rest.restored more others)

theorem decodeInto_encode {s : Shape} {x : s.Native} (h : s.Carries x) (target : s.Native) :
    s.decodeInto (s.encode x) target = (s.restored x target, []) := by
  induction s with
  | done => rfl
  | leaf name conversion rest ih =>
      obtain ⟨value, more⟩ := x
      obtain ⟨old, others⟩ := target
      rw [encode, decodeInto, LeafConversion.toNative_ofNative h.1]
      simp only [ih h.2, restored]
  | untagged name conversion rest ih =>
      obtain ⟨value, more⟩ := x
      obtain ⟨old, others⟩ := target
      simp only [encode, decodeInto, ih h, restored]
  | nested name record inner rest ihInner ih =>
      obtain ⟨value, more⟩ := x
      obtain ⟨old, others⟩ := target
      simp only [encode, decodeInto, ihInner h.1, ih h.2, restored, List.append_nil]
  | optional name record inner rest ihInner ih =>
      obtain ⟨value, more⟩ := x
      obtain ⟨old, others⟩ := target
      cases value with
      | none => simp only [encode, Option.map_none, decodeInto, ih h.2, restored, Option.none_or]
      | some value =>
          have hvalue : inner.Carries value := h.1 value rfl
          simp only [encode, Option.map_some, decodeInto, ihInner hvalue, ih h.2, restored,
            Option.some_or, List.append_nil]
  | list name record inner rest ihInner ih =>
      obtain ⟨values, more⟩ := x
      obtain ⟨old, others⟩ := target
      have hitems : (values.map inner.encode).map (inner.decodeInto · inner.initial) =
          values.map fun v => (inner.restored v inner.initial, []) := by
        rw [List.map_map]
        apply List.map_congr_left
        intro v hv
        exact ihInner (h.1 v hv) inner.initial
      simp only [encode, decodeInto, hitems, ih h.2, restored]
      simp

end Shape

end AttributeSchema
