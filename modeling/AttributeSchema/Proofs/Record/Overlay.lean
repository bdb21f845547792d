import AttributeSchema.Proofs.Record.Decoding
/-!
# Holders in layers

Writing one holder onto a record and then another one is writing their overlay, in which the attributes of
the second holder hide those of the first. Writing one holder again changes nothing.
-/

namespace AttributeSchema

namespace Shape

/-! ## What is reported -/

/-- Nothing is reported about a holder exactly if none of its attributes is at fault, whatever it is written
onto. -/
theorem converts_iff {s : Shape} {h : s.Holder} {target : s.Native} :
    s.Converts h ↔ (s.decodeInto h target).2 = [] := by
  refine ⟨fun hconverts => by rw [decodeInto_of_converts hconverts], fun hnone => ?_⟩
  induction s with
  | done => trivial
  | leaf name conversion rest ih =>
      obtain ⟨value, more⟩ := h
      obtain ⟨old, others⟩ := target
      cases value with
      | none => exact ⟨fun _ hv => absurd hv (by simp), ih hnone⟩
      | some v =>
          cases hv : conversion.toNative v with
          | error detail => simp [decodeInto, hv] at hnone
          | ok new =>
              simp only [decodeInto, hv] at hnone
              refine ⟨fun w hw => ⟨new, ?_⟩, ih hnone⟩
              rwa [← Option.mem_some_iff.1 hw]
  | untagged name conversion rest ih => exact ih hnone
  | nested name record inner rest ihInner ih =>
      obtain ⟨value, more⟩ := h
      obtain ⟨old, others⟩ := target
      cases value with
      | none => exact ⟨fun _ hv => absurd hv (by simp), ih hnone⟩
      | some holder =>
          obtain ⟨hinner, hmore⟩ := List.append_eq_nil_iff.1 hnone
          refine ⟨fun v hv => ?_, ih hmore⟩
          rw [← Option.mem_some_iff.1 hv]
          exact ihInner hinner
  | optional name record inner rest ihInner ih =>
      obtain ⟨value, more⟩ := h
      obtain ⟨old, others⟩ := target
      cases value with
      | none => exact ⟨fun _ hv => absurd hv (by simp), ih hnone⟩
      | some holder =>
          obtain ⟨hinner, hmore⟩ := List.append_eq_nil_iff.1 hnone
          refine ⟨fun v hv => ?_, ih hmore⟩
          rw [← Option.mem_some_iff.1 hv]
          exact ihInner hinner
  | list name record inner rest ihInner ih =>
      obtain ⟨value, more⟩ := h
      obtain ⟨old, others⟩ := target
      cases value with
      | none => exact ⟨fun _ hv => absurd hv (by simp), ih hnone⟩
      | some holders =>
          obtain ⟨hitems, hmore⟩ := List.append_eq_nil_iff.1 hnone
          refine ⟨fun vs hvs holder hholder => ?_, ih hmore⟩
          rw [← Option.mem_some_iff.1 hvs] at hholder
          exact ihInner (List.flatMap_eq_nil_iff.1 hitems _ (List.mem_map_of_mem hholder))

/-! ## Overlays -/

/-- A holder with another one on top of it: an attribute of the upper one counts unless it is null. Nested
holders are laid over each other in turn, while lists and maps are taken as they are. -/
def overlay : (s : Shape) → s.Holder → s.Holder → s.Holder
  | done, _, _ => ()
  | leaf _ _ rest, (lower, more), (upper, others) => (upper.or lower, rest.overlay more others)
  | untagged _ _ rest, more, others => rest.overlay more others
  | nested _ _ inner rest, (lower, more), (upper, others) =>
    (Option.merge inner.overlay lower upper, rest.overlay more others)
  | optional _ _ inner rest, (lower, more), (upper, others) =>
    (Option.merge inner.overlay lower upper, rest.overlay more others)
  | list _ _ _ rest, (lower, more), (upper, others) => (upper.or lower, rest.overlay more others)

theorem forall_mem_or {α : Type} {P : α → Prop} {lower upper : Option α} (hlower : ∀ v ∈ lower, P v)
    (hupper : ∀ v ∈ upper, P v) : ∀ v ∈ upper.or lower, P v := by
  cases upper with
  | none => exact hlower
  | some v => exact hupper

theorem forall_mem_merge {α : Type} {P : α → Prop} {f : α → α → α}
    (hf : ∀ {v w}, P v → P w → P (f v w)) {lower upper : Option α} (hlower : ∀ v ∈ lower, P v)
    (hupper : ∀ v ∈ upper, P v) : ∀ v ∈ Option.merge f lower upper, P v := by
  cases lower with
  | none =>
      cases upper with
      | none => exact hlower
      | some w => exact hupper
  | some v =>
      cases upper with
      | none => exact hlower
      | some w =>
          intro u hu
          rw [← Option.mem_some_iff.1 hu]
          exact hf (hlower v rfl) (hupper w rfl)

theorem Converts.overlay {s : Shape} {lower upper : s.Holder} (hlower : s.Converts lower)
    (hupper : s.Converts upper) : s.Converts (s.overlay lower upper) := by
  induction s with
  | done => trivial
  | leaf name conversion rest ih => exact ⟨forall_mem_or hlower.1 hupper.1, ih hlower.2 hupper.2⟩
  | untagged name conversion rest ih => exact ih hlower hupper
  | nested name record inner rest ihInner ih =>
      exact ⟨forall_mem_merge ihInner hlower.1 hupper.1, ih hlower.2 hupper.2⟩
  | optional name record inner rest ihInner ih =>
      exact ⟨forall_mem_merge ihInner hlower.1 hupper.1, ih hlower.2 hupper.2⟩
  | list name record inner rest _ ih =>
      exact ⟨forall_mem_or hlower.1 hupper.1, ih hlower.2 hupper.2⟩

/-- Overwriting twice is overwriting with the overlay, if the upper holder has no attribute at fault: such an
attribute would hide the lower one, but not replace the field. -/
theorem updated_overlay {s : Shape} (lower : s.Holder) {upper : s.Holder} (hupper : s.Converts upper)
    (target : s.Native) :
    s.updated (s.overlay lower upper) target = s.updated upper (s.updated lower target) := by
  induction s with
  | done => rfl
  | leaf name conversion rest ih =>
      obtain ⟨value, more⟩ := upper
      refine Prod.ext ?_ (ih lower.2 hupper.2 target.2)
      cases value with
      | none => rfl
      | some v =>
          obtain ⟨new, hnew⟩ := hupper.1 v rfl
          calc
            conversion.updated (some v) target.1 = new := LeafConversion.updated_of_ok hnew _
            _ = conversion.updated (some v) _ := (LeafConversion.updated_of_ok hnew _).symm
  | untagged name conversion rest ih => exact Prod.ext rfl (ih lower hupper target.2)
  | nested name record inner rest ihInner ih =>
      obtain ⟨value, more⟩ := lower
      obtain ⟨value', more'⟩ := upper
      refine Prod.ext ?_ (ih more hupper.2 target.2)
      cases value with
      | none => cases value' <;> rfl
      | some holder =>
          cases value' with
          | none => rfl
          | some holder' => exact ihInner holder (hupper.1 holder' rfl) target.1
  | optional name record inner rest ihInner ih =>
      obtain ⟨value, more⟩ := lower
      obtain ⟨value', more'⟩ := upper
      refine Prod.ext ?_ (ih more hupper.2 target.2)
      cases value with
      | none => cases value' <;> rfl
      | some holder =>
          cases value' with
          | none => rfl
          | some holder' => exact congrArg some (ihInner holder (hupper.1 holder' rfl) _)
  | list name record inner rest _ ih =>
      obtain ⟨value, more⟩ := upper
      refine Prod.ext ?_ (ih lower.2 hupper.2 target.2)
      cases value <;> rfl

/-! ## Writing again -/

/-- What a holder has written it writes again, also if it is stopped. -/
theorem decodeInto_again (s : Shape) (h : s.Holder) (target : s.Native) :
    s.decodeInto h (s.decodeInto h target).1 = s.decodeInto h target := by
  induction s with
  | done => rfl
  | leaf name conversion rest ih =>
      obtain ⟨value, more⟩ := h
      obtain ⟨old, others⟩ := target
      cases value with
      | none => simp only [decodeInto, ih]
      | some v => cases hv : conversion.toNative v <;> simp only [decodeInto, hv, ih]
  | untagged name conversion rest ih =>
      obtain ⟨old, others⟩ := target
      simp only [decodeInto, ih]
  | nested name record inner rest ihInner ih =>
      obtain ⟨value, more⟩ := h
      obtain ⟨old, others⟩ := target
      cases value <;> simp only [decodeInto, ihInner, ih]
  | optional name record inner rest ihInner ih =>
      obtain ⟨value, more⟩ := h
      obtain ⟨old, others⟩ := target
      cases value <;> simp only [decodeInto, Option.getD_some, ihInner, ih]
  | list name record inner rest _ ih =>
      obtain ⟨value, more⟩ := h
      obtain ⟨old, others⟩ := target
      cases value <;> simp only [decodeInto, ih]

end Shape

namespace Bundled

/-- Holders of which nothing is reported are written one after the other as their overlay is, and nothing
is reported of it. Every holder may be written twice. -/
theorem holders_in_layers : ∀ e ∈ records,
    (∀ (lower upper : e.2.shape.Holder) (first second : e.2.shape.Native),
      (e.2.shape.decodeInto lower first).2 = [] → (e.2.shape.decodeInto upper second).2 = [] →
      ∀ target, (e.2.shape.decodeInto (e.2.shape.overlay lower upper) target).2 = [] ∧
        e.2.shape.decodeInto upper (e.2.shape.decodeInto lower target).1 =
          e.2.shape.decodeInto (e.2.shape.overlay lower upper) target) ∧
    ∀ h target, e.2.shape.decodeInto h (e.2.shape.decodeInto h target).1 =
      e.2.shape.decodeInto h target := by
  intro e _
  refine ⟨?_, e.2.shape.decodeInto_again⟩
  intro lower upper first second hlower hupper target
  have hlower := Shape.converts_iff.2 hlower
  have hupper := Shape.converts_iff.2 hupper
  have hoverlay := hlower.overlay hupper
  refine ⟨Shape.converts_iff.1 hoverlay, ?_⟩
  rw [Shape.decodeInto_of_converts hlower, Shape.decodeInto_of_converts hupper,
    Shape.decodeInto_of_converts hoverlay, Shape.updated_overlay lower hupper]

def userConfig : config.shape.Holder :=
  (some "a", none, none, none, some "0", none, none, none, some (some "u", none, ()),
    some (none, none, none, none, none, some true, ()), none, ())

def passwordConfig : config.shape.Holder :=
  (some "b", none, none, none, none, none, none, none, some (none, some "p", ()), none, none, ())

theorem holders_in_layers_config :
    let layered : config.shape.Holder :=
      (some "b", none, none, none, some "0", none, none, none, some (some "u", some "p", ()),
        some (none, none, none, none, none, some true, ()), none, ())
    (config.shape.decodeInto userConfig config.shape.initial).2 = [] ∧
      (config.shape.decodeInto passwordConfig config.shape.initial).2 = [] ∧
      config.shape.decodeInto passwordConfig
          (config.shape.decodeInto userConfig config.shape.initial).1 =
        config.shape.decodeInto layered config.shape.initial := by
  intro layered
  have huser : (config.shape.decodeInto userConfig config.shape.initial).2 = [] := by
    decide +kernel
  have hpassword : (config.shape.decodeInto passwordConfig config.shape.initial).2 = [] := by
    decide +kernel
  have hlayers := (holders_in_layers ("consul_config", config) (by simp [records])).1 userConfig
    passwordConfig config.shape.initial config.shape.initial huser hpassword config.shape.initial
  exact ⟨huser, hpassword, hlayers.2⟩

end Bundled

end AttributeSchema
