import AttributeSchema.Json.Value
import Mathlib.Data.String.Basic
/-!
# Values by what they hold

Facts about values whose arrays and objects hold further values.
-/

namespace AttributeSchema.Json.Value

/-- What holds of all leaves, and of an array or object if it holds of all values in it, holds of every
value. -/
theorem induction {P : Value → Prop} (null : P .null) (bool : ∀ b, P (.bool b))
    (integer : ∀ n, P (.integer n)) (float : ∀ x, P (.float x)) (string : ∀ s, P (.string s))
    (array : ∀ items, (∀ v ∈ items, P v) → P (.array items))
    (object : ∀ entries : List (String × Value), (∀ e ∈ entries, P e.2) → P (.object entries)) :
    ∀ v, P v
  | .null => null
  | .bool b => bool b
  | .integer n => integer n
  | .float x => float x
  | .string s => string s
  | .array items => array items fun v hv =>
      have := List.sizeOf_lt_of_mem hv
      induction null bool integer float string array object v
  | .object entries => object entries fun e he =>
      have := List.sizeOf_lt_of_mem he
      induction null bool integer float string array object e.2
termination_by v => sizeOf v
decreasing_by
  · simp only [Value.array.sizeOf_spec]
    omega
  · obtain ⟨key, v⟩ := e
    simp only [Prod.mk.sizeOf_spec] at this
    simp only [Value.object.sizeOf_spec]
    omega

theorem canonicalItems_iff {items : List Value} :
    CanonicalItems items ↔ ∀ item ∈ items, Canonical item := by
  induction items with
  | nil => simp [CanonicalItems]
  | cons item items ih => rw [CanonicalItems, ih, List.forall_mem_cons]

theorem canonicalEntries_iff {entries : List (String × Value)} :
    CanonicalEntries entries ↔ ∀ e ∈ entries, Canonical e.2 := by
  induction entries with
  | nil => simp [CanonicalEntries]
  | cons e entries ih =>
      obtain ⟨key, value⟩ := e
      rw [CanonicalEntries, ih, List.forall_mem_cons]

inductive HasDistinctKeys : Value → Prop
  | null : HasDistinctKeys .null
  | bool (b : Bool) : HasDistinctKeys (.bool b)
  | integer (n : Int) : HasDistinctKeys (.integer n)
  | float (x : Binary64) : HasDistinctKeys (.float x)
  | string (s : String) : HasDistinctKeys (.string s)
  | array {items : List Value} (h : ∀ v ∈ items, HasDistinctKeys v) : HasDistinctKeys (.array items)
  | object {entries : List (String × Value)} (hkeys : (entries.map Prod.fst).Nodup)
      (h : ∀ e ∈ entries, HasDistinctKeys e.2) : HasDistinctKeys (.object entries)

theorem hasDistinctKeys_of_canonical {v : Value} : v.Canonical → v.HasDistinctKeys := by
  induction v using Value.induction with
  | null => exact fun _ => .null
  | bool b => exact fun _ => .bool b
  | integer n => exact fun _ => .integer n
  | float x => exact fun _ => .float x
  | string s => exact fun _ => .string s
  | array items ih =>
      intro h
      rw [Canonical, canonicalItems_iff] at h
      exact .array fun v hv => ih v hv (h v hv)
  | object entries ih =>
      intro h
      rw [Canonical, canonicalEntries_iff] at h
      obtain ⟨hkeys, hvalues⟩ := h
      refine .object ?_ fun e he => ih e he (hvalues e he)
      rw [List.Nodup, List.pairwise_map]
      exact hkeys.imp fun hlt => ne_of_lt hlt

end AttributeSchema.Json.Value
