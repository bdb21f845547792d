import AttributeSchema.Proofs.Json.Values
import AttributeSchema.Proofs.SortedMap
/-!
# Objects in the order of their keys

A tree keeps the entries of an object in the order of their keys, whatever order they were given in. If the
keys of every object are distinct, nothing is lost by that, and nothing else is changed.
-/

namespace AttributeSchema

namespace SortedMap

/-- A map made from entries at distinct keys has all of them. -/
theorem entries_ofList_perm {β : Type u} {entries : List (String × β)}
    (hnodup : (entries.map (·.1)).Nodup) : entries.Perm (ofList entries).entries := by
  apply (List.perm_ext_iff_of_nodup (List.Nodup.of_map _ hnodup) (nodup_entries _)).2
  rintro ⟨key, value⟩
  rw [mem_entries_iff]
  exact ⟨get?_ofList_of_mem hnodup, mem_of_get?_ofList⟩

end SortedMap

namespace Json.Value

mutual
def arranged : Value → Value
  | null => null
  | bool b => bool b
  | integer n => integer n
  | float x => float x
  | string s => string s
  | array items => array (arrangedItems items)
  | object entries => object (SortedMap.ofList (arrangedEntries entries)).entries

def arrangedItems : List Value → List Value
  | [] => []
  | v :: rest => arranged v :: arrangedItems rest

def arrangedEntries : List (String × Value) → List (String × Value)
  | [] => []
  | (key, v) :: rest => (key, arranged v) :: arrangedEntries rest
end

theorem arrangedItems_eq (items : List Value) : arrangedItems items = items.map arranged := by
  induction items with
  | nil => rfl
  | cons v items ih => rw [arrangedItems, ih, List.map_cons]

theorem arrangedEntries_eq (entries : List (String × Value)) :
    arrangedEntries entries = entries.map fun e => (e.1, arranged e.2) := by
  induction entries with
  | nil => rfl
  | cons e entries ih => rw [arrangedEntries, ih, List.map_cons]

/-- Changes nothing but the order of entries in objects, as long as their keys are distinct. -/
structure Rearranges (g : Value → Value) : Prop where
  null_eq : g .null = .null
  bool_eq (b : Bool) : g (.bool b) = .bool b
  integer_eq (n : Int) : g (.integer n) = .integer n
  string_eq (s : String) : g (.string s) = .string s
  array_eq (items : List Value) : g (.array items) = .array (items.map g)
  object_eq {entries : List (String × Value)} (hkeys : (entries.map Prod.fst).Nodup) :
    ∃ entries', g (.object entries) = .object entries' ∧
      (entries.map fun e => (e.1, g e.2)).Perm entries'

theorem rearranges_id : Rearranges id where
  null_eq := rfl
  bool_eq _ := rfl
  integer_eq _ := rfl
  string_eq _ := rfl
  array_eq items := by rw [List.map_id, id]
  object_eq {entries} _ := ⟨entries, rfl, by simp⟩

theorem rearranges_arranged : Rearranges arranged where
  null_eq := by rw [arranged]
  bool_eq b := by rw [arranged]
  integer_eq n := by rw [arranged]
  string_eq s := by rw [arranged]
  array_eq items := by rw [arranged, arrangedItems_eq]
  object_eq {entries} hkeys := by
    rw [arranged, arrangedEntries_eq]
    refine ⟨_, rfl, SortedMap.entries_ofList_perm ?_⟩
    rw [List.map_map]
    exact hkeys

/-- A tree is canonical if what it holds is: its keys ascend in any case. -/
theorem canonical_arranged_object {entries : List (String × Value)}
    (hkeys : (entries.map Prod.fst).Nodup) :
    (arranged (.object entries)).Canonical ↔ ∀ e ∈ entries, (arranged e.2).Canonical := by
  have hperm : (entries.map fun e => (e.1, arranged e.2)).Perm
      (SortedMap.ofList (entries.map fun e => (e.1, arranged e.2))).entries := by
    apply SortedMap.entries_ofList_perm
    rw [List.map_map]
    exact hkeys
  rw [arranged, arrangedEntries_eq, Canonical, canonicalEntries_iff, and_iff_right (SortedMap.sorted _)]
  constructor
  · intro h e he
    exact h _ (hperm.subset (List.mem_map_of_mem he))
  · intro h e he
    obtain ⟨e', he', rfl⟩ := List.mem_map.1 (hperm.symm.subset he)
    exact h e' he'

theorem canonical_arranged_array {items : List Value} :
    (arranged (.array items)).Canonical ↔ ∀ v ∈ items, (arranged v).Canonical := by
  rw [arranged, arrangedItems_eq, Canonical, canonicalItems_iff, List.forall_mem_map]

end Json.Value

end AttributeSchema
