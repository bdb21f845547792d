import AttributeSchema.SortedMap
import Mathlib.Data.List.Nodup
/-!
# Entries and look-up of maps in key order

A map has one entry for each key, so its entries are what look-up finds, and maps with the same look-up are
equal. A map made from a list finds the last entry of a key.
-/

namespace AttributeSchema.SortedMap

variable {β : Type u} {m n : SortedMap β} {key : String} {value : β}

/-! ## Look-up in lists -/

section

variable {α : Type v} [BEq α] [LawfulBEq α] {key : α}

theorem mem_of_lookup {entries : List (α × β)} (h : entries.lookup key = some value) :
    (key, value) ∈ entries := by
  induction entries with
  | nil => exact absurd h (by simp)
  | cons e rest ih =>
      obtain ⟨k, v⟩ := e
      rw [List.lookup_cons] at h
      split at h
      · rename_i heq
        obtain rfl := beq_iff_eq.1 heq
        rw [Option.some.inj h]
        exact List.mem_cons_self
      · exact List.mem_cons_of_mem _ (ih h)

theorem lookup_of_mem {entries : List (α × β)} (hnodup : (entries.map (·.1)).Nodup)
    (h : (key, value) ∈ entries) : entries.lookup key = some value := by
  induction entries with
  | nil => exact absurd h List.not_mem_nil
  | cons e rest ih =>
      obtain ⟨k, v⟩ := e
      obtain ⟨hhead, hrest⟩ := List.nodup_cons.1 hnodup
      rw [List.lookup_cons]
      rcases List.mem_cons.1 h with heq | hmem
      · obtain ⟨rfl, rfl⟩ := Prod.mk.inj heq
        simp
      · have hne : key ≠ k := by
          rintro rfl
          exact hhead (List.mem_map.2 ⟨_, hmem, rfl⟩)
        rw [beq_eq_false_iff_ne.2 hne]
        exact ih hrest hmem

/-- The order of entries with different keys does not show in what is found. -/
theorem lookup_perm {entries entries' : List (α × β)} (hnodup : (entries.map (·.1)).Nodup)
    (h : entries.Perm entries') : entries'.lookup key = entries.lookup key := by
  have hnodup' : (entries'.map (·.1)).Nodup := (h.map _).nodup hnodup
  apply Option.ext
  intro value
  constructor
  · exact fun hvalue => lookup_of_mem hnodup (h.symm.subset (mem_of_lookup hvalue))
  · exact fun hvalue => lookup_of_mem hnodup' (h.subset (mem_of_lookup hvalue))

end

/-! ## Entries of maps -/

theorem nodup_keys (m : SortedMap β) : m.keys.Nodup := by
  rw [keys, List.Nodup, List.pairwise_map]
  apply m.sorted.imp
  intro a b hlt heq
  rw [heq] at hlt
  exact String.lt_irrefl _ hlt

theorem sorted_keys (m : SortedMap β) : m.keys.Pairwise (· < ·) :=
  List.pairwise_map.2 m.sorted

theorem nodup_entries (m : SortedMap β) : m.entries.Nodup :=
  List.Nodup.of_map _ m.nodup_keys

/-- The entries of a map are what look-up finds. -/
theorem mem_entries_iff : (key, value) ∈ m.entries ↔ m.get? key = some value :=
  ⟨lookup_of_mem m.nodup_keys, mem_of_lookup⟩

theorem mem_keys_iff : key ∈ m.keys ↔ ∃ value, m.get? key = some value := by
  simp only [keys, List.mem_map, Prod.exists, exists_and_right, exists_eq_right, mem_entries_iff]

theorem eq_of_get? (h : ∀ key, m.get? key = n.get? key) : m = n := by
  apply ext
  have hmem : ∀ e, e ∈ m.entries ↔ e ∈ n.entries := by
    intro e
    rw [mem_entries_iff, mem_entries_iff, h]
  have hperm : m.entries.Perm n.entries :=
    (List.perm_ext_iff_of_nodup m.nodup_entries n.nodup_entries).2 hmem
  apply hperm.eq_of_pairwise _ m.sorted n.sorted
  intro a b _ _ hab hba
  exact absurd (String.lt_trans hab hba) (String.lt_irrefl _)

/-! ## Maps from lists -/

theorem get?_foldl_insert (entries : List (String × β)) (m : SortedMap β) (key : String) :
    (entries.foldl (fun m e => m.insert e.1 e.2) m).get? key =
      (entries.reverse.lookup key).or (m.get? key) := by
  induction entries generalizing m with
  | nil => rfl
  | cons e rest ih =>
      obtain ⟨k, v⟩ := e
      rw [List.foldl_cons, ih, get?_insert, List.reverse_cons, List.lookup_append, List.lookup_cons,
        Option.or_assoc]
      by_cases hkey : key = k
      · subst hkey
        simp
      · rw [if_neg hkey, beq_eq_false_iff_ne.2 hkey]
        rfl

/-- A map made from a list finds the last entry of each key. -/
theorem get?_ofList (entries : List (String × β)) (key : String) :
    (ofList entries).get? key = entries.reverse.lookup key := by
  rw [ofList, get?_foldl_insert, get?_empty, Option.or_none]

theorem mem_of_get?_ofList {entries : List (String × β)}
    (h : (ofList entries).get? key = some value) : (key, value) ∈ entries := by
  rw [get?_ofList] at h
  exact List.mem_reverse.1 (mem_of_lookup h)

theorem get?_ofList_of_mem {entries : List (String × β)} (hnodup : (entries.map (·.1)).Nodup)
    (h : (key, value) ∈ entries) : (ofList entries).get? key = some value := by
  rw [get?_ofList]
  apply lookup_of_mem _ (List.mem_reverse.2 h)
  rw [List.map_reverse]
  exact List.nodup_reverse.2 hnodup

/-- No entry is lost if the keys differ. -/
theorem keys_ofList_perm {entries : List (String × β)} (hnodup : (entries.map (·.1)).Nodup) :
    (ofList entries).keys.Perm (entries.map (·.1)) := by
  rw [List.perm_ext_iff_of_nodup (nodup_keys _) hnodup]
  intro key
  rw [mem_keys_iff, List.mem_map]
  constructor
  · rintro ⟨value, hget⟩
    exact ⟨(key, value), mem_of_get?_ofList hget, rfl⟩
  · rintro ⟨e, he, rfl⟩
    exact ⟨e.2, get?_ofList_of_mem hnodup he⟩

/-- The order of entries with different keys does not matter. -/
theorem ofList_perm {entries entries' : List (String × β)} (hnodup : (entries.map (·.1)).Nodup)
    (h : entries.Perm entries') : ofList entries = ofList entries' := by
  have hnodup' : (entries'.map (·.1)).Nodup := (h.map _).nodup hnodup
  apply eq_of_get?
  intro key
  apply Option.ext
  intro value
  constructor
  · intro hget
    exact get?_ofList_of_mem hnodup' (h.subset (mem_of_get?_ofList hget))
  · intro hget
    exact get?_ofList_of_mem hnodup (h.symm.subset (mem_of_get?_ofList hget))

/-- Entries with other keys do not change what is found at a key. -/
theorem get?_ofList_append {entries more : List (String × β)} (h : key ∉ more.map (·.1)) :
    (ofList (entries ++ more)).get? key = (ofList entries).get? key := by
  have hmore : more.reverse.lookup key = none := by
    rw [← get?_ofList]
    cases hget : (ofList more).get? key with
    | none => rfl
    | some value => exact absurd (List.mem_map_of_mem (mem_of_get?_ofList hget)) h
  rw [get?_ofList, get?_ofList, List.reverse_append, List.lookup_append, hmore, Option.none_or]

/-- A list of entries in order makes the map that has them. -/
theorem ofList_entries (m : SortedMap β) : ofList m.entries = m := by
  apply eq_of_get?
  intro key
  cases hget : m.get? key with
  | some value => exact get?_ofList_of_mem m.nodup_keys (mem_entries_iff.2 hget)
  | none =>
      cases hlist : (ofList m.entries).get? key with
      | none => rfl
      | some value =>
          rw [mem_entries_iff.1 (mem_of_get?_ofList hlist)] at hget
          exact absurd hget (by simp)

/-! ## Changed values -/

theorem get?_map {γ : Type v} (f : String → β → γ) (m : SortedMap β) (key : String) :
    (m.map f).get? key = (m.get? key).map (f key) := by
  change (m.entries.map fun e => (e.1, f e.1 e.2)).lookup key = (m.entries.lookup key).map (f key)
  induction m.entries with
  | nil => rfl
  | cons e rest ih =>
      obtain ⟨k, v⟩ := e
      rw [List.map_cons, List.lookup_cons, List.lookup_cons, ih]
      by_cases hk : key = k
      · rw [hk, beq_self_eq_true]
        rfl
      · rw [beq_eq_false_iff_ne.2 hk]

theorem get?_filter (p : String → Bool) (m : SortedMap β) (key : String) :
    (m.filter fun k _ => p k).get? key = if p key then m.get? key else none := by
  change (m.entries.filter fun e => p e.1).lookup key = if p key then m.entries.lookup key else none
  induction m.entries with
  | nil => simp
  | cons e rest ih =>
      obtain ⟨k, v⟩ := e
      rw [List.lookup_cons]
      have hcons : ((k, v) :: rest).filter (fun e => p e.1) =
          if p k then (k, v) :: rest.filter fun e => p e.1 else rest.filter fun e => p e.1 :=
        List.filter_cons
      by_cases hp : p k
      · rw [hcons, if_pos hp, List.lookup_cons, ih]
        by_cases hk : key = k
        · rw [hk, beq_self_eq_true, if_pos hp, if_pos hp]
        · rw [beq_eq_false_iff_ne.2 hk]
      · rw [hcons, if_neg hp, ih]
        by_cases hk : key = k
        · rw [hk, if_neg hp, if_neg hp]
        · rw [beq_eq_false_iff_ne.2 hk]

end AttributeSchema.SortedMap
