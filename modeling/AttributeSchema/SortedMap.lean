/-!
# Maps in key order

A finite map from texts is the list of its entries in strictly ascending order of keys, so that maps
with the same entries are equal. Texts are ordered by their code points.
-/

namespace AttributeSchema

structure SortedMap (β : Type u) where
  entries : List (String × β)
  sorted : entries.Pairwise fun a b => a.1 < b.1

namespace SortedMap

variable {β : Type u} {γ : Type v}

@[ext] theorem ext {m n : SortedMap β} (h : m.entries = n.entries) : m = n := by
  cases m; cases n; cases h; rfl

instance [DecidableEq β] : DecidableEq (SortedMap β) := fun m n =>
  if h : m.entries = n.entries then isTrue (ext h) else isFalse fun e => h (e ▸ rfl)

instance [Repr β] : Repr (SortedMap β) := ⟨fun m n => reprPrec m.entries n⟩

def empty : SortedMap β := ⟨[], .nil⟩

instance : Inhabited (SortedMap β) := ⟨empty⟩

def get? (m : SortedMap β) (key : String) : Option β := m.entries.lookup key

def contains (m : SortedMap β) (key : String) : Bool := (m.get? key).isSome

def keys (m : SortedMap β) : List String := m.entries.map (·.1)

def size (m : SortedMap β) : Nat := m.entries.length

def isEmpty (m : SortedMap β) : Bool := m.entries.isEmpty

/-- Puts an entry in its place among sorted ones; the old value at the key goes. -/
def insertInto (key : String) (value : β) : List (String × β) → List (String × β)
  | [] => [(key, value)]
  | (k, v) :: rest =>
    if key < k then (key, value) :: (k, v) :: rest
    else if k < key then (k, v) :: insertInto key value rest
    else (key, value) :: rest

theorem mem_insertInto {key : String} {value : β} {entries : List (String × β)}
    {e : String × β} (h : e ∈ insertInto key value entries) : e = (key, value) ∨ e ∈ entries := by
  induction entries with
  | nil => simp_all [insertInto]
  | cons head rest ih =>
    obtain ⟨k, v⟩ := head
    simp only [insertInto] at h
    split at h
    · simpa using h
    · split at h
      · rcases List.mem_cons.1 h with h | h
        · exact .inr (h ▸ List.mem_cons_self)
        · exact (ih h).imp_right (List.mem_cons_of_mem _)
      · rcases List.mem_cons.1 h with h | h
        · exact .inl h
        · exact .inr (List.mem_cons_of_mem _ h)

theorem pairwise_insertInto {key : String} {value : β} {entries : List (String × β)}
    (h : entries.Pairwise fun a b => a.1 < b.1) :
    (insertInto key value entries).Pairwise fun a b => a.1 < b.1 := by
  induction entries with
  | nil => simp [insertInto]
  | cons head rest ih =>
    obtain ⟨k, v⟩ := head
    have hrest := (List.pairwise_cons.1 h).2
    have hhead := (List.pairwise_cons.1 h).1
    simp only [insertInto]
    split
    · rename_i hlt
      refine List.pairwise_cons.2 ⟨fun e he => ?_, h⟩
      rcases List.mem_cons.1 he with rfl | he
      · exact hlt
      · exact String.lt_trans hlt (hhead e he)
    · rename_i hnlt
      split
      · rename_i hgt
        refine List.pairwise_cons.2 ⟨fun e he => ?_, ih hrest⟩
        rcases mem_insertInto he with rfl | he
        · exact hgt
        · exact hhead e he
      · rename_i hngt
        obtain rfl : key = k := String.le_antisymm (String.not_lt.1 hngt) (String.not_lt.1 hnlt)
        exact List.pairwise_cons.2 ⟨hhead, hrest⟩

def insert (m : SortedMap β) (key : String) (value : β) : SortedMap β :=
  ⟨insertInto key value m.entries, pairwise_insertInto m.sorted⟩

/-- The map of the entries, of which a later one replaces an earlier one at the same key. -/
def ofList (entries : List (String × β)) : SortedMap β :=
  entries.foldl (fun m e => m.insert e.1 e.2) empty

def map (f : String → β → γ) (m : SortedMap β) : SortedMap γ where
  entries := m.entries.map fun e => (e.1, f e.1 e.2)
  sorted := by
    rw [List.pairwise_map]
    exact m.sorted

def filter (p : String → β → Bool) (m : SortedMap β) : SortedMap β where
  entries := m.entries.filter fun e => p e.1 e.2
  sorted := m.sorted.filter _

/-! ### Look-up -/

@[simp] theorem get?_empty (key : String) : (empty : SortedMap β).get? key = none := rfl

theorem lookup_insertInto {key k : String} {value : β} {entries : List (String × β)} :
    (insertInto key value entries).lookup k
      = if k = key then some value else entries.lookup k := by
  induction entries with
  | nil =>
    rw [insertInto, List.lookup_cons]
    by_cases h : k = key
    · simp [h]
    · rw [if_neg h, beq_eq_false_iff_ne.2 h]
  | cons head rest ih =>
    obtain ⟨k', v⟩ := head
    simp only [insertInto]
    split
    · rw [List.lookup_cons]
      by_cases h : k = key
      · simp [h]
      · rw [if_neg h, beq_eq_false_iff_ne.2 h]
    · rename_i hnlt
      split
      · rename_i hgt
        rw [List.lookup_cons, ih, List.lookup_cons]
        by_cases h : k = key
        · have hne : k ≠ k' := fun e => String.lt_irrefl key (by rw [h] at e; rw [← e] at hgt; exact hgt)
          simp only [if_pos h, beq_eq_false_iff_ne.2 hne]
        · simp only [if_neg h]
      · rename_i hngt
        obtain rfl : key = k' := String.le_antisymm (String.not_lt.1 hngt) (String.not_lt.1 hnlt)
        rw [List.lookup_cons, List.lookup_cons]
        by_cases h : k = key
        · simp [h]
        · rw [if_neg h, beq_eq_false_iff_ne.2 h]

@[simp] theorem get?_insert (m : SortedMap β) (key k : String) (value : β) :
    (m.insert key value).get? k = if k = key then some value else m.get? k :=
  lookup_insertInto

end SortedMap

end AttributeSchema
