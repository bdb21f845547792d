import AttributeSchema.Proofs.Files.FileTree
import AttributeSchema.Proofs.SortedMap
/-!
# What a directory lists

A directory lists the names of what stands in it. The order of the entries of a tree shows in the order of
these names, but not in what is found and read.
-/

namespace AttributeSchema.FileTree

variable {t t' : FileTree} {l : Location} {path : List Char} {names : List String} {name : String}

/-! ## Names -/

def nameIn (l : Location) (e : Location × Entry) : Option String :=
  e.1.getLast?.bind fun last => if e.1.dropLast = l then some last else none

theorem nameIn_eq_some_iff {e : Location × Entry} : nameIn l e = some name ↔ e.1 = l ++ [name] := by
  unfold nameIn
  constructor
  · intro h
    obtain ⟨last, hlast, h⟩ := Option.bind_eq_some_iff.1 h
    obtain ⟨hdirectory, h⟩ := Option.ite_none_right_eq_some.1 h
    obtain rfl := Option.some.inj h
    obtain ⟨front, hfront⟩ := List.getLast?_eq_some_iff.1 hlast
    rw [hfront, List.dropLast_concat] at hdirectory
    rw [hfront, hdirectory]
  · intro h
    rw [h, List.getLast?_concat, Option.bind_some, List.dropLast_concat, if_pos rfl]

def namesIn (t : FileTree) (l : Location) : List String := t.entries.filterMap (nameIn l)

theorem names_eq (hlocate : t.locate path = .ok l) (hdirectory : t.entry? l = some .directory) :
    t.names path = .ok (t.namesIn l) := by
  rw [FileTree.names, hlocate]
  simp only [bind, Except.bind, hdirectory]
  unfold namesIn
  congr 2
  funext e
  unfold nameIn
  cases e.1.getLast? <;> rfl

/-- Only a directory has names in it. -/
theorem directory_of_names (h : t.names path = .ok names) :
    ∃ l, t.locate path = .ok l ∧ t.entry? l = some .directory := by
  obtain ⟨l, hlocate, h⟩ := bind_ok_iff.1 h
  refine ⟨l, hlocate, ?_⟩
  split at h
  · exact absurd h (by simp)
  · exact absurd h (by simp)
  · assumption

/-- The names in a directory are those at which something stands. -/
theorem mem_namesIn_iff : name ∈ t.namesIn l ↔ (t.entry? (l ++ [name])).isSome = true := by
  have hentry : t.entry? (l ++ [name]) = t.entries.lookup (l ++ [name]) := by
    unfold entry?
    split
    · rename_i hnil
      exact absurd hnil (by simp)
    · rfl
  rw [hentry, List.lookup_isSome_iff, namesIn, List.mem_filterMap]
  simp only [nameIn_eq_some_iff, beq_iff_eq, @eq_comm _ (l ++ [name])]

theorem IsProper.nodup_namesIn (h : t.IsProper) (l : Location) : (t.namesIn l).Nodup := by
  rw [namesIn, List.nodup_iff_pairwise_ne, List.pairwise_filterMap]
  apply (List.pairwise_map.1 h.nodup).imp
  rintro a b hab name hname name' hname' rfl
  exact hab ((nameIn_eq_some_iff.1 hname).trans (nameIn_eq_some_iff.1 hname').symm)

theorem IsProper.not_mem_of_mem_namesIn (h : t.IsProper) (hname : name ∈ t.namesIn l) :
    '/' ∉ name.toList := by
  obtain ⟨e, he, hlast⟩ := List.mem_filterMap.1 hname
  apply h.not_mem_of_mem e he
  rw [nameIn_eq_some_iff.1 hlast]
  exact List.mem_append_right _ (List.mem_singleton_self name)

/-! ## The order of entries -/

structure IsReordered (t t' : FileTree) : Prop where
  perm : t.entries.Perm t'.entries
  workingDirectory_eq : t'.workingDirectory = t.workingDirectory

namespace IsReordered

variable {t : ProperTree} (h : IsReordered t t')

include h

theorem entry?_eq (l : Location) : t'.entry? l = t.entry? l := by
  unfold entry?
  split
  · rfl
  · exact SortedMap.lookup_perm t.isProper.nodup h.perm

theorem walk_eq (a : Location) (parts : List (List Char)) : t'.walk a parts = t.walk a parts := by
  induction parts generalizing a with
  | nil => rfl
  | cons part parts ih => simp only [walk, ih, h.entry?_eq]

theorem locate_eq (path : List Char) : t'.locate path = t.locate path := by
  unfold locate start
  simp only [h.walk_eq, h.workingDirectory_eq]

theorem read_eq (path : List Char) : t'.read path = t.read path := by
  unfold read find
  simp only [h.locate_eq, h.entry?_eq]

/-- Listing a directory gives the same names, or the same error. -/
theorem names_cases (path : List Char) :
    (∃ e, t.names path = .error e ∧ t'.names path = .error e) ∨
      ∃ names names', t.names path = .ok names ∧ t'.names path = .ok names' ∧ names.Perm names' := by
  unfold FileTree.names
  rw [h.locate_eq]
  cases t.locate path with
  | error e => exact .inl ⟨e, rfl, rfl⟩
  | ok l =>
      simp only [bind, Except.bind, h.entry?_eq]
      cases t.entry? l with
      | none => exact .inl ⟨_, rfl, rfl⟩
      | some e =>
          cases e with
          | file content => exact .inl ⟨_, rfl, rfl⟩
          | directory => exact .inr ⟨_, _, rfl, rfl, h.perm.filterMap _⟩

end IsReordered

end AttributeSchema.FileTree
