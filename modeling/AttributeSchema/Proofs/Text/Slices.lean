import AttributeSchema.Text.Utf8
import Mathlib.Data.List.TakeWhile
/-!
# Cutting texts at byte offsets

A text can be cut where a character ends, and nowhere else. Looking for a character gives the offset of its
first byte, at which the text can be cut.
-/

namespace AttributeSchema.Text.Utf8

/-- Cuts a text at a byte offset, if no character lies across it. -/
def cut? : Nat → List Char → Option (List Char × List Char)
  | 0, s => some ([], s)
  | _ + 1, [] => none
  | n + 1, c :: rest =>
    if n + 1 < c.utf8Size then none
    else (cut? (n + 1 - c.utf8Size) rest).map fun (front, back) => (c :: front, back)

def find? (p : Char → Bool) : List Char → Option Nat
  | [] => none
  | c :: rest => if p c then some 0 else (find? p rest).map (c.utf8Size + ·)

@[simp] theorem byteCount_cons (c : Char) (s : List Char) :
    byteCount (c :: s) = c.utf8Size + byteCount s := rfl

theorem length_le_byteCount (s : List Char) : s.length ≤ byteCount s := by
  induction s with
  | nil => exact Nat.le_refl 0
  | cons c s ih =>
      have hc : 0 < c.utf8Size := c.utf8Size_pos
      rw [List.length_cons, byteCount_cons]
      omega

/-! ## Cutting -/

theorem cut?_byteCount (a b : List Char) : cut? (byteCount a) (a ++ b) = some (a, b) := by
  induction a with
  | nil => cases b <;> rfl
  | cons c a ih =>
      have hpos := c.utf8Size_pos
      obtain ⟨n, hn⟩ := Nat.exists_eq_add_one_of_ne_zero (n := byteCount (c :: a))
        (by rw [byteCount_cons]; omega)
      have hrest : n + 1 - c.utf8Size = byteCount a := by
        rw [← hn, byteCount_cons, Nat.add_sub_cancel_left]
      have hle : ¬ n + 1 < c.utf8Size := by
        rw [← hn, byteCount_cons]
        omega
      rw [hn, List.cons_append, cut?, if_neg hle, hrest, ih]
      rfl

theorem eq_of_cut? {n : Nat} {s a b : List Char} (h : cut? n s = some (a, b)) :
    s = a ++ b ∧ byteCount a = n := by
  induction s generalizing n a b with
  | nil =>
      cases n with
      | zero =>
          cases h
          exact ⟨rfl, rfl⟩
      | succ n => cases h
  | cons c s ih =>
      cases n with
      | zero =>
          cases h
          exact ⟨rfl, rfl⟩
      | succ n =>
          unfold cut? at h
          split at h
          · cases h
          · obtain ⟨⟨front, back⟩, hcut, heq⟩ := Option.map_eq_some_iff.1 h
            cases heq
            obtain ⟨rfl, hcount⟩ := ih hcut
            rw [byteCount_cons, hcount]
            exact ⟨rfl, by omega⟩

/-- A text is cut exactly where it falls apart into characters. -/
theorem cut?_eq_some_iff {n : Nat} {s a b : List Char} :
    cut? n s = some (a, b) ↔ s = a ++ b ∧ byteCount a = n := by
  constructor
  · exact eq_of_cut?
  · rintro ⟨rfl, rfl⟩
    exact cut?_byteCount a b

/-! ## Finding -/

theorem find?_eq_none {p : Char → Bool} {s : List Char} (h : ∀ c ∈ s, p c = false) :
    find? p s = none := by
  induction s with
  | nil => rfl
  | cons c s ih =>
      obtain ⟨hc, hs⟩ := List.forall_mem_cons.1 h
      rw [find?, hc, ih hs]
      rfl

theorem find?_append {p : Char → Bool} {a : List Char} (h : ∀ c ∈ a, p c = false) {c : Char}
    (hc : p c = true) (rest : List Char) : find? p (a ++ c :: rest) = some (byteCount a) := by
  induction a with
  | nil =>
      rw [List.nil_append, find?, if_pos hc]
      rfl
  | cons d a ih =>
      obtain ⟨hd, ha⟩ := List.forall_mem_cons.1 h
      rw [List.cons_append, find?, hd, ih ha]
      rfl

/-! ## Texts of one byte for each character -/

theorem byteCount_eq_length {s : List Char} (h : ∀ c ∈ s, c.utf8Size = 1) : byteCount s = s.length := by
  induction s with
  | nil => rfl
  | cons c s ih =>
      obtain ⟨hc, hs⟩ := List.forall_mem_cons.1 h
      rw [byteCount_cons, hc, ih hs, List.length_cons, Nat.add_comm]

theorem cut?_eq_take {s : List Char} (h : ∀ c ∈ s, c.utf8Size = 1) {n : Nat} (hn : n ≤ s.length) :
    cut? n s = some (s.take n, s.drop n) := by
  rw [cut?_eq_some_iff]
  refine ⟨(List.take_append_drop n s).symm, ?_⟩
  rw [byteCount_eq_length fun c hc => h c (List.mem_of_mem_take hc), List.length_take_of_le hn]

end AttributeSchema.Text.Utf8
