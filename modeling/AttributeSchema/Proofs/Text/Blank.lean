import AttributeSchema.Text.Blank
import Mathlib.Data.List.TakeWhile
/-!
# White space on the ends

What trimming leaves of a text, said without the functions that trim. Nothing changes in a text of visible
ASCII characters.
-/

namespace AttributeSchema.Text

/-! ## Visible characters -/

def IsAsciiVisible (c : Char) : Prop := 32 < c.toNat ∧ c.toNat < 127

theorem isAsciiVisible_of_isDigit {c : Char} (h : c.isDigit = true) : IsAsciiVisible c := by
  have hc : 48 ≤ c.toNat ∧ c.toNat ≤ 57 := Char.isDigit_iff_toNat.1 h
  unfold IsAsciiVisible
  omega

theorem isBlank_of_isAsciiVisible {c : Char} (h : IsAsciiVisible c) : isBlank c = false := by
  obtain ⟨low, high⟩ := h
  simp only [isBlank, Bool.or_eq_false_iff, Bool.and_eq_false_iff, decide_eq_false_iff_not,
    beq_eq_false_iff_ne]
  omega

/-! ## Trimming -/

def IsBlankText (s : List Char) : Prop := ∀ c ∈ s, isBlank c = true

/-- Neither the first nor the last character is white space. -/
structure IsTight (s : List Char) : Prop where
  head : s.head?.all (!isBlank ·) = true
  last : s.getLast?.all (!isBlank ·) = true

theorem head?_dropWhile (p : Char → Bool) (s : List Char) :
    (s.dropWhile p).head?.all (!p ·) = true := by
  have hhead := List.head?_dropWhile_not p s
  cases hs : (s.dropWhile p).head? with
  | none => rfl
  | some c =>
      rw [hs] at hhead
      simpa using hhead

theorem IsBlankText.append {s t : List Char} (hs : IsBlankText s) (ht : IsBlankText t) :
    IsBlankText (s ++ t) := List.forall_mem_append.2 ⟨hs, ht⟩

theorem trimStart_eq_iff {s v : List Char} :
    trimStart s = v ↔
      v.head?.all (!isBlank ·) = true ∧ ∃ front, IsBlankText front ∧ s = front ++ v := by
  unfold trimStart
  constructor
  · rintro rfl
    exact ⟨head?_dropWhile isBlank s, s.takeWhile isBlank, fun c hc => List.mem_takeWhile_imp hc,
      List.takeWhile_append_dropWhile.symm⟩
  · rintro ⟨hhead, front, hfront, rfl⟩
    rw [List.dropWhile_append_of_pos hfront]
    cases v with
    | nil => rfl
    | cons c v =>
        have hc : isBlank c = false := by simpa using hhead
        rw [List.dropWhile_cons_of_neg (by simp [hc])]

theorem trimEnd_eq_iff {s v : List Char} :
    trimEnd s = v ↔
      v.getLast?.all (!isBlank ·) = true ∧ ∃ back, IsBlankText back ∧ s = v ++ back := by
  have hreverse : trimEnd s = v ↔ trimStart s.reverse = v.reverse := by
    unfold trimEnd trimStart
    rw [List.reverse_eq_iff]
  rw [hreverse, trimStart_eq_iff, List.head?_reverse]
  apply and_congr_right
  intro _
  constructor
  · rintro ⟨front, hfront, hs⟩
    refine ⟨front.reverse, fun c hc => hfront c (List.mem_reverse.1 hc), ?_⟩
    rw [← List.reverse_reverse s, hs, List.reverse_append, List.reverse_reverse]
  · rintro ⟨back, hback, rfl⟩
    exact ⟨back.reverse, fun c hc => hback c (List.mem_reverse.1 hc), List.reverse_append⟩

/-- A text is trimmed to its part between the white space on its ends. -/
theorem trim_eq_iff {s v : List Char} :
    trim s = v ↔
      IsTight v ∧ ∃ front back, IsBlankText front ∧ IsBlankText back ∧ s = front ++ v ++ back := by
  unfold trim
  constructor
  · intro h
    obtain ⟨hlast, back, hback, hmiddle⟩ := trimEnd_eq_iff.1 h
    obtain ⟨hhead, front, hfront, hs⟩ := trimStart_eq_iff.1 hmiddle
    refine ⟨⟨?_, hlast⟩, front, back, hfront, hback, ?_⟩
    · cases v with
      | nil => rfl
      | cons c v => exact hhead
    · rw [hs, List.append_assoc]
  · rintro ⟨htight, front, back, hfront, hback, rfl⟩
    cases v with
    | nil =>
        have hempty : trimStart (front ++ [] ++ back) = [] := by
          apply trimStart_eq_iff.2
          refine ⟨rfl, front ++ back, hfront.append hback, ?_⟩
          rw [List.append_nil, List.append_nil]
        rw [hempty]
        rfl
    | cons c v =>
        have hmiddle : trimStart (front ++ (c :: v) ++ back) = (c :: v) ++ back := by
          apply trimStart_eq_iff.2
          exact ⟨htight.head, front, hfront, List.append_assoc ..⟩
        rw [hmiddle]
        exact trimEnd_eq_iff.2 ⟨htight.last, back, hback, rfl⟩

theorem trim_of_isBlank_eq_false {s : List Char} (h : ∀ c ∈ s, isBlank c = false) : trim s = s := by
  have hnone : IsBlankText [] := fun c hc => absurd hc List.not_mem_nil
  have htight : IsTight s := by
    constructor
    · exact (Option.all_eq_true _ _).2 fun c hc => by simp [h c (List.mem_of_mem_head? hc)]
    · exact (Option.all_eq_true _ _).2 fun c hc => by simp [h c (List.mem_of_mem_getLast? hc)]
  apply trim_eq_iff.2
  exact ⟨htight, [], [], hnone, hnone, (List.append_nil s).symm⟩

theorem trim_of_isAsciiVisible {s : List Char} (h : ∀ c ∈ s, IsAsciiVisible c) : trim s = s :=
  trim_of_isBlank_eq_false fun c hc => isBlank_of_isAsciiVisible (h c hc)

/-- Only blanks are trimmed. -/
theorem withoutBlanks_trimmed (s : String) : withoutBlanks (trimmed s) = withoutBlanks s := by
  have hnone {t : List Char} (ht : IsBlankText t) : t.filter (fun c => !isBlank c) = [] := by
    rw [List.filter_eq_nil_iff]
    intro c hc
    simp [ht c hc]
  obtain ⟨-, front, back, hfront, hback, hs⟩ := trim_eq_iff.1 (Eq.refl (trim s.toList))
  rw [withoutBlanks, withoutBlanks, trimmed, String.toList_ofList]
  generalize trim s.toList = v at hs ⊢
  rw [hs, List.filter_append, List.filter_append, hnone hfront, hnone hback, List.nil_append,
    List.append_nil]

end AttributeSchema.Text
