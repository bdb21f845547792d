import AttributeSchema.Json.Maps
import AttributeSchema.Proofs.Text.Slices
/-!
# Strings of JSON texts are read back

Each character of a text is written as itself or as an escape, and reading either of them gives the
character and the rest of the text.
-/

namespace AttributeSchema.Json

open Text.Utf8 (byteCount length_le_byteCount)

/-! ## Blanks -/

theorem skipSpaces_cons {c : Char} (h : isSpace c = false) (s : List Char) :
    skipSpaces (c :: s) = c :: s := by
  rw [skipSpaces, List.dropWhile_cons, h]
  rfl

theorem skipSpaces_space (s : List Char) : skipSpaces (' ' :: s) = skipSpaces s := rfl

@[simp] theorem skipSpaces_newLine (step depth : Nat) (s : List Char) :
    skipSpaces (newLine step depth ++ s) = skipSpaces s := by
  rw [newLine, List.cons_append]
  change skipSpaces (List.replicate (step * depth) ' ' ++ s) = skipSpaces s
  induction step * depth with
  | zero => rfl
  | succ n ih =>
      rw [List.replicate_succ, List.cons_append, skipSpaces_space, ih]

/-! ## Codes of characters -/

theorem hexValue?_hexDigit : ∀ n < 16, hexValue? (hexDigit n) = some n := by decide

theorem fourDigits_control {n : Nat} (h : n < 32) (s : List Char) :
    fourDigits ('0' :: '0' :: hexDigit (n / 16) :: hexDigit (n % 16) :: s) = .ok (n, s) := by
  have hfour : 4 ≤ byteCount ('0' :: '0' :: hexDigit (n / 16) :: hexDigit (n % 16) :: s) := by
    refine Nat.le_trans ?_ (length_le_byteCount _)
    exact Nat.le_add_left 4 s.length
  have hzero : hexValue? '0' = some 0 := rfl
  have hhigh := hexValue?_hexDigit (n / 16) (by omega)
  have hlow := hexValue?_hexDigit (n % 16) (by omega)
  have hvalue : ((0 * 16 + 0) * 16 + n / 16) * 16 + n % 16 = n := by omega
  rw [fourDigits, if_neg (by omega)]
  simp only [hzero, hhigh, hlow, hvalue]

/-- Behind a backslash, these characters stand for a character and can be passed over. -/
structure Escapes (e : List Char) (c : Char) : Prop where
  escaped_eq : ∀ s, escaped (e ++ s) = .ok (c, s)
  skipEscaped_eq : ∀ s, skipEscaped (e ++ s) = .ok ((), s)

theorem escapes_short {e c : Char} (h : shortEscape? e = some c) : Escapes [e] c where
  escaped_eq s := by
    change escaped (e :: s) = _
    rw [escaped, h]
  skipEscaped_eq s := by
    change skipEscaped (e :: s) = _
    rw [skipEscaped, h]

theorem escapes_control {c : Char} (h : c.toNat < 32) :
    Escapes ['u', '0', '0', hexDigit (c.toNat / 16), hexDigit (c.toNat % 16)] c where
  escaped_eq s := by
    have hshort : shortEscape? 'u' = none := rfl
    have htrailing : isTrailing c.toNat = false := by
      simp only [isTrailing, Bool.and_eq_false_imp, decide_eq_true_eq, decide_eq_false_iff_not]
      omega
    have hleading : isLeading c.toNat = false := by
      simp only [isLeading, Bool.and_eq_false_imp, decide_eq_true_eq, decide_eq_false_iff_not]
      omega
    simp only [List.cons_append, List.nil_append, escaped, hshort, codeEscape, fourDigits_control h,
      htrailing, hleading, Char.ofNat_toNat, if_true, Bool.false_eq_true, if_false]
  skipEscaped_eq s := by
    have hshort : shortEscape? 'u' = none := rfl
    simp only [List.cons_append, List.nil_append, skipEscaped, hshort, fourDigits_control h, if_true]
    rfl

/-! ## Characters and texts -/

/-- What is written for a character: an escape of it, or itself when no escape is needed. -/
theorem escapeChar_cases (c : Char) :
    (∃ e, escapeChar c = '\\' :: e ∧ Escapes e c) ∨
      (escapeChar c = [c] ∧ c ≠ '"' ∧ c ≠ '\\' ∧ ¬ c.toNat < 32) := by
  rw [escapeChar]
  split
  · rename_i h
    exact .inl ⟨['"'], rfl, escapes_short (by rw [h]; rfl)⟩
  split
  · rename_i h
    exact .inl ⟨['\\'], rfl, escapes_short (by rw [h]; rfl)⟩
  split
  · rename_i h
    exact .inl ⟨['b'], rfl, escapes_short (h ▸ rfl)⟩
  split
  · rename_i h
    exact .inl ⟨['f'], rfl, escapes_short (h ▸ rfl)⟩
  split
  · rename_i h
    exact .inl ⟨['n'], rfl, escapes_short (h ▸ rfl)⟩
  split
  · rename_i h
    exact .inl ⟨['r'], rfl, escapes_short (h ▸ rfl)⟩
  split
  · rename_i h
    exact .inl ⟨['t'], rfl, escapes_short (h ▸ rfl)⟩
  split
  · rename_i h
    exact .inl ⟨_, rfl, escapes_control h⟩
  · rename_i hquote hbackslash _ _ _ _ _ hcontrol
    exact .inr ⟨rfl, hquote, hbackslash, hcontrol⟩

theorem length_le_flatMap_escapeChar (s : List Char) : s.length ≤ (s.flatMap escapeChar).length := by
  induction s with
  | nil => exact Nat.le_refl 0
  | cons c s ih =>
      have hpos : 0 < (escapeChar c).length := by
        rcases escapeChar_cases c with ⟨e, h, -⟩ | ⟨h, -⟩ <;> rw [h] <;> exact Nat.succ_pos _
      rw [List.flatMap_cons, List.length_append, List.length_cons]
      omega

/-- With fuel for each of its characters, a written text is read back up to its closing quote. -/
theorem stringBody_escaped (s rest : List Char) {fuel : Nat} (h : s.length < fuel) :
    stringBody fuel (s.flatMap escapeChar ++ '"' :: rest) = .ok (s, rest) := by
  induction s generalizing fuel with
  | nil =>
      obtain ⟨fuel, rfl⟩ := Nat.exists_eq_add_one_of_ne_zero (Nat.ne_zero_of_lt h)
      rfl
  | cons c s ih =>
      obtain ⟨fuel, rfl⟩ := Nat.exists_eq_add_one_of_ne_zero (Nat.ne_zero_of_lt h)
      have hmore := ih (Nat.lt_of_succ_lt_succ h)
      rw [List.flatMap_cons, List.append_assoc]
      rcases escapeChar_cases c with ⟨e, hescape, he⟩ | ⟨hescape, hquote, hbackslash, hcontrol⟩
      · rw [hescape, List.cons_append, stringBody]
        simp only [he.escaped_eq, hmore]
        rfl
      · rw [hescape, List.cons_append, List.nil_append, stringBody, if_neg hcontrol, hmore]
        · rfl
        · exact hquote
        · exact hbackslash

theorem length_lt_escaped (s rest : List Char) :
    s.length < (s.flatMap escapeChar ++ '"' :: rest).length + 1 := by
  have hlength := length_le_flatMap_escapeChar s
  rw [List.length_append]
  omega

theorem stringText_escaped (s : String) (rest : List Char) :
    stringText (s.toList.flatMap escapeChar ++ '"' :: rest) = .ok (s, rest) := by
  rw [stringText, stringBody_escaped s.toList rest (length_lt_escaped _ _)]
  simp only [Except.map, String.ofList_toList]

theorem quote_append (s : String) (rest : List Char) :
    quote s ++ rest = '"' :: (s.toList.flatMap escapeChar ++ '"' :: rest) := by
  rw [quote, List.cons_append, List.cons_append, List.append_assoc]
  rfl

/-- A written text is passed over up to its closing quote. -/
theorem skipString_escaped (s rest : List Char) {fuel : Nat} (h : s.length < fuel) :
    skipString fuel (s.flatMap escapeChar ++ '"' :: rest) = .ok ((), rest) := by
  induction s generalizing fuel with
  | nil =>
      obtain ⟨fuel, rfl⟩ := Nat.exists_eq_add_one_of_ne_zero (Nat.ne_zero_of_lt h)
      rfl
  | cons c s ih =>
      obtain ⟨fuel, rfl⟩ := Nat.exists_eq_add_one_of_ne_zero (Nat.ne_zero_of_lt h)
      have hmore := ih (Nat.lt_of_succ_lt_succ h)
      rw [List.flatMap_cons, List.append_assoc]
      rcases escapeChar_cases c with ⟨e, hescape, he⟩ | ⟨hescape, hquote, hbackslash, hcontrol⟩
      · rw [hescape, List.cons_append, skipString]
        simp only [he.skipEscaped_eq, hmore]
      · rw [hescape, List.cons_append, List.nil_append, skipString, if_neg hcontrol, hmore]
        · exact hquote
        · exact hbackslash

end AttributeSchema.Json
