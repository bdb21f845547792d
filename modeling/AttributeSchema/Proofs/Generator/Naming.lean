import AttributeSchema.Generator.Naming
import AttributeSchema.Proofs.Source.Identifier
/-!
# Names of generated functions are words

The name of the schema function of a type that is spelled as a word is spelled as a word, too.
-/

namespace AttributeSchema.Naming

open Source
open Text (startsIdentifier continuesIdentifier)

/-! ## Characters -/

theorem letter_lower {c : Char} (h : isCapital c = true) :
    startsIdentifier (lower c) = true ∧ continuesIdentifier (lower c) = true := by
  have hletters : ∀ n < 91, 65 ≤ n → startsIdentifier (lower (Char.ofNat n)) = true ∧
      continuesIdentifier (lower (Char.ofNat n)) = true := by decide
  have hrange : 65 ≤ c.toNat ∧ c.toNat ≤ 90 := by
    simp only [isCapital, Char.isUpper, decide_eq_true_eq, ge_iff_le, UInt32.le_iff_toNat_le] at h
    exact h
  have hc := hletters c.toNat (by omega) hrange.1
  rwa [Char.ofNat_toNat] at hc

theorem lower_of_isCapital_eq_false {c : Char} (h : isCapital c = false) : lower c = c := by
  rw [isCapital, Char.isUpper, decide_eq_false_iff_not] at h
  rw [lower, Char.toLower, dif_neg h]

theorem startsIdentifier_lower {c : Char} (h : startsIdentifier c = true) :
    startsIdentifier (lower c) = true := by
  cases hcapital : isCapital c with
  | true => exact (letter_lower hcapital).1
  | false => rwa [lower_of_isCapital_eq_false hcapital]

theorem continuesIdentifier_lower {c : Char} (h : continuesIdentifier c = true) :
    continuesIdentifier (lower c) = true := by
  cases hcapital : isCapital c with
  | true => exact (letter_lower hcapital).2
  | false => rwa [lower_of_isCapital_eq_false hcapital]

/-! ## Names -/

theorem continuesIdentifier_snakeChar {c d : Char} (h : continuesIdentifier c = true)
    (hd : d ∈ snakeChar c) : continuesIdentifier d = true := by
  rw [snakeChar] at hd
  split at hd
  · rename_i hcapital
    rcases List.mem_cons.1 hd with rfl | hd
    · decide
    · rw [List.mem_singleton.1 hd]
      exact (letter_lower hcapital).2
  · rw [List.mem_singleton.1 hd]
    exact h

theorem isPlainWord_camelChars {s : List Char} (h : IsPlainWord s) : IsPlainWord (camelChars s) := by
  obtain ⟨c, rest, rfl, hc, hrest⟩ := h
  rw [camelChars]
  cases loweredCount (c :: rest) with
  | zero => exact ⟨c, rest, rfl, hc, hrest⟩
  | succ n =>
      refine ⟨lower c, (rest.take n).map lower ++ rest.drop n, rfl, startsIdentifier_lower hc, ?_⟩
      intro d hd
      rcases List.mem_append.1 hd with hd | hd
      · obtain ⟨e, he, rfl⟩ := List.mem_map.1 hd
        exact continuesIdentifier_lower (hrest e (List.mem_of_mem_take he))
      · exact hrest d (List.mem_of_mem_drop hd)

theorem isPlainWord_snakeChars {s : List Char} (h : IsPlainWord s) : IsPlainWord (snakeChars s) := by
  obtain ⟨c, rest, rfl, hc, hrest⟩ := h
  refine ⟨lower c, rest.flatMap snakeChar, rfl, startsIdentifier_lower hc, ?_⟩
  intro d hd
  obtain ⟨e, he, hd⟩ := List.mem_flatMap.1 hd
  exact continuesIdentifier_snakeChar (hrest e he) hd

theorem isPlainWord_append {s t : List Char} (h : IsPlainWord s)
    (ht : ∀ d ∈ t, continuesIdentifier d = true) : IsPlainWord (s ++ t) := by
  obtain ⟨c, rest, rfl, hc, hrest⟩ := h
  refine ⟨c, rest ++ t, rfl, hc, ?_⟩
  intro d hd
  rcases List.mem_append.1 hd with hd | hd
  · exact hrest d hd
  · exact ht d hd

/-- Behind the mark of a raw word every capital gets an underscore, also the first one. -/
theorem isPlainWord_flatMap_snakeChar {s : List Char} (h : IsPlainWord s) :
    IsPlainWord (s.flatMap snakeChar) := by
  obtain ⟨c, rest, rfl, hc, hrest⟩ := h
  have hmore : ∀ d ∈ rest.flatMap snakeChar, continuesIdentifier d = true := by
    intro d hd
    obtain ⟨e, he, hd⟩ := List.mem_flatMap.1 hd
    exact continuesIdentifier_snakeChar (hrest e he) hd
  rw [List.flatMap_cons]
  refine isPlainWord_append ?_ hmore
  rw [snakeChar]
  split
  · rename_i hcapital
    refine ⟨'_', [lower c], rfl, by decide, ?_⟩
    intro d hd
    rw [List.mem_singleton.1 hd]
    exact (letter_lower hcapital).2
  · exact ⟨c, [], rfl, hc, fun d hd => absurd hd List.not_mem_nil⟩

theorem toList_attributesName (type : String) :
    (attributesName type).toList = snakeChars (camelChars type.toList) ++ suffix.toList := by
  rw [attributesName, snakeCase, camelCase, String.toList_append, String.toList_ofList,
    String.toList_ofList]

theorem continues_suffix : ∀ d ∈ suffix.toList, continuesIdentifier d = true :=
  List.all_eq_true.1 (by decide)

theorem isPlainWord_attributesName {type : String} (h : IsPlainWord type.toList) :
    IsPlainWord (attributesName type).toList := by
  rw [toList_attributesName]
  exact isPlainWord_append (isPlainWord_snakeChars (isPlainWord_camelChars h)) continues_suffix

theorem isWord_attributesName {type : String} (h : IsWord type.toList) :
    IsWord (attributesName type).toList := by
  rcases h with h | ⟨rest, htype, hrest⟩
  · exact .inl (isPlainWord_attributesName h)
  · rw [toList_attributesName]
    have hsnake : snakeChars (camelChars ('r' :: '#' :: rest)) =
        'r' :: '#' :: rest.flatMap snakeChar := rfl
    rw [htype, hsnake]
    exact .inr ⟨rest.flatMap snakeChar ++ suffix.toList, rfl,
      isPlainWord_append (isPlainWord_flatMap_snakeChar hrest) continues_suffix⟩

/-- The identifier of the schema function of a type that is spelled as it is read. -/
theorem eq_attributesName_of_ident? {type word : String} (h : Parser.ident? type = some type)
    (hword : Parser.ident? (attributesName type) = some word) : word = attributesName type :=
  eq_of_ident?_of_isWord (isWord_attributesName (isWord_of_ident? h)) hword

end AttributeSchema.Naming
