import AttributeSchema.Proofs.Json.Agreement
/-!
# Attribute values are read alike from trees and from texts

For every type of plain attributes, reading the text of a JSON value gives what reading the value itself
gives. The two readers only differ in where they notice what they refuse.
-/

namespace AttributeSchema.LeafType

open Json
open Text.Decimal (IsNumeral digits)

/-! ## Truth values and texts -/

theorem readAlike_bool (v : Value) : ReadAlike bool.carrierOfTree bool.readCarrier v := by
  by_cases hv : ∃ b, v = .bool b
  · obtain ⟨b, rfl⟩ := hv
    intro rest _
    cases b <;> rfl
  · apply agrees_of_opens
    · cases v with
      | bool b => exact absurd ⟨b, rfl⟩ hv
      | _ => exact ⟨_, rfl⟩
    · intro c cs hc
      simp only [readCarrier]
      split
      · rename_i heq
        exact absurd (hc.eq_bool (.inl (List.cons.inj heq).1)) hv
      · rename_i heq
        exact absurd (hc.eq_bool (.inr (List.cons.inj heq).1)) hv
      · exact ⟨_, rfl⟩

theorem readAlike_text (v : Value) : ReadAlike textOfTree text v := by
  by_cases hv : ∃ s, v = .string s
  · obtain ⟨s, rfl⟩ := hv
    intro rest _
    exact text_quote s rest
  · apply agrees_of_opens
    · cases v with
      | string s => exact absurd ⟨s, rfl⟩ hv
      | _ => exact ⟨_, rfl⟩
    · intro c cs hc
      rw [text, skipSpaces_cons hc.isSpace_eq_false]
      split
      · rename_i heq
        obtain ⟨rfl, -⟩ := List.cons.inj heq
        exact absurd hc.eq_string hv
      · exact ⟨_, rfl⟩

/-! ## Numbers -/

def ranged (n : Option Number) (rest : List Char) : Reading Number :=
  match n with
  | some n => .ok (n, rest)
  | none => .error (Failure.here "number out of range" rest)

theorem readNumber_sign {s numeral rest : List Char}
    (hdigits : integerDigits s = .ok (numeral, rest)) :
    readNumber ('-' :: s) = ranged (Number.ofInt? (-Text.Decimal.value numeral)) rest := by
  -- The bounds of numbers are too large to be computed with, so their check gets another name.
  obtain ⟨ofInt?, hofInt⟩ : ∃ f, f = Number.ofInt? := ⟨_, rfl⟩
  unfold readNumber
  rw [← hofInt]
  simp only [hdigits, if_true]
  cases ofInt? (-Text.Decimal.value numeral) <;> rfl

theorem readNumber_cons {c : Char} {s numeral rest : List Char} (hc : c ≠ '-')
    (hdigits : integerDigits (c :: s) = .ok (numeral, rest)) :
    readNumber (c :: s) = ranged (Number.ofInt? (Text.Decimal.value numeral)) rest := by
  obtain ⟨ofInt?, hofInt⟩ : ∃ f, f = Number.ofInt? := ⟨_, rfl⟩
  unfold readNumber
  rw [← hofInt]
  split
  · rename_i heq
    exact absurd heq (by simp)
  · rename_i heq
    exact absurd (List.cons.inj heq).1 hc
  · simp only [hdigits, Bool.false_eq_true, if_false]
    cases ofInt? (Text.Decimal.value numeral) <;> rfl

theorem readNumber_append {sign numeral rest : List Char} (hsign : sign = [] ∨ sign = ['-'])
    (hnumeral : IsNumeral numeral) (hrest : rest.head?.any Char.isDigit = false) :
    readNumber (sign ++ (numeral ++ rest)) =
      ranged (Number.ofInt? (if sign = [] then Text.Decimal.value numeral
        else -Text.Decimal.value numeral)) rest := by
  have hdigits := integerDigits_append hnumeral hrest
  rcases hsign with rfl | rfl
  · rw [if_pos rfl]
    cases numeral with
    | nil => exact absurd rfl hnumeral.ne_nil
    | cons c ds =>
        have hc : c.isDigit = true := hnumeral.areDigits c List.mem_cons_self
        have hne : c ≠ '-' := by
          rintro rfl
          exact absurd hc (by decide)
        exact readNumber_cons hne hdigits
  · rw [if_neg (List.cons_ne_nil _ _)]
    exact readNumber_sign hdigits

theorem readNumber_integer (n : Int) {rest : List Char} (hrest : Delimits rest) :
    readNumber (integerText n ++ rest) = ranged (Number.ofInt? n) rest := by
  have hnumeral := Text.Decimal.isNumeral_digits n.natAbs
  rw [integerText]
  split
  · rename_i hn
    have hread := readNumber_append (.inr rfl) hnumeral hrest.head?_isDigit
    rw [if_neg (by simp), Text.Decimal.value_digits, show -(n.natAbs : Int) = n by omega] at hread
    exact hread
  · rename_i hn
    have hread := readNumber_append (.inl rfl) hnumeral hrest.head?_isDigit
    rw [if_pos rfl, Text.Decimal.value_digits, show (n.natAbs : Int) = n by omega] at hread
    exact hread

/-- Of a floating point number no more than the numeral is read. -/
theorem readNumber_float (x : Binary64) (rest : List Char) :
    Refused (readNumber (x.text.toList ++ rest)) := by
  obtain ⟨sign, numeral, tail, hsign, hnumeral, htail, htext⟩ := float_text_eq x
  have hread := readNumber_append hsign hnumeral (htail.stuck rest).head?_isDigit
  rw [htext, List.append_assoc, List.append_assoc, hread]
  intro n rest' hok
  unfold ranged at hok
  split at hok
  · obtain ⟨-, rfl⟩ := Prod.mk.inj (Except.ok.inj hok)
    exact htail.stuck rest
  · exact absurd hok (by simp)

theorem readNumber_of_not_startsNumber {c : Char} (hc : ¬ StartsNumber c) (s : List Char) :
    ∃ e, readNumber (c :: s) = .error e := by
  have hdigit : c.isDigit = false := Bool.eq_false_iff.2 fun h => hc (.inr h)
  have hzero : c ≠ '0' := by
    rintro rfl
    exact absurd hdigit (by decide)
  have hdigits : ∃ e, integerDigits (c :: s) = .error e := by
    simp [integerDigits, hdigit]
  obtain ⟨e, he⟩ := hdigits
  unfold readNumber
  split
  · rename_i heq
    exact absurd heq (by simp)
  · rename_i heq
    exact absurd (.inl (List.cons.inj heq).1) hc
  · exact ⟨e, by simp only [he]⟩

theorem readAlike_number (v : Value) : ReadAlike number.carrierOfTree number.readCarrier v := by
  by_cases hv : (∃ n, v = .integer n) ∨ ∃ x, v = .float x
  · rcases hv with ⟨n, rfl⟩ | ⟨x, rfl⟩
    · intro rest hrest
      have hread := readNumber_integer n hrest
      change Agrees (number.carrierOfTree (.integer n)) (readNumber (integerText n ++ rest)) rest
      rw [hread, carrierOfTree]
      cases Number.ofInt? n with
      | some n => rfl
      | none => exact refused_of_error ⟨_, rfl⟩
    · intro rest _
      exact agrees_of_refused ⟨_, rfl⟩ (readNumber_float x rest)
  · apply agrees_of_opens
    · cases v with
      | integer n => exact absurd (.inl ⟨n, rfl⟩) hv
      | float x => exact absurd (.inr ⟨x, rfl⟩) hv
      | _ => exact ⟨_, rfl⟩
    · intro c cs hc
      exact readNumber_of_not_startsNumber (fun h => hv (hc.eq_number h)) cs

/-! ## Lists and maps of texts -/

theorem readTexts_eq (isFirst : Bool) (fuel : Nat) (s : List Char) :
    readTexts isFirst fuel s = readItems text isFirst fuel s := by
  induction fuel generalizing isFirst s with
  | zero => rfl
  | succ fuel ih =>
      rw [readTexts, readItems]
      cases nextItem isFirst s with
      | error e => rfl
      | ok next =>
          obtain ⟨isItem, rest⟩ := next
          cases isItem with
          | false => rfl
          | true =>
              dsimp only
              cases text rest with
              | error e => rfl
              | ok found =>
                  obtain ⟨first, rest⟩ := found
                  change (readTexts false fuel rest).map _ = _
                  rw [ih]

theorem textsOfTrees_eq (items : List Value) : textsOfTrees items = items.mapM textOfTree := by
  induction items with
  | nil => rfl
  | cons v items ih =>
      rw [textsOfTrees, List.mapM_cons, ih]
      rfl

theorem readAlike_list (v : Value) :
    ReadAlike listOfString.carrierOfTree listOfString.readCarrier v := by
  by_cases hv : ∃ items, v = .array items
  · obtain ⟨items, rfl⟩ := hv
    intro rest _
    have hlength := length_le_itemsText true items
    change Agrees (textsOfTrees items) (listOfString.readCarrier _) rest
    rw [compactChars_array, textsOfTrees_eq]
    change Agrees _ (readTexts true _ _) rest
    rw [readTexts_eq]
    apply readItems_agree (fun v _ => readAlike_text v)
    simp only [List.length_cons, List.length_append]
    omega
  · apply agrees_of_opens
    · cases v with
      | array items => exact absurd ⟨items, rfl⟩ hv
      | _ => exact ⟨_, rfl⟩
    · intro c cs hc
      simp only [readCarrier]
      split
      · rename_i heq
        obtain ⟨rfl, -⟩ := List.cons.inj heq
        exact absurd hc.eq_array hv
      · exact ⟨_, rfl⟩

theorem mapEntries_agree (entries : List (String × Value)) (isFirst : Bool) (m : SortedMap String)
    (rest : List Char) {fuel : Nat} (hfuel : entries.length < fuel) :
    Agrees (mapOfEntries m entries)
      (mapEntries text isFirst m fuel (entriesText isFirst entries ++ '\x7d' :: rest)) rest := by
  induction entries generalizing isFirst m fuel with
  | nil =>
      obtain ⟨fuel, rfl⟩ := Nat.exists_eq_add_one_of_ne_zero (Nat.ne_zero_of_lt hfuel)
      change mapEntries text isFirst m (fuel + 1) ('\x7d' :: rest) = .ok (m, rest)
      rw [mapEntries, nextKey_brace]
  | cons e entries ih =>
      obtain ⟨key, v⟩ := e
      obtain ⟨fuel, rfl⟩ := Nat.exists_eq_add_one_of_ne_zero (Nat.ne_zero_of_lt hfuel)
      rw [entriesText, List.append_assoc, List.append_assoc, List.cons_append, List.append_assoc,
        mapEntries, nextKey_quote, mapOfEntries]
      simp only [stringText_escaped, colon_cons]
      apply (readAlike_text v _ (delimits_entriesText entries rest)).bind
      · intro a _
        exact ih false _ (Nat.lt_of_succ_lt_succ hfuel)
      · intro a s hs
        exact refused_of_error (mapEntries_stuck hs _ fuel)

theorem readAlike_map (v : Value) :
    ReadAlike mapOfStringToString.carrierOfTree mapOfStringToString.readCarrier v := by
  by_cases hv : ∃ entries, v = .object entries
  · obtain ⟨entries, rfl⟩ := hv
    intro rest _
    have hlength := length_le_entriesText true entries
    change Agrees (mapOfEntries .empty entries) (mapOfStringToString.readCarrier _) rest
    rw [compactChars_object]
    apply mapEntries_agree
    simp only [List.length_cons, List.length_append]
    omega
  · apply agrees_of_opens
    · cases v with
      | object entries => exact absurd ⟨entries, rfl⟩ hv
      | _ => exact ⟨_, rfl⟩
    · intro c cs hc
      simp only [readCarrier]
      split
      · rename_i heq
        obtain ⟨rfl, -⟩ := List.cons.inj heq
        exact absurd hc.eq_object hv
      · exact ⟨_, rfl⟩

theorem readAlike_string (v : Value) : ReadAlike string.carrierOfTree string.readCarrier v := by
  intro rest hrest
  have htext := readAlike_text v rest hrest
  cases v with
  | string s => exact htext
  | _ => exact agrees_of_refused ⟨_, rfl⟩ htext

/-- What an attribute holds is read alike, whatever its type and whatever the value. -/
theorem readAlike_carrier (t : LeafType) (v : Value) : ReadAlike t.carrierOfTree t.readCarrier v := by
  cases t with
  | bool => exact readAlike_bool v
  | number => exact readAlike_number v
  | string => exact readAlike_string v
  | listOfString => exact readAlike_list v
  | mapOfStringToString => exact readAlike_map v

end AttributeSchema.LeafType
