import AttributeSchema.Proofs.Json.Maps
import AttributeSchema.Proofs.Json.Numbers
import AttributeSchema.Proofs.Json.Values
/-!
# Reading values written on one line

The first character of a value's text tells its kind, and none of them is a blank, a comma or the end of an
array or object. So items and entries are found where they were written, and a value can be passed over
whatever it is.
-/

namespace AttributeSchema.Json

open Text.Decimal (IsNumeral)

/-! ## First characters -/

def StartsNumber (c : Char) : Prop := c = '-' ∨ c.isDigit = true

inductive Opens : Value → Char → Prop
  | null : Opens .null 'n'
  | true : Opens (.bool true) 't'
  | false : Opens (.bool false) 'f'
  | integer (n : Int) {c : Char} (h : StartsNumber c) : Opens (.integer n) c
  | float (x : Binary64) {c : Char} (h : StartsNumber c) : Opens (.float x) c
  | string (s : String) : Opens (.string s) '"'
  | array (items : List Value) : Opens (.array items) '['
  | object (entries : List (String × Value)) : Opens (.object entries) '{'

theorem StartsNumber.ne {c d : Char} (h : StartsNumber c) (hsign : d ≠ '-')
    (hdigit : d.isDigit = false) : c ≠ d := by
  rintro rfl
  rcases h with h | h
  · exact hsign h
  · rw [h] at hdigit
    exact absurd hdigit (by simp)

theorem startsNumber_append {sign numeral : List Char} (hsign : sign = [] ∨ sign = ['-'])
    (hnumeral : IsNumeral numeral) (rest : List Char) :
    ∃ c cs, sign ++ (numeral ++ rest) = c :: cs ∧ StartsNumber c := by
  rcases hsign with rfl | rfl
  · cases numeral with
    | nil => exact absurd rfl hnumeral.ne_nil
    | cons c ds => exact ⟨c, _, rfl, .inr (hnumeral.areDigits c List.mem_cons_self)⟩
  · exact ⟨'-', _, rfl, .inl rfl⟩

theorem exists_opens (v : Value) : ∃ c cs, compactChars v = c :: cs ∧ Opens v c := by
  cases v with
  | null => exact ⟨_, _, rfl, .null⟩
  | bool b =>
      cases b with
      | false => exact ⟨_, _, rfl, .false⟩
      | true => exact ⟨_, _, rfl, .true⟩
  | integer n =>
      obtain ⟨sign, hsign, htext⟩ := integerText_eq n
      obtain ⟨c, cs, heq, hc⟩ :=
        startsNumber_append hsign (Text.Decimal.isNumeral_digits n.natAbs) []
      rw [List.append_nil, ← htext] at heq
      exact ⟨c, cs, heq, .integer n hc⟩
  | float x =>
      obtain ⟨sign, numeral, tail, hsign, hnumeral, -, htext⟩ := float_text_eq x
      obtain ⟨c, cs, heq, hc⟩ := startsNumber_append hsign hnumeral tail
      rw [← htext] at heq
      exact ⟨c, cs, heq, .float x hc⟩
  | string s => exact ⟨_, _, rfl, .string s⟩
  | array items => exact ⟨_, _, rfl, .array items⟩
  | object entries => exact ⟨_, _, rfl, .object entries⟩

namespace Opens

variable {v : Value} {c : Char}

/-- A character that opens no value is not the first one of a value. -/
theorem ne (h : Opens v c) {d : Char} (hd : d ∉ ['n', 't', 'f', '-', '"', '[', '\x7b'])
    (hdigit : d.isDigit = Bool.false) : c ≠ d := by
  simp only [List.mem_cons, not_or, List.not_mem_nil, not_false_eq_true, and_true] at hd
  obtain ⟨hn, ht, hf, hsign, hquote, hbracket, hbrace⟩ := hd
  cases h with
  | null => exact Ne.symm hn
  | true => exact Ne.symm ht
  | false => exact Ne.symm hf
  | integer n hc => exact hc.ne hsign hdigit
  | float x hc => exact hc.ne hsign hdigit
  | string s => exact Ne.symm hquote
  | array items => exact Ne.symm hbracket
  | object entries => exact Ne.symm hbrace

theorem isSpace_eq_false (h : Opens v c) : isSpace c = Bool.false := by
  have hspace : c ≠ ' ' := h.ne (by decide) rfl
  have hfeed : c ≠ '\n' := h.ne (by decide) rfl
  have htab : c ≠ '\t' := h.ne (by decide) rfl
  have hreturn : c ≠ '\r' := h.ne (by decide) rfl
  simp [isSpace, hspace, hfeed, htab, hreturn]

end Opens

/-- What stands in front of a value's text is not a blank. -/
theorem skipSpaces_compact (v : Value) (rest : List Char) :
    skipSpaces (compactChars v ++ rest) = compactChars v ++ rest := by
  obtain ⟨c, cs, heq, hc⟩ := exists_opens v
  rw [heq, List.cons_append, skipSpaces_cons hc.isSpace_eq_false]

/-! ## Items and entries -/

def itemsText (isFirst : Bool) : List Value → List Char
  | [] => []
  | v :: items => separator isFirst ++ (compactChars v ++ itemsText false items)

def entriesText (isFirst : Bool) : List (String × Value) → List Char
  | [] => []
  | (key, v) :: entries =>
    separator isFirst ++ (quote key ++ ':' :: (compactChars v ++ entriesText false entries))

theorem compactItems_eq (items : List Value) : compactItems items = itemsText true items := by
  induction items with
  | nil => rfl
  | cons v items ih =>
      cases items with
      | nil => simp [compactItems, itemsText, separator]
      | cons w items =>
          rw [compactItems, ih]
          · rfl
          · simp

theorem compactEntries_eq (entries : List (String × Value)) :
    compactEntries entries = entriesText true entries := by
  induction entries with
  | nil => rfl
  | cons e entries ih =>
      obtain ⟨key, v⟩ := e
      cases entries with
      | nil => simp [compactEntries, entriesText, separator]
      | cons f entries =>
          rw [compactEntries, ih]
          · simp [entriesText, separator]
          · simp

theorem compactChars_array (items : List Value) (rest : List Char) :
    compactChars (.array items) ++ rest = '[' :: (itemsText true items ++ ']' :: rest) := by
  rw [compactChars, compactItems_eq]
  simp

theorem compactChars_object (entries : List (String × Value)) (rest : List Char) :
    compactChars (.object entries) ++ rest = '\x7b' :: (entriesText true entries ++ '\x7d' :: rest) := by
  rw [compactChars, compactEntries_eq]
  simp

theorem delimits_itemsText (items : List Value) (rest : List Char) :
    Delimits (itemsText false items ++ ']' :: rest) := by
  cases items with
  | nil => exact .bracket rest
  | cons v items => exact .comma _

theorem delimits_entriesText (entries : List (String × Value)) (rest : List Char) :
    Delimits (entriesText false entries ++ '\x7d' :: rest) := by
  cases entries with
  | nil => exact .brace rest
  | cons e entries => exact .comma _

theorem length_le_itemsText (isFirst : Bool) (items : List Value) :
    items.length ≤ (itemsText isFirst items).length := by
  induction items generalizing isFirst with
  | nil => exact Nat.zero_le _
  | cons v items ih =>
      obtain ⟨c, cs, heq, -⟩ := exists_opens v
      have hmore := ih false
      simp only [itemsText, heq, List.length_append, List.length_cons]
      omega

theorem length_le_entriesText (isFirst : Bool) (entries : List (String × Value)) :
    entries.length ≤ (entriesText isFirst entries).length := by
  induction entries generalizing isFirst with
  | nil => exact Nat.zero_le _
  | cons e entries ih =>
      obtain ⟨key, v⟩ := e
      have hmore := ih false
      simp only [entriesText, List.length_append, List.length_cons]
      omega

/-! ## Between items and entries -/

theorem nextItem_item (isFirst : Bool) (v : Value) (rest : List Char) :
    nextItem isFirst (separator isFirst ++ (compactChars v ++ rest)) =
      .ok (true, compactChars v ++ rest) := by
  have hspaces := skipSpaces_compact v rest
  obtain ⟨c, cs, heq, hc⟩ := exists_opens v
  have hend : c ≠ ']' := hc.ne (by decide) rfl
  rw [heq, List.cons_append] at hspaces ⊢
  cases isFirst with
  | true => simp [separator, nextItem, hspaces]
  | false =>
      have hcomma : skipSpaces (',' :: c :: (cs ++ rest)) = ',' :: c :: (cs ++ rest) :=
        skipSpaces_cons rfl _
      simp [separator, nextItem, hcomma, hspaces, hend]

theorem nextItem_end (isFirst : Bool) (rest : List Char) :
    nextItem isFirst (']' :: rest) = .ok (false, rest) := by
  rw [nextItem, skipSpaces_cons rfl]
  rfl

theorem nextItem_stuck {s : List Char} (h : Stuck s) : ∃ e, nextItem false s = .error e := by
  cases h with
  | point s => exact ⟨_, rfl⟩
  | letter s => exact ⟨_, rfl⟩

theorem nextKey_quote (isFirst : Bool) (key : String) (rest : List Char) :
    nextKey isFirst (separator isFirst ++ (quote key ++ rest)) =
      .ok (true, key.toList.flatMap escapeChar ++ '"' :: rest) := by
  apply nextKey_entry
  rw [quote_append, skipSpaces_cons rfl]

theorem nextKey_brace (isFirst : Bool) (rest : List Char) :
    nextKey isFirst ('\x7d' :: rest) = .ok (false, rest) :=
  nextKey_end isFirst (skipSpaces_cons rfl rest)

theorem nextKey_stuck {s : List Char} (h : Stuck s) : ∃ e, nextKey false s = .error e := by
  cases h with
  | point s => exact ⟨_, rfl⟩
  | letter s => exact ⟨_, rfl⟩

/-! ## Passing over values -/

def IsSkipped (v : Value) : Prop :=
  ∀ (fuel : Nat) (rest : List Char), Delimits rest → 2 * (compactChars v).length < fuel →
    skipValue fuel (compactChars v ++ rest) = .ok ((), rest)

theorem skipItems_compact {v : Value} {items : List Value} (hv : IsSkipped v)
    (hitems : ∀ w ∈ items, IsSkipped w) (rest : List Char) {fuel : Nat}
    (hfuel : 2 * (itemsText true (v :: items)).length + 1 < fuel) :
    skipItems fuel (itemsText true (v :: items) ++ ']' :: rest) = .ok ((), rest) := by
  induction items generalizing v fuel with
  | nil =>
      obtain ⟨fuel, rfl⟩ := Nat.exists_eq_add_one_of_ne_zero (Nat.ne_zero_of_lt hfuel)
      simp only [itemsText, separator, if_true, List.nil_append, List.append_nil] at hfuel ⊢
      rw [skipItems, hv fuel _ (.bracket rest) (by omega)]
      rfl
  | cons w items ih =>
      obtain ⟨fuel, rfl⟩ := Nat.exists_eq_add_one_of_ne_zero (Nat.ne_zero_of_lt hfuel)
      obtain ⟨hw, hitems⟩ := List.forall_mem_cons.1 hitems
      have hshape : itemsText true (v :: w :: items) =
          compactChars v ++ ',' :: itemsText true (w :: items) := rfl
      rw [hshape, List.length_append, List.length_cons] at hfuel
      have hmore : skipItems fuel (itemsText true (w :: items) ++ ']' :: rest) = .ok ((), rest) :=
        ih hw hitems (by omega)
      rw [hshape, List.append_assoc, List.cons_append, skipItems,
        hv fuel _ (.comma _) (by omega)]
      exact hmore

theorem skipEntries_compact {key : String} {v : Value} {entries : List (String × Value)}
    (hv : IsSkipped v) (hentries : ∀ f ∈ entries, IsSkipped f.2) (rest : List Char) {fuel : Nat}
    (hfuel : 2 * (entriesText true ((key, v) :: entries)).length + 1 < fuel) :
    skipEntries fuel (entriesText true ((key, v) :: entries) ++ '\x7d' :: rest) = .ok ((), rest) := by
  induction entries generalizing key v fuel with
  | nil =>
      obtain ⟨fuel, rfl⟩ := Nat.exists_eq_add_one_of_ne_zero (Nat.ne_zero_of_lt hfuel)
      have hshape : entriesText true [(key, v)] = quote key ++ ':' :: compactChars v := by
        simp [entriesText, separator]
      rw [hshape, List.length_append, List.length_cons] at hfuel
      have hvalue := hv fuel ('\x7d' :: rest) (.brace rest) (by omega)
      rw [hshape, List.append_assoc, List.cons_append, quote_append, skipEntries, skipSpaces_cons rfl]
      simp only [skipString_escaped _ _ (length_lt_escaped _ _), colon_cons, hvalue]
      rfl
  | cons f entries ih =>
      obtain ⟨fuel, rfl⟩ := Nat.exists_eq_add_one_of_ne_zero (Nat.ne_zero_of_lt hfuel)
      obtain ⟨key', w⟩ := f
      obtain ⟨hw, hentries⟩ : IsSkipped w ∧ ∀ f ∈ entries, IsSkipped f.2 :=
        List.forall_mem_cons.1 hentries
      have hshape : entriesText true ((key, v) :: (key', w) :: entries) =
          quote key ++ ':' :: (compactChars v ++ ',' :: entriesText true ((key', w) :: entries)) := by
        simp [entriesText, separator]
      rw [hshape, List.length_append, List.length_cons, List.length_append, List.length_cons] at hfuel
      have hvalue := hv fuel (',' :: (entriesText true ((key', w) :: entries) ++ '\x7d' :: rest)) (.comma _)
        (by omega)
      have hmore : skipEntries fuel (entriesText true ((key', w) :: entries) ++ '\x7d' :: rest) =
          .ok ((), rest) := ih hw hentries (by omega)
      rw [hshape, List.append_assoc, List.cons_append, List.append_assoc, List.cons_append,
        quote_append, skipEntries, skipSpaces_cons rfl]
      simp only [skipString_escaped _ _ (length_lt_escaped _ _), colon_cons, hvalue]
      exact hmore

theorem skipValue_digit {c : Char} (hc : c.isDigit = true) (fuel : Nat) (s : List Char) :
    skipValue (fuel + 1) (c :: s) = skipNumber (c :: s) := by
  have hspace : isSpace c = false := Opens.isSpace_eq_false (.integer 0 (.inr hc))
  have hne {d : Char} (hd : d.isDigit = false) : c ≠ d := by
    rintro rfl
    rw [hc] at hd
    exact absurd hd (by simp)
  have hnull : c ≠ 'n' := hne rfl
  have htrue : c ≠ 't' := hne rfl
  have hfalse : c ≠ 'f' := hne rfl
  have hsign : c ≠ '-' := hne rfl
  have hquote : c ≠ '"' := hne rfl
  have hbracket : c ≠ '[' := hne rfl
  have hbrace : c ≠ '\x7b' := hne rfl
  simp [skipValue, skipSpaces_cons hspace, hc]

theorem isSkipped_number {v : Value} {sign numeral tail : List Char}
    (htext : compactChars v = sign ++ (numeral ++ tail)) (hsign : sign = [] ∨ sign = ['-'])
    (hnumeral : IsNumeral numeral)
    (hskip : ∀ rest, Delimits rest → skipNumber (numeral ++ (tail ++ rest)) = .ok ((), rest)) :
    IsSkipped v := by
  intro fuel rest hrest hfuel
  obtain ⟨fuel, rfl⟩ := Nat.exists_eq_add_one_of_ne_zero (Nat.ne_zero_of_lt hfuel)
  rw [htext, List.append_assoc, List.append_assoc]
  rcases hsign with rfl | rfl
  · cases numeral with
    | nil => exact absurd rfl hnumeral.ne_nil
    | cons c ds =>
        have hc : c.isDigit = true := hnumeral.areDigits c List.mem_cons_self
        rw [List.nil_append, List.cons_append, skipValue_digit hc]
        exact hskip rest hrest
  · exact hskip rest hrest

/-- Every value that is written is passed over. -/
theorem isSkipped (v : Value) : IsSkipped v := by
  -- A value and the list that it stands in take one step each, so two steps for a character are enough.
  induction v using Value.induction with
  | null =>
      intro fuel rest hrest hfuel
      obtain ⟨fuel, rfl⟩ := Nat.exists_eq_add_one_of_ne_zero (Nat.ne_zero_of_lt hfuel)
      rfl
  | bool b =>
      intro fuel rest hrest hfuel
      obtain ⟨fuel, rfl⟩ := Nat.exists_eq_add_one_of_ne_zero (Nat.ne_zero_of_lt hfuel)
      cases b <;> rfl
  | integer n =>
      obtain ⟨sign, hsign, htext⟩ := integerText_eq n
      have hnumeral := Text.Decimal.isNumeral_digits n.natAbs
      rw [← List.append_nil (Text.Decimal.digits n.natAbs)] at htext
      exact isSkipped_number htext hsign hnumeral fun rest hrest => skipNumber_numeral hnumeral hrest
  | float x =>
      obtain ⟨sign, numeral, tail, hsign, hnumeral, htail, htext⟩ := float_text_eq x
      exact isSkipped_number htext hsign hnumeral fun rest hrest => skipNumber_tail hnumeral htail hrest
  | string s =>
      intro fuel rest hrest hfuel
      obtain ⟨fuel, rfl⟩ := Nat.exists_eq_add_one_of_ne_zero (Nat.ne_zero_of_lt hfuel)
      change skipValue (fuel + 1) (quote s ++ rest) = _
      rw [quote_append]
      exact skipString_escaped _ _ (length_lt_escaped _ _)
  | array items ih =>
      intro fuel rest hrest hfuel
      obtain ⟨fuel, rfl⟩ := Nat.exists_eq_add_one_of_ne_zero (Nat.ne_zero_of_lt hfuel)
      have hlength := congrArg List.length (compactChars_array items [])
      simp only [List.append_nil, List.length_cons, List.length_append, List.length_nil] at hlength
      rw [compactChars_array]
      cases items with
      | nil => rfl
      | cons v items =>
          obtain ⟨hv, hitems⟩ := List.forall_mem_cons.1 ih
          have hskip : skipItems fuel (itemsText true (v :: items) ++ ']' :: rest) = .ok ((), rest) :=
            skipItems_compact hv hitems rest (by omega)
          obtain ⟨c, cs, heq, hc⟩ := exists_opens v
          have hend : c ≠ ']' := hc.ne (by decide) rfl
          have hshape : itemsText true (v :: items) ++ ']' :: rest =
              c :: (cs ++ itemsText false items ++ ']' :: rest) := by
            simp [itemsText, separator, heq]
          rw [hshape] at hskip ⊢
          rw [skipValue, skipSpaces_cons rfl]
          simp only [skipSpaces_cons hc.isSpace_eq_false]
          split
          · rename_i heq
            exact absurd (List.cons.inj heq).1 hend
          · rename_i heq
            exact absurd heq (by simp)
          · exact hskip
  | object entries ih =>
      intro fuel rest hrest hfuel
      obtain ⟨fuel, rfl⟩ := Nat.exists_eq_add_one_of_ne_zero (Nat.ne_zero_of_lt hfuel)
      have hlength := congrArg List.length (compactChars_object entries [])
      simp only [List.append_nil, List.length_cons, List.length_append, List.length_nil] at hlength
      rw [compactChars_object]
      cases entries with
      | nil => rfl
      | cons e entries =>
          obtain ⟨key, v⟩ := e
          obtain ⟨hv, hentries⟩ : IsSkipped v ∧ ∀ e ∈ entries, IsSkipped e.2 :=
            List.forall_mem_cons.1 ih
          have hskip : skipEntries fuel (entriesText true ((key, v) :: entries) ++ '\x7d' :: rest) =
              .ok ((), rest) := skipEntries_compact hv hentries rest (by omega)
          exact hskip

theorem skip_compact (v : Value) {rest : List Char} (hrest : Delimits rest) :
    skip (compactChars v ++ rest) = .ok ((), rest) := by
  apply isSkipped v _ _ hrest
  rw [fuelFor, List.length_append]
  omega

end AttributeSchema.Json
