import AttributeSchema.Proofs.Json.Strings
import AttributeSchema.Proofs.SortedMap
/-!
# Objects of JSON texts are read back

An object that is written on several lines is read back as the map of its entries, when the values are.
-/

namespace AttributeSchema.Json

/-! ## Between entries -/

/-- What stands before an entry, after its place as the first one or not. -/
def separator (isFirst : Bool) : List Char := if isFirst then [] else [',']

theorem nextKey_entry (isFirst : Bool) {s key : List Char} (h : skipSpaces s = '"' :: key) :
    nextKey isFirst (separator isFirst ++ s) = .ok (true, key) := by
  cases isFirst with
  | true =>
      rw [separator, if_pos rfl, List.nil_append, nextKey, h]
      rfl
  | false =>
      have hcomma : skipSpaces (',' :: s) = ',' :: s := skipSpaces_cons rfl _
      change nextKey false (',' :: s) = _
      simp [nextKey, hcomma, h]

theorem nextKey_end (isFirst : Bool) {s rest : List Char} (h : skipSpaces s = '}' :: rest) :
    nextKey isFirst s = .ok (false, rest) := by
  rw [nextKey, h]
  rfl

theorem colon_cons (s : List Char) : colon (':' :: s) = .ok ((), s) := by
  rw [colon, skipSpaces_cons rfl]
  rfl

theorem text_quote (s : String) (rest : List Char) : text (quote s ++ rest) = .ok (s, rest) := by
  rw [quote_append, text, skipSpaces_cons rfl]
  exact stringText_escaped s rest

/-! ## Entries -/

section

variable {α : Type} {read : List Char → Reading α} {f : α → Value} {step depth : Nat}

def ReadsBack (read : List Char → Reading α) (f : α → Value) (step depth : Nat) (a : α) : Prop :=
  ∀ rest, read (' ' :: (prettyChars step depth (f a) ++ rest)) = .ok (a, rest)

theorem prettyEntries_cons (k : String) (v : Value) (more : List (String × Value)) :
    prettyEntries step depth ((k, v) :: more) =
      newLine step depth ++ (quote k ++ ':' :: ' ' :: (prettyChars step depth v ++
        if more = [] then [] else ',' :: prettyEntries step depth more)) := by
  cases more with
  | nil => simp [prettyEntries]
  | cons e more => simp [prettyEntries]

theorem length_le_prettyEntries (step depth : Nat) (entries : List (String × Value)) :
    entries.length ≤ (prettyEntries step depth entries).length := by
  induction entries with
  | nil => exact Nat.zero_le _
  | cons e more ih =>
      obtain ⟨k, v⟩ := e
      rw [prettyEntries_cons]
      cases more with
      | nil =>
          simp only [newLine, List.length_append, List.length_cons, List.length_nil]
          omega
      | cons e more =>
          simp only [newLine, List.length_append, List.length_cons, reduceCtorEq, if_false] at ih ⊢
          omega

/-- Written entries, of which there is one, are added to those that were read before. -/
theorem mapEntries_pretty {entries : List (String × α)} (hne : entries ≠ [])
    (hread : ∀ e ∈ entries, ReadsBack read f step depth e.2) (isFirst : Bool) (m : SortedMap α)
    {fuel : Nat} (hfuel : entries.length < fuel) (step' depth' : Nat) (rest : List Char) :
    mapEntries read isFirst m fuel
        (separator isFirst ++ (prettyEntries step depth (entries.map fun e => (e.1, f e.2)) ++
          (newLine step' depth' ++ '}' :: rest))) =
      .ok (entries.foldl (fun m e => m.insert e.1 e.2) m, rest) := by
  induction entries generalizing isFirst m fuel with
  | nil => exact absurd rfl hne
  | cons e more ih =>
      obtain ⟨k, a⟩ := e
      obtain ⟨fuel, rfl⟩ := Nat.exists_eq_add_one_of_ne_zero (Nat.ne_zero_of_lt hfuel)
      have hvalue := hread (k, a) List.mem_cons_self
      -- What stands behind the value: a comma and the other entries, or the end of the object.
      let tail := (if (more.map fun e => (e.1, f e.2)) = [] then ([] : List Char)
        else ',' :: prettyEntries step depth (more.map fun e => (e.1, f e.2))) ++
          (newLine step' depth' ++ '}' :: rest)
      have hshape : separator isFirst ++ (prettyEntries step depth
            (((k, a) :: more).map fun e => (e.1, f e.2)) ++ (newLine step' depth' ++ '}' :: rest)) =
          separator isFirst ++ (newLine step depth ++ '"' :: (k.toList.flatMap escapeChar ++
            '"' :: ':' :: ' ' :: (prettyChars step depth (f a) ++ tail))) := by
        rw [List.map_cons, prettyEntries_cons]
        simp only [quote, tail, List.append_assoc, List.cons_append, List.nil_append]
      have hkey (s : List Char) : skipSpaces (newLine step depth ++ '"' :: s) = '"' :: s := by
        rw [skipSpaces_newLine, skipSpaces_cons rfl]
      rw [hshape, mapEntries, nextKey_entry isFirst (hkey _)]
      simp only [stringText_escaped, colon_cons]
      rw [hvalue tail]
      simp only [List.foldl_cons]
      cases more with
      | nil =>
          obtain ⟨fuel, rfl⟩ :=
            Nat.exists_eq_add_one_of_ne_zero (Nat.ne_zero_of_lt (Nat.lt_of_succ_lt_succ hfuel))
          change mapEntries read false (m.insert k a) (fuel + 1) (newLine step' depth' ++ '}' :: rest) = _
          have hend : skipSpaces (newLine step' depth' ++ '}' :: rest) = '}' :: rest := by
            rw [skipSpaces_newLine, skipSpaces_cons rfl]
          rw [mapEntries, nextKey_end false hend]
          rfl
      | cons e more =>
          exact ih (List.cons_ne_nil e more) (fun e he => hread e (List.mem_cons_of_mem _ he)) false
            (m.insert k a) (Nat.lt_of_succ_lt_succ hfuel)

theorem mapOf_pretty {entries : List (String × α)}
    (hread : ∀ e ∈ entries, ReadsBack read f step (depth + 1) e.2) (rest : List Char) :
    mapOf read (prettyChars step depth (.object (entries.map fun e => (e.1, f e.2))) ++ rest) =
      .ok (SortedMap.ofList entries, rest) := by
  cases entries with
  | nil =>
      change mapOf read ('{' :: '}' :: rest) = _
      rw [mapOf, skipSpaces_cons rfl]
      rfl
  | cons e more =>
      have hshape : prettyChars step depth (.object ((e :: more).map fun e => (e.1, f e.2))) ++ rest =
          '{' :: (separator true ++ (prettyEntries step (depth + 1)
            ((e :: more).map fun e => (e.1, f e.2)) ++ (newLine step depth ++ '}' :: rest))) := by
        simp only [List.map_cons, prettyChars, separator, if_true, List.cons_append, List.nil_append,
          List.append_assoc]
      rw [hshape, mapOf, skipSpaces_cons rfl]
      apply mapEntries_pretty (List.cons_ne_nil e more) hread
      have hlength := length_le_prettyEntries step (depth + 1)
        ((e :: more).map fun e => (e.1, f e.2))
      rw [List.length_map] at hlength
      simp only [separator, if_true, List.nil_append, List.length_append]
      omega

theorem whole_of_read {s : List Char} {a : α} (h : read s = .ok (a, [])) : whole read s = .ok a := by
  rw [whole, h]
  rfl

end

end AttributeSchema.Json
