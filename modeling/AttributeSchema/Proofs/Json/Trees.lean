import AttributeSchema.Proofs.Json.Arrangement
import AttributeSchema.Proofs.Json.Maps
import AttributeSchema.Json.Reader
/-!
# Texts of several lines are read back as trees

A value that holds no numbers, whatever the depth at which it is written, is read back up to the order of
the entries of its objects.
-/

namespace AttributeSchema.Json

inductive Value.IsTextual : Value → Prop
  | string (s : String) : IsTextual (.string s)
  | array {items : List Value} (h : ∀ v ∈ items, IsTextual v) : IsTextual (.array items)
  | object {entries : List (String × Value)} (h : ∀ e ∈ entries, IsTextual e.2) :
      IsTextual (.object entries)

section

variable {step depth : Nat}

/-! ## The text of a value -/

def linedItems (step depth : Nat) (isFirst : Bool) : List Value → List Char
  | [] => []
  | v :: items =>
    separator isFirst ++
      (newLine step depth ++ (prettyChars step depth v ++ linedItems step depth false items))

def linedEntries (step depth : Nat) (isFirst : Bool) : List (String × Value) → List Char
  | [] => []
  | (key, v) :: entries =>
    separator isFirst ++ (newLine step depth ++ (quote key ++
      ':' :: ' ' :: (prettyChars step depth v ++ linedEntries step depth false entries)))

theorem prettyItems_eq (items : List Value) :
    prettyItems step depth items = linedItems step depth true items := by
  induction items with
  | nil => rfl
  | cons v items ih =>
      cases items with
      | nil => simp [prettyItems, linedItems, separator]
      | cons w items =>
          rw [prettyItems, ih]
          · simp [linedItems, separator]
          · simp

theorem prettyEntries_eq (entries : List (String × Value)) :
    prettyEntries step depth entries = linedEntries step depth true entries := by
  induction entries with
  | nil => rfl
  | cons e entries ih =>
      obtain ⟨key, v⟩ := e
      cases entries with
      | nil => simp [prettyEntries, linedEntries, separator]
      | cons f entries =>
          rw [prettyEntries, ih]
          · simp [linedEntries, separator]
          · simp

/-- Blanks before the end of an array or object, which is on the line of its start if there is nothing
in it. -/
def closing (step depth : Nat) {α : Type} (parts : List α) : List Char :=
  if parts.isEmpty then [] else newLine step depth

theorem skipSpaces_closing {α : Type} (parts : List α) (s : List Char) :
    skipSpaces (closing step depth parts ++ s) = skipSpaces s := by
  cases parts with
  | nil => rfl
  | cons a parts => exact skipSpaces_newLine step depth s

variable (step depth) in
theorem prettyChars_array (items : List Value) (rest : List Char) :
    prettyChars step depth (.array items) ++ rest =
      '[' :: (linedItems step (depth + 1) true items ++ (closing step depth items ++ ']' :: rest)) := by
  cases items with
  | nil => rfl
  | cons v items =>
      rw [prettyChars, prettyItems_eq]
      simp [closing]

variable (step depth) in
theorem prettyChars_object (entries : List (String × Value)) (rest : List Char) :
    prettyChars step depth (.object entries) ++ rest =
      '\x7b' :: (linedEntries step (depth + 1) true entries ++
        (closing step depth entries ++ '\x7d' :: rest)) := by
  cases entries with
  | nil => rfl
  | cons e entries =>
      rw [prettyChars, prettyEntries_eq]
      simp [closing]

theorem prettyChars_string (s : String) : prettyChars step depth (.string s) = quote s := by
  rw [prettyChars, leafText] <;> simp

variable (step depth) in
theorem Value.IsTextual.exists_cons {v : Value} (h : v.IsTextual) :
    ∃ c cs, prettyChars step depth v = c :: cs ∧ isSpace c = false ∧ c ≠ ']' := by
  cases h with
  | string s => exact ⟨'"', _, prettyChars_string s, rfl, by decide⟩
  | @array items h =>
      have heq := prettyChars_array step depth items []
      rw [List.append_nil] at heq
      exact ⟨'[', _, heq, rfl, by decide⟩
  | @object entries h =>
      have heq := prettyChars_object step depth entries []
      rw [List.append_nil] at heq
      exact ⟨'\x7b', _, heq, rfl, by decide⟩

variable (step depth) in
theorem skipSpaces_pretty {v : Value} (hv : v.IsTextual) (rest : List Char) :
    skipSpaces (prettyChars step depth v ++ rest) = prettyChars step depth v ++ rest := by
  obtain ⟨c, cs, heq, hspace, -⟩ := hv.exists_cons step depth
  rw [heq, List.cons_append, skipSpaces_cons hspace]

/-! ## Reading -/

/-- With fuel for each character, a value is read back behind any blanks. -/
def ReadsTree (v : Value) : Prop :=
  ∀ (step depth fuel : Nat) (s rest : List Char), (prettyChars step depth v).length ≤ fuel →
    skipSpaces s = prettyChars step depth v ++ rest → tree fuel s = .ok (v.arranged, rest)

theorem nextItem_lined (isFirst : Bool) {v : Value} (hv : v.IsTextual) (rest : List Char) :
    nextItem isFirst (separator isFirst ++ (newLine step depth ++ (prettyChars step depth v ++ rest))) =
      .ok (true, prettyChars step depth v ++ rest) := by
  obtain ⟨c, cs, heq, hspace, hend⟩ := hv.exists_cons step depth
  have hfirst : skipSpaces (newLine step depth ++ (c :: (cs ++ rest))) = c :: (cs ++ rest) := by
    rw [skipSpaces_newLine, skipSpaces_cons hspace]
  rw [heq, List.cons_append]
  cases isFirst with
  | true => simp [separator, nextItem, hfirst]
  | false =>
      have hcomma : skipSpaces (',' :: (newLine step depth ++ c :: (cs ++ rest))) =
          ',' :: (newLine step depth ++ c :: (cs ++ rest)) := skipSpaces_cons rfl _
      simp [separator, nextItem, hcomma, hfirst, hend]

theorem nextItem_closing (isFirst : Bool) {s rest : List Char} (h : skipSpaces s = ']' :: rest) :
    nextItem isFirst s = .ok (false, rest) := by
  rw [nextItem, h]
  rfl

variable (step depth) in
theorem treeItems_lined {items : List Value} (htextual : ∀ v ∈ items, v.IsTextual)
    (hreads : ∀ v ∈ items, ReadsTree v) (isFirst : Bool) {fuel : Nat}
    (hfuel : (linedItems step depth isFirst items).length < fuel) {s rest : List Char}
    (hs : skipSpaces s = ']' :: rest) :
    treeItems isFirst fuel (linedItems step depth isFirst items ++ s) =
      .ok (items.map Value.arranged, rest) := by
  induction items generalizing isFirst fuel with
  | nil =>
      obtain ⟨fuel, rfl⟩ := Nat.exists_eq_add_one_of_ne_zero (Nat.ne_zero_of_lt hfuel)
      rw [linedItems, List.nil_append, treeItems, nextItem_closing isFirst hs]
      rfl
  | cons v items ih =>
      obtain ⟨fuel, rfl⟩ := Nat.exists_eq_add_one_of_ne_zero (Nat.ne_zero_of_lt hfuel)
      have hlength : 1 + (prettyChars step depth v).length +
          (linedItems step depth false items).length ≤ fuel := by
        simp only [linedItems, newLine, List.length_append, List.length_cons] at hfuel
        omega
      have hv := htextual v List.mem_cons_self
      have hitem := hreads v List.mem_cons_self step depth fuel _ _ (by omega)
        (skipSpaces_pretty step depth hv (linedItems step depth false items ++ s))
      have hfewer : (linedItems step depth false items).length < fuel := by omega
      have hmore := ih (fun w hw => htextual w (List.mem_cons_of_mem v hw))
        (fun w hw => hreads w (List.mem_cons_of_mem v hw)) false hfewer
      rw [linedItems, List.append_assoc, List.append_assoc, List.append_assoc, treeItems,
        nextItem_lined isFirst hv]
      simp only [hitem, hmore]
      rfl

variable (step depth) in
theorem treeEntries_lined {entries : List (String × Value)}
    (htextual : ∀ e ∈ entries, e.2.IsTextual) (hreads : ∀ e ∈ entries, ReadsTree e.2)
    (isFirst : Bool) (m : SortedMap Value) {fuel : Nat}
    (hfuel : (linedEntries step depth isFirst entries).length < fuel) {s rest : List Char}
    (hs : skipSpaces s = '\x7d' :: rest) :
    treeEntries isFirst m.entries fuel (linedEntries step depth isFirst entries ++ s) =
      .ok ((entries.foldl (fun m e => m.insert e.1 e.2.arranged) m).entries, rest) := by
  induction entries generalizing isFirst m fuel with
  | nil =>
      obtain ⟨fuel, rfl⟩ := Nat.exists_eq_add_one_of_ne_zero (Nat.ne_zero_of_lt hfuel)
      rw [linedEntries, List.nil_append, treeEntries, nextKey_end isFirst hs]
      rfl
  | cons e entries ih =>
      obtain ⟨key, v⟩ := e
      obtain ⟨fuel, rfl⟩ := Nat.exists_eq_add_one_of_ne_zero (Nat.ne_zero_of_lt hfuel)
      have hlength : 1 + (prettyChars step depth v).length +
          (linedEntries step depth false entries).length ≤ fuel := by
        simp only [linedEntries, newLine, List.length_append, List.length_cons] at hfuel
        omega
      have hspaces := (skipSpaces_space _).trans (skipSpaces_pretty step depth
        (htextual (key, v) List.mem_cons_self) (linedEntries step depth false entries ++ s))
      have hvalue := hreads (key, v) List.mem_cons_self step depth fuel _ _
        (by show (prettyChars step depth v).length ≤ fuel; omega) hspaces
      have hfewer : (linedEntries step depth false entries).length < fuel := by omega
      have hmore := ih (fun e he => htextual e (List.mem_cons_of_mem _ he))
        (fun e he => hreads e (List.mem_cons_of_mem _ he)) false (m.insert key v.arranged) hfewer
      have hkey : nextKey isFirst (separator isFirst ++ (newLine step depth ++ (quote key ++
          ':' :: ' ' :: (prettyChars step depth v ++ (linedEntries step depth false entries ++ s))))) =
          .ok (true, key.toList.flatMap escapeChar ++ '"' ::
            ':' :: ' ' :: (prettyChars step depth v ++ (linedEntries step depth false entries ++ s))) := by
        apply nextKey_entry
        rw [skipSpaces_newLine, quote_append, skipSpaces_cons rfl]
      have hshape : linedEntries step depth isFirst ((key, v) :: entries) ++ s =
          separator isFirst ++ (newLine step depth ++ (quote key ++ ':' :: ' ' ::
            (prettyChars step depth v ++ (linedEntries step depth false entries ++ s)))) := by
        simp only [linedEntries, List.append_assoc, List.cons_append]
      rw [hshape, treeEntries, hkey]
      simp only [stringText_escaped, colon_cons, hvalue]
      exact hmore

/-- A value is read back, whatever the depth at which it is written. -/
theorem readsTree {v : Value} (hv : v.IsTextual) : ReadsTree v := by
  induction hv with
  | string text =>
      intro step depth fuel s rest hfuel hs
      rw [prettyChars_string] at hfuel hs
      have hpos : fuel ≠ 0 := by
        intro hzero
        rw [hzero, quote, List.cons_append, List.length_cons] at hfuel
        omega
      obtain ⟨fuel, rfl⟩ := Nat.exists_eq_add_one_of_ne_zero hpos
      rw [quote_append] at hs
      rw [tree, hs]
      simp only [stringText_escaped]
      rfl
  | @array items h ih =>
      intro step depth fuel s rest hfuel hs
      have hlength := congrArg List.length
        (prettyChars_array step depth items [])
      simp only [List.length_append, List.length_cons, List.length_nil] at hlength
      obtain ⟨fuel, rfl⟩ := Nat.exists_eq_add_one_of_ne_zero (n := fuel) (by omega)
      have hend : skipSpaces (closing step depth items ++ ']' :: rest) = ']' :: rest := by
        rw [skipSpaces_closing, skipSpaces_cons rfl]
      rw [prettyChars_array] at hs
      have hfewer : (linedItems step (depth + 1) true items).length < fuel := by omega
      have hitems := treeItems_lined step (depth + 1) h ih true hfewer hend
      rw [tree, hs]
      change (treeItems true fuel _).map _ = _
      rw [hitems, Value.arranged, Value.arrangedItems_eq]
      rfl
  | @object entries h ih =>
      intro step depth fuel s rest hfuel hs
      have hlength := congrArg List.length
        (prettyChars_object step depth entries [])
      simp only [List.length_append, List.length_cons, List.length_nil] at hlength
      obtain ⟨fuel, rfl⟩ := Nat.exists_eq_add_one_of_ne_zero (n := fuel) (by omega)
      have hend : skipSpaces (closing step depth entries ++ '\x7d' :: rest) = '\x7d' :: rest := by
        rw [skipSpaces_closing, skipSpaces_cons rfl]
      rw [prettyChars_object] at hs
      have hfewer : (linedEntries step (depth + 1) true entries).length < fuel := by omega
      have hentries := treeEntries_lined step (depth + 1) h ih true .empty hfewer hend
      rw [tree, hs]
      change (treeEntries true SortedMap.empty.entries fuel _).map _ = _
      rw [hentries, Value.arranged, Value.arrangedEntries_eq, SortedMap.ofList, List.foldl_map]
      rfl

/-- A text of several lines, with blanks behind it, is read back as the tree that was written. -/
theorem ofText?_pretty {v : Value} (hv : v.IsTextual) (step : Nat) {blanks : String}
    (hblanks : skipSpaces blanks.toList = []) :
    Value.ofText? (pretty step v ++ blanks) = some v.arranged := by
  have htext : (pretty step v ++ blanks).toList = prettyChars step 0 v ++ blanks.toList := by
    rw [pretty, String.toList_append, String.toList_ofList]
  have hfuel : (prettyChars step 0 v).length ≤ fuelFor (prettyChars step 0 v ++ blanks.toList) := by
    rw [fuelFor, List.length_append]
    omega
  have hread := readsTree hv step 0 _ _ blanks.toList hfuel (skipSpaces_pretty step 0 hv _)
  have hend : ending blanks.toList = .ok () := by
    rw [ending, hblanks]
  unfold Value.ofText?
  rw [htext, hread]
  simp only [hend]
  rfl

end

end AttributeSchema.Json
