import AttributeSchema.Attribute.Value
import AttributeSchema.Proofs.Json.Compact
import AttributeSchema.Proofs.Traverse
/-!
# Trees and texts are read alike

What reading a value's text gives is what reading the value as a tree gives. Where the tree is refused, so is
the text, but perhaps only behind the value: a reader of integers takes the numeral of a floating point
number and stops before its point, where nothing else can be read.
-/

namespace AttributeSchema.Json

variable {α β : Type}

/-! ## Readings that agree -/

/-- A reading that fails, or that stops where nothing can be read. -/
def Refused (r : Reading α) : Prop := ∀ a rest, r = .ok (a, rest) → Stuck rest

theorem refused_of_error {r : Reading α} (h : ∃ e, r = .error e) : Refused r := by
  obtain ⟨e, rfl⟩ := h
  intro a rest hok
  exact absurd hok (by simp)

theorem Refused.map {r : Reading α} (h : Refused r) (f : α → β) :
    Refused (r.map fun (a, rest) => (f a, rest)) := by
  intro b rest hok
  obtain ⟨⟨a, rest'⟩, ha, heq⟩ := map_ok_iff.1 hok
  obtain ⟨-, rfl⟩ := Prod.mk.inj heq
  exact h a rest' ha

/-- A text is read up to `rest` with a given result, or refused if there is none. -/
def Agrees (result : Except String α) (r : Reading α) (rest : List Char) : Prop :=
  match result with
  | .ok a => r = .ok (a, rest)
  | .error _ => Refused r

theorem agrees_of_refused {result : Except String α} {r : Reading α} {rest : List Char}
    (h : ∃ d, result = .error d) (hr : Refused r) : Agrees result r rest := by
  obtain ⟨d, rfl⟩ := h
  exact hr

theorem Agrees.map {result : Except String α} {r : Reading α} {rest : List Char}
    (h : Agrees result r rest) (f : α → β) :
    Agrees (result.map f) (r.map fun (a, rest) => (f a, rest)) rest := by
  cases result with
  | error d => exact Refused.map h f
  | ok a =>
      have hr : r = .ok (a, rest) := h
      rw [hr]
      rfl

def readOn (r : Reading α) (continued : α → List Char → Reading β) : Reading β :=
  match r with
  | .error e => .error e
  | .ok (a, s) => continued a s

/-- Readings that agree are continued in agreement, if nothing can be read where a refused one stops. -/
theorem Agrees.bind {result : Except String α} {r : Reading α} {middle rest : List Char}
    {next : α → Except String β} {continued : α → List Char → Reading β}
    (h : Agrees result r middle) (hok : ∀ a, result = .ok a → Agrees (next a) (continued a middle) rest)
    (hstuck : ∀ a s, Stuck s → Refused (continued a s)) :
    Agrees (result >>= next) (readOn r continued) rest := by
  cases result with
  | ok a =>
      have hr : r = .ok (a, middle) := h
      rw [hr]
      exact hok a rfl
  | error d =>
      cases hr : r with
      | error e => exact refused_of_error ⟨e, rfl⟩
      | ok found =>
          -- Something was read that the tree does not have, so what follows is refused in its place.
          obtain ⟨a, s⟩ := found
          exact hstuck a s (h a s hr)

/-- The text of a value is read as the value is read as a tree, whatever stands behind it. -/
def ReadAlike (tree : Value → Except String α) (read : List Char → Reading α) (v : Value) : Prop :=
  ∀ rest, Delimits rest → Agrees (tree v) (read (compactChars v ++ rest)) rest

/-- Values of another kind than expected are refused at their first character. -/
theorem agrees_of_opens {tree : Value → Except String α} {read : List Char → Reading α} {v : Value}
    (htree : ∃ d, tree v = .error d) (hread : ∀ c cs, Opens v c → ∃ e, read (c :: cs) = .error e) :
    ReadAlike tree read v := by
  intro rest _
  obtain ⟨c, cs, heq, hc⟩ := exists_opens v
  rw [heq]
  exact agrees_of_refused htree (refused_of_error (hread c (cs ++ rest) hc))

/-! ## Kinds of values by their first characters -/

namespace Opens

variable {v : Value}

instance : DecidablePred StartsNumber := fun c =>
  inferInstanceAs (Decidable (c = '-' ∨ c.isDigit = Bool.true))

theorem eq_null (h : Opens v 'n') : v = .null := by
  cases h with
  | null => rfl
  | integer n hc => exact absurd hc (by decide)
  | float x hc => exact absurd hc (by decide)

theorem eq_bool {c : Char} (h : Opens v c) (hc : c = 't' ∨ c = 'f') : ∃ b, v = .bool b := by
  have hnot : ¬ StartsNumber c := by
    rcases hc with rfl | rfl <;> decide
  cases h with
  | true => exact ⟨_, rfl⟩
  | false => exact ⟨_, rfl⟩
  | integer n hc => exact absurd hc hnot
  | float x hc => exact absurd hc hnot
  | null => exact absurd hc (by decide)
  | string s => exact absurd hc (by decide)
  | array items => exact absurd hc (by decide)
  | object entries => exact absurd hc (by decide)

theorem eq_string (h : Opens v '"') : ∃ s, v = .string s := by
  cases h with
  | string s => exact ⟨s, rfl⟩
  | integer n hc => exact absurd hc (by decide)
  | float x hc => exact absurd hc (by decide)

theorem eq_array (h : Opens v '[') : ∃ items, v = .array items := by
  cases h with
  | array items => exact ⟨items, rfl⟩
  | integer n hc => exact absurd hc (by decide)
  | float x hc => exact absurd hc (by decide)

theorem eq_object (h : Opens v '\x7b') : ∃ entries, v = .object entries := by
  cases h with
  | object entries => exact ⟨entries, rfl⟩
  | integer n hc => exact absurd hc (by decide)
  | float x hc => exact absurd hc (by decide)

theorem eq_number {c : Char} (h : Opens v c) (hc : StartsNumber c) :
    (∃ n, v = .integer n) ∨ ∃ x, v = .float x := by
  cases h with
  | integer n => exact .inl ⟨n, rfl⟩
  | float x => exact .inr ⟨x, rfl⟩
  | null => exact absurd hc (by decide)
  | true => exact absurd hc (by decide)
  | false => exact absurd hc (by decide)
  | string s => exact absurd hc (by decide)
  | array items => exact absurd hc (by decide)
  | object entries => exact absurd hc (by decide)

end Opens

/-! ## Lists and maps -/

def readItems (read : List Char → Reading α) (isFirst : Bool) : Nat → List Char → Reading (List α)
  | 0, s => .error (Failure.here "recursion limit exceeded" s)
  | fuel + 1, s =>
    match nextItem isFirst s with
    | .error e => .error e
    | .ok (false, rest) => .ok ([], rest)
    | .ok (true, rest) =>
      match read rest with
      | .error e => .error e
      | .ok (first, rest) =>
        (readItems read false fuel rest).map fun (more, rest) => (first :: more, rest)

theorem readItems_stuck {read : List Char → Reading α} {s : List Char} (h : Stuck s) (fuel : Nat) :
    ∃ e, readItems read false fuel s = .error e := by
  cases fuel with
  | zero => exact ⟨_, rfl⟩
  | succ fuel =>
      obtain ⟨e, he⟩ := nextItem_stuck h
      exact ⟨e, by rw [readItems, he]⟩

/-- Items that are read alike one by one are read alike together. -/
theorem readItems_agree {tree : Value → Except String α} {read : List Char → Reading α}
    {items : List Value} (h : ∀ v ∈ items, ReadAlike tree read v) (isFirst : Bool)
    (rest : List Char) {fuel : Nat} (hfuel : items.length < fuel) :
    Agrees (items.mapM tree) (readItems read isFirst fuel (itemsText isFirst items ++ ']' :: rest))
      rest := by
  induction items generalizing isFirst fuel with
  | nil =>
      obtain ⟨fuel, rfl⟩ := Nat.exists_eq_add_one_of_ne_zero (Nat.ne_zero_of_lt hfuel)
      change readItems read isFirst (fuel + 1) (']' :: rest) = .ok ([], rest)
      rw [readItems, nextItem_end]
  | cons v items ih =>
      obtain ⟨fuel, rfl⟩ := Nat.exists_eq_add_one_of_ne_zero (Nat.ne_zero_of_lt hfuel)
      obtain ⟨hv, hitems⟩ := List.forall_mem_cons.1 h
      rw [itemsText, List.append_assoc, List.append_assoc, readItems, nextItem_item, List.mapM_cons]
      apply (hv _ (delimits_itemsText items rest)).bind
      · intro a _
        exact (ih hitems false (Nat.lt_of_succ_lt_succ hfuel)).map (a :: ·)
      · intro a s hs
        exact (refused_of_error (readItems_stuck hs fuel)).map (a :: ·)

theorem mapEntries_stuck {read : List Char → Reading α} {s : List Char} (h : Stuck s)
    (m : SortedMap α) (fuel : Nat) : ∃ e, mapEntries read false m fuel s = .error e := by
  cases fuel with
  | zero => exact ⟨_, rfl⟩
  | succ fuel =>
      obtain ⟨e, he⟩ := nextKey_stuck h
      exact ⟨e, by rw [mapEntries, he]⟩

end AttributeSchema.Json
