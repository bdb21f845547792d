import AttributeSchema.Json.Printer
import AttributeSchema.Json.Scan
import AttributeSchema.Proofs.Text.Decimal
/-!
# Numbers of JSON texts are read in full

An integer is written as a sign and a numeral. A floating point number also has digits behind a point, an
exponent, or both, so its numeral is never followed by what may stand behind a value.
-/

namespace AttributeSchema.Json

open Text.Decimal (AreDigits IsNumeral digits span span_append)

/-- What may stand behind a value: nothing, a comma, or the end of an array or object. -/
inductive Delimits : List Char → Prop
  | nil : Delimits []
  | comma (s : List Char) : Delimits (',' :: s)
  | bracket (s : List Char) : Delimits (']' :: s)
  | brace (s : List Char) : Delimits ('}' :: s)

/-- No number ends before these characters: the point and the letter of the exponent. -/
inductive Stuck : List Char → Prop
  | point (s : List Char) : Stuck ('.' :: s)
  | letter (s : List Char) : Stuck ('e' :: s)

theorem Delimits.head?_isDigit {rest : List Char} (h : Delimits rest) :
    rest.head?.any Char.isDigit = false := by
  cases h <;> rfl

theorem Stuck.head?_isDigit {rest : List Char} (h : Stuck rest) :
    rest.head?.any Char.isDigit = false := by
  cases h <;> rfl

/-! ## Scanning -/

theorem integerDigits_append {ds rest : List Char} (hds : IsNumeral ds)
    (hrest : rest.head?.any Char.isDigit = false) : integerDigits (ds ++ rest) = .ok (ds, rest) := by
  have hspan := span_append hds.areDigits hrest
  cases ds with
  | nil => exact absurd rfl hds.ne_nil
  | cons c ds =>
      have hc : c.isDigit = true := hds.areDigits c List.mem_cons_self
      by_cases hzero : c = '0'
      · subst hzero
        have hds : ds = [] := by
          by_contra hne
          exact hds.head?_ne_zero (Nat.succ_lt_succ (List.length_pos_of_ne_nil hne)) rfl
        subst hds
        change (if rest.head?.any Char.isDigit then _ else _) = _
        rw [hrest]
        rfl
      · rw [List.cons_append, integerDigits]
        · rw [if_pos hc, ← List.cons_append, hspan]
        · exact hzero

inductive IsFraction : List Char → Prop
  | mk {ds : List Char} (hds : AreDigits ds) (hne : ds ≠ []) : IsFraction ('.' :: ds)

inductive IsExponent : List Char → Prop
  | plus {ds : List Char} (hds : AreDigits ds) (hne : ds ≠ []) : IsExponent ('e' :: '+' :: ds)
  | minus {ds : List Char} (hds : AreDigits ds) (hne : ds ≠ []) : IsExponent ('e' :: '-' :: ds)

/-- What makes a numeral a floating point number. -/
inductive IsTail : List Char → Prop
  | fraction {f : List Char} (hf : IsFraction f) : IsTail f
  | exponent {e : List Char} (he : IsExponent e) : IsTail e
  | both {f e : List Char} (hf : IsFraction f) (he : IsExponent e) : IsTail (f ++ e)

theorem IsExponent.stuck {e : List Char} (h : IsExponent e) (rest : List Char) : Stuck (e ++ rest) := by
  cases h <;> exact .letter _

theorem IsTail.stuck {tail : List Char} (h : IsTail tail) (rest : List Char) : Stuck (tail ++ rest) := by
  cases h with
  | fraction hf =>
      cases hf
      exact .point _
  | exponent he => exact he.stuck rest
  | both hf he =>
      cases hf
      exact .point _

theorem head?_append_isDigit {ds : List Char} (hds : AreDigits ds) (hne : ds ≠ []) (rest : List Char) :
    (ds ++ rest).head?.any Char.isDigit = true := by
  cases ds with
  | nil => exact absurd rfl hne
  | cons c ds => exact hds c List.mem_cons_self

theorem skipExponent_append {e rest : List Char} (he : IsExponent e) (hrest : Delimits rest) :
    skipExponent (e ++ rest) = .ok ((), rest) := by
  cases he with
  | plus hds hne =>
      simp only [skipExponent, List.cons_append, List.drop_succ_cons, List.drop_zero,
        head?_append_isDigit hds hne, if_true, span_append hds hrest.head?_isDigit]
  | minus hds hne =>
      simp only [skipExponent, List.cons_append, List.drop_succ_cons, List.drop_zero,
        head?_append_isDigit hds hne, if_true, span_append hds hrest.head?_isDigit]

theorem skipNumber_numeral {ds rest : List Char} (hds : IsNumeral ds) (hrest : Delimits rest) :
    skipNumber (ds ++ rest) = .ok ((), rest) := by
  rw [skipNumber, integerDigits_append hds hrest.head?_isDigit]
  cases hrest <;> rfl

theorem skipNumber_tail {ds tail rest : List Char} (hds : IsNumeral ds) (htail : IsTail tail)
    (hrest : Delimits rest) : skipNumber (ds ++ (tail ++ rest)) = .ok ((), rest) := by
  rw [skipNumber, integerDigits_append hds (htail.stuck rest).head?_isDigit]
  cases htail with
  | fraction hf =>
      obtain ⟨hf, hne⟩ := hf
      simp only [List.cons_append, head?_append_isDigit hf hne, if_true,
        span_append hf hrest.head?_isDigit]
      cases hrest <;> rfl
  | exponent he =>
      have hskip := skipExponent_append he hrest
      cases he <;> exact hskip
  | @both f e hf he =>
      obtain ⟨hf, hne⟩ := hf
      have hskip := skipExponent_append he hrest
      simp only [List.cons_append, List.append_assoc, head?_append_isDigit hf hne, if_true,
        span_append hf (he.stuck rest).head?_isDigit]
      cases he <;> exact hskip

/-! ## Texts of numbers -/

theorem integerText_eq (n : Int) :
    ∃ sign, (sign = [] ∨ sign = ['-']) ∧ integerText n = sign ++ digits n.natAbs := by
  rw [integerText]
  split
  · exact ⟨['-'], .inr rfl, rfl⟩
  · exact ⟨[], .inl rfl, rfl⟩

namespace Binary64

/-- Only zero is rounded from zero. -/
theorem isZero_of_takesIn_zero {x : Binary64} {den : Nat} (h : x.takesIn 0 den = true) :
    x.isZero = true := by
  have hzero : zero x.negative = x := by simpa [takesIn, ofFraction] using h
  rw [← hzero]
  rfl

theorem takesIn_of_decimalOf? {x : Binary64} {k m : Nat} {power : Int}
    (h : x.decimalOf? k = some (m, power)) :
    x.takesIn (shift 10 m 1 (-power)).1 (shift 10 m 1 (-power)).2 = true := by
  unfold decimalOf? at h
  split at h
  simp only at h
  split at h
  · rename_i hreads
    obtain ⟨rfl, rfl⟩ := Prod.mk.inj (Option.some.inj h)
    exact hreads
  · split at h
    · rename_i hreads
      obtain ⟨rfl, rfl⟩ := Prod.mk.inj (Option.some.inj h)
      exact hreads
    · split at h
      · rename_i hreads
        obtain ⟨rfl, rfl⟩ := Prod.mk.inj (Option.some.inj h)
        exact hreads
      · exact absurd h (by simp)

theorem shift_zero (base den : Nat) (power : Int) : (shift base 0 den power).1 = 0 := by
  rw [shift]
  split
  · rfl
  · exact Nat.zero_mul _

/-- The digits of a number other than zero are zero only if none were found. -/
theorem power_of_shortest {x : Binary64} (hx : x.isZero = false) {m : Nat} {power : Int}
    (h : x.shortest = (m, power)) (hm : m = 0) : power = 0 := by
  rw [shortest] at h
  cases hfound : (List.range 17).findSome? fun k => x.decimalOf? (k + 1) with
  | none =>
      rw [hfound] at h
      exact (Prod.mk.inj h).2.symm
  | some found =>
      rw [hfound] at h
      obtain rfl : found = (m, power) := h
      obtain ⟨k, -, hk⟩ := List.exists_of_findSome?_eq_some hfound
      have htakes := takesIn_of_decimalOf? hk
      rw [hm, shift_zero] at htakes
      rw [isZero_of_takesIn_zero htakes] at hx
      exact absurd hx (by simp)

theorem power_of_withoutTrailingZeros (fuel : Nat) {m m' : Nat} {power power' : Int}
    (hpower : m = 0 → power = 0) (h : withoutTrailingZeros fuel m power = (m', power'))
    (hm : m' = 0) : power' = 0 := by
  induction fuel generalizing m power with
  | zero =>
      obtain ⟨rfl, rfl⟩ := Prod.mk.inj h
      exact hpower hm
  | succ fuel ih =>
      rw [withoutTrailingZeros] at h
      split at h
      · rename_i hzero
        exact ih (fun hdiv => absurd hdiv (by omega)) h
      · obtain ⟨rfl, rfl⟩ := Prod.mk.inj h
        exact hpower hm

end Binary64

theorem isNumeral_append {a b : List Char} (ha : IsNumeral a) (hhead : a.head? ≠ some '0')
    (hb : AreDigits b) : IsNumeral (a ++ b) where
  areDigits := Text.Decimal.areDigits_append ha.areDigits hb
  ne_nil := List.append_ne_nil_of_left_ne_nil ha.ne_nil b
  head?_ne_zero := by
    intro _
    rwa [List.head?_append_of_ne_nil _ ha.ne_nil]

theorem isNumeral_take {ds : List Char} (hds : IsNumeral ds) (hhead : ds.head? ≠ some '0') (k : Nat) :
    IsNumeral (ds.take (k + 1)) where
  areDigits c hc := hds.areDigits c (List.mem_of_mem_take hc)
  ne_nil := by
    cases ds with
    | nil => exact absurd rfl hds.ne_nil
    | cons c ds => exact List.cons_ne_nil _ _
  head?_ne_zero := by
    intro _
    cases ds with
    | nil => exact absurd rfl hds.ne_nil
    | cons c ds => exact hhead

theorem areDigits_replicate_zero (n : Nat) : AreDigits (List.replicate n '0') := by
  intro c hc
  rw [List.eq_of_mem_replicate hc]
  rfl

theorem isNumeral_singleton {c : Char} (h : c.isDigit = true) : IsNumeral [c] where
  areDigits d hd := by rwa [List.mem_singleton.1 hd]
  ne_nil := List.cons_ne_nil _ _
  head?_ne_zero hlong := absurd hlong (by simp)

/-- A decimal is laid out as a numeral and what makes it a floating point number. -/
theorem layOut_eq {ds : List Char} {power : Int} (hds : IsNumeral ds)
    (hpower : ds.head? = some '0' → power = 0) :
    ∃ numeral tail, IsNumeral numeral ∧ IsTail tail ∧
      Binary64.layOut Binary64.jsonForm ds power = numeral ++ tail := by
  have hlength : 0 < ds.length := List.length_pos_of_ne_nil hds.ne_nil
  unfold Binary64.layOut
  simp only
  split
  · split
    · rename_i hnonneg
      refine ⟨ds ++ List.replicate power.toNat '0', ['.', '0'], ?_,
        .fraction (.mk (areDigits_replicate_zero 1) (List.cons_ne_nil _ _)), rfl⟩
      by_cases hhead : ds.head? = some '0'
      · rw [hpower hhead]
        simpa using hds
      · exact isNumeral_append hds hhead (areDigits_replicate_zero _)
    · rename_i hneg
      have hhead : ds.head? ≠ some '0' := fun hhead => hneg (by rw [hpower hhead])
      split
      · rename_i hexponent
        refine ⟨_, '.' :: ds.drop _, isNumeral_take hds hhead _, .fraction (.mk ?_ ?_), rfl⟩
        · exact fun c hc => hds.areDigits c (List.mem_of_mem_drop hc)
        · rw [ne_eq, List.drop_eq_nil_iff]
          omega
      · refine ⟨['0'], '.' :: (List.replicate _ '0' ++ ds), isNumeral_singleton rfl,
          .fraction (.mk (Text.Decimal.areDigits_append (areDigits_replicate_zero _) hds.areDigits)
            (List.append_ne_nil_of_right_ne_nil _ hds.ne_nil)), rfl⟩
  · have hexponent (n : Nat) (p : Prop) [Decidable p] :
        IsExponent ('e' :: (if p then Binary64.jsonForm.plus.toList else ['-']) ++ digits n) := by
      split
      · exact .plus (Text.Decimal.areDigits_digits n) (Text.Decimal.digits_ne_nil n)
      · exact .minus (Text.Decimal.areDigits_digits n) (Text.Decimal.digits_ne_nil n)
    match ds with
    | [] => exact absurd rfl hds.ne_nil
    | [d] =>
        exact ⟨[d], _, isNumeral_singleton (hds.areDigits d List.mem_cons_self),
          .exponent (hexponent _ _), rfl⟩
    | d :: d' :: more =>
        have hmore : IsFraction ('.' :: d' :: more) :=
          .mk (fun c hc => hds.areDigits c (List.mem_cons_of_mem _ hc)) (List.cons_ne_nil _ _)
        exact ⟨[d], _, isNumeral_singleton (hds.areDigits d List.mem_cons_self),
          .both hmore (hexponent _ _), List.append_assoc (d :: '.' :: d' :: more) _ _⟩

theorem head?_digits_eq_zero {n : Nat} (h : (digits n).head? = some '0') : n = 0 := by
  have hshort : ¬ 1 < (digits n).length := fun hlong =>
    (Text.Decimal.isNumeral_digits n).head?_ne_zero hlong h
  obtain ⟨rest, hrest⟩ := List.head?_eq_some_iff.1 h
  have hvalue := Text.Decimal.value_digits n
  rw [hrest, List.length_cons] at hshort
  obtain rfl : rest = [] := List.eq_nil_of_length_eq_zero (by omega)
  rw [← hvalue, hrest]
  rfl

/-- The text of a floating point number: a sign, a numeral, and what makes it a floating point number. -/
theorem float_text_eq (x : Binary64) :
    ∃ sign numeral tail, (sign = [] ∨ sign = ['-']) ∧ IsNumeral numeral ∧ IsTail tail ∧
      x.text.toList = sign ++ (numeral ++ tail) := by
  have hsign : ∀ b : Bool, (if b then ['-'] else []) = [] ∨ (if b then ['-'] else []) = ['-'] := by
    decide
  rw [Binary64.text]
  simp only
  split
  · exact ⟨_, ['0'], ['.', '0'], hsign _, isNumeral_singleton rfl,
      .fraction (.mk (areDigits_replicate_zero 1) (List.cons_ne_nil _ _)), String.toList_ofList⟩
  · rename_i hx
    obtain ⟨m, power, hshortest⟩ : ∃ m power, x.shortest = (m, power) := ⟨_, _, rfl⟩
    obtain ⟨m', power', hstripped⟩ :
        ∃ m' power', Binary64.withoutTrailingZeros 20 m power = (m', power') := ⟨_, _, rfl⟩
    simp only [hshortest, hstripped]
    have hpower : m' = 0 → power' = 0 := Binary64.power_of_withoutTrailingZeros 20
      (Binary64.power_of_shortest (Bool.eq_false_iff.2 hx) hshortest) hstripped
    obtain ⟨numeral, tail, hnumeral, htail, hlayOut⟩ :=
      layOut_eq (Text.Decimal.isNumeral_digits m') fun hhead => hpower (head?_digits_eq_zero hhead)
    exact ⟨_, numeral, tail, hsign _, hnumeral, htail, by rw [String.toList_ofList, hlayOut]⟩

end AttributeSchema.Json
