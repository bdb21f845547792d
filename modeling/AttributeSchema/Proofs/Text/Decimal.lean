import Mathlib
import AttributeSchema.Text.Decimal
/-!
# Writing and reading decimal digits

The digits of a number spell that number again, also with zeros in front up to a width. No other digits
without leading zeros spell it, and no others of that width.
-/

namespace AttributeSchema.Text.Decimal

def AreDigits (ds : List Char) : Prop := ∀ c ∈ ds, c.isDigit = true

/-! ## Values -/

theorem foldl_value (n : Nat) (ds : List Char) :
    ds.foldl (fun n c => n * 10 + digitValue c) n = Nat.ofDigitChars 10 ds n := by
  rw [Nat.ofDigitChars_eq_foldl]
  congr 1
  funext m c
  rw [digitValue, Nat.mul_comm]
  rfl

theorem value_eq (ds : List Char) : value ds = Nat.ofDigitChars 10 ds 0 :=
  foldl_value 0 ds

@[simp] theorem value_nil : value [] = 0 := rfl

theorem value_append (a b : List Char) : value (a ++ b) = value a * 10 ^ b.length + value b := by
  rw [value_eq, Nat.ofDigitChars_append, Nat.ofDigitChars_eq_ofDigitChars_zero, ← value_eq a,
    ← value_eq b, Nat.mul_comm]

@[simp] theorem value_replicate_zero (n : Nat) : value (List.replicate n '0') = 0 := by
  rw [value_eq, Nat.ofDigitChars_replicate_zero, Nat.mul_zero]

@[simp] theorem value_digits (n : Nat) : value (digits n) = n := by
  rw [value_eq, digits, Nat.ofDigitChars_ten_toDigits]

/-! ## Digits -/

theorem areDigits_digits (n : Nat) : AreDigits (digits n) := fun _ hc =>
  Nat.isDigit_of_mem_toDigits (by decide) (by decide) hc

@[simp] theorem digits_ne_nil (n : Nat) : digits n ≠ [] := Nat.toDigits_ne_nil

theorem areDigits_append {a b : List Char} (ha : AreDigits a) (hb : AreDigits b) :
    AreDigits (a ++ b) := by
  intro c hc
  rcases List.mem_append.1 hc with hc | hc
  · exact ha c hc
  · exact hb c hc

theorem areDigits_padded (width n : Nat) : AreDigits (padded width n) := by
  apply areDigits_append
  · intro c hc
    rw [List.eq_of_mem_replicate hc]
    rfl
  · exact areDigits_digits n

@[simp] theorem value_padded (width n : Nat) : value (padded width n) = n := by
  simp [padded, value_append]

theorem length_padded {width n : Nat} (hwidth : 0 < width) (hn : n < 10 ^ width) :
    (padded width n).length = width := by
  have hlength : (digits n).length ≤ width :=
    (Nat.length_toDigits_le_iff (by decide) hwidth).2 hn
  simp only [padded, List.length_append, List.length_replicate]
  omega

theorem le_length_padded (width n : Nat) : width ≤ (padded width n).length := by
  simp only [padded, List.length_append, List.length_replicate]
  omega

/-- Digits in front of a text that goes on with something else are read in full. -/
theorem span_append {ds rest : List Char} (hds : AreDigits ds)
    (hrest : rest.head?.any Char.isDigit = false) : span (ds ++ rest) = (ds, rest) := by
  have htake : rest.takeWhile Char.isDigit = [] ∧ rest.dropWhile Char.isDigit = rest := by
    cases rest with
    | nil => simp
    | cons c rest =>
        have hc : c.isDigit = false := by simpa using hrest
        simp [hc]
  rw [span, List.takeWhile_append_of_pos hds, List.dropWhile_append_of_pos hds, htake.1, htake.2,
    List.append_nil]

/-! ## The digits of a number are unique -/

theorem value_cons (c : Char) (ds : List Char) :
    value (c :: ds) = digitValue c * 10 ^ ds.length + value ds := by
  have hsingle : value [c] = digitValue c := by simp [value]
  rw [← List.singleton_append, value_append, hsingle]

theorem digitValue_of_isDigit {c : Char} (h : c.isDigit = true) :
    digitValue c < 10 ∧ c.toNat = digitValue c + 48 := by
  have hc : 48 ≤ c.toNat ∧ c.toNat ≤ 57 := Char.isDigit_iff_toNat.1 h
  unfold digitValue
  omega

theorem value_lt {ds : List Char} (h : AreDigits ds) : value ds < 10 ^ ds.length := by
  induction ds with
  | nil => simp
  | cons c ds ih =>
      have hc := (digitValue_of_isDigit (h c List.mem_cons_self)).1
      have hds := ih fun d hd => h d (List.mem_cons_of_mem _ hd)
      calc
        value (c :: ds) = digitValue c * 10 ^ ds.length + value ds := value_cons c ds
        _ < digitValue c * 10 ^ ds.length + 10 ^ ds.length := Nat.add_lt_add_left hds _
        _ = (digitValue c + 1) * 10 ^ ds.length := (Nat.succ_mul _ _).symm
        _ ≤ 10 * 10 ^ ds.length := Nat.mul_le_mul_right _ hc
        _ = 10 ^ (c :: ds).length := by rw [List.length_cons, Nat.pow_succ, Nat.mul_comm]

/-- Digits of one length that spell the same number are the same. -/
theorem eq_of_value_eq {a b : List Char} (ha : AreDigits a) (hb : AreDigits b)
    (hlength : a.length = b.length) (hvalue : value a = value b) : a = b := by
  induction a generalizing b with
  | nil => exact (List.eq_nil_of_length_eq_zero hlength.symm).symm
  | cons c a ih =>
      cases b with
      | nil => exact absurd hlength (by simp)
      | cons d b =>
          have ha' : AreDigits a := fun e he => ha e (List.mem_cons_of_mem _ he)
          have hb' : AreDigits b := fun e he => hb e (List.mem_cons_of_mem _ he)
          have hlength : a.length = b.length := Nat.succ.inj hlength
          have hpos : 0 < 10 ^ b.length := Nat.pow_pos (by decide)
          rw [value_cons, value_cons, hlength, Nat.mul_comm, Nat.mul_comm (digitValue d)] at hvalue
          have hfirst : digitValue c = digitValue d := by
            have hdiv := congrArg (· / 10 ^ b.length) hvalue
            simp only [Nat.mul_add_div hpos, Nat.div_eq_of_lt (hlength ▸ value_lt ha'),
              Nat.div_eq_of_lt (value_lt hb')] at hdiv
            exact hdiv
          have hchar : c = d := by
            apply Char.toNat_inj.1
            rw [(digitValue_of_isDigit (ha c List.mem_cons_self)).2,
              (digitValue_of_isDigit (hb d List.mem_cons_self)).2, hfirst]
          rw [hchar, ih ha' hb' hlength (Nat.add_left_cancel (hfirst ▸ hvalue))]

/-- Digits are those of the number that they spell, padded to their own length. -/
theorem padded_value {ds : List Char} (h : AreDigits ds) (hne : ds ≠ []) :
    padded ds.length (value ds) = ds :=
  eq_of_value_eq (areDigits_padded _ _) h
    (length_padded (List.length_pos_of_ne_nil hne) (value_lt h)) (value_padded _ _)

structure IsNumeral (ds : List Char) : Prop where
  areDigits : AreDigits ds
  ne_nil : ds ≠ []
  head?_ne_zero : 1 < ds.length → ds.head? ≠ some '0'

theorem isNumeral_digits (n : Nat) : IsNumeral (digits n) where
  areDigits := areDigits_digits n
  ne_nil := digits_ne_nil n
  head?_ne_zero := by
    intro hlong hzero
    obtain ⟨rest, hrest⟩ := List.head?_eq_some_iff.1 hzero
    -- Without the zero in front the digits would spell the number in a shorter way.
    have hvalue : value rest = n := by
      have hdigits := value_digits n
      rwa [hrest, value_cons, show digitValue '0' = 0 from rfl, Nat.zero_mul, Nat.zero_add] at hdigits
    have hbound : n < 10 ^ rest.length := by
      rw [← hvalue]
      exact value_lt fun c hc => areDigits_digits n c (hrest ▸ List.mem_cons_of_mem _ hc)
    rw [hrest, List.length_cons] at hlong
    have hshort : (digits n).length ≤ rest.length :=
      (Nat.length_toDigits_le_iff (by decide) (by omega)).2 hbound
    rw [hrest, List.length_cons] at hshort
    omega

/-- A numeral is made of the digits of the number that it spells. -/
theorem digits_value {ds : List Char} (h : IsNumeral ds) : digits (value ds) = ds := by
  refine eq_of_value_eq (areDigits_digits _) h.areDigits ?_ (value_digits _)
  have hpos := List.length_pos_of_ne_nil h.ne_nil
  have hle : (digits (value ds)).length ≤ ds.length :=
    (Nat.length_toDigits_le_iff (by decide) hpos).2 (value_lt h.areDigits)
  refine Nat.le_antisymm hle (Nat.not_lt.1 fun hlt => ?_)
  have hnonempty := List.length_pos_of_ne_nil (digits_ne_nil (value ds))
  have hsmall : value ds < 10 ^ (ds.length - 1) :=
    (Nat.length_toDigits_le_iff (by decide) (by omega)).1 (Nat.le_sub_one_of_lt hlt)
  cases ds with
  | nil => exact absurd hpos (by simp)
  | cons c rest =>
      have hdigit := digitValue_of_isDigit (h.areDigits c List.mem_cons_self)
      have hfirst : digitValue c ≠ 0 := by
        intro hzero
        have hchar : c = '0' := Char.toNat_inj.1 (by rw [hdigit.2, hzero]; rfl)
        exact h.head?_ne_zero (by omega) (by rw [hchar]; rfl)
      rw [value_cons, List.length_cons, Nat.add_sub_cancel] at hsmall
      have hlarge : 1 * 10 ^ rest.length ≤ digitValue c * 10 ^ rest.length :=
        Nat.mul_le_mul_right _ (Nat.one_le_iff_ne_zero.2 hfirst)
      omega

end AttributeSchema.Text.Decimal
