import AttributeSchema.Proofs.Time.DurationGrammar
/-!
# Fractions of any length

Eighteen digits of a fraction count. A second is a power of ten of nanoseconds, and so are the smaller
units, so that further digits never make up a nanosecond. With a minute or an hour they may complete one,
which is then lost.
-/

namespace AttributeSchema.Duration

open Text Decimal

/-! ## What a number says with all its digits -/

def wholePart (number : List Char) : List Char := number.takeWhile (· != '.')

def fractionPart (number : List Char) : List Char := (number.dropWhile (· != '.')).drop 1

def countedPart (number : List Char) : List Char := (fractionPart number).take 18

def ignoredPart (number : List Char) : List Char := (fractionPart number).drop 18

def rational (number : List Char) : ℚ :=
  value (wholePart number) + value (fractionPart number) / 10 ^ (fractionPart number).length

/-- The ignored digits complete a nanosecond that the counted ones have begun. -/
def Carries (scale : Nat) (number : List Char) : Prop :=
  10 ^ (countedPart number).length * 10 ^ (ignoredPart number).length ≤
    value (countedPart number) * scale % 10 ^ (countedPart number).length *
      10 ^ (ignoredPart number).length + value (ignoredPart number) * scale

instance (scale : Nat) (number : List Char) : Decidable (Carries scale number) :=
  inferInstanceAs (Decidable (_ ≤ _))

/-- The nanoseconds that are lost with the ignored digits. -/
def lost (scale : Nat) (number : List Char) : Nat := if Carries scale number then 1 else 0

/-! ## Truncated quotients -/

section

variable {a b p q s : Nat}

/-- A numerator without its last digits gives the same quotient, or one less. -/
theorem add_mul_div_carry (hp : 0 < p) (hs : s ≤ p) (hb : b < q) :
    (a * q + b) * s / (p * q) =
      a * s / p + if p * q ≤ a * s % p * q + b * s then 1 else 0 := by
  have hq : 0 < q := Nat.zero_lt_of_lt hb
  have hsplit : (a * q + b) * s = p * q * (a * s / p) + (a * s % p * q + b * s) := by
    calc (a * q + b) * s = a * s * q + b * s := by ring
      _ = (p * (a * s / p) + a * s % p) * q + b * s := by rw [Nat.div_add_mod]
      _ = p * q * (a * s / p) + (a * s % p * q + b * s) := by ring
  -- What the quotient of the counted digits leaves, with the last digits, is less than two denominators.
  have hrest : a * s % p * q + b * s < (1 + 1) * (p * q) := by
    have hmod : a * s % p * q < p * q := Nat.mul_lt_mul_of_pos_right (Nat.mod_lt _ hp) hq
    have hlast : b * s ≤ p * q := by
      calc b * s ≤ q * p := Nat.mul_le_mul hb.le hs
        _ = p * q := Nat.mul_comm q p
    omega
  rw [hsplit, Nat.mul_add_div (Nat.mul_pos hp hq)]
  congr 1
  split
  · rename_i hcarry
    exact Nat.div_eq_of_lt_le (by rwa [Nat.one_mul]) hrest
  · rename_i hcarry
    exact Nat.div_eq_of_lt (Nat.not_le.1 hcarry)

/-- Where the scale divides the denominator, the last digits never carry. -/
theorem mod_mul_add_lt (hp : 0 < p) (hs : s ∣ p) (hb : b < q) :
    a * s % p * q + b * s < p * q := by
  obtain ⟨k, rfl⟩ := hs
  have hspos : 0 < s := Nat.pos_of_mul_pos_right hp
  have hk : 0 < k := Nat.pos_of_mul_pos_left hp
  have hmod : a * s % (s * k) = s * (a % k) := by
    rw [Nat.mul_comm a s, Nat.mul_mod_mul_left]
  have hlt : a % k + 1 ≤ k := Nat.mod_lt a hk
  calc a * s % (s * k) * q + b * s = s * (a % k) * q + b * s := by rw [hmod]
    _ < s * (a % k) * q + q * s := Nat.add_lt_add_left (Nat.mul_lt_mul_of_pos_right hb hspos) _
    _ = s * (a % k + 1) * q := by ring
    _ ≤ s * k * q := Nat.mul_le_mul_right q (Nat.mul_le_mul_left s hlt)

end

/-! ## The digits that count -/

variable {unit : String} {number : List Char} {scale whole nanos : Nat}

theorem floor_rational (number : List Char) (scale : Nat) :
    ⌊rational number * scale⌋₊ = value (wholePart number) * scale +
      value (fractionPart number) * scale / 10 ^ (fractionPart number).length := by
  have hsplit : rational number * scale =
      ((value (fractionPart number) * scale : Nat) : ℚ) /
        ((10 ^ (fractionPart number).length : Nat) : ℚ) +
      ((value (wholePart number) * scale : Nat) : ℚ) := by
    rw [rational]
    push_cast
    ring
  rw [hsplit, Nat.floor_add_natCast (by positivity), Nat.floor_div_eq_div, Nat.add_comm]

theorem ignoredPart_or (number : List Char) :
    ignoredPart number = [] ∨ (countedPart number).length = 18 := by
  rcases Nat.le_total (fractionPart number).length 18 with hshort | hlong
  · exact .inl (List.drop_eq_nil_of_le hshort)
  · exact .inr (List.length_take_of_le hlong)

theorem not_carries_of_ignoredPart (h : ignoredPart number = []) : ¬ Carries scale number := by
  have hmod : value (countedPart number) * scale % 10 ^ (countedPart number).length <
      10 ^ (countedPart number).length := Nat.mod_lt _ (Nat.pow_pos (by decide))
  rw [Carries, h]
  simpa using hmod

/-- A scale that is a power of ten of nanoseconds loses nothing. -/
theorem not_carries (hscale : scale ∣ 10 ^ 18) (hignored : AreDigits (ignoredPart number)) :
    ¬ Carries scale number := by
  rcases ignoredPart_or number with hnone | hcounted
  · exact not_carries_of_ignoredPart hnone
  · rw [Carries, hcounted, Nat.not_le]
    exact mod_mul_add_lt (by decide) hscale (value_lt hignored)

/-- All digits say what the counted ones say, and at most one nanosecond more. -/
theorem fraction_div (hscale : scale ≤ 10 ^ 18) (hignored : AreDigits (ignoredPart number)) :
    value (fractionPart number) * scale / 10 ^ (fractionPart number).length =
      value (countedPart number) * scale / 10 ^ (countedPart number).length + lost scale number := by
  have hparts : fractionPart number = countedPart number ++ ignoredPart number :=
    (List.take_append_drop 18 _).symm
  rw [hparts, value_append, List.length_append, Nat.pow_add]
  rcases ignoredPart_or number with hnone | hcounted
  · rw [lost, if_neg (not_carries_of_ignoredPart hnone), hnone]
    simp
  · have hpower : scale ≤ 10 ^ (countedPart number).length := hcounted ▸ hscale
    exact add_mul_div_carry (Nat.pow_pos (by decide)) hpower (value_lt hignored)

/-! ## Numbers with a unit -/

theorem scale_le_of_mem_units (h : (unit, scale) ∈ units) : 1 ≤ scale ∧ scale ≤ 10 ^ 18 := by
  have hall : ∀ u ∈ units, 1 ≤ u.2 ∧ u.2 ≤ 10 ^ 18 := by decide
  exact hall _ h

theorem dvd_of_mem_units (h : (unit, scale) ∈ units) (hunit : unit ≠ "m" ∧ unit ≠ "h") :
    scale ∣ 10 ^ 18 := by
  have hall : ∀ u ∈ units, u.1 ≠ "m" ∧ u.1 ≠ "h" → u.2 ∣ 10 ^ 18 := by decide
  exact hall _ h hunit

/-- A number says what its whole part and its counted digits say. -/
theorem parts_of_isAmount (h : IsAmount scale number whole nanos) :
    AreDigits (ignoredPart number) ∧
      nanos = value (wholePart number) * scale +
        value (countedPart number) * scale / 10 ^ (countedPart number).length := by
  cases h with
  | whole hds hne =>
      obtain ⟨htake, hdrop⟩ := takeWhile_ne_point_of_areDigits hds
      simp [AreDigits, wholePart, countedPart, ignoredPart, fractionPart, htake, hdrop]
  | @fractional ds fraction hds hfraction hne =>
      obtain ⟨htake, hdrop⟩ := takeWhile_ne_point hds fraction
      have hignored : AreDigits (fraction.drop 18) := fun c hc =>
        hfraction c (List.mem_of_mem_drop hc)
      simpa [wholePart, countedPart, ignoredPart, fractionPart, htake, hdrop] using hignored

/-- A number in a known unit is read exactly, but for what is lost with the ignored digits. -/
theorem scaled_ok_iff_floor (hunit : (unit, scale) ∈ units)
    (hnumeric : ∀ c ∈ number, isNumeric c = true) :
    scaled number scale = .ok nanos ↔
      IsNumber number ∧ nanos < 2 ^ 128 ∧ nanos + lost scale number = ⌊rational number * scale⌋₊ := by
  obtain ⟨hone, hscale⟩ := scale_le_of_mem_units hunit
  by_cases hnumber : IsNumber number
  · obtain ⟨whole, amount, hamount⟩ := exists_isAmount hnumeric hnumber scale
    obtain ⟨hignored, hparts⟩ := parts_of_isAmount hamount
    have hwhole := whole_le_of_isAmount hone hamount
    have hfloor : ⌊rational number * scale⌋₊ = amount + lost scale number := by
      rw [floor_rational, fraction_div hscale hignored, hparts, Nat.add_assoc]
    rw [scaled_of_isAmount hamount, hfloor, limit_eq]
    split
    · constructor
      · intro h
        exact absurd h (by simp)
      · rintro ⟨-, hlt, heq⟩
        omega
    · simp only [Except.ok.injEq, hnumber, true_and]
      omega
  · rw [scaled_of_not_isNumber hnumeric hnumber]
    simp [hnumber]

/-! ## Minutes and hours -/

/-- A little more than a nanosecond, in minutes. -/
def minuteDigits : List Char := "0.0000000000166666666666666667".toList

def hourDigits : List Char := "0.0000000000002777777777777777778".toList

theorem scaled_minuteDigits :
    minuteDigits.all isNumeric = true ∧ scaled minuteDigits (60 * 1_000_000_000) = .ok 0 ∧
      Carries (60 * 1_000_000_000) minuteDigits := by
  decide +kernel

theorem scaled_hourDigits :
    hourDigits.all isNumeric = true ∧ scaled hourDigits (3600 * 1_000_000_000) = .ok 0 ∧
      Carries (3600 * 1_000_000_000) hourDigits := by
  decide +kernel

theorem ne_floor_of_carries (hunit : (unit, scale) ∈ units)
    (hnumeric : ∀ c ∈ number, isNumeric c = true) (h : scaled number scale = .ok nanos)
    (hcarries : Carries scale number) : nanos ≠ ⌊rational number * scale⌋₊ := by
  obtain ⟨-, -, hfloor⟩ := (scaled_ok_iff_floor hunit hnumeric).1 h
  rw [lost, if_pos hcarries] at hfloor
  omega

theorem eq_floor_iff_unit (hunit : (unit, scale) ∈ units) :
    (∀ number nanos, (∀ c ∈ number, isNumeric c = true) → scaled number scale = .ok nanos →
      nanos = ⌊rational number * scale⌋₊) ↔ unit ≠ "m" ∧ unit ≠ "h" := by
  constructor
  · intro hexact
    have hloses {digits : List Char} (h : digits.all isNumeric = true ∧
        scaled digits scale = .ok 0 ∧ Carries scale digits) : False := by
      obtain ⟨hnumeric, hscaled, hcarries⟩ := h
      rw [List.all_eq_true] at hnumeric
      exact ne_floor_of_carries hunit hnumeric hscaled hcarries (hexact digits 0 hnumeric hscaled)
    constructor
    · rintro rfl
      obtain rfl : scale = 60 * 1_000_000_000 := by simpa [units] using hunit
      exact hloses scaled_minuteDigits
    · rintro rfl
      obtain rfl : scale = 3600 * 1_000_000_000 := by simpa [units] using hunit
      exact hloses scaled_hourDigits
  · intro hsmall number nanos hnumeric h
    obtain ⟨hnumber, -, hfloor⟩ := (scaled_ok_iff_floor hunit hnumeric).1 h
    obtain ⟨whole, amount, hamount⟩ := exists_isAmount hnumeric hnumber scale
    have hcarries := not_carries (dvd_of_mem_units hunit hsmall) (parts_of_isAmount hamount).1
    rwa [lost, if_neg hcarries, Nat.add_zero] at hfloor

/-- What a number says in a unit is what all its digits say, rounded down, less a nanosecond if the
ignored digits complete one. They never do in units up to the second, and sometimes in minutes and hours. -/
theorem scaled_floor {unit : String} {scale : Nat} (hunit : (unit, scale) ∈ units) :
    (∀ number nanos, (∀ c ∈ number, isNumeric c = true) →
      (scaled number scale = .ok nanos ↔ IsNumber number ∧ nanos < 2 ^ 128 ∧
        nanos + (if Carries scale number then 1 else 0) = ⌊rational number * scale⌋₊)) ∧
    ((∀ number nanos, (∀ c ∈ number, isNumeric c = true) → scaled number scale = .ok nanos →
      nanos = ⌊rational number * scale⌋₊) ↔ unit ≠ "m" ∧ unit ≠ "h") :=
  ⟨fun _ _ hnumeric => scaled_ok_iff_floor hunit hnumeric, eq_floor_iff_unit hunit⟩

/-- The digits of a third are cut without a loss. -/
theorem scaled_floor_third :
    ("h", 3600 * 1_000_000_000) ∈ units ∧
      scaled "1.333333333333333333333".toList (3600 * 1_000_000_000) = .ok 4_799_999_999_999 ∧
      4_799_999_999_999 =
        ⌊rational "1.333333333333333333333".toList * ((3600 * 1_000_000_000 : Nat) : ℚ)⌋₊ := by
  have hunit : ("h", 3600 * 1_000_000_000) ∈ units := by decide
  have hscaled : scaled "1.333333333333333333333".toList (3600 * 1_000_000_000) =
      .ok 4_799_999_999_999 := by
    decide +kernel
  have hcarries : ¬ Carries (3600 * 1_000_000_000) "1.333333333333333333333".toList := by
    decide +kernel
  have hnumeric : ∀ c ∈ "1.333333333333333333333".toList, isNumeric c = true :=
    List.all_eq_true.1 (by decide)
  have hfloor := (((scaled_floor hunit).1 _ _ hnumeric).1 hscaled).2.2
  rw [if_neg hcarries, Nat.add_zero] at hfloor
  exact ⟨hunit, hscaled, hfloor⟩

/-- A fraction of a minute that is longer than a nanosecond is read as no time at all. -/
theorem nanosecond_lost :
    scaled minuteDigits (60 * 1_000_000_000) = .ok 0 ∧
      ⌊rational minuteDigits * ((60 * 1_000_000_000 : Nat) : ℚ)⌋₊ = 1 ∧
      ofText "0.0000000000166666666666666667m" = .ok .zero := by
  have hunit : ("m", 60 * 1_000_000_000) ∈ units := by decide
  obtain ⟨hnumeric, hscaled, hcarries⟩ := scaled_minuteDigits
  obtain ⟨-, -, hfloor⟩ := (scaled_ok_iff_floor hunit (List.all_eq_true.1 hnumeric)).1 hscaled
  rw [lost, if_pos hcarries] at hfloor
  exact ⟨hscaled, hfloor.symm, by decide +kernel⟩

end AttributeSchema.Duration
