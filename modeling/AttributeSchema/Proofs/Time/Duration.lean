import AttributeSchema.Proofs.Text.Blank
import AttributeSchema.Proofs.Text.Decimal
import AttributeSchema.Time.Duration
import Mathlib.Data.List.TakeWhile
/-!
# Durations survive their text

The shortest text of a duration is a sequence of proper parts: hours, minutes and seconds. Reading cuts
the text into these parts again, and what they say adds up to the duration.
-/

namespace AttributeSchema.Duration

open Text Decimal

/-! ## Cutting texts into parts -/

def Part.text (p : Part) : List Char := p.number ++ p.unit

/-- A part whose number and unit are told apart by their characters. -/
structure Part.IsProper (p : Part) : Prop where
  number_ne_nil : p.number ≠ []
  number_isNumeric : ∀ c ∈ p.number, isNumeric c = true
  unit_ne_nil : p.unit ≠ []
  unit_isNotNumeric : ∀ c ∈ p.unit, isNumeric c = false

theorem isNumeric_of_isDigit {c : Char} (h : c.isDigit = true) : isNumeric c = true := by
  simp [isNumeric, h]

theorem Part.isProper_of_digits {number unit : List Char} (hnumber : AreDigits number)
    (hne : number ≠ []) (hunit : unit ≠ []) (hletters : ∀ c ∈ unit, isNumeric c = false) :
    Part.IsProper ⟨number, unit⟩ :=
  ⟨hne, fun c hc => isNumeric_of_isDigit (hnumber c hc), hunit, hletters⟩

/-- A part is cut off from what follows it, if its number and its unit end only where they have to. -/
theorem parts_of_cut {p : Part} (hnumber : ∀ c ∈ p.number, isNumeric c = true)
    (hunit : ∀ c ∈ p.unit, isNumeric c = false) (hne : p.text ≠ []) {rest : List Char}
    (hnumberEnd : p.unit = [] → rest = []) (hunitEnd : rest.head?.all isNumeric = true) :
    parts (p.text ++ rest) = p :: parts rest := by
  obtain ⟨number, unit⟩ := p
  have hnot : ∀ c ∈ unit, (!isNumeric c) = true := fun c hc => by simp [hunit c hc]
  have hbehind : (unit ++ rest).takeWhile isNumeric = [] ∧
      (unit ++ rest).dropWhile isNumeric = unit ++ rest := by
    cases unit with
    | nil => simp [hnumberEnd rfl]
    | cons c unit => simp [hunit c List.mem_cons_self]
  have hrest : rest.takeWhile (!isNumeric ·) = [] ∧ rest.dropWhile (!isNumeric ·) = rest := by
    cases rest with
    | nil => simp
    | cons c rest =>
        have hc : isNumeric c = true := by simpa using hunitEnd
        simp [hc]
  have htext : Part.text ⟨number, unit⟩ ++ rest = number ++ (unit ++ rest) := by
    simp [Part.text]
  rw [htext]
  cases hs : number ++ (unit ++ rest) with
  | nil =>
      rw [hs] at htext
      exact absurd (List.append_eq_nil_iff.1 htext).1 hne
  | cons c s =>
      rw [parts, ← hs, List.takeWhile_append_of_pos hnumber, List.dropWhile_append_of_pos hnumber,
        hbehind.1, hbehind.2, List.takeWhile_append_of_pos hnot, List.dropWhile_append_of_pos hnot,
        hrest.1, hrest.2, List.append_nil, List.append_nil]

theorem parts_text_append {p : Part} (hp : p.IsProper) {rest : List Char}
    (hrest : rest.head?.all isNumeric = true) : parts (p.text ++ rest) = p :: parts rest :=
  parts_of_cut hp.number_isNumeric hp.unit_isNotNumeric
    (List.append_ne_nil_of_left_ne_nil hp.number_ne_nil _)
    (fun hnil => absurd hnil hp.unit_ne_nil) hrest

theorem head?_flatMap_text {ps : List Part} (h : ∀ p ∈ ps, p.IsProper) :
    (ps.flatMap Part.text).head?.all isNumeric = true := by
  cases ps with
  | nil => rfl
  | cons p ps =>
      obtain ⟨number, unit⟩ := p
      obtain ⟨hne, hnumber, -, -⟩ := h _ List.mem_cons_self
      cases number with
      | nil => exact absurd rfl hne
      | cons c number => simpa [Part.text] using hnumber c List.mem_cons_self

/-- Proper parts written one after the other are cut apart again. -/
theorem parts_flatMap_text {ps : List Part} (h : ∀ p ∈ ps, p.IsProper) :
    parts (ps.flatMap Part.text) = ps := by
  induction ps with
  | nil => rw [List.flatMap_nil, parts]
  | cons p ps ih =>
      have hps : ∀ q ∈ ps, q.IsProper := fun q hq => h q (List.mem_cons_of_mem _ hq)
      rw [List.flatMap_cons, parts_text_append (h p List.mem_cons_self) (head?_flatMap_text hps),
        ih hps]

/-! ## The parts of the shortest text -/

def hoursParts (hours : Nat) : List Part := if 0 < hours then [⟨digits hours, ['h']⟩] else []

def minutesParts (minutes : Nat) : List Part :=
  if 0 < minutes then [⟨digits minutes, ['m']⟩] else []

def secondsNumber (seconds nanos : Nat) : List Char :=
  digits seconds ++ '.' :: withoutZeros (padded 9 nanos)

def secondsParts (seconds nanos : Nat) : List Part :=
  if 0 < nanos then [⟨secondsNumber seconds nanos, ['s']⟩]
  else if 0 < seconds then [⟨digits seconds, ['s']⟩]
  else []

def shortParts (d : Duration) : List Part :=
  if d.nanoseconds = 0 then [⟨digits 0, ['s']⟩]
  else
    hoursParts (d.seconds / 3600) ++ minutesParts (d.seconds % 3600 / 60) ++
      secondsParts (d.seconds % 60) d.subsecond

theorem text_eq_flatMap (d : Duration) : d.text = d.shortParts.flatMap Part.text := by
  have hhours (n : Nat) : (hoursParts n).flatMap Part.text = hoursText n := by
    unfold hoursParts hoursText
    split <;> simp [Part.text]
  have hminutes (n : Nat) : (minutesParts n).flatMap Part.text = minutesText n := by
    unfold minutesParts minutesText
    split <;> simp [Part.text]
  have hseconds (s n : Nat) : (secondsParts s n).flatMap Part.text = secondsText s n := by
    unfold secondsParts secondsText
    split
    · simp [Part.text, secondsNumber]
    · split <;> simp [Part.text]
  unfold text shortParts
  split
  · rfl
  · rw [List.flatMap_append, List.flatMap_append, hhours, hminutes, hseconds]

/-- The zeros that go are the last digits. -/
theorem withoutZeros_append_replicate (ds : List Char) :
    ∃ n, withoutZeros ds ++ List.replicate n '0' = ds := by
  have hzeros : (ds.reverse.takeWhile (· == '0')).reverse =
      List.replicate (ds.reverse.takeWhile (· == '0')).length '0' := by
    rw [List.eq_replicate_iff]
    refine ⟨List.length_reverse, fun c hc => ?_⟩
    have hall := List.all_takeWhile (l := ds.reverse) (p := (· == '0'))
    exact beq_iff_eq.1 (List.all_eq_true.1 hall c (List.mem_reverse.1 hc))
  refine ⟨(ds.reverse.takeWhile (· == '0')).length, ?_⟩
  rw [← hzeros, withoutZeros, ← List.reverse_append, List.takeWhile_append_dropWhile,
    List.reverse_reverse]

theorem areDigits_withoutZeros {ds : List Char} (h : AreDigits ds) :
    AreDigits (withoutZeros ds) := by
  obtain ⟨n, hn⟩ := withoutZeros_append_replicate ds
  intro c hc
  exact h c (hn ▸ List.mem_append_left _ hc)

theorem secondsNumber_isNumeric (seconds nanos : Nat) :
    ∀ c ∈ secondsNumber seconds nanos, isNumeric c = true := by
  intro c hc
  rcases List.mem_append.1 hc with hc | hc
  · exact isNumeric_of_isDigit (areDigits_digits seconds c hc)
  · rcases List.mem_cons.1 hc with rfl | hc
    · rfl
    · exact isNumeric_of_isDigit (areDigits_withoutZeros (areDigits_padded 9 nanos) c hc)

theorem eq_of_mem_hoursParts {n : Nat} {p : Part} (h : p ∈ hoursParts n) : p = ⟨digits n, ['h']⟩ := by
  unfold hoursParts at h
  split at h
  · exact List.mem_singleton.1 h
  · exact absurd h List.not_mem_nil

theorem eq_of_mem_minutesParts {n : Nat} {p : Part} (h : p ∈ minutesParts n) :
    p = ⟨digits n, ['m']⟩ := by
  unfold minutesParts at h
  split at h
  · exact List.mem_singleton.1 h
  · exact absurd h List.not_mem_nil

theorem eq_of_mem_secondsParts {seconds nanos : Nat} {p : Part} (h : p ∈ secondsParts seconds nanos) :
    p = ⟨secondsNumber seconds nanos, ['s']⟩ ∨ p = ⟨digits seconds, ['s']⟩ := by
  unfold secondsParts at h
  split at h
  · exact .inl (List.mem_singleton.1 h)
  · split at h
    · exact .inr (List.mem_singleton.1 h)
    · exact absurd h List.not_mem_nil

/-- The parts of the shortest text are whole hours, minutes or seconds, or seconds with a fraction. -/
theorem forall_mem_shortParts {P : Part → Prop}
    (hwhole : ∀ (n : Nat), ∀ u ∈ ['h', 'm', 's'], P ⟨digits n, [u]⟩)
    (hfraction : ∀ seconds nanos : Nat, P ⟨secondsNumber seconds nanos, ['s']⟩) (d : Duration) :
    ∀ p ∈ d.shortParts, P p := by
  intro p hp
  unfold shortParts at hp
  split at hp
  · rw [List.mem_singleton.1 hp]
    exact hwhole _ _ (by simp)
  · rcases List.mem_append.1 hp with hp | hp
    · rcases List.mem_append.1 hp with hp | hp
      · rw [eq_of_mem_hoursParts hp]
        exact hwhole _ _ (by simp)
      · rw [eq_of_mem_minutesParts hp]
        exact hwhole _ _ (by simp)
    · rcases eq_of_mem_secondsParts hp with rfl | rfl
      · exact hfraction _ _
      · exact hwhole _ _ (by simp)

theorem isProper_of_mem_shortParts (d : Duration) : ∀ p ∈ d.shortParts, p.IsProper := by
  apply forall_mem_shortParts
  · intro n u hu
    have hletter : isNumeric u = false := by
      simp only [List.mem_cons, List.not_mem_nil, or_false] at hu
      rcases hu with rfl | rfl | rfl <;> rfl
    exact Part.isProper_of_digits (areDigits_digits n) (digits_ne_nil n) (by simp)
      (by simp [hletter])
  · intro seconds nanos
    exact ⟨by simp [secondsNumber], secondsNumber_isNumeric _ _, by simp, by simp [isNumeric]⟩

/-! ## What parts say -/

theorem ne_point_of_areDigits {ds : List Char} (h : AreDigits ds) : ∀ c ∈ ds, (c != '.') = true := by
  intro c hc
  rw [bne_iff_ne]
  rintro rfl
  exact absurd (h _ hc) (by decide)

theorem takeWhile_ne_point {ds : List Char} (h : AreDigits ds) (rest : List Char) :
    (ds ++ '.' :: rest).takeWhile (· != '.') = ds ∧
      (ds ++ '.' :: rest).dropWhile (· != '.') = '.' :: rest := by
  rw [List.takeWhile_append_of_pos (ne_point_of_areDigits h),
    List.dropWhile_append_of_pos (ne_point_of_areDigits h)]
  simp

theorem takeWhile_ne_point_of_areDigits {ds : List Char} (h : AreDigits ds) :
    ds.takeWhile (· != '.') = ds ∧ ds.dropWhile (· != '.') = [] :=
  ⟨List.takeWhile_eq_self_iff.2 (ne_point_of_areDigits h),
    List.dropWhile_eq_nil_iff.2 (ne_point_of_areDigits h)⟩

theorem scaled_of_areDigits {whole : List Char} {scale : Nat} (hne : whole ≠ [])
    (hwhole : AreDigits whole) :
    scaled whole scale =
      if limit ≤ value whole ∨ limit ≤ value whole * scale then .error .outOfRange
      else .ok (value whole * scale) := by
  obtain ⟨htake, hdrop⟩ := takeWhile_ne_point_of_areDigits hwhole
  simp only [scaled, htake, hdrop, List.drop_nil, List.take_nil, value_nil, List.isEmpty_iff,
    Nat.zero_mul, Nat.zero_div, Nat.add_zero]
  rw [if_neg (by simp [hne]), if_neg (by simp)]
  grind

/-- A number of units with a fraction, of which not all digits count. -/
theorem scaled_append_point {whole fraction : List Char} {scale : Nat}
    (hne : whole ≠ [] ∨ fraction ≠ []) (hwhole : AreDigits whole) (hfraction : AreDigits fraction) :
    scaled (whole ++ '.' :: fraction) scale =
      if limit ≤ value whole ∨
          limit ≤ value whole * scale +
            value (fraction.take 18) * scale / 10 ^ (fraction.take 18).length then .error .outOfRange
      else .ok (value whole * scale +
        value (fraction.take 18) * scale / 10 ^ (fraction.take 18).length) := by
  obtain ⟨htake, hdrop⟩ := takeWhile_ne_point hwhole fraction
  have hall : fraction.all Char.isDigit = true := List.all_eq_true.2 hfraction
  simp only [scaled, htake, hdrop, List.drop_succ_cons, List.drop_zero, List.isEmpty_iff,
    Nat.pow_eq, fractionDigits]
  rw [if_neg (by tauto), if_neg (by simp [hall])]
  grind

theorem sum_cons {p : Part} {ps : List Part} {total nanos : Nat} (hp : p.nanoseconds = .ok nanos)
    (hbound : total + nanos < limit) : sum total (p :: ps) = sum (total + nanos) ps := by
  rw [sum, hp]
  simp only []
  rw [if_neg (by omega)]

theorem sum_append {ps qs : List Part} {total mid : Nat} (h : sum total ps = .ok mid) :
    sum total (ps ++ qs) = sum mid qs := by
  induction ps generalizing total with
  | nil =>
      rw [sum] at h
      cases h
      rfl
  | cons p ps ih =>
      rw [sum] at h
      rw [List.cons_append, sum]
      split at h
      · cases h
      · split at h
        · cases h
        · rename_i hp hlimit
          simp only [if_neg hlimit]
          exact ih h

theorem unitScale?_second : unitScale? ['s'] = some 1_000_000_000 := rfl

/-- A part without a fraction, whose unit is known. -/
theorem nanoseconds_of_digits {n scale : Nat} {unit : List Char}
    (hunit : unitScale? unit = some scale) (hne : unit ≠ []) (hn : n < limit)
    (hbound : n * scale < limit) : Part.nanoseconds ⟨digits n, unit⟩ = .ok (n * scale) := by
  have hscaled : scaled (digits n) scale = .ok (n * scale) := by
    rw [scaled_of_areDigits (digits_ne_nil n) (areDigits_digits n), value_digits,
      if_neg (by omega)]
  simp [Part.nanoseconds, hunit, hne, hscaled]

/-- The zeros at the end of a fraction do not count. -/
theorem withoutZeros_fraction {nanos : Nat} (h : nanos < 1_000_000_000) :
    (withoutZeros (padded 9 nanos)).length ≤ 9 ∧
      value (withoutZeros (padded 9 nanos)) * 1_000_000_000 /
        10 ^ (withoutZeros (padded 9 nanos)).length = nanos := by
  obtain ⟨zeros, hzeros⟩ := withoutZeros_append_replicate (padded 9 nanos)
  have hlength : (withoutZeros (padded 9 nanos)).length + zeros = 9 := by
    have := congrArg List.length hzeros
    rwa [List.length_append, List.length_replicate, length_padded (by decide) h] at this
  have hvalue : value (withoutZeros (padded 9 nanos)) * 10 ^ zeros = nanos := by
    have := congrArg value hzeros
    rwa [value_append, value_replicate_zero, value_padded, List.length_replicate,
      Nat.add_zero] at this
  have hpower : 1_000_000_000 = 10 ^ zeros * 10 ^ (withoutZeros (padded 9 nanos)).length := by
    rw [← Nat.pow_add, Nat.add_comm, hlength]
  refine ⟨by omega, ?_⟩
  rw [hpower, ← Nat.mul_assoc, hvalue, Nat.mul_div_cancel _ (Nat.pow_pos (by decide))]

theorem nanoseconds_secondsNumber {seconds nanos : Nat} (hseconds : seconds < 60)
    (hnanos : nanos < 1_000_000_000) :
    Part.nanoseconds ⟨secondsNumber seconds nanos, ['s']⟩ =
      .ok (seconds * 1_000_000_000 + nanos) := by
  obtain ⟨hlength, hfraction⟩ := withoutZeros_fraction hnanos
  have hscaled : scaled (secondsNumber seconds nanos) 1_000_000_000 =
      .ok (seconds * 1_000_000_000 + nanos) := by
    rw [secondsNumber, scaled_append_point (.inl (digits_ne_nil seconds)) (areDigits_digits seconds)
      (areDigits_withoutZeros (areDigits_padded 9 nanos)), List.take_of_length_le (by omega),
      value_digits, hfraction, if_neg (by rw [limit]; omega)]
  simpa [Part.nanoseconds, unitScale?_second] using hscaled

/-! ## The sum of the shortest text -/

/-- The bound of all durations leaves room below the bound of intermediate results. -/
theorem bound_lt_limit : 0x1_0000_0000_0000_0000 * 1_000_000_000 < limit := by decide

theorem sum_hoursParts {hours : Nat} (h : hours * (3600 * 1_000_000_000) < limit) :
    sum 0 (hoursParts hours) = .ok (hours * (3600 * 1_000_000_000)) := by
  unfold hoursParts
  split
  · rw [sum_cons (nanoseconds_of_digits (by decide) (by simp) (by omega) h) (by omega), sum,
      Nat.zero_add]
  · rw [show hours = 0 by omega, sum, Nat.zero_mul]

theorem sum_minutesParts {minutes total : Nat} (hminutes : minutes < 60)
    (h : total + minutes * (60 * 1_000_000_000) < limit) :
    sum total (minutesParts minutes) = .ok (total + minutes * (60 * 1_000_000_000)) := by
  unfold minutesParts
  split
  · rw [sum_cons (nanoseconds_of_digits (by decide) (by simp) (by omega) (by omega)) h, sum]
  · rw [show minutes = 0 by omega, sum, Nat.zero_mul, Nat.add_zero]

theorem sum_secondsParts {seconds nanos total : Nat} (hseconds : seconds < 60)
    (hnanos : nanos < 1_000_000_000)
    (h : total + (seconds * 1_000_000_000 + nanos) < limit) :
    sum total (secondsParts seconds nanos) =
      .ok (total + (seconds * 1_000_000_000 + nanos)) := by
  unfold secondsParts
  split
  · rw [sum_cons (nanoseconds_secondsNumber hseconds hnanos) h, sum]
  · rename_i hzero
    rw [show nanos = 0 by omega, Nat.add_zero] at h ⊢
    split
    · have hpart : Part.nanoseconds ⟨digits seconds, ['s']⟩ = .ok (seconds * 1_000_000_000) :=
        nanoseconds_of_digits unitScale?_second (by simp) (by omega) (by omega)
      rw [sum_cons hpart h, sum]
    · rw [show seconds = 0 by omega, sum, Nat.zero_mul, Nat.add_zero]

/-- Hours, minutes, seconds and nanoseconds make up the whole. -/
theorem split_nanoseconds (n : Nat) :
    n / 1_000_000_000 / 3600 * (3600 * 1_000_000_000) +
        n / 1_000_000_000 % 3600 / 60 * (60 * 1_000_000_000) +
      (n / 1_000_000_000 % 60 * 1_000_000_000 + n % 1_000_000_000) = n := by
  omega

theorem sum_shortParts (d : Duration) : sum 0 d.shortParts = .ok d.nanoseconds := by
  have hsplit := split_nanoseconds d.nanoseconds
  have hbound : d.nanoseconds < limit := Nat.lt_trans d.bound bound_lt_limit
  unfold shortParts
  split
  · rename_i hzero
    rw [hzero, sum_cons (nanoseconds_of_digits unitScale?_second (by simp) (by decide) (by decide))
      (by decide), sum]
  · rw [List.append_assoc]
    unfold seconds subsecond
    rw [sum_append (sum_hoursParts (by omega)), sum_append (sum_minutesParts (by omega) (by omega)),
      sum_secondsParts (by omega) (by omega) (by omega), hsplit]

theorem shortParts_ne_nil (d : Duration) : d.shortParts ≠ [] := by
  intro hnil
  have hsum := sum_shortParts d
  rw [hnil, sum] at hsum
  have hzero : d.nanoseconds = 0 := (Except.ok.inj hsum).symm
  rw [shortParts, if_pos hzero] at hnil
  exact absurd hnil (by simp)

/-! ## The round trip -/

theorem isAsciiVisible_of_isNumeric {c : Char} (h : isNumeric c = true) : IsAsciiVisible c := by
  rcases Bool.or_eq_true_iff.1 h with h | h
  · exact isAsciiVisible_of_isDigit h
  · rw [beq_iff_eq.1 h]
    unfold IsAsciiVisible
    decide

theorem isAsciiVisible_of_mem_text (d : Duration) : ∀ c ∈ d.text, IsAsciiVisible c := by
  have hletter : ∀ u ∈ ['h', 'm', 's'], IsAsciiVisible u := by
    intro u hu
    simp only [List.mem_cons, List.not_mem_nil, or_false] at hu
    rcases hu with rfl | rfl | rfl <;> exact ⟨by decide, by decide⟩
  have hparts : ∀ p ∈ d.shortParts, ∀ c ∈ p.text, IsAsciiVisible c := by
    apply forall_mem_shortParts
    · intro n u hu c hc
      rcases List.mem_append.1 hc with hc | hc
      · exact isAsciiVisible_of_isDigit (areDigits_digits n c hc)
      · rw [List.mem_singleton.1 hc]
        exact hletter u hu
    · intro seconds nanos c hc
      rcases List.mem_append.1 hc with hc | hc
      · exact isAsciiVisible_of_isNumeric (secondsNumber_isNumeric _ _ c hc)
      · rw [List.mem_singleton.1 hc]
        exact hletter 's' (by simp)
  intro c hc
  rw [text_eq_flatMap] at hc
  obtain ⟨p, hp, hc⟩ := List.mem_flatMap.1 hc
  exact hparts p hp c hc

theorem ofNanoseconds?_nanoseconds (d : Duration) : ofNanoseconds? d.nanoseconds = some d := by
  rw [ofNanoseconds?, dif_pos d.bound]

/-- Reading the shortest text of a duration gives that duration. -/
theorem parse_text (d : Duration) : parse d.text = .ok d := by
  have hparts : parts d.text = d.shortParts := by
    rw [text_eq_flatMap, parts_flatMap_text (isProper_of_mem_shortParts d)]
  have hne : d.text ≠ [] := by
    intro htext
    rw [htext, parts] at hparts
    exact shortParts_ne_nil d hparts.symm
  have hzero : d.text ≠ ['0'] := by
    intro htext
    rw [htext] at hparts
    have hmem : ⟨['0'], []⟩ ∈ d.shortParts := by
      rw [← hparts, parts]
      exact List.mem_cons_self
    exact (isProper_of_mem_shortParts d _ hmem).unit_ne_nil rfl
  rw [parse, if_neg (by simpa using hne), if_neg hzero, hparts, sum_shortParts]
  simp only [ofNanoseconds?_nanoseconds]

theorem ofText_text (d : Duration) : ofText (String.ofList d.text) = .ok d := by
  rw [ofText, String.toList_ofList, trim_of_isAsciiVisible (isAsciiVisible_of_mem_text d), parse_text]

end AttributeSchema.Duration
