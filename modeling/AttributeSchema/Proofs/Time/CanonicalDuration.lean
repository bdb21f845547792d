import AttributeSchema.Proofs.Time.Duration
/-!
# Canonical texts of durations

Of all texts that a duration can be read from, one is canonical: hours, minutes and seconds, each at most
once and in this order, without leading zeros, without parts that say nothing, and without zeros at the end
of the fraction. It is the text that is written.
-/

namespace AttributeSchema.Duration

open Text Decimal

/-! ## The grammar -/

inductive IsWhole (unit : Char) : List Char → Nat → Prop
  | absent : IsWhole unit [] 0
  | present {number : List Char} (hnumber : IsNumeral number) (hpos : 0 < value number) :
      IsWhole unit (number ++ [unit]) (value number)

structure IsFraction (fraction : List Char) : Prop where
  areDigits : AreDigits fraction
  ne_nil : fraction ≠ []
  length_le : fraction.length ≤ 9
  getLast?_ne_zero : fraction.getLast? ≠ some '0'

inductive IsSeconds : List Char → Nat → Prop
  | whole {s : List Char} {seconds : Nat} (hwhole : IsWhole 's' s seconds) : IsSeconds s seconds
  | fractional {number fraction : List Char} (hnumber : IsNumeral number)
      (hfraction : IsFraction fraction) :
      IsSeconds (number ++ '.' :: fraction ++ ['s']) (value number)

/-- The texts that are written: no seconds, or hours, minutes and seconds as far as there are any, of
which the whole seconds fit into 64 bits. -/
inductive IsCanonical : List Char → Prop
  | zero : IsCanonical ['0', 's']
  | parts {h m s : List Char} {hours minutes seconds : Nat} (hhours : IsWhole 'h' h hours)
      (hminutes : IsWhole 'm' m minutes) (hseconds : IsSeconds s seconds) (hm : minutes ≤ 59)
      (hs : seconds ≤ 59) (hne : h ++ m ++ s ≠ [])
      (hrange : hours * 3600 + minutes * 60 + seconds ≤ 0xFFFF_FFFF_FFFF_FFFF) :
      IsCanonical (h ++ m ++ s)

/-! ## Parts are written in one way -/

theorem isWhole_iff {unit : Char} {s : List Char} {n : Nat} :
    IsWhole unit s n ↔ s = if 0 < n then digits n ++ [unit] else [] := by
  constructor
  · rintro (_ | ⟨hnumber, hpos⟩)
    · rfl
    · rw [if_pos hpos, digits_value hnumber]
  · rintro rfl
    split
    · rename_i hpos
      have hpresent : IsWhole unit (digits n ++ [unit]) (value (digits n)) :=
        .present (isNumeral_digits n) (by rwa [value_digits])
      rwa [value_digits] at hpresent
    · rw [show n = 0 by omega]
      exact .absent

/-- Zeros behind a digit that is none are those that go. -/
theorem withoutZeros_append {ds : List Char} (h : ds.getLast? ≠ some '0') (zeros : Nat) :
    withoutZeros (ds ++ List.replicate zeros '0') = ds := by
  have hkept : ds.reverse.dropWhile (· == '0') = ds.reverse := by
    rw [← List.head?_reverse] at h
    cases hreverse : ds.reverse with
    | nil => rfl
    | cons c rest =>
        rw [hreverse] at h
        exact List.dropWhile_cons_of_neg (by simpa using h)
  have hzeros : ∀ c ∈ List.replicate zeros '0', (c == '0') = true := fun c hc => by
    rw [List.eq_of_mem_replicate hc]
    rfl
  rw [withoutZeros, List.reverse_append, List.reverse_replicate, List.dropWhile_append_of_pos hzeros,
    hkept, List.reverse_reverse]

theorem getLast?_withoutZeros (ds : List Char) : (withoutZeros ds).getLast? ≠ some '0' := by
  rw [withoutZeros, List.getLast?_reverse]
  intro hzero
  have hhead := List.head?_dropWhile_not (fun c => c == '0') ds.reverse
  rw [hzero] at hhead
  exact absurd hhead (by simp)

/-- Nanoseconds are written as a fraction of a second. -/
theorem isFraction_withoutZeros {nanos : Nat} (hpos : 0 < nanos) (h : nanos < 1_000_000_000) :
    IsFraction (withoutZeros (padded 9 nanos)) where
  areDigits := areDigits_withoutZeros (areDigits_padded 9 nanos)
  ne_nil := by
    intro hnil
    have hvalue := (withoutZeros_fraction h).2
    rw [hnil, value_nil, Nat.zero_mul, Nat.zero_div] at hvalue
    omega
  length_le := (withoutZeros_fraction h).1
  getLast?_ne_zero := getLast?_withoutZeros _

/-- Every fraction of a second is how some nanoseconds are written. -/
theorem exists_nanos_of_isFraction {fraction : List Char} (h : IsFraction fraction) :
    ∃ nanos, 0 < nanos ∧ nanos < 1_000_000_000 ∧ withoutZeros (padded 9 nanos) = fraction := by
  let zeros := 9 - fraction.length
  let ds := fraction ++ List.replicate zeros '0'
  have hlength : ds.length = 9 := by
    have hle := h.length_le
    simp only [ds, zeros, List.length_append, List.length_replicate]
    omega
  have hdigits : AreDigits ds := by
    apply areDigits_append h.areDigits
    intro c hc
    rw [List.eq_of_mem_replicate hc]
    rfl
  have hpadded : padded 9 (value ds) = ds := by
    rw [← hlength]
    exact padded_value hdigits (List.append_ne_nil_of_left_ne_nil h.ne_nil _)
  have hkept : withoutZeros (padded 9 (value ds)) = fraction := by
    rw [hpadded]
    exact withoutZeros_append h.getLast?_ne_zero zeros
  have hbound : value ds < 10 ^ 9 := hlength ▸ value_lt hdigits
  refine ⟨value ds, Nat.pos_of_ne_zero fun hzero => ?_, hbound, hkept⟩
  -- The fraction of no nanoseconds is empty.
  rw [hzero] at hkept
  exact h.ne_nil hkept.symm

theorem isSeconds_iff {s : List Char} {seconds : Nat} :
    IsSeconds s seconds ↔ ∃ nanos < 1_000_000_000, s = secondsText seconds nanos := by
  constructor
  · rintro (hwhole | ⟨hnumber, hfraction⟩)
    · refine ⟨0, by decide, ?_⟩
      rw [isWhole_iff.1 hwhole]
      rfl
    · obtain ⟨nanos, hpos, hnanos, hkept⟩ := exists_nanos_of_isFraction hfraction
      refine ⟨nanos, hnanos, ?_⟩
      rw [secondsText, if_pos hpos, hkept, digits_value hnumber]
  · rintro ⟨nanos, hnanos, rfl⟩
    rw [secondsText]
    split
    · rename_i hpos
      have hfractional := IsSeconds.fractional (isNumeral_digits seconds)
        (isFraction_withoutZeros hpos hnanos)
      rwa [value_digits] at hfractional
    · exact .whole (isWhole_iff.2 rfl)

/-! ## Canonical texts are those that are written -/

theorem eq_zero_of_text_eq_nil {hours minutes seconds nanos : Nat}
    (h : hoursText hours ++ minutesText minutes ++ secondsText seconds nanos = []) :
    hours = 0 ∧ minutes = 0 ∧ seconds = 0 ∧ nanos = 0 := by
  obtain ⟨hfront, hseconds⟩ := List.append_eq_nil_iff.1 h
  obtain ⟨hhours, hminutes⟩ := List.append_eq_nil_iff.1 hfront
  simp only [hoursText, minutesText, secondsText, ite_eq_right_iff] at hhours hminutes hseconds
  split at hseconds
  · exact absurd hseconds (by simp)
  · simp only [List.append_eq_nil_iff, List.cons_ne_nil, and_false, imp_false,
      ite_eq_right_iff] at hhours hminutes hseconds
    omega

theorem isCanonical_text (d : Duration) : IsCanonical d.text := by
  have hbound := d.bound
  rw [text]
  split
  · exact .zero
  · rename_i hne
    have hhours : IsWhole 'h' (hoursText (d.seconds / 3600)) (d.seconds / 3600) :=
      isWhole_iff.2 rfl
    have hminutes : IsWhole 'm' (minutesText (d.seconds % 3600 / 60)) (d.seconds % 3600 / 60) :=
      isWhole_iff.2 rfl
    have hseconds : IsSeconds (secondsText (d.seconds % 60) d.subsecond) (d.seconds % 60) := by
      refine isSeconds_iff.2 ⟨d.subsecond, ?_, rfl⟩
      unfold subsecond
      omega
    refine .parts hhours hminutes hseconds ?_ ?_ ?_ ?_
    · omega
    · omega
    · intro hnil
      have hzero := eq_zero_of_text_eq_nil hnil
      unfold seconds subsecond at hzero
      omega
    · unfold seconds
      omega

/-- The text of hours, minutes, seconds and nanoseconds is that of the duration which they make up. -/
theorem exists_text_eq {hours minutes seconds nanos : Nat} (hm : minutes ≤ 59) (hs : seconds ≤ 59)
    (hnanos : nanos < 1_000_000_000)
    (hne : hoursText hours ++ minutesText minutes ++ secondsText seconds nanos ≠ [])
    (hrange : hours * 3600 + minutes * 60 + seconds ≤ 0xFFFF_FFFF_FFFF_FFFF) :
    ∃ d : Duration, d.text = hoursText hours ++ minutesText minutes ++ secondsText seconds nanos := by
  obtain ⟨total, htotal⟩ : ∃ total, total = hours * 3600 + minutes * 60 + seconds := ⟨_, rfl⟩
  have hsplit : total / 3600 = hours ∧ total % 3600 / 60 = minutes ∧ total % 60 = seconds := by omega
  have hnanoseconds : (total * 1_000_000_000 + nanos) / 1_000_000_000 = total ∧
      (total * 1_000_000_000 + nanos) % 1_000_000_000 = nanos := by omega
  have hpos : total * 1_000_000_000 + nanos ≠ 0 := by
    intro hzero
    apply hne
    rw [show hours = 0 by omega, show minutes = 0 by omega, show seconds = 0 by omega,
      show nanos = 0 by omega]
    rfl
  refine ⟨⟨total * 1_000_000_000 + nanos, by omega⟩, ?_⟩
  rw [text, if_neg hpos, Duration.seconds, subsecond, hnanoseconds.1, hnanoseconds.2, hsplit.1,
    hsplit.2.1, hsplit.2.2]

theorem exists_text_of_isCanonical {s : List Char} (h : IsCanonical s) :
    ∃ d : Duration, d.text = s := by
  cases h with
  | zero => exact ⟨zero, rfl⟩
  | parts hhours hminutes hseconds hm hs hne hrange =>
      obtain ⟨nanos, hnanos, rfl⟩ := isSeconds_iff.1 hseconds
      obtain rfl := isWhole_iff.1 hhours
      obtain rfl := isWhole_iff.1 hminutes
      exact exists_text_eq hm hs hnanos hne hrange

/-- Writing and reading are inverse to each other between all durations and all canonical texts. -/
theorem canonical_texts :
    (∀ d : Duration, ofText (String.ofList d.text) = .ok d) ∧
    (∀ d : Duration, IsCanonical d.text) ∧
    ∀ t : String, IsCanonical t.toList → ∃ d, ofText t = .ok d ∧ String.ofList d.text = t := by
  refine ⟨ofText_text, isCanonical_text, ?_⟩
  intro t ht
  obtain ⟨d, hd⟩ := exists_text_of_isCanonical ht
  have htext : String.ofList d.text = t := by rw [hd, String.ofList_toList]
  refine ⟨d, ?_, htext⟩
  rw [← htext]
  exact ofText_text d

theorem canonical_texts_longest :
    IsCanonical "5124095576030431h15.999999999s".toList ∧
      ∃ d, ofText "5124095576030431h15.999999999s" = .ok d ∧
        String.ofList d.text = "5124095576030431h15.999999999s" := by
  have hhours : IsWhole 'h' "5124095576030431h".toList 5124095576030431 :=
    @IsWhole.present 'h' "5124095576030431".toList
      ⟨List.all_eq_true.1 (by decide), by decide, by decide⟩ (by decide)
  have hseconds : IsSeconds "15.999999999s".toList 15 :=
    @IsSeconds.fractional ['1', '5'] (List.replicate 9 '9')
      ⟨List.all_eq_true.1 (by decide), by decide, by decide⟩
      ⟨List.all_eq_true.1 (by decide), by decide, by decide, by decide⟩
  have hcanonical : IsCanonical "5124095576030431h15.999999999s".toList :=
    .parts hhours .absent hseconds (by decide) (by decide) (by decide) (by decide)
  exact ⟨hcanonical, canonical_texts.2.2 _ hcanonical⟩

end AttributeSchema.Duration
